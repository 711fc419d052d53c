import Tokenry.Document.Scalar

namespace Tokenry.Document.Scan

def isPlainLetter (c : Char) : Bool :=
  ('0' ≤ c && c ≤ '9') || ('A' ≤ c && c ≤ 'Z') || ('a' ≤ c && c ≤ 'z')

def tagHandle (problem : Malformed) : Scan (List Char) := do
  if (← peek 0) != '!' then throw (.malformed problem)
  advance 1
  if (← peek 0) == ' ' then return ['!']
  let name ← takeWhile fun c ↦ isPlainLetter c || c == '-' || c == '_'
  if (← peek 0) != '!' then throw (.malformed problem)
  advance 1
  return '!' :: name ++ ['!']

def isUriChar (c : Char) : Bool := isPlainLetter c || "-;/?:@&=+$,_.!~*'()[]#".contains c

def uriEscapes (problem : Malformed) : (fuel : Nat) → List UInt8 → Scan (List UInt8)
  | 0, bytes => return bytes.reverse
  | fuel + 1, bytes => do
    if (← peek 0) != '%' then return bytes.reverse
    let digits := [← peek 1, ← peek 2]
    if !digits.all Text.Hex.isDigit then throw (.malformed problem)
    advance 3
    uriEscapes problem fuel ((Text.Hex.number digits).toUInt8 :: bytes)

def tagUriFrom (problem : Malformed) : (fuel : Nat) → List Char → Scan (List Char)
  | 0, text => return text
  | fuel + 1, text => do
    let text := text ++ (← takeWhile isUriChar)
    if (← peek 0) == '%' then
      let bytes ← uriEscapes problem ((← remaining) + 1) []
      match String.fromUTF8? ⟨bytes.toArray⟩ with
      | some decoded => tagUriFrom problem fuel (text ++ decoded.toList)
      | none => throw (.malformed problem)
    else return text

def tagUri (problem : Malformed) : Scan (List Char) := do
  let text ← tagUriFrom problem ((← remaining) + 1) []
  if text.isEmpty then throw (.malformed problem)
  return text

def restOfLine (problem : Malformed) : Scan Unit := do
  skipWhile (· == ' ')
  if (← peek 0) == '#' then skipWhile (!isEnd ·)
  if !isBreak (← peek 0) && (← peek 0) != '\x00' then throw (.malformed problem)
  let _ ← takeBreak

/-- Takes a directive. Only the one that gives a handle a meaning matters later. -/
def directive : Scan Token := do
  advance 1
  let name ← takeWhile fun c ↦ isPlainLetter c || "-_:.".contains c
  if name.isEmpty || !isSpaceOrBreak (← peek 0) then throw (.malformed .badDirective)
  let name := String.ofList name
  if name == "TAG" then
    skipWhile (· == ' ')
    let handle ← tagHandle .badDirective
    if (← peek 0) != ' ' then throw (.malformed .badDirective)
    skipWhile (· == ' ')
    let target ← tagUri .badDirective
    if !isSpaceOrBreak (← peek 0) then throw (.malformed .badDirective)
    restOfLine .badDirective
    return .directive name (String.ofList handle) (String.ofList target)
  skipWhile (!isEnd ·)
  restOfLine .badDirective
  return .directive name "" ""

def isNameChar (c : Char) : Bool :=
  let n := c.toNat
  !",[]\x7b\x7d".contains c && c != '\uFEFF'
    && ((0x21 ≤ n && n ≤ 0x7E) || (0xA0 ≤ n && n ≤ 0xD7FF) || (0xE000 ≤ n && n ≤ 0xFFFD)
      || 0x10000 ≤ n)

def anchorName : Scan String := do
  advance 1
  let name ← takeWhile isNameChar
  let after ← peek 0
  if name.isEmpty || !(isGap after || isBreak after || ",[]\x7b\x7d".contains after) then
    throw (.malformed .badName)
  return String.ofList name

def hasHandle (rest : List Char) : Bool :=
  (rest.takeWhile (!isSpaceOrBreak ·)).contains '!'

def tag : Scan Token := do
  let next ← peek 1
  let (handle, rest) ←
    if next == '<' then do
      advance 2
      let rest ← tagUri .badTag
      if (← peek 0) != '>' then throw (.malformed .badTag)
      advance 1
      pure (none, rest)
    else if isGap next || isBreak next then do
      advance 1
      pure (none, ['!'])
    else if hasHandle ((← get).cursor.rest.drop 1) then do
      let handle ← tagHandle .badTag
      pure (some (String.ofList handle), ← tagUri .badTag)
    else do
      advance 1
      pure (some "!", ← tagUri .badTag)
  if !isSpaceOrBreak (← peek 0) then throw (.malformed .badTag)
  return .tag handle (String.ofList rest)

def documentMarker (t : Token) : Scan Unit := do
  closeBlocks (-1)
  dropKey
  allowKey false
  advance 3
  emit t

def openFlow (bracket : Char) (t : Token) : Scan Unit := do
  rememberKey
  modify fun s ↦ { s with flow := bracket :: s.flow }
  allowKey true
  advance 1
  emit t

def closeFlow (t : Token) : Scan Unit := do
  dropKey
  modify fun s ↦ { s with flow := s.flow.tail }
  allowKey false
  advance 1
  emit t

/-- Opens a block at the current place if that is allowed and needed. -/
def enterBlock (start : Token) (problem : Malformed) : Scan Unit := do
  if !(← inFlow) then
    if !(← get).keyAllowed then throw (.malformed problem)
    if ← openBlock (← column) then emit start

def blockEntry : Scan Unit := do
  enterBlock .blockSequenceStart .misplacedEntry
  allowKey true
  dropKey
  advance 1
  emit .blockEntry

def explicitKey : Scan Unit := do
  enterBlock .blockMappingStart .misplacedKey
  allowKey !(← inFlow)
  dropKey
  advance 1
  emit .key

/-- Takes a colon. If a key may have begun before it, that is now certain. -/
def valueMark : Scan Unit := do
  let s ← get
  let level := s.flow.length
  match s.keys.lookup level with
  | some k =>
    set { s with keys := s.keys.filter (·.1 != level) }
    let opened ← if level == 0 then openBlock k.column else pure false
    insertAt k.position (if opened then #[.blockMappingStart, .key] else #[.key])
    allowKey false
  | none =>
    enterBlock .blockMappingStart .misplacedValue
    allowKey (level == 0)
    dropKey
  advance 1
  emit .value

def keyCandidate (t : Scan Token) : Scan Unit := do
  rememberKey
  allowKey false
  emit (← t)

/-- Whether the colon that is next divides a key from its value. Behind another such colon it begins
a word, as long as it is open whether the whole is a key (`undecided`). -/
def isValueMark (undecided : Bool) : Scan Bool := do
  let s ← get
  let gap := isGap (s.cursor.peek 1)
  match s.flow with
  | [] => return gap
  | '[' :: _ => return gap
  | _ => return gap || !undecided || s.tokens.back? != some .value

def startsPlain (flow : Bool) (c next : Char) : Bool :=
  if !(isGap c || isBreak c || "-?:,[]\x7b\x7d#&*!|>'\"%@`".contains c) then true
  else if c == '-' then !isGap next
  else if c == ':' && flow then next != ' ' && next != '\t'
  else (c == '?' || c == ':') && !flow && !isGap next

def nextToken : Scan Bool := do
  dropStaleKeys
  let undecided := !(← get).keys.isEmpty
  if (← get).cursor.index == 0 && (← peek 0) == '\uFEFF' then advance 1
  skipTrivia ((← remaining) + 1)
  dropStaleKeys
  closeBlocks (Int.ofNat (← column))
  let flow ← inFlow
  let c ← peek 0
  let next ← peek 1
  let atStart := (← column) == 0
  if c == '\x00' then
    closeBlocks (-1)
    dropKey
    emit .streamEnd
    return false
  if atStart && c == '%' then
    closeBlocks (-1)
    dropKey
    allowKey false
    emit (← directive)
  else if atStart && (← get).cursor.atMarker '-' then documentMarker .documentStart
  else if atStart && (← get).cursor.atMarker '.' then documentMarker .documentEnd
  else if c == '[' then openFlow '[' .flowSequenceStart
  else if c == '\x7b' then openFlow '\x7b' .flowMappingStart
  else if c == ']' then closeFlow .flowSequenceEnd
  else if c == '\x7d' then closeFlow .flowMappingEnd
  else if c == ',' then
    allowKey true
    dropKey
    advance 1
    emit .flowEntry
  else if c == '-' && isGap next then blockEntry
  else if c == '?' && (flow || isGap next) then explicitKey
  else if c == ':' && (← isValueMark undecided) then valueMark
  else if c == '*' then keyCandidate (Token.alias <$> anchorName)
  else if c == '&' then keyCandidate (Token.anchor <$> anchorName)
  else if c == '!' then keyCandidate tag
  else if (c == '|' || c == '>') && !flow then
    allowKey true
    dropKey
    emit (← blockScalar (c == '>'))
  else if c == '\'' || c == '"' then keyCandidate (quotedScalar c)
  else if startsPlain flow c next then keyCandidate plainScalar
  else throw (.malformed (.unexpectedCharacter c))
  return true

def allTokens : (fuel : Nat) → Scan Unit
  | 0 => emit .streamEnd
  | fuel + 1 => do if ← nextToken then allTokens fuel

end Scan

/-- The tokens of a text. Every token but the last one takes at least one character. -/
def tokens (text : List Char) : Except Problem (List Token) := do
  if !text.all isAllowed then throw (.malformed .forbiddenCharacter)
  let ((), s) ← (Scan.allTokens (text.length + 1)).run { cursor := { rest := text } }
  return s.tokens.toList

end Tokenry.Document
