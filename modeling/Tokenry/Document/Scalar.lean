import Tokenry.Document.Token

namespace Tokenry.Document.Scan

def takeBreaks (isSpace : Char → Bool) (stop : Cursor → Bool) :
    (fuel : Nat) → List Char → Scan (List Char × Bool)
  | 0, taken => return (taken.reverse, false)
  | fuel + 1, taken => do
    if isSpace (← peek 0) then
      advance 1
      takeBreaks isSpace stop fuel taken
    else
      match ← takeBreak with
      | none => return (taken.reverse, false)
      | some c =>
        if stop (← get).cursor then return ((c :: taken).reverse, true)
        takeBreaks isSpace stop fuel (c :: taken)

/-- What the ends of lines between two words stand for. -/
def folded (first : Char) (further : List Char) : List Char :=
  if first != '\n' then first :: further
  else if further.isEmpty then [' ']
  else further

def atDocumentMarker (c : Cursor) : Bool := c.atMarker '-' || c.atMarker '.'

def wordLength (flow : Bool) : List Char → Nat
  | [] => 0
  | c :: rest =>
    let next := rest.headD '\x00'
    if c == ':' && !isGap next then wordLength flow rest + 1
    else if c == '?' then wordLength flow rest + 1
    else if isGap c || (!flow && c == ':') || (flow && ",:[]\x7b\x7d".contains c) then 0
    else wordLength flow rest + 1

/-- The spaces and ends of lines behind a word, and whether the next line opens another document. -/
def takePlainSpace : Scan (List Char) := do
  let spaces ← takeWhile (· == ' ')
  match ← takeBreak with
  | none => return spaces
  | some first =>
    allowKey true
    if atDocumentMarker (← get).cursor then return []
    let (further, ended) ← takeBreaks (· == ' ') atDocumentMarker (← remaining) []
    if ended then return []
    return folded first further

def takeWords (indent : Int) : (fuel : Nat) → List Char → List Char → Scan (List Char)
  | 0, text, _ => return text
  | fuel + 1, text, space => do
    if (← peek 0) == '#' then return text
    let flow ← inFlow
    let length := wordLength flow (← get).cursor.rest
    if length == 0 then return text
    allowKey false
    let word := (← get).cursor.rest.take length
    advance length
    let text := text ++ space ++ word
    let space ← takePlainSpace
    if space.isEmpty || (← peek 0) == '#' || (!flow && Int.ofNat (← column) < indent) then return text
    takeWords indent fuel text space

def plainScalar : Scan Token := do
  let text ← takeWords ((← get).indent + 1) ((← remaining) + 1) [] []
  return .scalar (String.ofList text) true

def escapes : List (Char × Char) :=
  [('0', '\x00'), ('a', '\x07'), ('b', '\x08'), ('t', '\t'), ('\t', '\t'), ('n', '\n'),
    ('v', '\x0b'), ('f', '\x0c'), ('r', '\r'), ('e', '\x1b'), (' ', ' '), ('"', '"'), ('/', '/'),
    ('\\', '\\'), ('N', '\x85'), ('_', '\xa0'), ('L', '\u2028'), ('P', '\u2029')]

def escapeDigits? : Char → Option Nat
  | 'x' => some 2
  | 'u' => some 4
  | 'U' => some 8
  | _ => none

def takeQuotedBreaks : (fuel : Nat) → List Char → Scan (List Char)
  | 0, taken => return taken.reverse
  | fuel + 1, taken => do
    if atDocumentMarker (← get).cursor then throw (.malformed .markerInText)
    skipWhile fun c ↦ c == ' ' || c == '\t'
    match ← takeBreak with
    | none => return taken.reverse
    | some c => takeQuotedBreaks fuel (c :: taken)

def takeEscape : Scan (List Char) := do
  let c ← peek 0
  if let some char := escapes.lookup c then
    advance 1
    return [char]
  if let some count := escapeDigits? c then
    advance 1
    let digits := (← get).cursor.rest.take count
    if digits.length != count || !digits.all Text.Hex.isDigit then throw (.malformed .badEscape)
    advance count
    let code := Text.Hex.number digits
    if 0x10FFFF < code then throw (.fault .codePoint)
    return [Char.ofNat code]
  if (← takeBreak).isSome then return ← takeQuotedBreaks ((← remaining) + 1) []
  throw (.malformed .badEscape)

def takeQuotedSpace : Scan (List Char) := do
  let spaces ← takeWhile fun c ↦ c == ' ' || c == '\t'
  if (← peek 0) == '\x00' then throw (.malformed .unclosedText)
  match ← takeBreak with
  | none => return spaces
  | some first => return folded first (← takeQuotedBreaks ((← remaining) + 1) [])

/-- Takes text up to the closing quote. -/
def takeQuoted (quote : Char) : (fuel : Nat) → List Char → Scan (List Char)
  | 0, _ => throw (.malformed .unclosedText)
  | fuel + 1, text => do
    let c ← peek 0
    if quote == '\'' && c == '\'' && (← peek 1) == '\'' then
      advance 2
      takeQuoted quote fuel (text ++ ['\''])
    else if c == quote then
      advance 1
      return text
    else if quote == '"' && c == '\\' then
      advance 1
      takeQuoted quote fuel (text ++ (← takeEscape))
    else if c == ' ' || c == '\t' || c == '\x00' || isBreak c then
      takeQuoted quote fuel (text ++ (← takeQuotedSpace))
    else
      advance 1
      takeQuoted quote fuel (text ++ [c])

def quotedScalar (quote : Char) : Scan Token := do
  advance 1
  let text ← takeQuoted quote ((← remaining) + 1) []
  return .scalar (String.ofList text) false

/-- What happens to the ends of lines behind a block: they are kept, dropped, or cut to one. -/
inductive Chomping where
  | keep
  | strip
  | clip
  deriving DecidableEq, Repr

def chomping? : Char → Option Chomping
  | '+' => some .keep
  | '-' => some .strip
  | _ => none

def takeIndicator : Scan (Option Nat) := do
  let c ← peek 0
  if '0' ≤ c && c ≤ '9' then
    if c == '0' then throw (.malformed .badBlockHeader)
    advance 1
    return some (c.toNat - 0x30)
  return none

def takeChomping : Scan (Option Chomping) := do
  match chomping? (← peek 0) with
  | some chomping =>
    advance 1
    return some chomping
  | none => return none

def blockHeader : Scan (Chomping × Option Nat) := do
  let first ← takeChomping
  let indicator ← takeIndicator
  let second ← if first.isNone then takeChomping else pure none
  if !isSpaceOrBreak (← peek 0) then throw (.malformed .badBlockHeader)
  skipWhile (· == ' ')
  if (← peek 0) == '#' then skipWhile (!isEnd ·)
  if !isBreak (← peek 0) && (← peek 0) != '\x00' then throw (.malformed .badBlockHeader)
  let _ ← takeBreak
  return ((first <|> second).getD .clip, indicator)

def leadingLines : (fuel : Nat) → List Char → Nat → Scan (List Char × Nat)
  | 0, taken, deepest => return (taken.reverse, deepest)
  | fuel + 1, taken, deepest => do
    if (← peek 0) == ' ' then
      advance 1
      leadingLines fuel taken (max deepest (← column))
    else
      match ← takeBreak with
      | some c => leadingLines fuel (c :: taken) deepest
      | none => return (taken.reverse, deepest)

def takeIndentation (indent : Nat) : Scan Unit := do
  let s ← get
  let spaces := (s.cursor.rest.takeWhile (· == ' ')).length
  advance (min spaces (indent - s.cursor.column))

def emptyLines (indent : Nat) : (fuel : Nat) → List Char → Scan (List Char)
  | 0, taken => return taken.reverse
  | fuel + 1, taken => do
    takeIndentation indent
    match ← takeBreak with
    | some c => emptyLines indent fuel (c :: taken)
    | none => return taken.reverse

def atBlockLine (indent : Nat) : Scan Bool := do
  return (← column) == indent && (← peek 0) != '\x00'

/-- Takes the lines of a block; `breaks` are the empty lines in front of the next one. The result is
the text, the end of the last line and the empty lines behind it. -/
def blockLines (fold : Bool) (indent : Nat) (outermost : Bool) :
    (fuel : Nat) → List Char → List Char → Scan (List Char × Option Char × List Char)
  | 0, text, breaks => return (text, none, breaks)
  | fuel + 1, text, breaks => do
    let c ← peek 0
    let solid := c != ' ' && c != '\t'
    let line ← takeWhile (!isEnd ·)
    let text := text ++ breaks ++ line
    let ending ← takeBreak
    let breaks ← emptyLines indent ((← remaining) + 1) []
    if outermost && (← column) == 0 && atDocumentMarker (← get).cursor then
      return (text, ending, breaks)
    if !(← atBlockLine indent) then return (text, ending, breaks)
    let next ← peek 0
    if fold && ending == some '\n' && solid && next != ' ' && next != '\t' then
      blockLines fold indent outermost fuel (if breaks.isEmpty then text ++ [' '] else text) breaks
    else blockLines fold indent outermost fuel (text ++ ending.toList) breaks

/-- Takes a block of lines, whose indicator is next. -/
def blockScalar (fold : Bool) : Scan Token := do
  advance 1
  let (chomping, indicator) ← blockHeader
  let least := ((← get).indent + 1).toNat
  let fuel := (← remaining) + 1
  let (breaks, indent) ← match indicator with
    | none => do
      let (breaks, deepest) ← leadingLines fuel [] 0
      pure (breaks, max least deepest)
    | some n => do
      let indent := max least 1 + n - 1
      pure (← emptyLines indent fuel [], indent)
  let (text, ending, breaks) ←
    if ← atBlockLine indent then blockLines fold indent (indicator.isNone && least == 0) fuel [] breaks
    else pure ([], none, breaks)
  let text := match chomping with
    | .strip => text
    | .clip => text ++ ending.toList
    | .keep => text ++ ending.toList ++ breaks
  return .scalar (String.ofList text) false

end Tokenry.Document.Scan
