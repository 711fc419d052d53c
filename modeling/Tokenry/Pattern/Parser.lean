import Tokenry.Pattern.Input

namespace Tokenry.Pattern

/-- The characters that a pattern may call by their names. Without a table there are none. -/
class CharacterNames where
  char? : String → Option Char

instance (priority := low) CharacterNames.none : CharacterNames := ⟨fun _ ↦ .none⟩

inductive Role where
  | plain
  | anchor
  | repeated
  deriving DecidableEq, Repr

structure Item where
  node : Node
  role : Role

def repetitionLimit : Nat := 0xFFFFFFFF

def groupLimit : Nat := 0x7FFFFFFF

def lookBehindLimit : Nat := 0xFFFFFFFF

namespace Reader

def plainItem (node : Node) : Item := ⟨node, .plain⟩

def oneChar (flags : Flags) (point : Nat) : Node := .test (.one point flags.fold)

def categoryOf? : Char → Option (Category × Bool)
  | 'd' => some (.digit, false)
  | 'D' => some (.digit, true)
  | 's' => some (.space, false)
  | 'S' => some (.space, true)
  | 'w' => some (.word, false)
  | 'W' => some (.word, true)
  | _ => none

def anchorOf? (flags : Flags) : Char → Option Anchor
  | 'A' => some .start
  | 'Z' => some .veryEnd
  | 'b' => some (.boundary true flags.narrow)
  | 'B' => some (.boundary false flags.narrow)
  | _ => none

def controlOf? : Char → Option Nat
  | 'a' => some 0x07
  | 'f' => some 0x0c
  | 'n' => some 0x0a
  | 'r' => some 0x0d
  | 't' => some 0x09
  | 'v' => some 0x0b
  | '\\' => some 0x5c
  | _ => none

def hexEscape (letter : Char) (count : Nat) : Reader Nat := do
  let digits ← takeWhile Text.Hex.isDigit count
  let escape := String.ofList ('\\' :: letter :: digits)
  if digits.length ≠ count then failBack (digits.length + 2) (.incompleteEscape escape)
  let point := Text.Hex.number digits
  if 0x10ffff < point then failBack (digits.length + 2) (.badEscape escape)
  return point

variable [CharacterNames]

def namedEscape : Reader Nat := do
  if !(← accept '\x7b') then failHere .missingBrace
  let name ← takeUntil '\x7d' .missingCharacterName ((← get).rest.length + 1) []
  match CharacterNames.char? (String.ofList name) with
  | some c => return c.toNat
  | none => failBack (name.length + 4) (.undefinedCharacter (String.ofList name))

def numericEscape? (letter : Char) : Reader (Option Nat) := do
  match letter with
  | 'x' => return some (← hexEscape letter 2)
  | 'u' => return some (← hexEscape letter 4)
  | 'U' => return some (← hexEscape letter 8)
  | 'N' => return some (← namedEscape)
  | _ => return none

def selfEscape (letter : Char) : Reader Nat := do
  if isPlainLetter letter then failBack 2 (.badEscape (String.ofList ['\\', letter]))
  return letter.toNat

/-- Checks that a group may be named where reading stands: inside a look-behind only groups that
were closed before it began. -/
def checkLookBehind (index : Nat) : Reader Unit := do
  let input ← get
  match input.lookBehind with
  | none => return
  | some limit =>
    if (input.closedWidth? index).isNone then failHere .openGroup
    if limit ≤ index then failHere .sameLookBehind

/-- Refers back to a group; `back` is the length of the reference that was read. -/
def backReference (flags : Flags) (index back : Nat) : Reader Item := do
  match (← get).closedWidth? index with
  | none => failBack back .openGroup
  | some width =>
    checkLookBehind index
    return plainItem (.again index flags.fold width)

/-- An escape that starts with a digit other than zero: three octal digits, or the number of a
group. -/
def digitEscape (flags : Flags) (first : Char) : Reader Item := do
  let second ← takeWhile Text.isNarrowDigit 1
  let third ←
    if isOctalDigit first && !second.isEmpty && second.all isOctalDigit then
      takeWhile isOctalDigit 1
    else pure []
  let digits := first :: (second ++ third)
  if !third.isEmpty then
    let point := octalNumber digits
    if 0o377 < point then failBack 4 (.octalTooLarge (String.ofList ('\\' :: digits)))
    return plainItem (oneChar flags point)
  let index := decimalNumber digits
  if index < (← get).groups then backReference flags index (digits.length + 1)
  else failBack digits.length (.invalidReference index)

def escape (flags : Flags) (letter : Char) : Reader Item := do
  if let some anchor := anchorOf? flags letter then return ⟨.anchor anchor, .anchor⟩
  if let some (category, negated) := categoryOf? letter then
    return plainItem (.test (.set false [.category category negated flags.narrow] flags.fold))
  if let some point := controlOf? letter then return plainItem (oneChar flags point)
  if let some point ← numericEscape? letter then return plainItem (oneChar flags point)
  if letter == '0' then
    let digits ← takeWhile isOctalDigit 2
    return plainItem (oneChar flags (octalNumber digits))
  if Text.isNarrowDigit letter then return ← digitEscape flags letter
  return plainItem (oneChar flags (← selfEscape letter))

def setEscape (flags : Flags) (letter : Char) : Reader SetItem := do
  if letter == 'b' then return .code 0x08
  if let some point := controlOf? letter then return .code point
  if let some (category, negated) := categoryOf? letter then
    return .category category negated flags.narrow
  if let some point ← numericEscape? letter then return .code point
  if isOctalDigit letter then
    let digits := letter :: (← takeWhile isOctalDigit 2)
    let point := octalNumber digits
    if 0o377 < point then
      failBack (digits.length + 1) (.octalTooLarge (String.ofList ('\\' :: digits)))
    return .code point
  if Text.isNarrowDigit letter then failBack 2 (.badEscape (String.ofList ['\\', letter]))
  return .code (← selfEscape letter)

def setMember (flags : Flags) (s : Symbol) : Reader SetItem :=
  if s.escaped then setEscape flags s.char else return .code s.char.toNat

def badSpan {α : Type} (this that : Symbol) : Reader α :=
  failBack (this.length + 1 + that.length)
    (.badRange (String.ofList this.text) (String.ofList that.text))

/-- The members of a set up to its closing bracket, in reverse; `start` is the place of the opening
bracket. A bracket that comes first is a member. -/
def setItems (flags : Flags) (start : Nat) : (fuel : Nat) → List SetItem → Reader (List SetItem)
  | 0, _ => failAt start .unterminatedSet
  | fuel + 1, items => do
    let some this ← take? | failAt start .unterminatedSet
    if this.isPlain ']' && !items.isEmpty then return items
    let low ← setMember flags this
    if !(← accept '-') then return ← setItems flags start fuel (low :: items)
    let some that ← take? | failAt start .unterminatedSet
    if that.isPlain ']' then return .code 0x2d :: low :: items
    let high ← setMember flags that
    match low, high with
    | .code a, .code b =>
      if b < a then badSpan this that
      setItems flags start fuel (.span a b :: items)
    | _, _ => badSpan this that

def charSet (flags : Flags) (start : Nat) : Reader Item := do
  let negated ← accept '^'
  let items ← setItems flags start ((← get).rest.length + 1) []
  return plainItem (.test (.set negated items.reverse flags.fold))

def repetitionCount? (digits : List Char) : Reader (Option Nat) := do
  if digits.isEmpty then return none
  let count := decimalNumber digits
  if repetitionLimit ≤ count then throw .repetitionTooLarge
  return some count

/-- The bounds after an opening brace. If what follows is no pair of bounds nothing is taken, and
the brace stands for itself. -/
def bounds? : Reader (Option (Nat × Option Nat)) := do
  let before ← get
  if ← nextIs '\x7d' then return none
  let low ← takeDigits
  let high ← if ← accept ',' then takeDigits else pure low
  if !(← accept '\x7d') then
    set before
    return none
  let least := ((← repetitionCount? low).getD 0)
  let most ← repetitionCount? high
  if most.any (· < least) then failAt before.position .reversedRepeat
  return some (least, most)

def quantifier? : Char → Reader (Option (Nat × Option Nat))
  | '*' => return some (0, none)
  | '+' => return some (1, none)
  | '?' => return some (0, some 1)
  | _ => bounds?

def preference : Reader Preference := do
  if ← accept '?' then return .reluctant
  if ← accept '+' then return .possessive
  return .greedy

/-- Repeats the last item of a sequence; `start` is the place of the quantifier. -/
def repeatItem (start low : Nat) (high : Option Nat) : List Item → Reader (List Item)
  | [] => failAt start .nothingToRepeat
  | last :: earlier => do
    match last.role with
    | .anchor => failAt start .nothingToRepeat
    | .repeated => failAt start .multipleRepeat
    | .plain =>
      return ⟨.repetition (← preference) low high last.node, .repeated⟩ :: earlier

def skipLine : (fuel : Nat) → Reader Unit
  | 0 => return
  | fuel + 1 => do
    let some s ← take? | return
    if s.isPlain '\n' then return
    skipLine fuel

def skipComment (start : Nat) : (fuel : Nat) → Reader Unit
  | 0 => return
  | fuel + 1 => do
    let some s ← take? | failAt start .unterminatedComment
    if s.isPlain ')' then return
    skipComment start fuel

def flagOf? : Char → Option Flags
  | 'i' => some { ignoreCase := true }
  | 'm' => some { multiline := true }
  | 's' => some { dotAll := true }
  | 'x' => some { verbose := true }
  | 'a' => some { narrow := true }
  | 'u' => some { full := true }
  | 't' => some { template := true }
  | _ => none

def isFlagLetter (s : Symbol) : Bool :=
  !s.escaped && (s.char == 'L' || (flagOf? s.char).isSome)

def notAFlag {α : Type} (s : Symbol) (otherwise : Reason) : Reader α :=
  failBack s.length
    (if !s.escaped && s.char != '_' && Text.isIdentifierStart s.char then .unknownFlag
      else otherwise)

def flagsOn : (fuel : Nat) → Flags → Symbol → Reader (Flags × Char)
  | 0, _, _ => failHere .missingFlagEnd
  | fuel + 1, found, s => do
    let some flag := flagOf? s.char | failHere .localeFlag
    let found := found.union flag
    if (flag.narrow || flag.full) && found.narrow && found.full then failHere .mixedAlphabets
    let some s ← take? | failHere .missingFlagEnd
    if s.isPlain ')' || s.isPlain '-' || s.isPlain ':' then return (found, s.char)
    if !isFlagLetter s then notAFlag s .missingFlagEnd
    flagsOn fuel found s

def flagsOff : (fuel : Nat) → Flags → Symbol → Reader Flags
  | 0, _, _ => failHere .missingColon
  | fuel + 1, found, s => do
    let some flag := flagOf? s.char | failHere .alphabetOff
    if flag.narrow || flag.full then failHere .alphabetOff
    let found := found.union flag
    let some s ← take? | failHere .missingColon
    if s.isPlain ':' then return found
    if !isFlagLetter s then notAFlag s .missingColon
    flagsOff fuel found s

/-- Reads options from the symbol `s` on: those that a group adds and removes, or `none` for options
of the whole pattern, which are put in force. -/
def groupFlags? (s : Symbol) : Reader (Option (Flags × Flags)) := do
  let fuel := (← get).rest.length + 1
  let (add, ending) ← if s.isPlain '-' then pure ({}, '-') else flagsOn fuel {} s
  if ending == ')' then
    modify fun input ↦ { input with flags := input.flags.union add }
    return none
  if add.template then failBack 1 .globalFlagOn
  if ending == ':' then return some (add, {})
  let some s ← take? | failHere .missingFlag
  if !isFlagLetter s then notAFlag s .missingFlag
  let remove ← flagsOff fuel {} s
  if remove.template then failBack 1 .globalFlagOff
  if add.overlaps remove then failBack 1 .flagOnAndOff
  return some (add, remove)

def groupName (closing : Char) : Reader String := do
  let name ← takeName closing
  if !Text.isIdentifier name then failBack (name.length + 1) (.badName (String.ofList name))
  return String.ofList name

def groupNamed (name : String) : Reader Nat := do
  match (← get).names.lookup name with
  | some index => return index
  | none => failBack (name.length + 1) (.unknownGroup name)

def openGroup (name : Option String) : Reader Nat := do
  let input ← get
  let index := input.groups
  let names ← match name with
    | none => pure input.names
    | some name =>
      match input.names.lookup name with
      | some first => failBack (name.length + 1) (.redefinedGroup name index first)
      | none => pure ((name, index) :: input.names)
  set { input with names, widths := input.widths.push none }
  return index

def closeGroup (index : Nat) (body : Node) : Reader Unit :=
  modify fun input ↦ { input with widths := input.widths.setIfInBounds index (some body.width) }

def closeParenthesis (start : Nat) : Reader Unit := do
  if !(← accept ')') then failAt start .unterminatedGroup

def signedNumber? (text : List Char) : Option Int :=
  let trimmed := (text.dropWhile Text.isSpace).reverse.dropWhile Text.isSpace |>.reverse
  let (negative, digits) := match trimmed with
    | '-' :: rest => (true, rest)
    | '+' :: rest => (false, rest)
    | rest => (false, rest)
  let groups := digits.splitOn '_'
  if groups.all fun g ↦ !g.isEmpty && g.all Text.isNarrowDigit then
    let value := Int.ofNat (decimalNumber groups.flatten)
    some (if negative then -value else value)
  else none

/-- The group that a condition names, by name or by number. A number may run ahead of the groups
read so far and is checked in the end. -/
def conditionGroup : Reader Nat := do
  let name ← takeName ')'
  let shown := String.ofList name
  let index ← do
    if Text.isIdentifier name then groupNamed shown
    else
      let some value := signedNumber? name | failBack (name.length + 1) (.badName shown)
      if value < 0 then failBack (name.length + 1) (.badName shown)
      let index := value.toNat
      if index = 0 then failBack (name.length + 1) .badGroupNumber
      if groupLimit ≤ index then failBack (name.length + 1) (.invalidReference index)
      modify fun input ↦
        if (input.conditions.lookup index).isSome then input
        else { input with
          conditions := input.conditions ++ [(index, input.position - name.length - 1)] }
      pure index
  checkLookBehind index
  return index

def unknownExtension {α : Type} (s : Symbol) : Reader α :=
  failBack (s.length + 1) (.unknownExtension (String.ofList ('?' :: s.text)))

def lookingBehind {α : Type} (body : Reader α) : Reader α := do
  let outer := (← get).lookBehind
  if outer.isNone then modify fun input ↦ { input with lookBehind := some input.groups }
  let result ← body
  if outer.isNone then modify fun input ↦ { input with lookBehind := none }
  return result

mutual

/-- Alternatives up to the end of the text or a closing parenthesis. `top` tells that no group is
open, `first` that nothing has been read. -/
def alternatives : (fuel : Nat) → (top first : Bool) → Flags → Reader Node
  | 0, _, _, _ => failHere .unexpectedEnd
  | fuel + 1, top, first, flags => do
    let head ← sequence fuel first flags []
    if ← accept '|' then
      let whole := (← get).flags
      return .alt head (← alternatives fuel top false (if top then whole else flags))
    return head

def sequence : (fuel : Nat) → (first : Bool) → Flags → List Item → Reader Node
  | 0, _, _, _ => failHere .unexpectedEnd
  | fuel + 1, first, flags, items => do
    let finished := Node.ofList (items.reverse.map (·.node))
    let some s ← next? | return finished
    if s.isPlain '|' || s.isPlain ')' then return finished
    let _ ← take?
    if s.escaped then
      return ← sequence fuel first flags ((← escape flags s.char) :: items)
    if flags.verbose && Text.isNarrowSpace s.char then
      return ← sequence fuel first flags items
    if flags.verbose && s.char == '#' then
      skipLine ((← get).rest.length + 1)
      return ← sequence fuel first flags items
    match s.char with
    | '[' => sequence fuel first flags ((← charSet flags s.position) :: items)
    | '.' => sequence fuel first flags (plainItem (.test (.any flags.dotAll)) :: items)
    | '^' =>
      let anchor := if flags.multiline then .lineStart else .start
      sequence fuel first flags (⟨.anchor anchor, .anchor⟩ :: items)
    | '$' =>
      let anchor := if flags.multiline then .lineStop else .stop
      sequence fuel first flags (⟨.anchor anchor, .anchor⟩ :: items)
    | '(' =>
      let (item, flags) ← group fuel (first && items.isEmpty) flags s.position
      sequence fuel first flags (item.toList ++ items)
    | c =>
      if c == '*' || c == '+' || c == '?' || c == '\x7b' then
        match ← quantifier? c with
        | some (low, high) =>
          sequence fuel first flags (← repeatItem s.position low high items)
        | none => sequence fuel first flags (plainItem (oneChar flags c.toNat) :: items)
      else sequence fuel first flags (plainItem (oneChar flags c.toNat) :: items)

def group : (fuel : Nat) → (first : Bool) → Flags → (start : Nat) → Reader (Option Item × Flags)
  | 0, _, _, _ => failHere .unexpectedEnd
  | fuel + 1, first, flags, start => do
    if !(← accept '?') then
      let index ← openGroup none
      let body ← alternatives fuel false false flags
      closeParenthesis start
      closeGroup index body
      return (some (plainItem (.group index body)), flags)
    let some s ← take? | failHere .unexpectedEnd
    if s.escaped then unknownExtension s
    match s.char with
    | 'P' =>
      if ← accept '<' then
        let index ← openGroup (some (← groupName '>'))
        let body ← alternatives fuel false false flags
        closeParenthesis start
        closeGroup index body
        return (some (plainItem (.group index body)), flags)
      if ← accept '=' then
        let name ← groupName ')'
        let index ← groupNamed name
        return (some (← backReference flags index (name.length + 1)), flags)
      let some s ← take? | failHere .unexpectedEnd
      failBack (s.length + 2) (.unknownExtension (String.ofList ('?' :: 'P' :: s.text)))
    | ':' =>
      let body ← alternatives fuel false false flags
      closeParenthesis start
      return (some (plainItem body), flags)
    | '>' =>
      let body ← alternatives fuel false false flags
      closeParenthesis start
      return (some (plainItem (.atomic body)), flags)
    | '#' =>
      skipComment start ((← get).rest.length + 1)
      return (none, flags)
    | '=' | '!' =>
      let body ← alternatives fuel false false flags
      closeParenthesis start
      return (some (plainItem (.ahead (s.char == '=') body)), flags)
    | '<' =>
      let some s ← take? | failHere .unexpectedEnd
      if !(s.isPlain '=' || s.isPlain '!') then
        failBack (s.length + 2) (.unknownExtension (String.ofList ('?' :: '<' :: s.text)))
      let body ← lookingBehind (alternatives fuel false false flags)
      closeParenthesis start
      return (some (plainItem (.behind (s.char == '=') body.width body)), flags)
    | '(' =>
      let index ← conditionGroup
      let yes ← sequence fuel false flags []
      let no ←
        if ← accept '|' then
          let no ← sequence fuel false flags []
          if ← nextIs '|' then failHere .tooManyBranches
          pure no
        else pure .empty
      closeParenthesis start
      return (some (plainItem (.ifGroup index yes no)), flags)
    | _ =>
      if !(isFlagLetter s || s.char == '-') then unknownExtension s
      match ← groupFlags? s with
      | none =>
        if !first then failAt start .misplacedFlags
        return (none, (← get).flags)
      | some (add, remove) =>
        let body ← alternatives fuel false false (flags.inside add remove)
        closeParenthesis start
        return (some (plainItem body), flags)

end

end Reader

/-- The fault of the first look-behind whose width is not fixed, or too large. -/
def Node.lookBehindFault? : Node → Option Reason
  | .empty | .test _ | .anchor _ | .again _ _ _ => none
  | .cat first second | .alt first second => first.lookBehindFault? <|> second.lookBehindFault?
  | .group _ body | .ahead _ body | .repetition _ _ _ body | .atomic body =>
    body.lookBehindFault?
  | .behind _ width body =>
    if lookBehindLimit < width.least then some .farLookBehind
    else if width.least ≠ width.most then some .variableLookBehind
    else body.lookBehindFault?
  | .ifGroup _ yes no => yes.lookBehindFault? <|> no.lookBehindFault?

def compile [CharacterNames] (text : String) : Except Fault Compiled := do
  let chars := text.toList
  let input := Input.ofText chars
  if input.rest.isEmpty && input.dangling then
    throw (.malformed .danglingEscape (some (input.length - 1)))
  let (node, input) ← (Reader.alternatives (3 * chars.length + 8) true true {}).run input
  if input.flags.narrow && input.flags.full then throw .alphabetsClash
  if !input.rest.isEmpty then throw (.malformed .unbalanced (some input.position))
  match input.conditions.find? (input.groups ≤ ·.1) with
  | some (index, position) => throw (.malformed (.invalidReference index) (some position))
  | none =>
    match node.lookBehindFault? with
    | some reason => throw (.malformed reason none)
    | none => return { node, groups := input.groups - 1 }

end Tokenry.Pattern
