import Tokenry.Pattern.Fault
import Tokenry.Pattern.Node
import Tokenry.Text.Hex
import Tokenry.Text.Identifier

namespace Tokenry.Pattern

structure Symbol where
  position : Nat
  escaped : Bool
  char : Char
  deriving DecidableEq, Repr

namespace Symbol

def text (s : Symbol) : List Char := if s.escaped then ['\\', s.char] else [s.char]

def isPlain (s : Symbol) (c : Char) : Bool := !s.escaped && s.char == c

def length (s : Symbol) : Nat := if s.escaped then 2 else 1

end Symbol

/-- Cuts a text into symbols; the flag tells whether a lone backslash is left at its end. -/
def symbols : List Char → Nat → List Symbol × Bool
  | [], _ => ([], false)
  | ['\\'], _ => ([], true)
  | '\\' :: c :: rest, position =>
    let (later, dangling) := symbols rest (position + 2)
    (⟨position, true, c⟩ :: later, dangling)
  | c :: rest, position =>
    let (later, dangling) := symbols rest (position + 1)
    (⟨position, false, c⟩ :: later, dangling)

structure Flags where
  ignoreCase : Bool := false
  multiline : Bool := false
  dotAll : Bool := false
  verbose : Bool := false
  narrow : Bool := false
  full : Bool := false
  template : Bool := false
  deriving DecidableEq, Repr

namespace Flags

def fold (f : Flags) : Fold :=
  if f.ignoreCase then (if f.narrow then .narrow else .full) else .exact

def union (f g : Flags) : Flags where
  ignoreCase := f.ignoreCase || g.ignoreCase
  multiline := f.multiline || g.multiline
  dotAll := f.dotAll || g.dotAll
  verbose := f.verbose || g.verbose
  narrow := f.narrow || g.narrow
  full := f.full || g.full
  template := f.template || g.template

def without (f g : Flags) : Flags where
  ignoreCase := f.ignoreCase && !g.ignoreCase
  multiline := f.multiline && !g.multiline
  dotAll := f.dotAll && !g.dotAll
  verbose := f.verbose && !g.verbose
  narrow := f.narrow && !g.narrow
  full := f.full && !g.full
  template := f.template && !g.template

def overlaps (f g : Flags) : Bool :=
  (f.ignoreCase && g.ignoreCase) || (f.multiline && g.multiline) || (f.dotAll && g.dotAll)
    || (f.verbose && g.verbose) || (f.narrow && g.narrow) || (f.full && g.full)

/-- The options inside a group that adds some and removes some; an alphabet that is added replaces
the one in force. -/
def inside (f add remove : Flags) : Flags :=
  let base := if add.narrow || add.full then { f with narrow := false, full := false } else f
  (base.union add).without remove

end Flags

/-- What is left to read, and what has been learnt so far. `widths` has an entry for every group
that was opened, the whole pattern first, and a group's width is known once it is closed. -/
structure Input where
  rest : List Symbol
  length : Nat
  dangling : Bool
  flags : Flags := {}
  names : List (String × Nat) := []
  widths : Array (Option Width) := #[none]
  /-- The number of groups that were open or closed when the outermost look-behind began. -/
  lookBehind : Option Nat := none
  conditions : List (Nat × Nat) := []

namespace Input

def ofText (text : List Char) : Input :=
  let (rest, dangling) := symbols text 0
  { rest, length := text.length, dangling }

def position (input : Input) : Nat :=
  match input.rest with
  | s :: _ => s.position
  | [] => input.length

def groups (input : Input) : Nat := input.widths.size

def closedWidth? (input : Input) (index : Nat) : Option Width :=
  (input.widths[index]?).join

end Input

abbrev Reader := StateT Input (Except Fault)

namespace Reader

def failAt {α : Type} (position : Nat) (reason : Reason) : Reader α :=
  throw (.malformed reason (some position))

def failBack {α : Type} (back : Nat) (reason : Reason) : Reader α := do
  failAt ((← get).position - back) reason

def failHere {α : Type} (reason : Reason) : Reader α := failBack 0 reason

def next? : Reader (Option Symbol) := return (← get).rest.head?

def nextIs (c : Char) : Reader Bool := return (← next?).any (·.isPlain c)

def take? : Reader (Option Symbol) := do
  let input ← get
  match input.rest with
  | [] => return none
  | s :: rest =>
    if rest.isEmpty && input.dangling then failAt (input.length - 1) .danglingEscape
    set { input with rest }
    return some s

def accept (c : Char) : Reader Bool := do
  if ← nextIs c then
    let _ ← take?
    return true
  return false

def takeWhile (test : Char → Bool) : (n : Nat) → Reader (List Char)
  | 0 => return []
  | n + 1 => do
    match ← next? with
    | some s =>
      if !s.escaped && test s.char then
        let _ ← take?
        return s.char :: (← takeWhile test n)
      return []
    | none => return []

def takeDigits : Reader (List Char) := do
  takeWhile Text.isNarrowDigit (← get).rest.length

def takeUntil (closing : Char) (missing : Reason) : (fuel : Nat) → List Char → Reader (List Char)
  | 0, _ => failHere missing
  | fuel + 1, taken => do
    match ← take? with
    | none =>
      if taken.isEmpty then failHere missing
      failBack taken.length (.unterminatedName closing)
    | some s =>
      if s.isPlain closing then
        if taken.isEmpty then failBack 1 missing
        return taken
      takeUntil closing missing fuel (taken ++ s.text)

def takeName (closing : Char) : Reader (List Char) := do
  takeUntil closing .missingName ((← get).rest.length + 1) []

end Reader

def decimalNumber (digits : List Char) : Nat :=
  digits.foldl (fun n c ↦ n * 10 + (c.toNat - 0x30)) 0

def octalNumber (digits : List Char) : Nat :=
  digits.foldl (fun n c ↦ n * 8 + (c.toNat - 0x30)) 0

def isOctalDigit (c : Char) : Bool := '0' ≤ c && c ≤ '7'

def isPlainLetter (c : Char) : Bool := ('a' ≤ c && c ≤ 'z') || ('A' ≤ c && c ≤ 'Z')

end Tokenry.Pattern
