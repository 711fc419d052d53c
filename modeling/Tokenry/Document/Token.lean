import Tokenry.Document.Cursor
import Tokenry.Text.Hex

namespace Tokenry.Document

inductive Token where
  | directive (name handle target : String)
  | documentStart
  | documentEnd
  | streamEnd
  | blockSequenceStart
  | blockMappingStart
  | blockEnd
  | flowSequenceStart
  | flowMappingStart
  | flowSequenceEnd
  | flowMappingEnd
  | flowEntry
  | blockEntry
  | key
  | value
  | alias (name : String)
  | anchor (name : String)
  | tag (handle : Option String) (rest : String)
  | scalar (text : String) (plain : Bool)
  deriving DecidableEq, Repr

inductive Malformed where
  | forbiddenCharacter
  | unexpectedCharacter (char : Char)
  | missingColon
  | misplacedEntry
  | misplacedKey
  | misplacedValue
  | badDirective
  | badName
  | badTag
  | badBlockHeader
  | badEscape
  | unclosedText
  | markerInText
  | missingNode
  | missingMarker
  | unclosedCollection
  | unknownHandle (handle : String)
  | unknownAlias (name : String)
  | severalDocuments
  | unknownTag (tag : String)
  | wrongShape (tag : String)
  | repeatedKey
  | badKey
  | badMerge
  deriving DecidableEq, Repr

inductive ScalarFault where
  | codePoint
  | year (year : Nat)
  | month
  | day
  | hour
  | minute
  | second
  | integer (base : Nat) (text : String)
  | decimal (text : String)
  | truth (text : String)
  | unkeyable (typeName : String)
  deriving DecidableEq, Repr

inductive Problem where
  | malformed (cause : Malformed)
  | fault (cause : ScalarFault)
  deriving DecidableEq, Repr

structure PossibleKey where
  position : Nat
  required : Bool
  index : Nat
  line : Nat
  column : Nat
  deriving DecidableEq, Repr

structure ScanState where
  cursor : Cursor
  tokens : Array Token := #[]
  flow : List Char := []
  indent : Int := -1
  outer : List Int := []
  keyAllowed : Bool := true
  /-- The possible keys, at most one for each number of open brackets. -/
  keys : List (Nat × PossibleKey) := []

abbrev Scan := StateT ScanState (Except Problem)

namespace Scan

def peek (n : Nat) : Scan Char := return (← get).cursor.peek n

def moved (f : Cursor → Cursor) : Scan Unit := modify fun s ↦ { s with cursor := f s.cursor }

def advance (n : Nat) : Scan Unit := moved (·.advanceBy n)

def skipWhile (test : Char → Bool) : Scan Unit := moved (·.skipWhile test)

def takeWhile (test : Char → Bool) : Scan (List Char) := do
  let taken := (← get).cursor.rest.takeWhile test
  advance taken.length
  return taken

def remaining : Scan Nat := return (← get).cursor.rest.length

def column : Scan Nat := return (← get).cursor.column

def inFlow : Scan Bool := return !(← get).flow.isEmpty

def takeBreak : Scan (Option Char) := do
  let c ← peek 0
  if c == '\r' && (← peek 1) == '\n' then
    advance 2
    return some '\n'
  if c == '\u2028' || c == '\u2029' then
    advance 1
    return some c
  if isBreak c then
    advance 1
    return some '\n'
  return none

def emit (t : Token) : Scan Unit := modify fun s ↦ { s with tokens := s.tokens.push t }

def allowKey (allowed : Bool) : Scan Unit := modify fun s ↦ { s with keyAllowed := allowed }

def skipTrivia : (fuel : Nat) → Scan Unit
  | 0 => return
  | fuel + 1 => do
    let flow ← inFlow
    skipWhile fun c ↦ c == ' ' || (flow && c == '\t')
    if (← peek 0) == '#' then skipWhile (!isEnd ·)
    if (← takeBreak).isSome then
      if !flow then allowKey true
      skipTrivia fuel

/-- The greatest distance between the beginning of a key and its colon. -/
def keyReach : Nat := 1024

def dropStaleKeys : Scan Unit := do
  let s ← get
  let isStale (k : PossibleKey) : Bool :=
    k.line != s.cursor.line || keyReach < s.cursor.index - k.index
  if s.keys.any fun entry ↦ isStale entry.2 && entry.2.required then throw (.malformed .missingColon)
  set { s with keys := s.keys.filter fun entry ↦ !isStale entry.2 }

def dropKey : Scan Unit := do
  let s ← get
  let level := s.flow.length
  if s.keys.any fun entry ↦ entry.1 == level && entry.2.required then throw (.malformed .missingColon)
  set { s with keys := s.keys.filter (·.1 != level) }

def rememberKey : Scan Unit := do
  if (← get).keyAllowed then
    dropKey
    let s ← get
    let required := s.flow.isEmpty && s.indent == Int.ofNat s.cursor.column
    let k : PossibleKey := ⟨s.tokens.size, required, s.cursor.index, s.cursor.line, s.cursor.column⟩
    set { s with keys := (s.flow.length, k) :: s.keys }

def closeBlocks (column : Int) : Scan Unit := do
  let s ← get
  if s.flow.isEmpty then
    let rec close (indent : Int) (tokens : Array Token) : List Int → Int × List Int × Array Token
      | [] => (indent, [], tokens)
      | next :: rest =>
        if column < indent then close next (tokens.push .blockEnd) rest
        else (indent, next :: rest, tokens)
    let (indent, outer, tokens) := close s.indent s.tokens s.outer
    set { s with indent, outer, tokens }

def openBlock (column : Nat) : Scan Bool := do
  let s ← get
  if s.indent < Int.ofNat column then
    set { s with indent := Int.ofNat column, outer := s.indent :: s.outer }
    return true
  return false

def insertAt (position : Nat) (tokens : Array Token) : Scan Unit :=
  modify fun s ↦ { s with
    tokens := s.tokens.extract 0 position ++ tokens ++ s.tokens.extract position s.tokens.size }

end Scan

end Tokenry.Document
