import Tokenry.Definition
import Tokenry.Pattern.Matcher
import Tokenry.Pattern.Parser

namespace Tokenry

/-- Matches a literal at a place. No literal, not even the empty one, matches past the end. -/
def matchLiteral (literal : List Char) (src : Source) (at_ : Location) : Option Range :=
  if at_ ≤ src.size ∧ (src.extract at_ (at_ + literal.length)).toList = literal then
    some ⟨at_, at_ + literal.length, Nat.le_add_right _ _⟩
  else none

namespace Pattern

variable [CharacterNames]

def compileFor (text : String) (capture : Nat) : Except MatchError Compiled :=
  match compile text with
  | .error fault => .error (.ofFault text fault)
  | .ok compiled =>
    if capture ≤ compiled.groups then .ok compiled
    else .error (.definition (.missingGroup text capture compiled.groups))

/-- Matches at a place with a pattern that may be unusable. Past the end of the source nothing
matches and the pattern is not looked at. -/
def matchWith (pattern : Except MatchError Compiled) (capture : Nat) (src : Source)
    (at_ : Location) : Except MatchError (Option Range) :=
  if src.size < at_ then .ok none
  else pattern.map fun compiled ↦ compiled.find capture src at_

structure Cache where
  entries : Array (String × Compiled) := #[]

namespace Cache

def find? (cache : Cache) (text : String) : Option Nat :=
  cache.entries.findIdx? (·.1 == text)

def get? (cache : Cache) (entry : Nat) : Option Compiled := (cache.entries[entry]?).map (·.2)

/-- The entry of a text, which is compiled if it has none. A text that does not compile leaves no
trace. -/
def compile (cache : Cache) (text : String) : Except MatchError Nat × Cache :=
  match cache.find? text with
  | some entry => (.ok entry, cache)
  | none =>
    match Pattern.compile text with
    | .error fault => (.error (.ofFault text fault), cache)
    | .ok compiled => (.ok cache.entries.size, ⟨cache.entries.push (text, compiled)⟩)

end Cache

structure Deferred where
  text : String
  capture : Nat
  entry : Option Nat := none
  deriving DecidableEq, Repr

namespace Deferred

def make (text : String) (capture : Int) : Except DefinitionError Deferred :=
  if capture < 0 then .error (.negativeIndex text capture)
  else .ok { text, capture := capture.toNat }

def isCompiled (d : Deferred) : Bool := d.entry.isSome

def render (d : Deferred) : String :=
  "LazyPattern(" ++ Text.Literal.encode d.text ++ ", capture=" ++ toString d.capture ++ ")"

/-- The cache entry of a deferred pattern. Whether the pattern has the group is checked each time
until it succeeds; a failure leaves the pattern as it was. -/
def force (d : Deferred) (cache : Cache) : Except MatchError Nat × Deferred × Cache :=
  match d.entry with
  | some entry => (.ok entry, d, cache)
  | none =>
    match cache.compile d.text with
    | (.error e, cache) => (.error e, d, cache)
    | (.ok entry, cache) =>
      let groups := ((cache.get? entry).map (·.groups)).getD 0
      if d.capture ≤ groups then (.ok entry, { d with entry := some entry }, cache)
      else (.error (.definition (.missingGroup d.text d.capture groups)), d, cache)

def matchAt (d : Deferred) (cache : Cache) (src : Source) (at_ : Location) :
    Except MatchError (Option Range) × Deferred × Cache :=
  if src.size < at_ then (.ok none, d, cache)
  else
    match d.force cache with
    | (.error e, d, cache) => (.error e, d, cache)
    | (.ok entry, d, cache) =>
      (.ok ((cache.get? entry).bind fun compiled ↦ compiled.find d.capture src at_), d, cache)

end Deferred

end Pattern

end Tokenry
