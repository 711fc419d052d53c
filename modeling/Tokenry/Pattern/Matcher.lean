import Tokenry.Location
import Tokenry.Pattern.Node

namespace Tokenry.Pattern

/-- Where a match stands: its place in the source, and where each group last began and ended. -/
structure Cursor where
  place : Location
  starts : Array (Option Location)
  stops : Array (Option Location)
  deriving DecidableEq, Repr

abbrev Continuation := Cursor → Option Cursor

namespace Cursor

def begin (groups : Nat) (at_ : Location) : Cursor :=
  ⟨at_, Array.replicate (groups + 1) none, Array.replicate (groups + 1) none⟩

def openGroup (c : Cursor) (index : Nat) : Cursor :=
  { c with starts := c.starts.setIfInBounds index (some c.place) }

def closeGroup (c : Cursor) (index : Nat) : Cursor :=
  { c with stops := c.stops.setIfInBounds index (some c.place) }

def span? (c : Cursor) (index : Nat) : Option Range :=
  match (c.starts[index]?).join, (c.stops[index]?).join with
  | some start, some stop => if h : start ≤ stop then some ⟨start, stop, h⟩ else none
  | _, _ => none

end Cursor

def isWordAt (src : Source) (narrow : Bool) (at_ : Location) : Bool :=
  (src[at_]?).any (Category.word.holds narrow)

def isNewlineAt (src : Source) (at_ : Location) : Bool := src[at_]? == some '\n'

/-- Whether an anchor holds at a place. No place of an empty source counts as a boundary, and none
as the inside of a word or a gap. -/
def Anchor.holds (src : Source) (at_ : Location) : Anchor → Bool
  | .start => at_ == 0
  | .lineStart => at_ == 0 || isNewlineAt src (at_ - 1)
  | .stop => at_ == src.size || (at_ + 1 == src.size && isNewlineAt src at_)
  | .lineStop => at_ == src.size || isNewlineAt src at_
  | .veryEnd => at_ == src.size
  | .boundary inside narrow =>
    let before := at_ != 0 && isWordAt src narrow (at_ - 1)
    !src.isEmpty && (before != isWordAt src narrow at_) == inside

def repeats (src : Source) (fold : Fold) (r : Range) (at_ : Location) : Bool :=
  (List.range r.length).all fun i ↦
    match src[r.start + i]?, src[at_ + i]? with
    | some a, some b => fold.lower a.toNat == fold.lower b.toNat
    | _, _ => false

section Repetition

variable (body : Cursor → Continuation → Option Cursor) (low : Nat) (high : Option Nat)
  (k : Continuation)

/-- Whether another round may be tried after `count` of them: a round that began at the same place
as the one before would change nothing. -/
def mayRepeat (count : Nat) (last : Option Location) (c : Cursor) : Bool :=
  high.all (count < ·) && last != some c.place

/-- As many rounds as possible first. `last` is where the previous round that was not owed began. -/
def runGreedy : (fuel : Nat) → (count : Nat) → (last : Option Location) → Continuation
  | 0, _, _, _ => none
  | fuel + 1, count, last, c =>
    if count < low then body c (runGreedy fuel (count + 1) last)
    else if mayRepeat high count last c then
      match body c (runGreedy fuel (count + 1) (some c.place)) with
      | some result => some result
      | none => k c
    else k c

def runReluctant : (fuel : Nat) → (count : Nat) → (last : Option Location) → Continuation
  | 0, _, _, _ => none
  | fuel + 1, count, last, c =>
    if count < low then body c (runReluctant fuel (count + 1) last)
    else
      match k c with
      | some result => some result
      | none =>
        if mayRepeat high count last c then body c (runReluctant fuel (count + 1) (some c.place))
        else none

def runPossessive : (fuel : Nat) → (count : Nat) → (last : Option Location) → Continuation
  | 0, _, _, _ => none
  | fuel + 1, count, last, c =>
    if count < low then
      match body c some with
      | some after => runPossessive fuel (count + 1) last after
      | none => none
    else if mayRepeat high count last c then
      match body c some with
      | some after => runPossessive fuel (count + 1) (some c.place) after
      | none => k c
    else k c

end Repetition

namespace Node

/-- Runs a node from a cursor and goes on with the rest of the match. A repetition ends after its
owed rounds and at most one further round for each place that is left, so the bound given to it is
never reached. -/
def run (src : Source) : Node → Cursor → Continuation → Option Cursor
  | .empty, c, k => k c
  | .test t, c, k =>
    match src[c.place]? with
    | some char => if t.holds char then k { c with place := c.place + 1 } else none
    | none => none
  | .anchor a, c, k => if a.holds src c.place then k c else none
  | .cat first second, c, k => first.run src c fun c ↦ second.run src c k
  | .alt first second, c, k =>
    match first.run src c k with
    | some result => some result
    | none => second.run src c k
  | .group index body, c, k => body.run src (c.openGroup index) fun c ↦ k (c.closeGroup index)
  | .again index fold _, c, k =>
    match c.span? index with
    | some r =>
      if repeats src fold r c.place then k { c with place := c.place + r.length } else none
    | none => none
  | .ahead positive body, c, k =>
    match body.run src c some with
    | some after => if positive then k { after with place := c.place } else none
    | none => if positive then none else k c
  | .behind positive w body, c, k =>
    if c.place < w.least then if positive then none else k c
    else
      match body.run src { c with place := c.place - w.least } some with
      | some after => if positive then k { after with place := c.place } else none
      | none => if positive then none else k c
  | .repetition preference low high body, c, k =>
    let fuel := low + (src.size - c.place) + 3
    match preference with
    | .greedy => runGreedy (fun c k ↦ body.run src c k) low high k fuel 0 none c
    | .reluctant => runReluctant (fun c k ↦ body.run src c k) low high k fuel 0 none c
    | .possessive => runPossessive (fun c k ↦ body.run src c k) low high k fuel 0 none c
  | .atomic body, c, k =>
    match body.run src c some with
    | some after => k after
    | none => none
  | .ifGroup index yes no, c, k =>
    if (c.span? index).isSome then yes.run src c k else no.run src c k

end Node

namespace Compiled

def matchAt (p : Compiled) (src : Source) (at_ : Location) : Option Cursor :=
  p.node.run src (Cursor.begin p.groups at_) some

def groupRange (at_ : Location) (group : Nat) (c : Cursor) : Option Range :=
  if group = 0 then
    if h : at_ ≤ c.place then some ⟨at_, c.place, h⟩ else none
  else c.span? group

/-- The range that a group covers when the pattern matches from a place on; there is none if the
pattern does not match or the group took no part. -/
def find (p : Compiled) (group : Nat) (src : Source) (at_ : Location) : Option Range :=
  (p.matchAt src at_).bind (groupRange at_ group)

end Compiled

end Tokenry.Pattern
