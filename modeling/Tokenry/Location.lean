namespace Tokenry

abbrev Source := Array Char

abbrev Location := Nat

inductive LocationError where
  | negative (position : Int)
  | reversed (start stop : Location)
  deriving DecidableEq, Repr

def LocationError.message : LocationError → String
  | .negative position => s!"Location position must be non-negative, got {position}"
  | .reversed start stop => s!"Range start {start} is past its end {stop}"

namespace Location

def ofInt (position : Int) : Except LocationError Location :=
  if position < 0 then .error (.negative position) else .ok position.toNat

def advance (at_ : Location) (count : Int) : Except LocationError Location :=
  ofInt (Int.ofNat at_ + count)

end Location

structure Range where
  start : Location
  stop : Location
  start_le_stop : start ≤ stop
  deriving DecidableEq, Repr

namespace Range

def make (start stop : Location) : Except LocationError Range :=
  if h : start ≤ stop then .ok ⟨start, stop, h⟩ else .error (.reversed start stop)

/-- Builds a range from integers; a negative offset is reported before a reversed range, and the
start before the stop. -/
def ofInts (start stop : Int) : Except LocationError Range := do
  make (← Location.ofInt start) (← Location.ofInt stop)

def empty (at_ : Location) : Range := ⟨at_, at_, Nat.le_refl at_⟩

def length (r : Range) : Nat := r.stop - r.start

/-- The part of the source that the range covers, cut at the end of the source. -/
def slice (r : Range) (src : Source) : List Char := (src.extract r.start r.stop).toList

def text (r : Range) (src : Source) : String := String.ofList (r.slice src)

def join (r s : Range) : Range where
  start := min r.start s.start
  stop := max r.stop s.stop
  start_le_stop := Nat.le_trans (Nat.min_le_left _ _)
    (Nat.le_trans r.start_le_stop (Nat.le_max_left _ _))

def compare (r s : Range) : Ordering :=
  (Ord.compare r.start s.start).then (Ord.compare r.stop s.stop)

instance : Ord Range := ⟨compare⟩

def sort (ranges : List Range) : List Range :=
  ranges.mergeSort (fun r s ↦ (r.compare s).isLE)

def render (r : Range) : String := s!"{r.start}..{r.stop}"

end Range

def indexLimit : Nat := 0x7FFFFFFFFFFFFFFF

def Range.indexLength? (r : Range) : Option Nat :=
  if r.length ≤ indexLimit then some r.length else none

end Tokenry
