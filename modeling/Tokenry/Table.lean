import Tokenry.Session

namespace Tokenry

structure Table where
  kinds : List Kind
  distinct : (kinds.map (·.id)).Nodup

namespace Table

variable [Pattern.CharacterNames]

def empty : Table := ⟨[], by simp⟩

def size (t : Table) : Nat := t.kinds.length

def contains (t : Table) (k : Kind) : Bool := t.kinds.any (·.id == k.id)

def push (t : Table) (k : Kind) (h : t.contains k = false) : Table where
  kinds := t.kinds ++ [k]
  distinct := by
    simp only [contains, List.any_eq_false, beq_iff_eq] at h
    simp only [List.map_append, List.map_cons, List.map_nil]
    rw [List.nodup_append]
    exact ⟨t.distinct, by simp, by simpa using h⟩

def priority? (t : Table) (k : Kind) : Option Nat := t.kinds.findIdx? (·.id == k.id)

def includes (t : Table) (c : Candidate) : Bool := c.kind?.any t.contains

inductive Error where
  | notKind (thing : Foreign)
  | preparation (cause : MatchError)
  deriving DecidableEq, Repr

/-- Adds what is listed to a table, in order. Each kind is prepared before it is added; one that is
there already keeps its position and is handed back with the result. -/
def extend (s : Session) (t : Table) (repeated : List Kind) :
    List Candidate → Except Error (Table × List Kind) × Session
  | [] => (.ok (t, repeated.reverse), s)
  | c :: rest =>
    match s.resolve c with
    | (.error thing, s) => (.error (.notKind thing), s)
    | (.ok h, s) =>
      if present : t.contains h.kind then extend s t (h.kind :: repeated) rest
      else
        match s.prepare h.kind with
        | (.error e, s) => (.error (.preparation e), s)
        | (.ok (), s) => extend s (t.push h.kind (by simpa using present)) repeated rest

def build (s : Session) (listed : List Candidate) : Except Error (Table × List Kind) × Session :=
  extend s empty [] listed

/-- The remark about a kind that was listed again. -/
def repeatedRemark (k : Kind) : String :=
  "Token kind " ++ k.name ++ " listed twice in table, keeping first position"

def isSkip (skip : Option Kind) (k : Kind) : Bool := skip.any (· == k)

/-- The token of the first of some kinds that matches at a place; the skip kind is passed over. -/
def firstMatch (skip : Option Kind) (src : Source) (at_ : Location) :
    List Kind → Except MatchError (Option Token)
  | [] => .ok none
  | k :: rest =>
    if isSkip skip k then firstMatch skip src at_ rest
    else
      match k.tokenAt src at_ with
      | .error e => .error e
      | .ok (some token) => .ok (some token)
      | .ok none => firstMatch skip src at_ rest

def matchFirst (t : Table) (skip : Option Kind) (src : Source) (at_ : Location) :
    Except MatchError (Option Token) :=
  firstMatch skip src at_ t.kinds

inductive ScanError where
  | unexpected (at_ : Location) (expected : List Kind)
  | failed (cause : MatchError)

def ScanError.message : ScanError → String
  | .unexpected at_ expected =>
    "Unexpected input at offset " ++ toString at_ ++ ": expected " ++ Kind.welcome expected
  | .failed cause => cause.message

structure Step (at_ : Location) where
  emitted : Option Token
  stop : Location
  advances : at_ < stop

/-- The move over a match of the skip kind, unless the match stays where it is. -/
def skipStep (skip : Option Kind) (src : Source) (at_ : Location) :
    Except MatchError (Option (Step at_)) :=
  match skip with
  | none => .ok none
  | some k =>
    (k.tokenAt src at_).map fun found ↦ found.bind fun token ↦
      if h : at_ < token.range.stop then some ⟨none, token.range.stop, h⟩ else none

def wanted (t : Table) (skip : Option Kind) : List Kind :=
  t.kinds.filter (!isSkip skip ·)

/-- One step of a scan: over trivia if there is any, else over the first match. -/
def step (t : Table) (skip : Option Kind) (src : Source) (at_ : Location) :
    Except ScanError (Step at_) :=
  match skipStep skip src at_ with
  | .error e => .error (.failed e)
  | .ok (some s) => .ok s
  | .ok none =>
    match t.matchFirst skip src at_ with
    | .error e => .error (.failed e)
    | .ok none => .error (.unexpected at_ (t.wanted skip))
    | .ok (some token) =>
      if h : at_ < token.range.stop then .ok ⟨some token, token.range.stop, h⟩
      else .error (.unexpected at_ (t.wanted skip))

/-- The tokens from a place on, with one for the end of the source behind them. -/
def scanFrom (t : Table) (skip : Option Kind) (src : Source) (at_ : Location) :
    Except ScanError (List Token) :=
  if at_ < src.size then
    match t.step skip src at_ with
    | .error e => .error e
    | .ok s => (t.scanFrom skip src s.stop).map (s.emitted.toList ++ ·)
  else .ok [⟨.eof, .empty at_⟩]
  termination_by src.size - at_
  decreasing_by exact Nat.sub_lt_sub_left ‹_› s.advances

def scan (t : Table) (skip : Option Kind) (src : Source) : Except ScanError (List Token) :=
  t.scanFrom skip src 0

end Table

end Tokenry
