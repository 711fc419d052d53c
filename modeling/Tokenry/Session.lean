import Tokenry.Kind

namespace Tokenry

/-- A token that stands for a kind. Two handles of one kind are equal without being the same one. -/
structure Handle where
  kind : Kind
  serial : Nat

namespace Handle

instance : BEq Handle := ⟨fun a b ↦ a.kind == b.kind⟩

instance : Ord Handle := ⟨fun a b ↦ compare a.kind b.kind⟩

def same (a b : Handle) : Bool := a.serial == b.serial

def hash (a : Handle) : UInt64 := Hashable.hash a.kind.id

end Handle

/-- Something that is no kind: how it is shown and what it is. -/
structure Foreign where
  shown : String
  typeName : String
  isBase : Bool := false
  unkeyable : Option String := none
  deriving DecidableEq, Repr

def Foreign.refusal (thing : Foreign) : String := "Expected a TokenDef subclass, got " ++ thing.shown

def Foreign.lookupRefusal (thing : Foreign) : String :=
  match thing.unkeyable with
  | some typeName => "unhashable type: '" ++ typeName ++ "'"
  | none => thing.refusal

/-- What may be given where a kind is wanted. -/
inductive Candidate where
  | kind (kind : Kind)
  | handle (handle : Handle)
  | foreign (thing : Foreign)

def Candidate.kind? : Candidate → Option Kind
  | .kind k => some k
  | .handle h => some h.kind
  | .foreign _ => none

structure Session where
  nextKind : Nat := 1
  nextSerial : Nat := 0
  /-- The handles that kinds go by, for those kinds that were asked for one. -/
  canonical : List Handle := []
  deferred : Array Pattern.Deferred := #[]
  cache : Pattern.Cache := {}

namespace Session

variable [Pattern.CharacterNames]

def freshHandle (s : Session) (k : Kind) : Handle × Session :=
  (⟨k, s.nextSerial⟩, { s with nextSerial := s.nextSerial + 1 })

def handleOf (s : Session) (k : Kind) : Handle × Session :=
  match s.canonical.find? (·.kind == k) with
  | some h => (h, s)
  | none =>
    let (h, s) := s.freshHandle k
    (h, { s with canonical := h :: s.canonical })

def resolve (s : Session) : Candidate → Except Foreign Handle × Session
  | .kind k => ((s.handleOf k).map .ok id)
  | .handle h => (.ok h, s)
  | .foreign thing => (.error thing, s)

def declare (s : Session) (d : Declaration) (changes : Overrides) : Kind × Session :=
  match d.strategy with
  | .exact =>
    ((Kind.ofDeclaration s.nextKind none d).override changes, { s with nextKind := s.nextKind + 1 })
  | .regex =>
    let waiting : Pattern.Deferred := { text := d.pattern, capture := d.capture.toNat }
    ((Kind.ofDeclaration s.nextKind (some s.deferred.size) d).override changes,
      { s with nextKind := s.nextKind + 1, deferred := s.deferred.push waiting })

def invent (s : Session) (className : String) (rename : Option String) (matching : Matching)
    (prepared : Except MatchError Unit) : Kind × Session :=
  (Kind.ofMatching s.nextKind className rename matching prepared,
    { s with nextKind := s.nextKind + 1 })

def derive (s : Session) (parent : Kind) (className : String) : Kind × Session :=
  (parent.derive s.nextKind className, { s with nextKind := s.nextKind + 1 })

def force (s : Session) (index : Nat) : Except MatchError Unit × Session :=
  match s.deferred[index]? with
  | none => (.ok (), s)
  | some waiting =>
    let (result, waiting, cache) := waiting.force s.cache
    (result.map fun _ ↦ (), { s with deferred := s.deferred.setIfInBounds index waiting, cache })

def catchUp (s : Session) : Option Nat → Except MatchError Unit × Session
  | none => (.ok (), s)
  | some index => s.force index

/-- Does what an author has put in the place of catching up. -/
def follow (s : Session) (deferred : Option Nat) :
    Method Unit (Except MatchError Unit) → Except MatchError Unit × Session
  | .settle outcome => (outcome, s)
  | .ask _ next => (s.catchUp deferred).2.follow deferred (next (s.catchUp deferred).1)

/-- Does the work that a kind has put off. -/
def prepare (s : Session) (k : Kind) : Except MatchError Unit × Session :=
  match k.changes.prepare with
  | none => s.catchUp k.deferred
  | some method => s.follow k.deferred method

/-- Records that patterns have been used; one that cannot be compiled stays as it is. -/
def touch (s : Session) (indices : List Nat) : Session :=
  indices.foldl (fun s index ↦ (s.force index).2) s

def isCompiled (s : Session) (k : Kind) : Bool :=
  (k.deferred.bind fun index ↦ s.deferred[index]?).any (·.isCompiled)

end Session

end Tokenry
