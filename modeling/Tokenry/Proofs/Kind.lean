import Tokenry.Proofs.Pattern.Bounds
import Tokenry.Session

namespace Tokenry

variable {src : Source} {at_ : Location} {r : Range}

theorem matchLiteral_spec {literal : List Char} (h : matchLiteral literal src at_ = some r) :
    r.start = at_ ∧ r.stop ≤ src.size ∧ r.slice src = literal := by
  unfold matchLiteral at h
  split at h
  · next hliteral =>
    obtain ⟨hat, hslice⟩ := hliteral
    cases h
    refine ⟨rfl, ?_, hslice⟩
    have hlength := congrArg List.length hslice
    simp only [Array.length_toList, Array.size_extract] at hlength
    lia
  · cases h

theorem Pattern.matchWith_zero_spec {pattern : Except MatchError Pattern.Compiled}
    (h : Pattern.matchWith pattern 0 src at_ = .ok (some r)) :
    r.start = at_ ∧ r.stop ≤ src.size := by
  unfold Pattern.matchWith at h
  split at h
  · cases h
  · next hat =>
    cases pattern with
    | error e => cases h
    | ok compiled =>
      have hfind : compiled.find 0 src at_ = some r := Except.ok.inj h
      exact ⟨Pattern.Compiled.find_zero_start hfind,
        Pattern.Compiled.find_stop_le (Nat.not_lt.mp hat) hfind⟩

theorem Pattern.matchWith_stop_le {pattern : Except MatchError Pattern.Compiled} {capture : Nat}
    (h : Pattern.matchWith pattern capture src at_ = .ok (some r)) : r.stop ≤ src.size := by
  unfold Pattern.matchWith at h
  split at h
  · cases h
  · next hat =>
    cases pattern with
    | error e => cases h
    | ok compiled => exact Pattern.Compiled.find_stop_le (Nat.not_lt.mp hat) (Except.ok.inj h)

/-- Changes that keep a kind from some of its matches, and otherwise leave matching and preparing as
they are. -/
structure Overrides.Narrows (changes : Overrides) : Prop where
  keeps : ∀ method ∈ changes.tryMatch, ∃ keep : Source → Location → Range → Bool,
    ∀ base src at_, (method src at_).run base = (base (src, at_)).map (·.filter (keep src at_))
  prepare_eq : changes.prepare = none

theorem Overrides.narrows_empty : Overrides.Narrows {} := ⟨by simp, rfl⟩

theorem Overrides.narrows_filter (keep : Source → Location → Range → Bool) :
    Overrides.Narrows
      { tryMatch := some fun src at_ ↦ .ask (src, at_) fun found ↦
          .settle (found.map (·.filter (keep src at_))) } := by
  refine ⟨?_, rfl⟩
  rintro method ⟨⟩
  exact ⟨keep, fun _ _ _ ↦ rfl⟩

namespace Kind

/-- A kind that gives an answer at every place of a source. -/
def Answers (k : Kind) (src : Source) : Prop := ∀ at_, ∃ found, k.tryMatch src at_ = .ok found

/-- A kind that is tried at a place and does not lead forward. -/
def Rests (k : Kind) (src : Source) (at_ : Location) : Prop :=
  ∃ found, k.tryMatch src at_ = .ok found ∧ ∀ r ∈ found, r.stop ≤ at_

/-- A kind whose matches begin where it is tried and do not pass the end of the source. -/
def Anchored (k : Kind) (src : Source) : Prop :=
  ∀ at_ r, k.tryMatch src at_ = .ok (some r) → r.start = at_ ∧ r.stop ≤ src.size

/-- A kind whose matches do not begin before the place where it is tried, and do not end past both
that place and the end of the source. -/
def WellBehaved (k : Kind) (src : Source) : Prop :=
  ∀ at_ r, k.tryMatch src at_ = .ok (some r) → at_ ≤ r.start ∧ r.stop ≤ max at_ src.size

/-- A kind whose matches do not end past both the place where it is tried and the end of the
source. They may end before that place. -/
def Bounded (k : Kind) (src : Source) : Prop :=
  ∀ at_ r, k.tryMatch src at_ = .ok (some r) → r.stop ≤ max at_ src.size

variable {k : Kind}

theorem beq_iff_id_eq {l : Kind} : (k == l) = true ↔ k.id = l.id :=
  show (k.id == l.id) = true ↔ k.id = l.id from beq_iff_eq

theorem tokenAt_of_ok {found : Option Range} (h : k.tryMatch src at_ = .ok found) :
    k.tokenAt src at_ = .ok (found.map (⟨k, ·⟩)) := by
  rw [tokenAt, h]
  rfl

theorem tryMatch_of_tokenAt {found : Option Token} (h : k.tokenAt src at_ = .ok found) :
    k.tryMatch src at_ = .ok (found.map (·.range)) ∧ ∀ token ∈ found, token.kind = k := by
  unfold tokenAt at h
  cases hmatch : k.tryMatch src at_ with
  | error e =>
    rw [hmatch] at h
    cases h
  | ok answer =>
    rw [hmatch] at h
    cases h
    cases answer <;> simp

theorem WellBehaved.le_stop (h : k.WellBehaved src) (hr : k.tryMatch src at_ = .ok (some r)) :
    at_ ≤ r.stop :=
  Nat.le_trans (h at_ r hr).1 r.start_le_stop

theorem WellBehaved.bounded (h : k.WellBehaved src) : k.Bounded src :=
  fun at_ r hr ↦ (h at_ r hr).2

theorem Anchored.wellBehaved (h : k.Anchored src) : k.WellBehaved src := by
  intro at_ r hr
  obtain ⟨hstart, hstop⟩ := h at_ r hr
  exact ⟨Nat.le_of_eq hstart.symm, Nat.le_trans hstop (Nat.le_max_right _ _)⟩

theorem eof_tryMatch : eof.tryMatch src at_ = .ok (some r) ↔ src.size ≤ at_ ∧ r = .empty at_ := by
  simp only [eof, Except.ok.injEq]
  split
  · next hat => simp [hat, eq_comm]
  · next hat => simp [hat]

theorem tryMatch_override {changes : Overrides} (h : changes.Narrows) (k : Kind) :
    ∃ keep : Source → Location → Range → Bool, ∀ src at_,
      (k.override changes).tryMatch src at_ =
        (k.tryMatch src at_).map (·.filter (keep src at_)) := by
  cases hmethod : changes.tryMatch with
  | none =>
    refine ⟨fun _ _ _ ↦ true, fun src at_ ↦ ?_⟩
    simp only [override, hmethod]
    rcases k.tryMatch src at_ with e | _ | r <;> rfl
  | some method =>
    obtain ⟨keep, hkeep⟩ := h.keeps method hmethod
    refine ⟨keep, fun src at_ ↦ ?_⟩
    simp only [override, hmethod, hkeep]

theorem tryMatch_of_override {changes : Overrides} (h : changes.Narrows)
    (hr : (k.override changes).tryMatch src at_ = .ok (some r)) :
    k.tryMatch src at_ = .ok (some r) := by
  obtain ⟨keep, hkeep⟩ := tryMatch_override h k
  rw [hkeep] at hr
  cases hmatch : k.tryMatch src at_ with
  | error e =>
    rw [hmatch] at hr
    cases hr
  | ok found =>
    rw [hmatch] at hr
    obtain ⟨rfl, -⟩ := Option.filter_eq_some_iff.mp (Except.ok.inj hr)
    rfl

theorem Answers.override {changes : Overrides} (h : k.Answers src) (hchanges : changes.Narrows) :
    (k.override changes).Answers src := by
  intro at_
  obtain ⟨keep, hkeep⟩ := tryMatch_override hchanges k
  obtain ⟨found, hfound⟩ := h at_
  rw [hkeep, hfound]
  exact ⟨_, rfl⟩

end Kind

variable [Pattern.CharacterNames]

theorem Pattern.compileFor_eq_ok_iff {text : String} {capture : Nat} {compiled : Pattern.Compiled} :
    Pattern.compileFor text capture = .ok compiled ↔
      Pattern.compile text = .ok compiled ∧ capture ≤ compiled.groups := by
  unfold Pattern.compileFor
  cases Pattern.compile text with
  | error fault => simp
  | ok found =>
    simp only [Except.ok.injEq]
    split
    · next hgroup =>
      constructor
      · intro h
        cases h
        exact ⟨rfl, hgroup⟩
      · rintro ⟨rfl, -⟩
        rfl
    · next hgroup =>
      constructor
      · intro h
        cases h
      · rintro ⟨rfl, h⟩
        exact absurd h hgroup

theorem Pattern.compile_of_read {text : String} {node : Pattern.Node} {input : Pattern.Input}
    (hread : (Pattern.Reader.alternatives (3 * text.toList.length + 8) true true {}).run
      (.ofText text.toList) = .ok (node, input))
    (hfirst : (Pattern.Input.ofText text.toList).rest ≠ []) (hrest : input.rest = [])
    (hflags : input.flags = {}) (hconditions : input.conditions = [])
    (hbehind : node.lookBehindFault? = none) :
    Pattern.compile text = .ok ⟨node, input.groups - 1⟩ := by
  simp [Pattern.compile, hread, hfirst, hrest, hflags, hconditions, hbehind, bind, Except.bind,
    pure, Except.pure]

/-- A declaration that can be matched with: a pattern compiles and has the group that is asked
for. -/
def Declaration.Usable (d : Declaration) : Prop :=
  d.strategy = .regex →
    ∃ compiled, Pattern.compile d.pattern = .ok compiled ∧ d.capture.toNat ≤ compiled.groups

namespace Kind

variable {k : Kind}

/-- A kind that a session makes of a declaration, as a literal or as a pattern whose whole match is
the token. Its author may let fewer matches through. -/
def DeclaredWhole (k : Kind) : Prop :=
  ∃ (s : Session) (name : String) (o : Declaration.Options) (d : Declaration) (changes : Overrides),
    changes.Narrows ∧ Declaration.ofOptions name o = .ok d ∧ d.capture = 0 ∧
      k = (s.declare d changes).1

theorem declare_declaration (s : Session) (d : Declaration) (changes : Overrides) :
    (s.declare d changes).1.declaration = some d := by
  unfold Session.declare
  cases d.strategy <;> rfl

theorem declare_changes (s : Session) (d : Declaration) (changes : Overrides) :
    (s.declare d changes).1.changes = changes := by
  unfold Session.declare
  cases d.strategy <;> rfl

theorem declare_tryMatch {s : Session} {d : Declaration} {changes : Overrides}
    (hchanges : changes.Narrows) (h : (s.declare d changes).1.tryMatch src at_ = .ok (some r)) :
    (d.strategy = .exact ∧ matchLiteral d.pattern.toList src at_ = some r) ∨
    (d.strategy = .regex ∧ Pattern.matchWith (Pattern.compileFor d.pattern d.capture.toNat)
      d.capture.toNat src at_ = .ok (some r)) := by
  cases hd : d.strategy with
  | exact =>
    simp only [Session.declare, hd] at h
    have hmatch := tryMatch_of_override hchanges h
    simp only [ofDeclaration, hd] at hmatch
    exact .inl ⟨rfl, Except.ok.inj hmatch⟩
  | regex =>
    simp only [Session.declare, hd] at h
    have hmatch := tryMatch_of_override hchanges h
    simp only [ofDeclaration, hd] at hmatch
    exact .inr ⟨rfl, hmatch⟩

theorem declare_tryMatch_eq {d : Declaration} {compiled : Pattern.Compiled} (s : Session)
    (hd : d.strategy = .regex) (hcompile : Pattern.compile d.pattern = .ok compiled)
    (hgroup : d.capture.toNat ≤ compiled.groups) (hat : at_ ≤ src.size) :
    (s.declare d {}).1.tryMatch src at_ = .ok (compiled.find d.capture.toNat src at_) := by
  have hfor := Pattern.compileFor_eq_ok_iff.mpr ⟨hcompile, hgroup⟩
  simp only [Session.declare, hd, override, ofDeclaration, Pattern.matchWith, hfor,
    if_neg (Nat.not_lt.mpr hat)]
  rfl

theorem declare_stop_le {s : Session} {d : Declaration} {changes : Overrides}
    (hchanges : changes.Narrows) (h : (s.declare d changes).1.tryMatch src at_ = .ok (some r)) :
    r.stop ≤ src.size := by
  rcases declare_tryMatch hchanges h with ⟨-, hmatch⟩ | ⟨-, hmatch⟩
  · exact (matchLiteral_spec hmatch).2.1
  · exact Pattern.matchWith_stop_le hmatch

theorem declare_bounded (s : Session) (d : Declaration) {changes : Overrides}
    (hchanges : changes.Narrows) (src : Source) : (s.declare d changes).1.Bounded src :=
  fun _ _ hr ↦ Nat.le_trans (declare_stop_le hchanges hr) (Nat.le_max_right _ _)

theorem ofDeclaration_answers {d : Declaration} (h : d.Usable) (id : Nat) (deferred : Option Nat)
    (src : Source) : (ofDeclaration id deferred d).Answers src := by
  intro at_
  cases hd : d.strategy with
  | exact =>
    simp only [ofDeclaration, hd]
    exact ⟨_, rfl⟩
  | regex =>
    obtain ⟨compiled, hcompiled⟩ := h hd
    simp only [ofDeclaration, hd, Pattern.compileFor_eq_ok_iff.mpr hcompiled, Pattern.matchWith]
    split <;> exact ⟨_, rfl⟩

theorem declare_answers {d : Declaration} (h : d.Usable) (s : Session) {changes : Overrides}
    (hchanges : changes.Narrows) (src : Source) : (s.declare d changes).1.Answers src := by
  unfold Session.declare
  split <;> exact (ofDeclaration_answers h _ _ src).override hchanges

theorem declare_anchored (s : Session) {d : Declaration} {changes : Overrides}
    (hchanges : changes.Narrows) (src : Source) (h : d.strategy = .exact ∨ d.capture = 0) :
    (s.declare d changes).1.Anchored src := by
  intro at_ r hr
  rcases declare_tryMatch hchanges hr with ⟨-, hmatch⟩ | ⟨hregex, hmatch⟩
  · obtain ⟨hstart, hstop, -⟩ := matchLiteral_spec hmatch
    exact ⟨hstart, hstop⟩
  · have hcapture : d.capture = 0 := h.resolve_left (by simp [hregex])
    rw [hcapture] at hmatch
    exact Pattern.matchWith_zero_spec hmatch

theorem DeclaredWhole.anchored (h : k.DeclaredWhole) (src : Source) : k.Anchored src := by
  obtain ⟨s, name, o, d, changes, hchanges, -, hcapture, rfl⟩ := h
  exact declare_anchored s hchanges src (.inr hcapture)

theorem DeclaredWhole.text_eq (h : k.DeclaredWhole) {d : Declaration}
    (hd : k.declaration = some d) (hexact : d.strategy = .exact)
    (hr : k.tryMatch src at_ = .ok (some r)) : r.text src = d.pattern := by
  obtain ⟨s, name, o, d', changes, hchanges, -, -, rfl⟩ := h
  cases (declare_declaration s d' changes).symm.trans hd
  rcases declare_tryMatch hchanges hr with ⟨-, hmatch⟩ | ⟨hregex, -⟩
  · obtain ⟨-, -, hslice⟩ := matchLiteral_spec hmatch
    rw [Range.text, hslice, String.ofList_toList]
  · cases hexact.symm.trans hregex

end Kind

end Tokenry
