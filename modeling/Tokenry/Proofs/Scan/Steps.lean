import Mathlib
import Tokenry.Proofs.Kind
import Tokenry.Table

namespace Tokenry

namespace Table

variable {t : Table} {skip : Option Kind} {src : Source} {at_ : Location} {kinds : List Kind}
  {cause : MatchError}

/-- A match that a scan moves over. Matches of the skip kind are not kept. -/
structure Piece where
  token : Token
  kept : Bool

def Piece.emitted (piece : Piece) : Option Token := if piece.kept then some piece.token else none

def keptTokens (pieces : List Piece) : List Token := pieces.filterMap (·.emitted)

theorem keptTokens_cons (piece : Piece) (rest : List Piece) :
    keptTokens (piece :: rest) = piece.emitted.toList ++ keptTokens rest := by
  cases h : piece.emitted <;> simp [keptTokens, h]

/-- The match, at a place, of the first of some kinds that has one there. The skip kind does not
count. -/
def IsFirst (skip : Option Kind) (src : Source) (at_ : Location) (kinds : List Kind)
    (token : Token) : Prop :=
  ∃ before after, kinds = before ++ token.kind :: after ∧
    (∀ l ∈ before, (∀ s ∈ skip, s.id ≠ l.id) → l.tryMatch src at_ = .ok none) ∧
    (∀ s ∈ skip, s.id ≠ token.kind.id) ∧ token.kind.tryMatch src at_ = .ok (some token.range)

/-- One step of a scan: over a match of the skip kind if it leads forward, and else over the match
of the first other kind that has one, if that leads forward. -/
inductive Move (t : Table) (skip : Option Kind) (src : Source) (at_ : Location) : Piece → Prop
  | trivia {k : Kind} {r : Range} : at_ < src.size → skip = some k →
      k.tryMatch src at_ = .ok (some r) → at_ < r.stop → Move t skip src at_ ⟨⟨k, r⟩, false⟩
  | token {token : Token} : at_ < src.size → (∀ s ∈ skip, s.Rests src at_) →
      IsFirst skip src at_ t.kinds token → at_ < token.range.stop →
      Move t skip src at_ ⟨token, true⟩

/-- Steps in a row, each from where the one before it ended. -/
inductive Trail (t : Table) (skip : Option Kind) (src : Source) :
    Location → List Piece → Location → Prop
  | here (at_ : Location) : Trail t skip src at_ [] at_
  | step {at_ stop : Location} {piece : Piece} {rest : List Piece} : Move t skip src at_ piece →
      Trail t skip src piece.token.range.stop rest stop → Trail t skip src at_ (piece :: rest) stop

/-- A place inside the source from which there is no step. -/
def Stuck (t : Table) (skip : Option Kind) (src : Source) (at_ : Location) : Prop :=
  at_ < src.size ∧ ∀ piece, ¬ Move t skip src at_ piece

theorem isSkip_eq_false_iff {k : Kind} : isSkip skip k = false ↔ ∀ s ∈ skip, s.id ≠ k.id := by
  cases skip with
  | none => simp [isSkip]
  | some s =>
    simp only [isSkip, Option.any_some, Option.mem_def, Option.some.injEq, forall_eq']
    change (s.id == k.id) = false ↔ s.id ≠ k.id
    exact beq_eq_false_iff_ne

theorem wanted_eq (t : Table) (skip : Option Kind) :
    t.wanted skip = t.kinds.filter (fun k ↦ skip.all (·.id != k.id)) := by
  cases skip <;> rfl

theorem IsFirst.cons {k : Kind} {rest : List Kind} {token : Token}
    (hk : (∀ s ∈ skip, s.id ≠ k.id) → k.tryMatch src at_ = .ok none)
    (h : IsFirst skip src at_ rest token) : IsFirst skip src at_ (k :: rest) token := by
  obtain ⟨before, after, hrest, hbefore, htoken⟩ := h
  refine ⟨k :: before, after, by rw [hrest]; rfl, ?_, htoken⟩
  intro l hl
  rcases List.mem_cons.mp hl with rfl | hl
  · exact hk
  · exact hbefore l hl

theorem IsFirst.not_skip {token : Token} (h : IsFirst skip src at_ kinds token) :
    ∀ s ∈ skip, s.id ≠ token.kind.id := by
  obtain ⟨_, _, _, _, hskip, _⟩ := h
  exact hskip

theorem IsFirst.mem {token : Token} (h : IsFirst skip src at_ kinds token) :
    token.kind ∈ kinds := by
  obtain ⟨before, after, rfl, -⟩ := h
  simp

theorem firstMatch_eq_some_iff {token : Token} :
    firstMatch skip src at_ kinds = .ok (some token) ↔ IsFirst skip src at_ kinds token := by
  induction kinds with
  | nil => simp [firstMatch, IsFirst]
  | cons k rest ih =>
    constructor
    · intro h
      rw [firstMatch] at h
      split at h
      · next hk =>
        exact (ih.mp h).cons (fun hskip ↦ absurd hk (by simp [isSkip_eq_false_iff.mpr hskip]))
      · next hk =>
        split at h
        · cases h
        · next found hfound =>
          cases h
          obtain ⟨hmatch, hkind⟩ := Kind.tryMatch_of_tokenAt hfound
          obtain rfl := hkind token rfl
          exact ⟨[], rest, rfl, by simp, isSkip_eq_false_iff.mp (by simpa using hk), hmatch⟩
        · next hnone => exact (ih.mp h).cons (fun _ ↦ (Kind.tryMatch_of_tokenAt hnone).1)
    · rintro ⟨before, after, hkinds, hbefore, hskip, hmatch⟩
      cases before with
      | nil =>
        obtain ⟨rfl, rfl⟩ := List.cons.inj hkinds
        have hk := isSkip_eq_false_iff.mpr hskip
        simp only [firstMatch, hk, Kind.tokenAt_of_ok hmatch, Option.map_some, Bool.false_eq_true,
          if_false]
      | cons l before =>
        obtain ⟨rfl, hrest⟩ := List.cons.inj hkinds
        have h := ih.mpr ⟨before, after, hrest, fun l hl ↦ hbefore l (.tail _ hl), hskip, hmatch⟩
        cases hk : isSkip skip k with
        | true => simp only [firstMatch, hk, if_true, h]
        | false =>
          have hnone := hbefore k (.head _) (isSkip_eq_false_iff.mp hk)
          simp only [firstMatch, hk, Kind.tokenAt_of_ok hnone, Option.map_none, Bool.false_eq_true,
            if_false, h]

theorem firstMatch_eq_none_iff :
    firstMatch skip src at_ kinds = .ok none ↔
      ∀ k ∈ kinds, (∀ s ∈ skip, s.id ≠ k.id) → k.tryMatch src at_ = .ok none := by
  induction kinds with
  | nil => simp [firstMatch]
  | cons k rest ih =>
    rw [List.forall_mem_cons, firstMatch]
    cases hk : isSkip skip k with
    | true =>
      have hskip : ¬ ∀ s ∈ skip, s.id ≠ k.id := by
        intro h
        have hfalse := isSkip_eq_false_iff.mpr h
        rw [hk] at hfalse
        cases hfalse
      simp only [if_true, ih]
      exact ⟨fun h ↦ ⟨fun h' ↦ absurd h' hskip, h⟩, fun h ↦ h.2⟩
    | false =>
      have hskip := isSkip_eq_false_iff.mp hk
      simp only [Bool.false_eq_true, if_false]
      have hasked : ((∀ s ∈ skip, s.id ≠ k.id) → k.tryMatch src at_ = .ok none) ↔
          k.tryMatch src at_ = .ok none := ⟨fun h ↦ h hskip, fun h _ ↦ h⟩
      rw [hasked]
      cases hmatch : k.tryMatch src at_ with
      | error e => simp [Kind.tokenAt, hmatch, Except.map]
      | ok found =>
        rw [Kind.tokenAt_of_ok hmatch]
        cases found <;> simp [ih]

theorem firstMatch_error (h : firstMatch skip src at_ kinds = .error cause) :
    ∃ k ∈ kinds, k.tryMatch src at_ = .error cause := by
  induction kinds with
  | nil => cases h
  | cons k rest ih =>
    have hrest (h : firstMatch skip src at_ rest = .error cause) :
        ∃ k' ∈ k :: rest, k'.tryMatch src at_ = .error cause := by
      obtain ⟨l, hl, herror⟩ := ih h
      exact ⟨l, .tail _ hl, herror⟩
    rw [firstMatch] at h
    split at h
    · exact hrest h
    · cases hmatch : k.tryMatch src at_ with
      | error e =>
        simp only [Kind.tokenAt, hmatch, Except.map] at h
        cases h
        exact ⟨k, .head _, hmatch⟩
      | ok found =>
        rw [Kind.tokenAt_of_ok hmatch] at h
        cases found with
        | none => exact hrest h
        | some r => cases h

theorem Move.lt_size {piece : Piece} (h : Move t skip src at_ piece) : at_ < src.size := by
  cases h <;> assumption

theorem Move.advances {piece : Piece} (h : Move t skip src at_ piece) :
    at_ < piece.token.range.stop := by
  cases h <;> assumption

theorem Move.kind_mem {piece : Piece} (h : Move t skip src at_ piece) :
    piece.token.kind ∈ t.kinds ∨ piece.token.kind ∈ skip := by
  cases h with
  | trivia _ hk _ _ => exact .inr hk
  | token _ _ hfirst _ => exact .inl hfirst.mem

theorem Move.tryMatch_eq {piece : Piece} (h : Move t skip src at_ piece) :
    piece.token.kind.tryMatch src at_ = .ok (some piece.token.range) := by
  cases h with
  | trivia _ _ hr _ => exact hr
  | token _ _ hfirst _ =>
    obtain ⟨_, _, _, _, _, hr⟩ := hfirst
    exact hr

theorem Move.stop_le_of_bounded {piece : Piece} (h : Move t skip src at_ piece)
    (ht : ∀ k ∈ t.kinds, k.Bounded src) (hs : ∀ k ∈ skip, k.Bounded src) :
    piece.token.range.stop ≤ src.size := by
  have hmost := h.kind_mem.elim (ht _) (hs _) _ _ h.tryMatch_eq
  exact Nat.le_trans hmost (Nat.max_le.mpr ⟨Nat.le_of_lt h.lt_size, Nat.le_refl _⟩)

theorem Move.stop_le {piece : Piece} (h : Move t skip src at_ piece)
    (ht : ∀ k ∈ t.kinds, k.WellBehaved src) (hs : ∀ k ∈ skip, k.WellBehaved src) :
    piece.token.range.stop ≤ src.size :=
  h.stop_le_of_bounded (fun k hk ↦ (ht k hk).bounded) (fun k hk ↦ (hs k hk).bounded)

theorem Move.unique {piece piece' : Piece} (h : Move t skip src at_ piece)
    (h' : Move t skip src at_ piece') : piece = piece' := by
  have hrest {k : Kind} {r : Range} (hk : skip = some k) (hr : k.tryMatch src at_ = .ok (some r))
      (hadv : at_ < r.stop) : ¬ ∀ s ∈ skip, s.Rests src at_ := by
    intro hs
    obtain ⟨found, hfound, hstay⟩ := hs k hk
    cases hr.symm.trans hfound
    exact absurd (hstay r rfl) (Nat.not_le.mpr hadv)
  cases h with
  | trivia _ hk hr hadv =>
    cases h' with
    | trivia _ hk' hr' _ =>
      cases hk.symm.trans hk'
      cases hr.symm.trans hr'
      rfl
    | token _ hs _ _ => exact absurd hs (hrest hk hr hadv)
  | token _ hs hfirst _ =>
    cases h' with
    | trivia _ hk hr hadv => exact absurd hs (hrest hk hr hadv)
    | token _ _ hfirst' _ =>
      cases (firstMatch_eq_some_iff.mpr hfirst).symm.trans (firstMatch_eq_some_iff.mpr hfirst')
      rfl

theorem skipStep_eq_none_iff :
    skipStep skip src at_ = .ok none ↔ ∀ s ∈ skip, s.Rests src at_ := by
  cases skip with
  | none => simp [skipStep]
  | some k =>
    simp only [skipStep, Option.mem_def, Option.some.injEq, forall_eq', Kind.Rests, Kind.tokenAt]
    cases k.tryMatch src at_ with
    | error e => simp [Except.map]
    | ok found => cases found <;> simp [Except.map]

theorem skipStep_of_match {k : Kind} {r : Range} (hr : k.tryMatch src at_ = .ok (some r))
    (hadv : at_ < r.stop) : skipStep (some k) src at_ = .ok (some ⟨none, r.stop, hadv⟩) := by
  simp [skipStep, Kind.tokenAt_of_ok hr, Except.map, hadv]

theorem match_of_skipStep {s : Step at_} (h : skipStep skip src at_ = .ok (some s)) :
    ∃ k r, skip = some k ∧ k.tryMatch src at_ = .ok (some r) ∧ s.emitted = none ∧
      s.stop = r.stop := by
  cases skip with
  | none => simp [skipStep] at h
  | some k =>
    cases hmatch : k.tryMatch src at_ with
    | error e => simp [skipStep, Kind.tokenAt, hmatch, Except.map] at h
    | ok found =>
      cases found with
      | none => simp [skipStep, Kind.tokenAt, hmatch, Except.map] at h
      | some r =>
        simp only [skipStep, Kind.tokenAt, hmatch, Except.map, Option.map_some, Option.bind_some,
          Except.ok.injEq] at h
        split at h
        · cases h
          exact ⟨k, r, rfl, hmatch, rfl, rfl⟩
        · cases h

theorem skipStep_error (h : skipStep skip src at_ = .error cause) :
    ∃ k ∈ skip, k.tryMatch src at_ = .error cause := by
  cases skip with
  | none => cases h
  | some k =>
    cases hmatch : k.tryMatch src at_ with
    | ok found =>
      rw [skipStep, Kind.tokenAt_of_ok hmatch] at h
      cases h
    | error e =>
      simp only [skipStep, Kind.tokenAt, hmatch, Except.map] at h
      cases h
      exact ⟨k, rfl, hmatch⟩

theorem step_of_move {piece : Piece} (h : Move t skip src at_ piece) :
    t.step skip src at_ = .ok ⟨piece.emitted, piece.token.range.stop, h.advances⟩ := by
  cases h with
  | trivia _ hk hr hadv =>
    simp only [step, hk, skipStep_of_match hr hadv]
    rfl
  | token _ hs hfirst hadv =>
    have hmatch : t.matchFirst skip src at_ = .ok (some _) := firstMatch_eq_some_iff.mpr hfirst
    simp only [step, skipStep_eq_none_iff.mpr hs, hmatch, dif_pos hadv]
    rfl

theorem move_of_step (hat : at_ < src.size) {s : Step at_} (h : t.step skip src at_ = .ok s) :
    ∃ piece, Move t skip src at_ piece ∧ s.emitted = piece.emitted ∧
      s.stop = piece.token.range.stop := by
  unfold step at h
  split at h
  · cases h
  · next found hfound =>
    cases h
    obtain ⟨k, r, hk, hr, hemitted, hstop⟩ := match_of_skipStep hfound
    exact ⟨⟨⟨k, r⟩, false⟩, .trivia hat hk hr (hstop ▸ s.advances), hemitted, hstop⟩
  · next hnone =>
    split at h
    · cases h
    · cases h
    · next token hmatch =>
      split at h
      · next hadv =>
        cases h
        exact ⟨⟨token, true⟩, .token hat (skipStep_eq_none_iff.mp hnone)
          (firstMatch_eq_some_iff.mp hmatch) hadv, rfl, rfl⟩
      · cases h

/-- A place where the kinds that are asked do not lead forward: the skip kind does not, and neither
does the first other kind that matches, if there is one. -/
def Blocked (t : Table) (skip : Option Kind) (src : Source) (at_ : Location) : Prop :=
  (∀ s ∈ skip, s.Rests src at_) ∧
    ((∀ k ∈ t.kinds, (∀ s ∈ skip, s.id ≠ k.id) → k.tryMatch src at_ = .ok none) ∨
      ∃ token, IsFirst skip src at_ t.kinds token ∧ token.range.stop ≤ at_)

theorem step_unexpected {place : Location} {expected : List Kind}
    (h : t.step skip src at_ = .error (.unexpected place expected)) :
    place = at_ ∧ expected = t.wanted skip ∧ Blocked t skip src at_ := by
  unfold step at h
  split at h
  · cases h
  · cases h
  · next hskip =>
    have hrests := skipStep_eq_none_iff.mp hskip
    split at h
    · cases h
    · next hnone =>
      cases h
      exact ⟨rfl, rfl, hrests, .inl (firstMatch_eq_none_iff.mp hnone)⟩
    · next token hfirst =>
      split at h
      · cases h
      · next hstays =>
        cases h
        exact ⟨rfl, rfl, hrests, .inr ⟨token, firstMatch_eq_some_iff.mp hfirst,
          Nat.not_lt.mp hstays⟩⟩

theorem step_failed (h : t.step skip src at_ = .error (.failed cause)) :
    ∃ k, (k ∈ t.kinds ∨ k ∈ skip) ∧ k.tryMatch src at_ = .error cause := by
  unfold step at h
  split at h
  · next hskip =>
    cases h
    obtain ⟨k, hk, herror⟩ := skipStep_error hskip
    exact ⟨k, .inr hk, herror⟩
  · cases h
  · split at h
    · next hfirst =>
      cases h
      obtain ⟨k, hk, herror⟩ := firstMatch_error hfirst
      exact ⟨k, .inl hk, herror⟩
    · cases h
    · split at h <;> cases h

theorem step_error (ht : ∀ k ∈ t.kinds, k.Answers src) (hs : ∀ k ∈ skip, k.Answers src)
    {e : ScanError} (h : t.step skip src at_ = .error e) : e = .unexpected at_ (t.wanted skip) := by
  cases e with
  | unexpected place expected =>
    obtain ⟨rfl, rfl, -⟩ := step_unexpected h
    rfl
  | failed cause =>
    obtain ⟨k, hk, herror⟩ := step_failed h
    obtain ⟨found, hfound⟩ := hk.elim (ht k) (hs k) at_
    cases herror.symm.trans hfound

namespace Trail

variable {pieces pieces' : List Piece} {stop stop' : Location}

theorem length_le (h : Trail t skip src at_ pieces stop) : pieces.length ≤ src.size - at_ := by
  induction h with
  | here => exact Nat.zero_le _
  | step hmove _ ih =>
    have hlt := hmove.lt_size
    have hadv := hmove.advances
    simp only [List.length_cons]
    lia

theorem stop_le_of_bounded (h : Trail t skip src at_ pieces stop)
    (ht : ∀ k ∈ t.kinds, k.Bounded src) (hs : ∀ k ∈ skip, k.Bounded src) (hat : at_ ≤ src.size) :
    stop ≤ src.size := by
  induction h with
  | here => exact hat
  | step hmove _ ih => exact ih (hmove.stop_le_of_bounded ht hs)

theorem stop_le (h : Trail t skip src at_ pieces stop) (ht : ∀ k ∈ t.kinds, k.WellBehaved src)
    (hs : ∀ k ∈ skip, k.WellBehaved src) (hat : at_ ≤ src.size) : stop ≤ src.size :=
  h.stop_le_of_bounded (fun k hk ↦ (ht k hk).bounded) (fun k hk ↦ (hs k hk).bounded) hat

/-- Trails that cannot be continued are the same if they begin at the same place. -/
theorem unique (h : Trail t skip src at_ pieces stop)
    (hstop : ∀ piece, ¬ Move t skip src stop piece) (h' : Trail t skip src at_ pieces' stop')
    (hstop' : ∀ piece, ¬ Move t skip src stop' piece) :
    pieces = pieces' ∧ stop = stop' := by
  induction h generalizing pieces' with
  | here =>
    cases h' with
    | here => exact ⟨rfl, rfl⟩
    | step hmove _ => exact absurd hmove (hstop _)
  | step hmove _ ih =>
    cases h' with
    | here => exact absurd hmove (hstop' _)
    | step hmove' h' =>
      obtain rfl := hmove.unique hmove'
      obtain ⟨rfl, rfl⟩ := ih hstop h'
      exact ⟨rfl, rfl⟩

theorem exists_move (h : Trail t skip src at_ pieces stop) {piece : Piece} (hp : piece ∈ pieces) :
    ∃ before place, Trail t skip src at_ before place ∧ Move t skip src place piece := by
  induction h with
  | here => cases hp
  | @step at_ _ first _ hmove _ ih =>
    rcases List.mem_cons.mp hp with rfl | hp
    · exact ⟨[], at_, .here at_, hmove⟩
    · obtain ⟨before, place, htrail, hpiece⟩ := ih hp
      exact ⟨first :: before, place, .step hmove htrail, hpiece⟩

theorem stops_increase (h : Trail t skip src at_ pieces stop) :
    (at_ :: pieces.map (·.token.range.stop)).Pairwise (· < ·) := by
  induction h with
  | here => exact List.pairwise_singleton _ _
  | step hmove _ ih =>
    refine List.pairwise_cons.mpr ⟨?_, ih⟩
    intro place hplace
    rcases List.mem_cons.mp hplace with rfl | hplace
    · exact hmove.advances
    · exact Nat.lt_trans hmove.advances (List.rel_of_pairwise_cons ih hplace)

end Trail

theorem scanFrom_eq_ok_iff {tokens : List Token} :
    t.scanFrom skip src at_ = .ok tokens ↔ ∃ pieces stop, Trail t skip src at_ pieces stop ∧
      src.size ≤ stop ∧ tokens = keptTokens pieces ++ [⟨.eof, .empty stop⟩] := by
  fun_induction scanFrom t skip src at_ generalizing tokens with
  | case1 at_ hat e hstep =>
    constructor
    · intro h
      cases h
    · rintro ⟨pieces, stop, htrail, hsize, -⟩
      cases htrail with
      | here => exact absurd hat (Nat.not_lt.mpr hsize)
      | step hmove _ => cases (step_of_move hmove).symm.trans hstep
  | case2 at_ hat s hstep ih =>
    obtain ⟨piece, hmove, hemitted, hstop⟩ := move_of_step hat hstep
    constructor
    · intro h
      cases hrest : t.scanFrom skip src s.stop with
      | error e =>
        rw [hrest] at h
        cases h
      | ok rest =>
        rw [hrest] at h
        cases h
        obtain ⟨pieces, stop, htrail, hsize, rfl⟩ := ih.mp hrest
        refine ⟨piece :: pieces, stop, .step hmove (hstop ▸ htrail), hsize, ?_⟩
        rw [keptTokens_cons, hemitted, List.append_assoc]
    · rintro ⟨pieces, stop, htrail, hsize, rfl⟩
      cases htrail with
      | here => exact absurd hat (Nat.not_lt.mpr hsize)
      | step hmove' htrail =>
        obtain rfl := hmove.unique hmove'
        rw [ih.mpr ⟨_, stop, hstop ▸ htrail, hsize, rfl⟩, keptTokens_cons, hemitted,
          List.append_assoc]
        rfl
  | case3 at_ hat =>
    constructor
    · intro h
      cases h
      exact ⟨[], at_, .here at_, Nat.not_lt.mp hat, rfl⟩
    · rintro ⟨pieces, stop, htrail, -, rfl⟩
      cases htrail with
      | here => rfl
      | step hmove _ => exact absurd hmove.lt_size hat

theorem exists_trail_of_error {e : ScanError} (h : t.scanFrom skip src at_ = .error e) :
    ∃ pieces stop, Trail t skip src at_ pieces stop ∧ stop < src.size ∧
      t.step skip src stop = .error e := by
  fun_induction scanFrom t skip src at_ with
  | case1 at_ hat e' hstep =>
    cases h
    exact ⟨[], at_, .here at_, hat, hstep⟩
  | case2 at_ hat s hstep ih =>
    obtain ⟨piece, hmove, -, hstop⟩ := move_of_step hat hstep
    cases hrest : t.scanFrom skip src s.stop with
    | ok rest =>
      rw [hrest] at h
      cases h
    | error e' =>
      rw [hrest] at h
      cases h
      obtain ⟨pieces, stop, htrail, hlt, herror⟩ := ih hrest
      exact ⟨piece :: pieces, stop, .step hmove (hstop ▸ htrail), hlt, herror⟩
  | case3 at_ hat => cases h

theorem scanFrom_error (ht : ∀ k ∈ t.kinds, k.Answers src) (hs : ∀ k ∈ skip, k.Answers src)
    {e : ScanError} (h : t.scanFrom skip src at_ = .error e) :
    ∃ pieces stop, Trail t skip src at_ pieces stop ∧ Stuck t skip src stop ∧
      e = .unexpected stop (t.wanted skip) := by
  obtain ⟨pieces, stop, htrail, hlt, hstep⟩ := exists_trail_of_error h
  refine ⟨pieces, stop, htrail, ⟨hlt, ?_⟩, step_error ht hs hstep⟩
  intro piece hmove
  cases (step_of_move hmove).symm.trans hstep

theorem keptTokens_stops_sublist (pieces : List Piece) :
    ((keptTokens pieces).map (·.range.stop)).Sublist (pieces.map (·.token.range.stop)) := by
  induction pieces with
  | nil => exact .slnil
  | cons piece rest ih =>
    rw [keptTokens_cons, List.map_append, List.map_cons]
    cases h : piece.kept with
    | false => simpa [Piece.emitted, h] using ih.cons _
    | true => simpa [Piece.emitted, h] using ih.cons_cons piece.token.range.stop

theorem Trail.isFirst_of_kept {pieces : List Piece} {stop : Location}
    (h : Trail t skip src at_ pieces stop) {token : Token} (htoken : token ∈ keptTokens pieces) :
    ∃ before place, Trail t skip src at_ before place ∧ place < src.size ∧
      IsFirst skip src place t.kinds token := by
  obtain ⟨piece, hpiece, hemitted⟩ := List.mem_filterMap.mp htoken
  obtain ⟨before, place, htrail, hmove⟩ := h.exists_move hpiece
  cases hmove with
  | trivia => cases hemitted
  | token hlt _ hfirst _ =>
    cases hemitted
    exact ⟨before, place, htrail, hlt, hfirst⟩

/-- A scan of kinds that always answer is the run of its steps from the first place. No run has more
steps than the source has places. The scan succeeds if the run leaves the source, and gives the kept
matches and the end of the source there; it fails at the only place where a run gets stuck, and
names all kinds of the table but the skip kind. The tokens end one behind the other, and each is the
match of the first kind that has one at a place that the run comes to. -/
theorem scan_eq_run (t : Table) (skip : Option Kind) (src : Source)
    (ht : ∀ k ∈ t.kinds, k.Answers src) (hs : ∀ k ∈ skip, k.Answers src) :
    (∀ pieces stop, Trail t skip src 0 pieces stop → pieces.length ≤ src.size) ∧
    (∀ tokens, t.scan skip src = .ok tokens ↔ ∃ pieces stop, Trail t skip src 0 pieces stop ∧
      src.size ≤ stop ∧ tokens = keptTokens pieces ++ [⟨.eof, .empty stop⟩]) ∧
    ((¬ ∃ pieces stop, Trail t skip src 0 pieces stop ∧ src.size ≤ stop) →
      ∃ place, (∃ pieces, Trail t skip src 0 pieces place) ∧ Stuck t skip src place ∧
        (∀ pieces' place', Trail t skip src 0 pieces' place' → Stuck t skip src place' →
          place' = place) ∧
        t.scan skip src =
          .error (.unexpected place (t.kinds.filter fun k ↦ skip.all (·.id != k.id)))) ∧
    (∀ tokens, t.scan skip src = .ok tokens → ∃ body stop,
      tokens = body ++ [⟨.eof, .empty stop⟩] ∧ (body.map (·.range.stop)).Pairwise (· < ·) ∧
      ∀ token ∈ body, (∀ s ∈ skip, s.id ≠ token.kind.id) ∧ ∃ pieces place,
        Trail t skip src 0 pieces place ∧ place < src.size ∧
        IsFirst skip src place t.kinds token) := by
  refine ⟨fun pieces stop h ↦ h.length_le, fun tokens ↦ scanFrom_eq_ok_iff, ?_, ?_⟩
  · intro hnever
    cases hscan : t.scan skip src with
    | ok tokens =>
      obtain ⟨pieces, stop, htrail, hsize, -⟩ := scanFrom_eq_ok_iff.mp hscan
      exact absurd ⟨pieces, stop, htrail, hsize⟩ hnever
    | error e =>
      obtain ⟨pieces, place, htrail, hstuck, he⟩ := scanFrom_error ht hs hscan
      refine ⟨place, ⟨pieces, htrail⟩, hstuck, ?_, by rw [he, wanted_eq]⟩
      intro pieces' place' htrail' hstuck'
      exact (htrail'.unique hstuck'.2 htrail hstuck.2).2
  · intro tokens hscan
    obtain ⟨pieces, stop, htrail, -, rfl⟩ := scanFrom_eq_ok_iff.mp hscan
    refine ⟨keptTokens pieces, stop, rfl, ?_, ?_⟩
    · obtain ⟨-, hstops⟩ := List.pairwise_cons.mp htrail.stops_increase
      exact hstops.sublist (keptTokens_stops_sublist pieces)
    · intro token htoken
      obtain ⟨before, place, hbefore, hlt, hfirst⟩ := htrail.isFirst_of_kept htoken
      exact ⟨hfirst.not_skip, before, place, hbefore, hlt, hfirst⟩

def longestRun (chars : List Char) : Matching := fun src at_ ↦
  let length := ((src.extract at_ src.size).toList.takeWhile chars.contains).length
  .ok (if length = 0 then none else some ⟨at_, at_ + length, Nat.le_add_right _ _⟩)

def letters : Kind := .ofMatching 1 "Letters" none (longestRun ['a', 'b']) (.ok ())

def blanks : Kind := .ofMatching 2 "Blanks" none (longestRun [' ']) (.ok ())

def letterTable : Table := ⟨[letters, blanks], by decide⟩

theorem scan_eq_run_letters :
    (∀ k ∈ letterTable.kinds, k.Answers #['a', ' ', 'b']) ∧
    (∀ k ∈ some blanks, k.Answers #['a', ' ', 'b']) ∧
    ∃ pieces stop, Trail letterTable (some blanks) #['a', ' ', 'b'] 0 pieces stop ∧ 3 ≤ stop ∧
      [⟨letters, ⟨0, 1, by decide⟩⟩, ⟨letters, ⟨2, 3, by decide⟩⟩, ⟨.eof, .empty 3⟩] =
        keptTokens pieces ++ [⟨.eof, .empty stop⟩] := by
  have ht : ∀ k ∈ letterTable.kinds, k.Answers #['a', ' ', 'b'] := by
    intro k hk at_
    rcases List.mem_pair.mp hk with rfl | rfl <;> exact ⟨_, rfl⟩
  have hs : ∀ k ∈ some blanks, k.Answers #['a', ' ', 'b'] := by
    rintro k ⟨⟩ at_
    exact ⟨_, rfl⟩
  exact ⟨ht, hs, ((scan_eq_run letterTable (some blanks) _ ht hs).2.1 _).mp (by cbv)⟩

end Table

end Tokenry
