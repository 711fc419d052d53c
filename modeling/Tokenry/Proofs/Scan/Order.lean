import Tokenry.Proofs.Scan.Failure
import Tokenry.Proofs.Table

namespace Tokenry

namespace Table

variable {t t' : Table} {skip : Option Kind} {src : Source} {at_ stop : Location}
  {pieces : List Piece}

theorem firstMatch_filter (skip : Option Kind) (src : Source) (at_ : Location)
    (kinds : List Kind) :
    firstMatch skip src at_ (kinds.filter (!isSkip skip ·)) = firstMatch skip src at_ kinds := by
  induction kinds with
  | nil => rfl
  | cons k rest ih =>
    cases hk : isSkip skip k with
    | true => rw [List.filter_cons_of_neg (by simp [hk]), firstMatch, if_pos hk, ih]
    | false => rw [List.filter_cons_of_pos (by simp [hk]), firstMatch, firstMatch, ih]

theorem step_congr (h : t.wanted skip = t'.wanted skip) (src : Source) (at_ : Location) :
    t.step skip src at_ = t'.step skip src at_ := by
  have hfirst : t.matchFirst skip src at_ = t'.matchFirst skip src at_ := by
    calc t.matchFirst skip src at_
        = firstMatch skip src at_ (t.wanted skip) := (firstMatch_filter skip src at_ t.kinds).symm
      _ = firstMatch skip src at_ (t'.wanted skip) := by rw [h]
      _ = t'.matchFirst skip src at_ := firstMatch_filter skip src at_ t'.kinds
  unfold step
  rw [hfirst, h]

theorem scanFrom_congr (h : ∀ at_, t.step skip src at_ = t'.step skip src at_) (at_ : Location) :
    t.scanFrom skip src at_ = t'.scanFrom skip src at_ := by
  fun_induction scanFrom t skip src at_ with
  | case1 at_ hat e hstep =>
    rw [scanFrom, if_pos hat, ← h, hstep]
  | case2 at_ hat s hstep ih =>
    rw [ih, scanFrom.eq_def t' skip src at_, if_pos hat, ← h, hstep]
  | case3 at_ hat =>
    rw [scanFrom, if_neg hat]

theorem wanted_of_meant {k : Kind} {listed : List Candidate}
    (h : t.kinds = (meant listed).eraseDups) :
    t.wanted (some k) = ((meant listed).filter (·.id != k.id)).eraseDups := by
  have hother : (fun l ↦ !isSkip (some k) l) = fun l : Kind ↦ l.id != k.id := by
    funext l
    change (!(k.id == l.id)) = !(l.id == k.id)
    rw [Bool.beq_comm]
  rw [wanted, h, hother]
  apply filter_eraseDups
  intro l l' hid
  rw [hid]

theorem IsFirst.of_isPrefix {kinds kinds' : List Kind} {token : Token}
    (h : IsFirst skip src at_ kinds token) (hkinds : kinds <+: kinds') :
    IsFirst skip src at_ kinds' token := by
  obtain ⟨before, after, rfl, htoken⟩ := h
  obtain ⟨more, rfl⟩ := hkinds
  exact ⟨before, after ++ more, by simp, htoken⟩

theorem Move.of_isPrefix {piece : Piece} (h : Move t skip src at_ piece)
    (hkinds : t.kinds <+: t'.kinds) : Move t' skip src at_ piece := by
  cases h with
  | trivia hlt hk hr hadv => exact .trivia hlt hk hr hadv
  | token hlt hs hfirst hadv => exact .token hlt hs (hfirst.of_isPrefix hkinds) hadv

theorem Trail.of_isPrefix (h : Trail t skip src at_ pieces stop) (hkinds : t.kinds <+: t'.kinds) :
    Trail t' skip src at_ pieces stop := by
  induction h with
  | here => exact .here _
  | step hmove _ ih => exact .step (hmove.of_isPrefix hkinds) ih

theorem Trail.le (h : Trail t skip src at_ pieces stop) : at_ ≤ stop := by
  induction h with
  | here => exact Nat.le_refl _
  | step hmove _ ih => exact Nat.le_trans (Nat.le_of_lt hmove.advances) ih

/-- A scan goes on from where a trail has led it, and keeps the tokens of the trail. -/
theorem Trail.scanFrom_eq (h : Trail t skip src at_ pieces stop) :
    t.scanFrom skip src at_ = (t.scanFrom skip src stop).map (keptTokens pieces ++ ·) := by
  induction h with
  | here at_ => cases t.scanFrom skip src at_ <;> rfl
  | @step at_ stop piece rest hmove _ ih =>
    rw [scanFrom, if_pos hmove.lt_size, step_of_move hmove]
    simp only [ih]
    cases t.scanFrom skip src stop with
    | error e => rfl
    | ok tokens => simp only [Except.map, keptTokens_cons, List.append_assoc]

/-- What becomes of a scan that has come to a place, if all kinds answer: it leaves the source, or
it reports a place from there on. -/
theorem Trail.scan_cases {place : Location} (h : Trail t skip src 0 pieces place)
    (ht : ∀ k ∈ t.kinds, k.Answers src) (hs : ∀ k ∈ skip, k.Answers src) :
    (∃ rest stop, Trail t skip src place rest stop ∧ src.size ≤ stop ∧
      t.scan skip src = .ok (keptTokens pieces ++ keptTokens rest ++ [⟨.eof, .empty stop⟩])) ∨
    ∃ rest place', Trail t skip src place rest place' ∧ place ≤ place' ∧
      t.scan skip src = .error (.unexpected place' (t.wanted skip)) := by
  have hscan : t.scan skip src = (t.scanFrom skip src place).map (keptTokens pieces ++ ·) :=
    h.scanFrom_eq
  cases hlater : t.scanFrom skip src place with
  | ok tokens =>
    obtain ⟨rest, stop, hrest, hsize, rfl⟩ := scanFrom_eq_ok_iff.mp hlater
    refine .inl ⟨rest, stop, hrest, hsize, ?_⟩
    rw [hscan, hlater, List.append_assoc]
    rfl
  | error e =>
    obtain ⟨rest, place', hrest, -, rfl⟩ := scanFrom_error ht hs hlater
    rw [hlater] at hscan
    exact .inr ⟨rest, place', hrest, hrest.le, hscan⟩

open Session (Act Log)

/-- Two lists that mean the same kinds in the same order, apart from the skip kind, make tables with
the same scans, whenever they are built. It does not matter where the skip kind is listed, how
often, or whether it is listed at all. -/
theorem scan_skip_anywhere [Pattern.CharacterNames] (acts later : List Act) (skip : Kind)
    (listed listed' : List Candidate)
    (hlisted : (Log.performAll {} acts).Prepares listed)
    (hlisted' : (Log.performAll {} acts).Prepares listed')
    (hsame : (meant listed).filter (·.id != skip.id) = (meant listed').filter (·.id != skip.id)) :
    ∃ t again t' again',
      (build (Log.performAll {} acts).session listed).1 = .ok (t, again) ∧
      (build (Log.performAll {} (acts ++ later)).session listed').1 = .ok (t', again') ∧
      ∀ src, t.scan (some skip) src = t'.scan (some skip) src := by
  obtain ⟨t, again, ht, hkinds⟩ := hlisted.build
  obtain ⟨t', again', ht', hkinds'⟩ := (hlisted'.later later).build
  refine ⟨t, again, t', again', ht, ht', ?_⟩
  intro src
  have hwanted : t.wanted (some skip) = t'.wanted (some skip) := by
    rw [wanted_of_meant hkinds, wanted_of_meant hkinds', hsame]
  exact scanFrom_congr (step_congr hwanted src) 0

def looseActs : List Act :=
  [.define "Maybe" { regex := some "m*" } {}, .define "Cross" { exact := some "x" } {}]

theorem looseActs_kinds : (Log.performAll {} looseActs).kinds = [.eof, maybeKind, crossKind] := by
  rfl

theorem looseActs_session : (Log.performAll {} looseActs).session =
    { nextKind := 3, deferred := #[{ text := "m*", capture := 0 }] } := by
  rfl

theorem looseActs_prepares {listed : List Candidate}
    (h : ∀ c ∈ listed, c = .kind maybeKind ∨ c = .kind crossKind) :
    (Log.performAll {} looseActs).Prepares listed := by
  intro c hc
  rcases h c hc with rfl | rfl
  · refine ⟨maybeKind, by simp [looseActs_kinds], rfl, ?_⟩
    rw [looseActs_session]
    cbv
  · exact ⟨crossKind, by simp [looseActs_kinds], rfl, rfl⟩

theorem looseActs_answers {k : Kind} (hk : k = maybeKind ∨ k = crossKind) (src : Source) :
    k.Answers src := by
  have hlisted : (Log.performAll {} looseActs).Prepares [.kind maybeKind, .kind crossKind] :=
    looseActs_prepares (by simp)
  have hmeant : k ∈ meant [.kind maybeKind, .kind crossKind] := List.mem_pair.mpr hk
  rcases hk with rfl | rfl
  · exact hlisted.answers hmeant rfl Overrides.narrows_empty src
  · exact hlisted.answers hmeant rfl Overrides.narrows_empty src

theorem scan_skip_anywhere_cross :
    (Log.performAll {} looseActs).Prepares [.kind maybeKind] ∧
    (Log.performAll {} looseActs).Prepares [.kind crossKind, .kind maybeKind, .kind crossKind] ∧
    ∃ t again t' again',
      (build (Log.performAll {} looseActs).session [.kind maybeKind]).1 = .ok (t, again) ∧
      (build (Log.performAll {} (looseActs ++ [.use [0]])).session
        [.kind crossKind, .kind maybeKind, .kind crossKind]).1 = .ok (t', again') ∧
      ∀ src, t.scan (some crossKind) src = t'.scan (some crossKind) src := by
  have hfirst : (Log.performAll {} looseActs).Prepares [.kind maybeKind] :=
    looseActs_prepares (by simp)
  have hsecond : (Log.performAll {} looseActs).Prepares
      [.kind crossKind, .kind maybeKind, .kind crossKind] := looseActs_prepares (by simp)
  exact ⟨hfirst, hsecond, scan_skip_anywhere looseActs [.use [0]] crossKind _ _ hfirst hsecond rfl⟩

/-- Listing more kinds behind the others does not change a scan that succeeds. Where a scan without
them reports unexpected input, the scan with them has come to the same place with the same tokens;
it goes on from there, and if all the kinds give answers, it leaves the source, or reports that
place or a later one. -/
theorem scan_more_kinds [Pattern.CharacterNames] (acts later : List Act) (skip : Option Kind)
    (listed more : List Candidate) (h : (Log.performAll {} acts).Prepares (listed ++ more)) :
    ∃ t again t' again',
      (build (Log.performAll {} acts).session listed).1 = .ok (t, again) ∧
      (build (Log.performAll {} (acts ++ later)).session (listed ++ more)).1 = .ok (t', again') ∧
      ∀ src,
        (∀ tokens, t.scan skip src = .ok tokens → t'.scan skip src = .ok tokens) ∧
        ∀ place expected, t.scan skip src = .error (.unexpected place expected) →
          ∃ pieces, Trail t skip src 0 pieces place ∧ Trail t' skip src 0 pieces place ∧
            ((∀ k, k ∈ meant (listed ++ more) ∨ k ∈ skip → k.Answers src) →
              (∃ rest stop, Trail t' skip src place rest stop ∧ src.size ≤ stop ∧
                t'.scan skip src =
                  .ok (keptTokens pieces ++ keptTokens rest ++ [⟨.eof, .empty stop⟩])) ∨
              ∃ rest place', Trail t' skip src place rest place' ∧ place ≤ place' ∧
                t'.scan skip src = .error (.unexpected place' (t'.wanted skip))) := by
  have hlisted : (Log.performAll {} acts).Prepares listed :=
    fun c hc ↦ h c (List.mem_append_left more hc)
  obtain ⟨t, again, ht, hkinds⟩ := hlisted.build
  obtain ⟨t', again', ht', hkinds'⟩ := (h.later later).build
  have hprefix : t.kinds <+: t'.kinds := by
    rw [hkinds, hkinds', meant_append]
    exact eraseDups_isPrefix _ _
  refine ⟨t, again, t', again', ht, ht', fun src ↦ ⟨?_, ?_⟩⟩
  · intro tokens hscan
    obtain ⟨pieces, stop, htrail, hsize, rfl⟩ := scanFrom_eq_ok_iff.mp hscan
    exact scanFrom_eq_ok_iff.mpr ⟨pieces, stop, htrail.of_isPrefix hprefix, hsize, rfl⟩
  · intro place expected hscan
    obtain ⟨pieces, stop, htrail, -, hstep⟩ := exists_trail_of_error hscan
    obtain ⟨rfl, -⟩ := step_unexpected hstep
    have htrail' := htrail.of_isPrefix hprefix
    refine ⟨pieces, htrail, htrail', fun hanswers ↦ ?_⟩
    refine htrail'.scan_cases (fun k hk ↦ ?_) (fun k hk ↦ hanswers k (.inr hk))
    rw [hkinds'] at hk
    exact hanswers k (.inl ((eraseDups_sublist _).subset hk))

def crossTable : Table := ⟨[crossKind], by decide⟩

theorem scan_more_kinds_cross :
    (Log.performAll {} looseActs).Prepares [.kind crossKind, .kind maybeKind, .kind crossKind] ∧
    (∀ k ∈ [crossKind, maybeKind, crossKind], k.Answers #['x', 'm']) ∧
    crossTable.scan none #['x', 'm'] = .error (.unexpected 1 [crossKind]) ∧
    ∃ t' again' pieces rest stop, Trail crossTable none #['x', 'm'] 0 pieces 1 ∧
      (build (Log.performAll {} (looseActs ++ [.use [0]])).session
        [.kind crossKind, .kind maybeKind, .kind crossKind]).1 = .ok (t', again') ∧
      Trail t' none #['x', 'm'] 0 pieces 1 ∧
      t'.scan none #['x', 'm'] =
        .ok (keptTokens pieces ++ keptTokens rest ++ [⟨.eof, .empty stop⟩]) := by
  have hlisted : (Log.performAll {} looseActs).Prepares
      ([.kind crossKind] ++ [.kind maybeKind, .kind crossKind]) := looseActs_prepares (by simp)
  have hanswers : ∀ k ∈ [crossKind, maybeKind, crossKind], k.Answers #['x', 'm'] := by
    intro k hk
    rw [List.mem_cons, List.mem_pair] at hk
    exact looseActs_answers (by tauto) _
  have hscan : crossTable.scan none #['x', 'm'] = .error (.unexpected 1 [crossKind]) := by cbv
  have hbuild : (build (Log.performAll {} looseActs).session [.kind crossKind]).1 =
      .ok (crossTable, []) := by
    rfl
  obtain ⟨t, again, t', again', ht, ht', hscans⟩ :=
    scan_more_kinds looseActs [.use [0]] none _ _ hlisted
  cases hbuild.symm.trans ht
  obtain ⟨pieces, htrail, htrail', hcases⟩ := (hscans _).2 1 _ hscan
  rcases hcases (fun k hk ↦ hanswers k (by simpa [meant, Candidate.kind?] using hk)) with
    ⟨rest, stop, -, -, hok⟩ | ⟨_, _, -, -, herror⟩
  · exact ⟨hlisted, hanswers, hscan, t', again', pieces, rest, stop, htrail, ht', htrail', hok⟩
  · have hbuild' : (build (Log.performAll {} (looseActs ++ [.use [0]])).session
        [.kind crossKind, .kind maybeKind, .kind crossKind]).1 =
        .ok (⟨[crossKind, maybeKind], by decide⟩, [crossKind]) := by
      cbv
    cases ht'.symm.trans hbuild'
    have hscan' : scan ⟨[crossKind, maybeKind], by decide⟩ none #['x', 'm'] =
        .ok [⟨crossKind, ⟨0, 1, by decide⟩⟩, ⟨maybeKind, ⟨1, 2, by decide⟩⟩, ⟨.eof, .empty 2⟩] := by
      cbv
    cases herror.symm.trans hscan'

end Table

end Tokenry
