import Tokenry.Proofs.Scan.Steps

namespace Tokenry.Table

variable {t : Table} {skip : Option Kind} {src : Source} {at_ : Location}

theorem mem_wanted {k : Kind} :
    k ∈ t.wanted skip ↔ k ∈ t.kinds ∧ ∀ s ∈ skip, s.id ≠ k.id := by
  rw [wanted, List.mem_filter, Bool.not_eq_true', isSkip_eq_false_iff]

/-- The first match that is found decides: a kind that would lead forward has not been tried,
because one in front of it matches and does not. -/
theorem Blocked.exists_before (h : Blocked t skip src at_) {before after : List Kind} {k : Kind}
    {r : Range} (hkinds : t.kinds = before ++ k :: after) (hk : ∀ s ∈ skip, s.id ≠ k.id)
    (hr : k.tryMatch src at_ = .ok (some r)) (hadv : at_ < r.stop) :
    ∃ l ∈ before, (∀ s ∈ skip, s.id ≠ l.id) ∧
      ∃ r', l.tryMatch src at_ = .ok (some r') ∧ r'.stop ≤ at_ := by
  obtain ⟨-, hnone | ⟨token, ⟨front, back, hfront, hmiss, hskip, hmatch⟩, hstays⟩⟩ := h
  · have hk' := hnone k (by simp [hkinds]) hk
    cases hr.symm.trans hk'
  · have hne : k ≠ token.kind := by
      rintro rfl
      cases hr.symm.trans hmatch
      exact absurd hadv (Nat.not_lt.mpr hstays)
    rw [hkinds] at hfront
    rcases List.append_eq_append_iff.mp hfront with ⟨between, hbetween, hrest⟩ |
      ⟨between, hbetween, hrest⟩
    · cases between with
      | nil => exact absurd (List.cons.inj hrest).1 hne
      | cons l between =>
        -- `k` has been tried without a match
        obtain ⟨rfl, -⟩ := List.cons.inj hrest
        cases hr.symm.trans (hmiss k (by simp [hbetween]) hk)
    · cases between with
      | nil => exact absurd (List.cons.inj hrest).1.symm hne
      | cons l between =>
        obtain ⟨rfl, -⟩ := List.cons.inj hrest
        exact ⟨token.kind, by simp [hbetween], hskip, token.range, hmatch, hstays⟩

/-- Unexpected input is reported where the skip kind does not lead forward, and where either no
other kind matches or the first one that does stays where it is. A kind that would lead forward from
there stands behind a kind whose match does not; so if all matches of the expected kinds lead
forward, none of these kinds matches. -/
theorem scan_unexpected (t : Table) (skip : Option Kind) (src : Source) (place : Location)
    (expected : List Kind) (h : t.scan skip src = .error (.unexpected place expected)) :
    place < src.size ∧ expected = t.kinds.filter (fun k ↦ skip.all (·.id != k.id)) ∧
    (∀ s ∈ skip, ∃ found, s.tryMatch src place = .ok found ∧ ∀ r ∈ found, r.stop ≤ place) ∧
    ((∀ k ∈ expected, k.tryMatch src place = .ok none) ∨
      ∃ token, IsFirst skip src place t.kinds token ∧ token.range.stop ≤ place) ∧
    (∀ before k after, t.kinds = before ++ k :: after → (∀ s ∈ skip, s.id ≠ k.id) →
      ∀ r, k.tryMatch src place = .ok (some r) → place < r.stop →
        ∃ l ∈ before, (∀ s ∈ skip, s.id ≠ l.id) ∧
          ∃ r', l.tryMatch src place = .ok (some r') ∧ r'.stop ≤ place) ∧
    ((∀ k ∈ expected, ∀ r, k.tryMatch src place = .ok (some r) → place < r.stop) →
      ∀ k ∈ expected, k.tryMatch src place = .ok none) := by
  obtain ⟨pieces, stop, -, hlt, hstep⟩ := exists_trail_of_error h
  obtain ⟨rfl, rfl, hblocked⟩ := step_unexpected hstep
  obtain ⟨hrests, hfirst⟩ := hblocked
  have hexpected : (∀ k ∈ t.wanted skip, k.tryMatch src place = .ok none) ∨
      ∃ token, IsFirst skip src place t.kinds token ∧ token.range.stop ≤ place := by
    refine hfirst.imp_left fun hnone k hk ↦ ?_
    obtain ⟨hmem, hskip⟩ := mem_wanted.mp hk
    exact hnone k hmem hskip
  refine ⟨hlt, wanted_eq t skip, hrests, hexpected, ?_, ?_⟩
  · intro before k after hkinds hk r hr hadv
    exact Blocked.exists_before ⟨hrests, hfirst⟩ hkinds hk hr hadv
  · intro hforward
    rcases hexpected with hnone | ⟨token, htoken, hstays⟩
    · exact hnone
    · have hmem := mem_wanted.mpr ⟨htoken.mem, htoken.not_skip⟩
      obtain ⟨_, _, _, _, _, hmatch⟩ := htoken
      have hadv := hforward token.kind hmem token.range hmatch
      exact absurd hadv (Nat.not_lt.mpr hstays)

def maybeKind : Kind :=
  (Session.declare {} { name := "Maybe", strategy := .regex, pattern := "m*" } {}).1

def crossKind : Kind :=
  (Session.declare { nextKind := 2 } { name := "Cross", strategy := .exact, pattern := "x" } {}).1

def looseTable : Table := ⟨[maybeKind, crossKind], by decide⟩

theorem scan_unexpected_loose :
    looseTable.scan none #['m', 'm', 'x'] = .error (.unexpected 2 [maybeKind, crossKind]) ∧
    ∃ l ∈ [maybeKind], ∃ r, l.tryMatch #['m', 'm', 'x'] 2 = .ok (some r) ∧ r.stop ≤ 2 := by
  have hscan : looseTable.scan none #['m', 'm', 'x'] =
      .error (.unexpected 2 [maybeKind, crossKind]) := by cbv
  obtain ⟨-, -, -, -, hbefore, -⟩ := scan_unexpected looseTable none _ 2 _ hscan
  obtain ⟨l, hl, -, hstays⟩ := hbefore [maybeKind] crossKind [] rfl (by simp) ⟨2, 3, by decide⟩
    (by cbv) (by decide)
  exact ⟨hscan, l, hl, hstays⟩

/-- A kind that is named as expected may well lead forward from where the scan has given up. -/
theorem scan_unexpected_cross :
    looseTable.scan none #['x'] = .error (.unexpected 0 [maybeKind, crossKind]) ∧
    crossKind.tryMatch #['x'] 0 = .ok (some ⟨0, 1, by decide⟩) :=
  ⟨by cbv, by cbv⟩

end Tokenry.Table
