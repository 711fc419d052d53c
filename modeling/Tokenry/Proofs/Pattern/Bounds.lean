import Mathlib.Data.List.Basic
import Tokenry.Pattern.Matcher

namespace Tokenry.Pattern

structure Cursor.Inside (src : Source) (c : Cursor) : Prop where
  place_le : c.place ≤ src.size
  stop_le : ∀ (index : Nat) (stop : Location), (c.stops[index]?).join = some stop → stop ≤ src.size

/-- From a cursor inside the source a result is reached only by handing on such a cursor. -/
def StaysInside (src : Source) (run : Cursor → Continuation → Option Cursor) : Prop :=
  ∀ c k result, c.Inside src → run c k = some result → ∃ c', c'.Inside src ∧ k c' = some result

variable {src : Source}

namespace Cursor.Inside

variable {c : Cursor}

theorem begin (groups : Nat) {at_ : Location} (h : at_ ≤ src.size) :
    (Cursor.begin groups at_).Inside src := by
  refine ⟨h, fun index stop hstop ↦ ?_⟩
  simp only [Cursor.begin, Array.getElem?_replicate] at hstop
  split at hstop <;> cases hstop

theorem moveTo (h : c.Inside src) {place : Location} (hplace : place ≤ src.size) :
    Cursor.Inside src { c with place } := ⟨hplace, h.stop_le⟩

theorem openGroup (h : c.Inside src) (index : Nat) : (c.openGroup index).Inside src :=
  ⟨h.place_le, h.stop_le⟩

theorem closeGroup (h : c.Inside src) (index : Nat) : (c.closeGroup index).Inside src := by
  refine ⟨h.place_le, fun other stop hstop ↦ ?_⟩
  simp only [Cursor.closeGroup, Array.getElem?_setIfInBounds] at hstop
  split at hstop
  · split at hstop
    · cases hstop
      exact h.place_le
    · cases hstop
  · exact h.stop_le other stop hstop

end Cursor.Inside

theorem repeats_le {fold : Fold} {r : Range} {at_ : Location} (h : repeats src fold r at_ = true)
    (hat : at_ ≤ src.size) : at_ + r.length ≤ src.size := by
  by_contra hlt
  have hmem : src.size - at_ ∈ List.range r.length := List.mem_range.mpr (by lia)
  have hlast := List.all_eq_true.mp h _ hmem
  have hnone : src[at_ + (src.size - at_)]? = none := Array.getElem?_eq_none (by lia)
  rw [hnone] at hlast
  simp at hlast

section Repetition

variable {body : Cursor → Continuation → Option Cursor} {low : Nat} {high : Option Nat}
  {k : Continuation} {c result : Cursor}

theorem StaysInside.greedy (hbody : StaysInside src body) {fuel count : Nat}
    {last : Option Location}
    (hc : c.Inside src) (h : runGreedy body low high k fuel count last c = some result) :
    ∃ c', c'.Inside src ∧ k c' = some result := by
  induction fuel generalizing count last c with
  | zero => cases h
  | succ fuel ih =>
    rw [runGreedy] at h
    split at h
    · obtain ⟨c', hc', h⟩ := hbody _ _ _ hc h
      exact ih hc' h
    · split at h
      · split at h
        · next result' hround =>
          cases h
          obtain ⟨c', hc', h⟩ := hbody _ _ _ hc hround
          exact ih hc' h
        · exact ⟨c, hc, h⟩
      · exact ⟨c, hc, h⟩

theorem StaysInside.reluctant (hbody : StaysInside src body) {fuel count : Nat}
    {last : Option Location} (hc : c.Inside src)
    (h : runReluctant body low high k fuel count last c = some result) :
    ∃ c', c'.Inside src ∧ k c' = some result := by
  induction fuel generalizing count last c with
  | zero => cases h
  | succ fuel ih =>
    rw [runReluctant] at h
    split at h
    · obtain ⟨c', hc', h⟩ := hbody _ _ _ hc h
      exact ih hc' h
    · split at h
      · next result' hrest =>
        cases h
        exact ⟨c, hc, hrest⟩
      · split at h
        · obtain ⟨c', hc', h⟩ := hbody _ _ _ hc h
          exact ih hc' h
        · cases h

/-- A part of a match that is run on its own ends inside the source. -/
theorem StaysInside.alone {run : Cursor → Continuation → Option Cursor} (h : StaysInside src run)
    (hc : c.Inside src) (hrun : run c some = some result) : result.Inside src := by
  obtain ⟨c', hc', hsome⟩ := h _ _ _ hc hrun
  cases hsome
  exact hc'

theorem StaysInside.possessive (hbody : StaysInside src body) {fuel count : Nat}
    {last : Option Location} (hc : c.Inside src)
    (h : runPossessive body low high k fuel count last c = some result) :
    ∃ c', c'.Inside src ∧ k c' = some result := by
  induction fuel generalizing count last c with
  | zero => cases h
  | succ fuel ih =>
    rw [runPossessive] at h
    split at h
    · split at h
      · next after hround => exact ih (hbody.alone hc hround) h
      · cases h
    · split at h
      · split at h
        · next after hround => exact ih (hbody.alone hc hround) h
        · exact ⟨c, hc, h⟩
      · exact ⟨c, hc, h⟩

end Repetition

theorem Node.staysInside (src : Source) (node : Node) : StaysInside src (node.run src) := by
  induction node with
  | empty => exact fun c k result hc h ↦ ⟨c, hc, h⟩
  | test t =>
    intro c k result hc h
    rw [Node.run] at h
    split at h
    · next char hchar =>
      split at h
      · have hlt : c.place < src.size := (Array.getElem?_eq_some_iff.mp hchar).1
        exact ⟨_, hc.moveTo hlt, h⟩
      · cases h
    · cases h
  | anchor a =>
    intro c k result hc h
    rw [Node.run] at h
    split at h
    · exact ⟨c, hc, h⟩
    · cases h
  | cat first second ihfirst ihsecond =>
    intro c k result hc h
    obtain ⟨c', hc', h⟩ := ihfirst _ _ _ hc h
    exact ihsecond _ _ _ hc' h
  | alt first second ihfirst ihsecond =>
    intro c k result hc h
    rw [Node.run] at h
    split at h
    · next result' hfirst =>
      cases h
      exact ihfirst _ _ _ hc hfirst
    · exact ihsecond _ _ _ hc h
  | group index body ih =>
    intro c k result hc h
    obtain ⟨c', hc', h⟩ := ih _ _ _ (hc.openGroup index) h
    exact ⟨_, hc'.closeGroup index, h⟩
  | again index fold width =>
    intro c k result hc h
    rw [Node.run] at h
    split at h
    · next r hr =>
      split at h
      · next hrepeats => exact ⟨_, hc.moveTo (repeats_le hrepeats hc.place_le), h⟩
      · cases h
    · cases h
  | ahead positive body ih =>
    intro c k result hc h
    rw [Node.run] at h
    split at h
    · next after hbody =>
      split at h
      · exact ⟨_, (ih.alone hc hbody).moveTo hc.place_le, h⟩
      · cases h
    · split at h
      · cases h
      · exact ⟨c, hc, h⟩
  | behind positive w body ih =>
    intro c k result hc h
    rw [Node.run] at h
    split at h
    · split at h
      · cases h
      · exact ⟨c, hc, h⟩
    · have hback : c.place - w.least ≤ src.size := Nat.le_trans (Nat.sub_le _ _) hc.place_le
      split at h
      · next after hbody =>
        split at h
        · exact ⟨_, (ih.alone (hc.moveTo hback) hbody).moveTo hc.place_le, h⟩
        · cases h
      · split at h
        · cases h
        · exact ⟨c, hc, h⟩
  | repetition preference low high body ih =>
    intro c k result hc h
    cases preference with
    | greedy => exact ih.greedy hc h
    | reluctant => exact ih.reluctant hc h
    | possessive => exact ih.possessive hc h
  | atomic body ih =>
    intro c k result hc h
    rw [Node.run] at h
    split at h
    · next after hbody => exact ⟨after, ih.alone hc hbody, h⟩
    · cases h
  | ifGroup index yes no ihyes ihno =>
    intro c k result hc h
    rw [Node.run] at h
    split at h
    · exact ihyes _ _ _ hc h
    · exact ihno _ _ _ hc h

namespace Compiled

variable {p : Compiled} {group : Nat} {at_ : Location} {r : Range}

theorem find_stop_le (hat : at_ ≤ src.size) (h : p.find group src at_ = some r) :
    r.stop ≤ src.size := by
  obtain ⟨c, hmatch, hgroup⟩ := Option.bind_eq_some_iff.mp h
  have hc := (Node.staysInside src p.node).alone (.begin p.groups hat) hmatch
  unfold groupRange at hgroup
  split at hgroup
  · split at hgroup
    · cases hgroup
      exact hc.place_le
    · cases hgroup
  · unfold Cursor.span? at hgroup
    split at hgroup
    · next start stop _ hstop =>
      split at hgroup
      · cases hgroup
        exact hc.stop_le group stop hstop
      · cases hgroup
    · cases hgroup

theorem find_zero_start (h : p.find 0 src at_ = some r) : r.start = at_ := by
  obtain ⟨c, -, hgroup⟩ := Option.bind_eq_some_iff.mp h
  simp only [groupRange, if_true] at hgroup
  split at hgroup
  · cases hgroup
    rfl
  · cases hgroup

end Compiled

end Tokenry.Pattern
