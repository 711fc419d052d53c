import Mathlib.Data.List.Basic
import Mathlib.Logic.ExistsUnique
import Tokenry.Location

namespace Tokenry.Range

/-- Ranges that lead from one place to another without a gap and without an overlap. -/
def Tiles : Location → List Range → Location → Prop
  | at_, [], stop => at_ = stop
  | at_, r :: rest, stop => r.start = at_ ∧ Tiles r.stop rest stop

namespace Tiles

variable {src : Source} {at_ stop : Location} {ranges : List Range}

theorem start_le (h : Tiles at_ ranges stop) : at_ ≤ stop := by
  induction ranges generalizing at_ with
  | nil => exact Nat.le_of_eq h
  | cons r rest ih =>
    obtain ⟨rfl, h⟩ := h
    exact Nat.le_trans r.start_le_stop (ih h)

theorem append {place : Location} {more : List Range} (h : Tiles at_ ranges place)
    (h' : Tiles place more stop) : Tiles at_ (ranges ++ more) stop := by
  induction ranges generalizing at_ with
  | nil =>
    obtain rfl : at_ = place := h
    exact h'
  | cons r rest ih => exact ⟨h.1, ih h.2⟩

theorem le_start_of_mem (h : Tiles at_ ranges stop) {r : Range} (hr : r ∈ ranges) :
    at_ ≤ r.start := by
  induction ranges generalizing at_ with
  | nil => cases hr
  | cons first rest ih =>
    obtain ⟨rfl, h⟩ := h
    rcases List.mem_cons.mp hr with rfl | hr
    · exact Nat.le_refl _
    · exact Nat.le_trans first.start_le_stop (ih h hr)

theorem existsUnique_covering (h : Tiles at_ ranges stop) {place : Location} (hle : at_ ≤ place)
    (hlt : place < stop) :
    ∃! index : Nat, ∃ r : Range, ranges[index]? = some r ∧ r.start ≤ place ∧ place < r.stop := by
  induction ranges generalizing at_ with
  | nil =>
    obtain rfl : at_ = stop := h
    exact absurd hle (Nat.not_le.mpr hlt)
  | cons first rest ih =>
    obtain ⟨rfl, h⟩ := h
    by_cases hfirst : place < first.stop
    · refine ⟨0, ⟨first, rfl, hle, hfirst⟩, ?_⟩
      rintro (_ | index) ⟨r, hr, hstart, -⟩
      · rfl
      · have hbehind := h.le_start_of_mem (List.mem_of_getElem? hr)
        exact absurd (Nat.le_trans hbehind hstart) (Nat.not_le.mpr hfirst)
    · obtain ⟨index, hindex, hunique⟩ := ih h (Nat.not_lt.mp hfirst)
      refine ⟨index + 1, hindex, ?_⟩
      rintro (_ | other) ⟨r, hr, hstart, hstop⟩
      · obtain rfl := Option.some.inj hr
        exact absurd hstop hfirst
      · exact congrArg (· + 1) (hunique other ⟨r, hr, hstart, hstop⟩)

theorem flatMap_slice (h : Tiles at_ ranges stop) :
    ranges.flatMap (·.slice src) = (src.extract at_ stop).toList := by
  induction ranges generalizing at_ with
  | nil =>
    obtain rfl : at_ = stop := h
    simp
  | cons r rest ih =>
    obtain ⟨rfl, h⟩ := h
    have hsplit : src.extract r.start r.stop ++ src.extract r.stop stop =
        src.extract r.start stop := by
      rw [Array.extract_append_extract, Nat.min_eq_left r.start_le_stop,
        Nat.max_eq_right h.start_le]
    rw [List.flatMap_cons, ih h, slice, ← Array.toList_append, hsplit]

theorem join_text (h : Tiles 0 ranges src.size) :
    String.join (ranges.map (·.text src)) = String.ofList src.toList := by
  apply String.toList_inj.mp
  have hall : ranges.flatMap (·.slice src) = src.toList := by
    rw [h.flatMap_slice, Array.extract_size]
  rw [String.toList_join, List.flatMap_map, String.toList_ofList, ← hall]
  simp only [text, String.toList_ofList]

end Tiles

end Tokenry.Range
