import Mathlib.Algebra.Group.Nat.Defs
import Mathlib.Data.List.Basic
import Tokenry.Text.Hex

namespace Tokenry.Text

namespace Hex

def take? (width : Nat) (text : List Char) : Option (Nat × List Char) :=
  if width ≤ text.length ∧ (text.take width).all isDigit then
    some (number (text.take width), text.drop width)
  else none

variable {width n : Nat} {c : Char} {text rest : List Char}

theorem value?_digit : ∀ n < 16, value? (digit n) = some n := by
  decide

theorem length_fixed (width n : Nat) : (fixed width n).length = width := by
  induction width generalizing n with
  | zero => rfl
  | succ width ih => simp [fixed, ih]

theorem exists_digit_of_mem_fixed (h : c ∈ fixed width n) : ∃ d < 16, c = digit d := by
  induction width generalizing n with
  | zero => simp [fixed] at h
  | succ width ih =>
    rcases List.mem_append.mp h with h | h
    · exact ih h
    · exact ⟨n % 16, Nat.mod_lt _ (by decide), List.mem_singleton.mp h⟩

theorem number_concat (digits : List Char) (c : Char) :
    number (digits ++ [c]) = number digits * 16 + (value? c).getD 0 := by
  simp [number]

theorem number_fixed (h : n < 16 ^ width) : number (fixed width n) = n := by
  induction width generalizing n with
  | zero =>
    rw [Nat.pow_zero, Nat.lt_one_iff] at h
    rw [h]
    rfl
  | succ width ih =>
    have hhigh : n / 16 < 16 ^ width := by
      rw [Nat.pow_succ] at h
      exact Nat.div_lt_of_lt_mul (by omega)
    rw [fixed, number_concat, ih hhigh, value?_digit _ (Nat.mod_lt _ (by decide))]
    exact Nat.div_add_mod' n 16

theorem take?_fixed (h : n < 16 ^ width) (rest : List Char) :
    take? width (fixed width n ++ rest) = some (n, rest) := by
  have htake : (fixed width n ++ rest).take width = fixed width n :=
    List.take_left' (length_fixed width n)
  have hdrop : (fixed width n ++ rest).drop width = rest := List.drop_left' (length_fixed width n)
  have hdigits : (fixed width n).all isDigit := by
    rw [List.all_eq_true]
    intro c hc
    obtain ⟨d, hd, rfl⟩ := exists_digit_of_mem_fixed hc
    rw [isDigit, value?_digit d hd]
    rfl
  have hlength : width ≤ (fixed width n ++ rest).length := by
    rw [List.length_append, length_fixed]
    omega
  rw [take?, htake, hdrop, if_pos ⟨hlength, hdigits⟩, number_fixed h]

theorem length_of_take? (h : take? width text = some (n, rest)) : rest.length ≤ text.length := by
  unfold take? at h
  split at h
  · cases h
    rw [List.length_drop]
    omega
  · cases h

end Hex

/-- How one character is read, plain or as an escape. Reading always moves forward. -/
structure Escaping where
  read? : List Char → Option (Char × List Char)
  forward : ∀ {text c rest}, read? text = some (c, rest) → rest.length < text.length

namespace Escaping

variable {e : Escaping} {quote : Char} {escape : Char → List Char}
  {text chars rest : List Char}

/-- Reads up to the closing quote, and tells what stands behind it. -/
def readTo (e : Escaping) (quote : Char) : List Char → Option (List Char × List Char)
  | [] => none
  | c :: rest =>
    if c = quote then some ([], rest)
    else
      match _hread : e.read? (c :: rest) with
      | none => none
      | some (first, later) => (e.readTo quote later).map fun read ↦ (first :: read.1, read.2)
  termination_by text => text.length
  decreasing_by exact e.forward ‹_›

def decode? (e : Escaping) (quotes : List Char) : List Char → Option (List Char)
  | [] => none
  | quote :: rest =>
    if quote ∈ quotes then
      match e.readTo quote rest with
      | some (chars, []) => some chars
      | _ => none
    else none

/-- Every character is read back from its escape, and no escape is taken for the closing quote. -/
def Undoes (e : Escaping) (quote : Char) (escape : Char → List Char) : Prop :=
  ∀ c rest, e.read? (escape c ++ rest) = some (c, rest) ∧ (escape c).head? ≠ some quote

theorem readTo_of_read? {c : Char} {later : List Char} (hquote : text.head? ≠ some quote)
    (hread : e.read? text = some (c, later)) :
    e.readTo quote text = (e.readTo quote later).map fun read ↦ (c :: read.1, read.2) := by
  cases text with
  | nil => exact absurd (e.forward hread) (Nat.not_lt_zero _)
  | cons d text =>
    rw [readTo, if_neg (by simpa using hquote)]
    split
    · next hnone =>
      rw [hread] at hnone
      cases hnone
    · next hsome =>
      rw [hread] at hsome
      cases hsome
      rfl

theorem length_of_readTo (h : e.readTo quote text = some (chars, rest)) :
    rest.length < text.length := by
  fun_induction e.readTo quote text generalizing chars with
  | case1 => cases h
  | case2 =>
    cases h
    exact Nat.lt_succ_self _
  | case3 => cases h
  | case4 c text _ first later hread ih =>
    obtain ⟨read, hlater, hread'⟩ := Option.map_eq_some_iff.mp h
    cases hread'
    exact Nat.lt_trans (ih hlater) (e.forward hread)

theorem Undoes.readTo_flatMap (h : e.Undoes quote escape) (text rest : List Char) :
    e.readTo quote (text.flatMap escape ++ quote :: rest) = some (text, rest) := by
  induction text with
  | nil => simp [readTo]
  | cons c text ih =>
    obtain ⟨hread, hquote⟩ := h c (text.flatMap escape ++ quote :: rest)
    have hne : escape c ≠ [] := by
      intro hnil
      rw [hnil] at hread
      exact absurd (e.forward hread) (Nat.lt_irrefl _)
    have hhead : (escape c ++ (text.flatMap escape ++ quote :: rest)).head? ≠ some quote := by
      rwa [List.head?_append_of_ne_nil _ hne]
    rw [List.flatMap_cons, List.append_assoc, readTo_of_read? hhead hread, ih]
    rfl

theorem Undoes.decode?_eq {quotes : List Char} (h : e.Undoes quote escape) (hquote : quote ∈ quotes)
    (text : List Char) :
    e.decode? quotes (quote :: (text.flatMap escape ++ [quote])) = some text := by
  rw [decode?, if_pos hquote, h.readTo_flatMap]

end Escaping

end Tokenry.Text
