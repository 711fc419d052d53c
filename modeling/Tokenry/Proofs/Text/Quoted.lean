import Mathlib.Tactic.SplitIfs
import Tokenry.Proofs.Text.Escaping
import Tokenry.Text.Quoted

namespace Tokenry.Text.Quoted

def ofLetter? : Char → Option Char
  | '"' => some '"'
  | '\\' => some '\\'
  | '/' => some '/'
  | 'b' => some '\x08'
  | 'f' => some '\x0c'
  | 'n' => some '\n'
  | 'r' => some '\r'
  | 't' => some '\t'
  | _ => none

def readHalf? (high : Nat) : List Char → Option (Char × List Char)
  | '\\' :: 'u' :: text =>
    match Hex.take? 4 text with
    | none => none
    | some (low, rest) =>
      if 0xdc00 ≤ low ∧ low < 0xe000 then
        some (Char.ofNat (0x10000 + (high - 0xd800) * 0x400 + (low - 0xdc00)), rest)
      else none
  | _ => none

/-- Takes the code of a character off the front, with a second one if the first is only half of a
character. -/
def readCode? (text : List Char) : Option (Char × List Char) :=
  match Hex.take? 4 text with
  | none => none
  | some (code, rest) =>
    if 0xd800 ≤ code ∧ code < 0xdc00 then readHalf? code rest
    else if 0xdc00 ≤ code ∧ code < 0xe000 then none
    else some (Char.ofNat code, rest)

def read? : List Char → Option (Char × List Char)
  | '\\' :: 'u' :: rest => readCode? rest
  | '\\' :: c :: rest => (ofLetter? c).map (·, rest)
  | c :: rest => if c = '\\' ∨ c.toNat < 0x20 then none else some (c, rest)
  | [] => none

variable {c : Char} {text rest : List Char}

theorem length_of_readHalf? {high : Nat} (h : readHalf? high text = some (c, rest)) :
    rest.length ≤ text.length := by
  unfold readHalf? at h
  split at h
  · split at h
    · cases h
    · next htake =>
      have hlater := Hex.length_of_take? htake
      split at h
      · obtain ⟨-, rfl⟩ := Prod.mk.inj (Option.some.inj h)
        simp only [List.length_cons]
        omega
      · cases h
  · cases h

theorem length_of_readCode? (h : readCode? text = some (c, rest)) : rest.length ≤ text.length := by
  unfold readCode? at h
  split at h
  · cases h
  · next htake =>
    have hlater := Hex.length_of_take? htake
    split at h
    · exact Nat.le_trans (length_of_readHalf? h) hlater
    · split at h
      · cases h
      · cases h
        exact hlater

theorem length_of_read? (h : read? text = some (c, rest)) : rest.length < text.length := by
  unfold read? at h
  split at h
  · have hlater := length_of_readCode? h
    simp only [List.length_cons]
    omega
  · obtain ⟨_, -, h⟩ := Option.map_eq_some_iff.mp h
    cases h
    simp only [List.length_cons]
    omega
  · split at h
    · cases h
    · cases h
      exact Nat.lt_succ_self _
  · cases h

def escaping : Escaping := ⟨read?, length_of_read?⟩

def decode? (text : String) : Option String :=
  (escaping.decode? ['"'] text.toList).map String.ofList

theorem escape_cases (c : Char) :
    (∃ letter, escape c = ['\\', letter] ∧ ofLetter? letter = some c ∧ 0x20 ≤ letter.toNat) ∨
    (escape c = '\\' :: 'u' :: Hex.fixed 4 c.toNat ∧ c.toNat < 0x20) ∨
    (escape c = [c] ∧ c ≠ '"' ∧ c ≠ '\\' ∧ 0x20 ≤ c.toNat) := by
  unfold escape
  split_ifs with hquote hslash hline hreturn htab hback hfeed hcontrol
  · exact .inl ⟨'"', rfl, by rw [hquote]; rfl, by decide⟩
  · exact .inl ⟨'\\', rfl, by rw [hslash]; rfl, by decide⟩
  · exact .inl ⟨'n', rfl, by rw [hline]; rfl, by decide⟩
  · exact .inl ⟨'r', rfl, by rw [hreturn]; rfl, by decide⟩
  · exact .inl ⟨'t', rfl, by rw [htab]; rfl, by decide⟩
  · exact .inl ⟨'b', rfl, by rw [hback]; rfl, by decide⟩
  · exact .inl ⟨'f', rfl, by rw [hfeed]; rfl, by decide⟩
  · exact .inr (.inl ⟨rfl, hcontrol⟩)
  · exact .inr (.inr ⟨rfl, hquote, hslash, Nat.le_of_not_lt hcontrol⟩)

theorem read?_letter {letter : Char} (h : ofLetter? letter = some c) (rest : List Char) :
    read? ('\\' :: letter :: rest) = some (c, rest) := by
  have hcode : letter ≠ 'u' := by
    intro hcode
    rw [hcode] at h
    cases h
  simp [read?, h]

theorem read?_code (h : c.toNat < 0x20) (rest : List Char) :
    read? ('\\' :: 'u' :: (Hex.fixed 4 c.toNat ++ rest)) = some (c, rest) := by
  rw [read?, readCode?, Hex.take?_fixed (by omega)]
  dsimp only
  rw [if_neg (by omega), if_neg (by omega), Char.ofNat_toNat]

theorem read?_plain (hslash : c ≠ '\\') (hcontrol : 0x20 ≤ c.toNat) (rest : List Char) :
    read? (c :: rest) = some (c, rest) := by
  simp [read?, hslash, hcontrol]

theorem undoes_escape : escaping.Undoes '"' escape := by
  intro c rest
  rcases escape_cases c with ⟨letter, hescape, hletter, -⟩ | ⟨hescape, hcontrol⟩ |
    ⟨hescape, hquote, hslash, hcontrol⟩
  · rw [hescape]
    exact ⟨read?_letter hletter rest, by simp⟩
  · rw [hescape]
    exact ⟨read?_code hcontrol rest, by simp⟩
  · rw [hescape]
    exact ⟨read?_plain hslash hcontrol rest, by simpa using hquote⟩

theorem decode?_encode (text : String) : decode? (encode text) = some text := by
  rw [decode?, encode, String.toList_ofList, encodeChars,
    undoes_escape.decode?_eq (List.mem_singleton.mpr rfl), Option.map_some, String.ofList_toList]

theorem encode_injective : Function.Injective encode := by
  intro text text' h
  have hdecode := congrArg decode? h
  rwa [decode?_encode, decode?_encode, Option.some.injEq] at hdecode

theorem plain_digit : ∀ n < 16,
    0x20 ≤ (Hex.digit n).toNat ∧ Hex.digit n ≠ '"' ∧ Hex.digit n ≠ '\\' := by
  decide

theorem plain_of_mem_fixed {width n : Nat} (h : c ∈ Hex.fixed width n) :
    0x20 ≤ c.toNat ∧ c ≠ '"' ∧ c ≠ '\\' := by
  obtain ⟨d, hd, rfl⟩ := Hex.exists_digit_of_mem_fixed h
  exact plain_digit d hd

theorem le_of_mem_escape {d : Char} (h : d ∈ escape c) : 0x20 ≤ d.toNat := by
  rcases escape_cases c with ⟨letter, hescape, -, hletter⟩ | ⟨hescape, -⟩ | ⟨hescape, -, -, hc⟩
  · rw [hescape] at h
    simp only [List.mem_cons, List.not_mem_nil, or_false] at h
    rcases h with rfl | rfl
    · decide
    · exact hletter
  · rw [hescape] at h
    simp only [List.mem_cons] at h
    rcases h with rfl | rfl | h
    · decide
    · decide
    · exact (plain_of_mem_fixed h).1
  · rw [hescape, List.mem_singleton] at h
    rwa [h]

theorem le_of_mem_encodeChars (h : c ∈ encodeChars text) : 0x20 ≤ c.toNat := by
  simp only [encodeChars, List.mem_cons, List.mem_append, List.mem_flatMap, List.not_mem_nil,
    or_false] at h
  rcases h with rfl | ⟨d, -, hd⟩ | rfl
  · decide
  · exact le_of_mem_escape hd
  · decide

/-- The positions of the double quotes that no backslash escapes. -/
def bareQuotes : List Char → List Nat
  | [] => []
  | '\\' :: _ :: rest => (bareQuotes rest).map (· + 2)
  | c :: rest =>
    if c = '"' then 0 :: (bareQuotes rest).map (· + 1) else (bareQuotes rest).map (· + 1)

theorem bareQuotes_plain {chars : List Char} (h : ∀ c ∈ chars, c ≠ '"' ∧ c ≠ '\\')
    (rest : List Char) :
    bareQuotes (chars ++ rest) = (bareQuotes rest).map (· + chars.length) := by
  induction chars with
  | nil => simp
  | cons c chars ih =>
    obtain ⟨hquote, hslash⟩ := h c List.mem_cons_self
    have hlater := ih fun d hd ↦ h d (List.mem_cons_of_mem c hd)
    rw [List.cons_append, bareQuotes, if_neg hquote, hlater, List.map_map]
    · rfl
    · intro d later hcons
      exact absurd hcons hslash

theorem bareQuotes_escape (c : Char) (rest : List Char) :
    bareQuotes (escape c ++ rest) = (bareQuotes rest).map (· + (escape c).length) := by
  rcases escape_cases c with ⟨letter, hescape, -⟩ | ⟨hescape, -⟩ | ⟨hescape, hquote, hslash, -⟩
  · rw [hescape]
    rfl
  · have hdigits : ∀ d ∈ Hex.fixed 4 c.toNat, d ≠ '"' ∧ d ≠ '\\' :=
      fun d hd ↦ (plain_of_mem_fixed hd).2
    rw [hescape, List.cons_append, List.cons_append, bareQuotes, bareQuotes_plain hdigits,
      List.map_map]
    rfl
  · rw [hescape]
    exact bareQuotes_plain (by simpa using ⟨hquote, hslash⟩) rest

theorem bareQuotes_flatMap (text rest : List Char) :
    bareQuotes (text.flatMap escape ++ rest) =
      (bareQuotes rest).map (· + (text.flatMap escape).length) := by
  induction text with
  | nil => simp
  | cons c text ih =>
    rw [List.flatMap_cons, List.append_assoc, bareQuotes_escape, ih, List.map_map,
      List.length_append]
    congr 1
    funext n
    simp only [Function.comp_apply]
    omega

theorem bareQuotes_encodeChars (text : List Char) :
    bareQuotes (encodeChars text) = [0, (encodeChars text).length - 1] := by
  have hlast : bareQuotes ['"'] = [0] := rfl
  simp [encodeChars, bareQuotes, bareQuotes_flatMap, hlast]

end Tokenry.Text.Quoted
