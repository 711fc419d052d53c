import Mathlib.Tactic.SplitIfs
import Tokenry.Proofs.Text.Escaping
import Tokenry.Text.Identifier
import Tokenry.Text.Literal

namespace Tokenry.Text.Literal

def ofLetter? : Char → Option Char
  | '\'' => some '\''
  | '"' => some '"'
  | '\\' => some '\\'
  | 'n' => some '\n'
  | 'r' => some '\r'
  | 't' => some '\t'
  | _ => none

def widthOf? : Char → Option Nat
  | 'x' => some 2
  | 'u' => some 4
  | 'U' => some 8
  | _ => none

def read? : List Char → Option (Char × List Char)
  | '\\' :: letter :: rest =>
    match widthOf? letter with
    | some width => (Hex.take? width rest).map fun code ↦ (Char.ofNat code.1, code.2)
    | none => (ofLetter? letter).map (·, rest)
  | c :: rest => if c = '\\' then none else some (c, rest)
  | [] => none

variable {quote c : Char} {text rest : List Char}

theorem length_of_read? (h : read? text = some (c, rest)) : rest.length < text.length := by
  unfold read? at h
  split at h
  · split at h
    · obtain ⟨⟨code, later⟩, htake, hcode⟩ := Option.map_eq_some_iff.mp h
      cases hcode
      have hlater := Hex.length_of_take? htake
      simp only [List.length_cons]
      omega
    · obtain ⟨_, -, h⟩ := Option.map_eq_some_iff.mp h
      cases h
      simp only [List.length_cons]
      omega
  · split at h
    · cases h
    · cases h
      exact Nat.lt_succ_self _
  · cases h

def escaping : Escaping := ⟨read?, length_of_read?⟩

def quotes : List Char := ['\'', '"']

def decode? (text : String) : Option String :=
  (escaping.decode? quotes text.toList).map String.ofList

theorem quoteOf_mem (text : List Char) : quoteOf text ∈ quotes := by
  unfold quoteOf
  split <;> decide

theorem toNat_lt (c : Char) : c.toNat < 16 ^ 8 := c.val.toNat_lt

theorem escape_cases (hquote : quote ∈ quotes) (c : Char) :
    (∃ letter, escape quote c = ['\\', letter] ∧ ofLetter? letter = some c) ∨
    (∃ letter width, escape quote c = '\\' :: letter :: Hex.fixed width c.toNat ∧
      widthOf? letter = some width ∧ c.toNat < 16 ^ width) ∨
    (escape quote c = [c] ∧ c ≠ quote ∧ c ≠ '\\') := by
  unfold escape
  split_ifs with hmark hline hreturn htab hprintable htwo hfour
  · refine .inl ⟨c, rfl, ?_⟩
    simp only [Bool.or_eq_true, decide_eq_true_eq] at hmark
    rcases hmark with rfl | rfl
    · simp only [quotes, List.mem_cons, List.not_mem_nil, or_false] at hquote
      rcases hquote with rfl | rfl <;> rfl
    · rfl
  · exact .inl ⟨'n', rfl, by rw [hline]; rfl⟩
  · exact .inl ⟨'r', rfl, by rw [hreturn]; rfl⟩
  · exact .inl ⟨'t', rfl, by rw [htab]; rfl⟩
  · exact .inr (.inr ⟨rfl, by simpa using hmark⟩)
  · exact .inr (.inl ⟨'x', 2, rfl, rfl, htwo⟩)
  · exact .inr (.inl ⟨'u', 4, rfl, rfl, hfour⟩)
  · exact .inr (.inl ⟨'U', 8, rfl, rfl, toNat_lt c⟩)

theorem read?_letter {letter : Char} (h : ofLetter? letter = some c) (rest : List Char) :
    read? ('\\' :: letter :: rest) = some (c, rest) := by
  have hwidth : widthOf? letter = none := by
    unfold widthOf?
    split
    · cases h
    · cases h
    · cases h
    · rfl
  rw [read?, hwidth]
  dsimp only
  rw [h, Option.map_some]

theorem read?_code {letter : Char} {width : Nat} (hwidth : widthOf? letter = some width)
    (h : c.toNat < 16 ^ width) (rest : List Char) :
    read? ('\\' :: letter :: (Hex.fixed width c.toNat ++ rest)) = some (c, rest) := by
  rw [read?, hwidth]
  dsimp only
  rw [Hex.take?_fixed h, Option.map_some, Char.ofNat_toNat]

theorem read?_plain (h : c ≠ '\\') (rest : List Char) : read? (c :: rest) = some (c, rest) := by
  rw [read?, if_neg h]
  intro letter later hcons
  exact absurd hcons h

theorem undoes_escape (hquote : quote ∈ quotes) : escaping.Undoes quote (escape quote) := by
  have hslash : '\\' ≠ quote := by
    rintro rfl
    exact absurd hquote (by decide)
  intro c rest
  rcases escape_cases hquote c with ⟨letter, hescape, hletter⟩ |
    ⟨letter, width, hescape, hwidth, hcode⟩ | ⟨hescape, hplain, hc⟩
  · rw [hescape]
    exact ⟨read?_letter hletter rest, by simpa using hslash⟩
  · rw [hescape]
    exact ⟨read?_code hwidth hcode rest, by simpa using hslash⟩
  · rw [hescape]
    exact ⟨read?_plain hc rest, by simpa using hplain⟩

theorem decode?_encode (text : String) : decode? (encode text) = some text := by
  have hquote := quoteOf_mem text.toList
  rw [decode?, encode, String.toList_ofList, encodeChars,
    (undoes_escape hquote).decode?_eq hquote, Option.map_some, String.ofList_toList]

theorem encode_injective : Function.Injective encode := by
  intro text text' h
  have hdecode := congrArg decode? h
  rwa [decode?_encode, decode?_encode, Option.some.injEq] at hdecode

theorem isIdentifierStart_of_mem_quotes : ∀ quote ∈ quotes, isIdentifierStart quote = false := by
  rw [quotes, List.forall_mem_cons, List.forall_mem_singleton]
  decide

theorem isIdentifier_encode (text : String) : isIdentifier (encode text).toList = false := by
  rw [encode, String.toList_ofList, encodeChars, isIdentifier,
    isIdentifierStart_of_mem_quotes _ (quoteOf_mem text.toList), Bool.false_and]

end Tokenry.Text.Literal
