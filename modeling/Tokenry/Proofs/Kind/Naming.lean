import Tokenry.Proofs.Text.Literal
import Tokenry.Proofs.Text.Quoted
import Tokenry.Session

namespace Tokenry

namespace Text

variable {name : List Char}

theorem isIdentifierPart_of_mem (h : isIdentifier name = true) {c : Char} (hc : c ∈ name) :
    isIdentifierPart c = true := by
  cases name with
  | nil => cases hc
  | cons d name =>
    simp only [isIdentifier, Bool.and_eq_true, List.all_eq_true] at h
    rcases List.mem_cons.mp hc with rfl | hc
    · rw [isIdentifierPart, h.1, Bool.true_or]
    · exact h.2 c hc

theorem not_mem_of_isIdentifier {c : Char} (h : isIdentifier name = true)
    (hc : isIdentifierPart c = false) : c ∉ name := by
  intro hmem
  rw [isIdentifierPart_of_mem h hmem] at hc
  cases hc

end Text

namespace Declaration

variable {d : Declaration} {name : String} {o : Options}

theorem isIdentifier_of_check (h : d.check = .ok d) : Text.isIdentifier d.name.toList = true := by
  cases hname : Text.isIdentifier d.name.toList with
  | true => rfl
  | false => simp [check, mistake?, hname] at h

theorem check_of_ofOptions (h : ofOptions name o = .ok d) : d.check = .ok d := by
  have hcheck {e : Declaration} (h : e.check = .ok d) : d.check = .ok d := by
    have hsame : e = d := by
      unfold check at h
      split at h
      · cases h
      · exact Except.ok.inj h
    rwa [hsame] at h
  unfold ofOptions at h
  split at h
  · split at h
    · cases h
    · exact hcheck h
  · exact hcheck h
  · cases h

end Declaration

namespace Kind

theorem append_cons_inj {α : Type} {a : α} {l₁ l₂ r₁ r₂ : List α} (h₁ : a ∉ l₁) (h₂ : a ∉ l₂)
    (h : l₁ ++ a :: r₁ = l₂ ++ a :: r₂) : l₁ = l₂ ∧ r₁ = r₂ := by
  induction l₁ generalizing l₂ with
  | nil =>
    cases l₂ with
    | nil => exact ⟨rfl, (List.cons.inj h).2⟩
    | cons b l₂ => exact absurd (List.mem_cons.mpr (.inl (List.cons.inj h).1)) h₂
  | cons b l₁ ih =>
    cases l₂ with
    | nil => exact absurd (List.mem_cons.mpr (.inl (List.cons.inj h).1.symm)) h₁
    | cons c l₂ =>
      obtain ⟨hb, hrest⟩ := List.cons.inj h
      obtain ⟨hleft, hright⟩ := ih (fun ha ↦ h₁ (.tail _ ha)) (fun ha ↦ h₂ (.tail _ ha)) hrest
      exact ⟨by rw [hb, hleft], hright⟩

theorem toList_called (name : String) (src : Source) (r : Range) :
    (called name src r).toList =
      name.toList ++ '(' :: ((Text.Quoted.encode (r.text src)).toList ++ [')']) := by
  simp [called]

theorem toList_bracketed (name : String) (src : Source) (r : Range) :
    (bracketed name src r).toList =
      '<' :: (name.toList ++ ' ' :: ((Text.Quoted.encode (r.text src)).toList ++ ['>'])) := by
  simp [bracketed]

theorem name_text_eq {name₁ name₂ text₁ text₂ : String} {mark : Char} {close : List Char}
    (h₁ : mark ∉ name₁.toList) (h₂ : mark ∉ name₂.toList)
    (h : name₁.toList ++ mark :: ((Text.Quoted.encode text₁).toList ++ close) =
      name₂.toList ++ mark :: ((Text.Quoted.encode text₂).toList ++ close)) :
    name₁ = name₂ ∧ text₁ = text₂ := by
  obtain ⟨hname, htext⟩ := append_cons_inj h₁ h₂ h
  have hquoted := String.toList_inj.mp (List.append_cancel_right htext)
  exact ⟨String.toList_inj.mp hname, Text.Quoted.encode_injective hquoted⟩

section Names

variable [Pattern.CharacterNames]

/-- A kind that is built from a declaration that has been checked, with nothing changed about it. -/
def Built (k : Kind) (d : Declaration) : Prop :=
  d.check = .ok d ∧ ∃ s : Session, k = (s.declare d {}).1

def Defined (k : Kind) (d : Declaration) : Prop :=
  ∃ (s : Session) (o : Declaration.Options),
    Declaration.ofOptions d.name o = .ok d ∧ k = (s.declare d {}).1

variable {k : Kind} {d : Declaration}

theorem Defined.built (h : k.Defined d) : k.Built d := by
  obtain ⟨s, o, hd, hk⟩ := h
  exact ⟨Declaration.check_of_ofOptions hd, s, hk⟩

theorem Built.isIdentifier (h : k.Built d) : Text.isIdentifier d.name.toList = true :=
  Declaration.isIdentifier_of_check h.1

theorem Built.name_exact (h : k.Built d) (hd : d.strategy = .exact) :
    k.name = Text.Literal.encode d.pattern := by
  obtain ⟨-, s, rfl⟩ := h
  simp [Session.declare, hd, override, ofDeclaration]

theorem Built.name_regex (h : k.Built d) (hd : d.strategy = .regex) : k.name = d.name := by
  obtain ⟨-, s, rfl⟩ := h
  simp [Session.declare, hd, override, ofDeclaration]

theorem Built.debug_exact (h : k.Built d) (hd : d.strategy = .exact) : k.debug = called d.name := by
  obtain ⟨-, s, rfl⟩ := h
  simp [Session.declare, hd, override, ofDeclaration]

theorem Built.debug_regex (h : k.Built d) (hd : d.strategy = .regex) :
    k.debug = bracketed d.name := by
  obtain ⟨-, s, rfl⟩ := h
  simp [Session.declare, hd, override, ofDeclaration]

theorem Built.literal_ne_name (h : k.Built d) (literal : String) :
    Text.Literal.encode literal ≠ d.name := by
  intro heq
  have hname := h.isIdentifier
  rw [← heq, Text.Literal.isIdentifier_encode] at hname
  cases hname

/-- Two kinds have one name exactly if they have one literal, or are declared under one name and
have patterns. No two texts have one literal, and no literal is an identifier. -/
theorem name_eq_iff :
    (∀ k₁ k₂ d₁ d₂, Built k₁ d₁ → Built k₂ d₂ →
      (k₁.name = k₂.name ↔
        (d₁.strategy = .exact ∧ d₂.strategy = .exact ∧ d₁.pattern = d₂.pattern) ∨
        (d₁.strategy = .regex ∧ d₂.strategy = .regex ∧ d₁.name = d₂.name))) ∧
    Function.Injective Text.Literal.encode ∧
    ∀ text, Text.isIdentifier (Text.Literal.encode text).toList = false := by
  refine ⟨?_, Text.Literal.encode_injective, Text.Literal.isIdentifier_encode⟩
  intro k₁ k₂ d₁ d₂ h₁ h₂
  cases hd₁ : d₁.strategy with
  | exact =>
    rw [h₁.name_exact hd₁]
    cases hd₂ : d₂.strategy with
    | exact =>
      rw [h₂.name_exact hd₂, Text.Literal.encode_injective.eq_iff]
      simp
    | regex =>
      rw [h₂.name_regex hd₂]
      simp [h₂.literal_ne_name]
  | regex =>
    rw [h₁.name_regex hd₁]
    cases hd₂ : d₂.strategy with
    | exact =>
      rw [h₂.name_exact hd₂]
      simp [(h₁.literal_ne_name d₂.pattern).symm]
    | regex =>
      rw [h₂.name_regex hd₂]
      simp

end Names

def quoteMark (literal : String) : Declaration where
  name := "Quote"
  strategy := .exact
  pattern := literal

theorem name_eq_iff_quoteMark :
    Built (({} : Session).declare (quoteMark "'") {}).1 (quoteMark "'") ∧
    Built (({} : Session).declare (quoteMark "\"") {}).1 (quoteMark "\"") ∧
    (({} : Session).declare (quoteMark "'") {}).1.name ≠
      (({} : Session).declare (quoteMark "\"") {}).1.name := by
  have hsingle : Built (({} : Session).declare (quoteMark "'") {}).1 (quoteMark "'") :=
    ⟨by decide +kernel, {}, rfl⟩
  have hdouble : Built (({} : Session).declare (quoteMark "\"") {}).1 (quoteMark "\"") :=
    ⟨by decide +kernel, {}, rfl⟩
  refine ⟨hsingle, hdouble, ?_⟩
  rw [ne_eq, name_eq_iff.1 _ _ _ _ hsingle hdouble]
  decide

section Debugging

variable [Pattern.CharacterNames] {k k₁ k₂ : Kind} {d d₁ d₂ : Declaration}

theorem Built.called_ne_bracketed (h : k.Built d) (name : String) (src₁ src₂ : Source)
    (r₁ r₂ : Range) : called d.name src₁ r₁ ≠ bracketed name src₂ r₂ := by
  intro heq
  have hchars := congrArg String.toList heq
  rw [toList_called, toList_bracketed] at hchars
  have hname := h.isIdentifier
  cases hfirst : d.name.toList with
  | nil =>
    rw [hfirst] at hname
    cases hname
  | cons c rest =>
    rw [hfirst] at hname hchars
    rw [(List.cons.inj hchars).1] at hname
    simp only [Text.isIdentifier, Bool.and_eq_true] at hname
    exact absurd hname.1 (by decide)

theorem Built.debug_inj (h₁ : k₁.Built d₁) (h₂ : k₂.Built d₂) {src₁ src₂ : Source} {r₁ r₂ : Range}
    (h : k₁.debug src₁ r₁ = k₂.debug src₂ r₂) :
    d₁.strategy = d₂.strategy ∧ d₁.name = d₂.name ∧ r₁.text src₁ = r₂.text src₂ := by
  -- The character behind the name is in no identifier, so it tells where the name ends.
  have hbefore {c : Char} (hc : Text.isIdentifierPart c = false) :
      c ∉ d₁.name.toList ∧ c ∉ d₂.name.toList :=
    ⟨Text.not_mem_of_isIdentifier h₁.isIdentifier hc,
      Text.not_mem_of_isIdentifier h₂.isIdentifier hc⟩
  cases hd₁ : d₁.strategy with
  | exact =>
    rw [h₁.debug_exact hd₁] at h
    cases hd₂ : d₂.strategy with
    | exact =>
      rw [h₂.debug_exact hd₂] at h
      have hchars := congrArg String.toList h
      rw [toList_called, toList_called] at hchars
      obtain ⟨hmark₁, hmark₂⟩ := hbefore (c := '(') (by decide)
      exact ⟨rfl, name_text_eq hmark₁ hmark₂ hchars⟩
    | regex =>
      rw [h₂.debug_regex hd₂] at h
      exact absurd h (h₁.called_ne_bracketed _ _ _ _ _)
  | regex =>
    rw [h₁.debug_regex hd₁] at h
    cases hd₂ : d₂.strategy with
    | exact =>
      rw [h₂.debug_exact hd₂] at h
      exact absurd h.symm (h₂.called_ne_bracketed _ _ _ _ _)
    | regex =>
      rw [h₂.debug_regex hd₂] at h
      have hchars := congrArg String.toList h
      rw [toList_bracketed, toList_bracketed] at hchars
      obtain ⟨hmark₁, hmark₂⟩ := hbefore (c := ' ') (by decide)
      exact ⟨rfl, name_text_eq hmark₁ hmark₂ (List.cons.inj hchars).2⟩

/-- The debugging text of a token tells whether its kind has a literal or a pattern, the name that
it is declared under, and the text of the token. Quoted text is read back as it was, has no control
in it, and no double quote in it but the first and the last goes without an escape. -/
theorem debug_unambiguous :
    (∀ k₁ k₂ d₁ d₂, Defined k₁ d₁ → Defined k₂ d₂ → ∀ src₁ src₂ r₁ r₂,
      k₁.debug src₁ r₁ = k₂.debug src₂ r₂ →
        d₁.strategy = d₂.strategy ∧ d₁.name = d₂.name ∧ r₁.text src₁ = r₂.text src₂) ∧
    ∀ text,
      Text.Quoted.decode? (Text.Quoted.encode text) = some text ∧
      (∀ c ∈ (Text.Quoted.encode text).toList, 0x20 ≤ c.toNat) ∧
      Text.Quoted.bareQuotes (Text.Quoted.encode text).toList =
        [0, (Text.Quoted.encode text).length - 1] := by
  refine ⟨?_, ?_⟩
  · intro k₁ k₂ d₁ d₂ h₁ h₂ src₁ src₂ r₁ r₂ h
    exact h₁.built.debug_inj h₂.built h
  · intro text
    refine ⟨Text.Quoted.decode?_encode text, ?_, ?_⟩
    · rw [Text.Quoted.encode, String.toList_ofList]
      intro c hc
      exact Text.Quoted.le_of_mem_encodeChars hc
    · rw [Text.Quoted.encode, String.length_ofList, String.toList_ofList]
      exact Text.Quoted.bareQuotes_encodeChars text.toList

end Debugging

def word (pattern : String) : Declaration where
  name := "Word"
  strategy := .regex
  pattern := pattern

theorem debug_unambiguous_word :
    Defined (({} : Session).declare (word ".") {}).1 (word ".") ∧
    Defined (({} : Session).declare (word "[^a]") {}).1 (word "[^a]") ∧
    (({} : Session).declare (word ".") {}).1.debug #['a', '"'] ⟨1, 2, by decide⟩ =
      (({} : Session).declare (word "[^a]") {}).1.debug #['"', '>'] ⟨0, 1, by decide⟩ ∧
    (word ".").strategy = (word "[^a]").strategy ∧ (word ".").name = (word "[^a]").name ∧
    Range.text ⟨1, 2, by decide⟩ #['a', '"'] = Range.text ⟨0, 1, by decide⟩ #['"', '>'] := by
  have hany : Defined (({} : Session).declare (word ".") {}).1 (word ".") :=
    ⟨{}, { regex := some "." }, by decide +kernel, rfl⟩
  have hother : Defined (({} : Session).declare (word "[^a]") {}).1 (word "[^a]") :=
    ⟨{}, { regex := some "[^a]" }, by decide +kernel, rfl⟩
  have hdebug : (({} : Session).declare (word ".") {}).1.debug #['a', '"'] ⟨1, 2, by decide⟩ =
      (({} : Session).declare (word "[^a]") {}).1.debug #['"', '>'] ⟨0, 1, by decide⟩ := by
    decide +kernel
  exact ⟨hany, hother, hdebug, debug_unambiguous.1 _ _ _ _ hany hother _ _ _ _ hdebug⟩

end Kind

end Tokenry
