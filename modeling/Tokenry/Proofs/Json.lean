import Tokenry.Number.Reading
import Tokenry.Proofs.Text.Quoted
import Tokenry.Value

namespace Tokenry.Json

def isBlank (c : Char) : Bool := c = ' ' || c = '\t' || c = '\n' || c = '\r'

def skipBlanks (text : List Char) : List Char := text.dropWhile isBlank

def digits? (text : List Char) : Option (List Char × List Char) :=
  if (text.takeWhile Number.isDigit).isEmpty then none
  else some (text.takeWhile Number.isDigit, text.dropWhile Number.isDigit)

def whole? : List Char → Option (List Char × List Char)
  | '0' :: rest => some (['0'], rest)
  | text => digits? text

def places? : List Char → Option (List Char × List Char)
  | '.' :: rest => (digits? rest).map (.map ('.' :: ·) id)
  | text => some ([], text)

def signed? : List Char → Option (List Char × List Char)
  | '+' :: rest => (digits? rest).map (.map ('+' :: ·) id)
  | '-' :: rest => (digits? rest).map (.map ('-' :: ·) id)
  | text => digits? text

def power? : List Char → Option (List Char × List Char)
  | [] => some ([], [])
  | mark :: rest =>
    if mark = 'e' ∨ mark = 'E' then (signed? rest).map (.map (mark :: ·) id)
    else some ([], mark :: rest)

def numberOf? (sign whole places power : List Char) : Option Value :=
  if places.isEmpty && power.isEmpty then
    let n := Int.ofNat (Number.ofDigits whole)
    some (.int (if sign.isEmpty then n else -n))
  else (Number.read? (sign ++ whole ++ places ++ power)).map .float

def unsigned? (sign text : List Char) : Option (Value × List Char) := do
  let (whole, text) ← whole? text
  let (places, text) ← places? text
  let (power, text) ← power? text
  let v ← numberOf? sign whole places power
  return (v, text)

def number? : List Char → Option (Value × List Char)
  | '-' :: rest => unsigned? ['-'] rest
  | text => unsigned? [] text

def scalar? : List Char → Option (Value × List Char)
  | 'n' :: 'u' :: 'l' :: 'l' :: rest => some (.null, rest)
  | 't' :: 'r' :: 'u' :: 'e' :: rest => some (.bool true, rest)
  | 'f' :: 'a' :: 'l' :: 's' :: 'e' :: rest => some (.bool false, rest)
  | '"' :: rest =>
    (Text.Quoted.escaping.readTo '"' rest).map (.map (fun chars ↦ .text (String.ofList chars)) id)
  | text => number? text

def key? (text : List Char) : Option (String × List Char) :=
  match skipBlanks text with
  | '"' :: rest =>
    match Text.Quoted.escaping.readTo '"' rest with
    | none => none
    | some (chars, later) =>
      match skipBlanks later with
      | ':' :: rest => some (String.ofList chars, rest)
      | _ => none
  | _ => none

/-- A container that has been opened, with what has been read of it. -/
inductive Opened where
  | list (items : List Value)
  | mapping (entries : List (Value × Value)) (key : String)

inductive State where
  | before (opened : List Opened)
  | after (opened : List Opened) (v : Value)

def open? (opened : List Opened) : List Char → Option (State × List Char)
  | '[' :: rest => some (.before (.list [] :: opened), rest)
  | '\x7b' :: rest =>
    match skipBlanks rest with
    | '\x7d' :: later => some (.after opened (.mapping []), later)
    | _ => (key? rest).map (.map (fun key ↦ .before (.mapping [] key :: opened)) id)
  | text => (scalar? text).map (.map (.after opened) id)

def begin? (opened : List Opened) (text : List Char) : Option (State × List Char) :=
  match opened, skipBlanks text with
  | .list [] :: outer, ']' :: rest => some (.after outer (.list []), rest)
  | opened, text => open? opened text

/-- Puts a value into the innermost container, and goes on to the next one or closes it. Of two
entries with one key the later one stays. -/
def resume? (opened : List Opened) (v : Value) (text : List Char) : Option (State × List Char) :=
  match opened, skipBlanks text with
  | .list items :: outer, ',' :: rest => some (.before (.list (items ++ [v]) :: outer), rest)
  | .list items :: outer, ']' :: rest => some (.after outer (.list (items ++ [v])), rest)
  | .mapping entries key :: outer, ',' :: rest =>
    let entries := entries ++ [(.text key, v)]
    (key? rest).map (.map (fun next ↦ .before (.mapping entries next :: outer)) id)
  | .mapping entries key :: outer, '\x7d' :: rest =>
    some (.after outer (.mapping (Value.entriesOf (entries ++ [(.text key, v)]))), rest)
  | _, _ => none

def step? : State → List Char → Option (State × List Char)
  | .before opened, text => begin? opened text
  | .after opened v, text => resume? opened v text

variable {c : Char} {text rest run : List Char} {v : Value} {opened : List Opened}

theorem length_of_skipBlanks (h : skipBlanks text = c :: rest) : rest.length < text.length := by
  have hle := (List.dropWhile_sublist isBlank (l := text)).length_le
  rw [show text.dropWhile isBlank = c :: rest from h, List.length_cons] at hle
  exact hle

theorem exists_of_map {α β : Type} {f : α → β} {found : Option (α × List Char)} {b : β}
    (h : found.map (.map f id) = some (b, rest)) : ∃ a, found = some (a, rest) ∧ f a = b := by
  obtain ⟨⟨a, later⟩, hfound, hread⟩ := Option.map_eq_some_iff.mp h
  cases hread
  exact ⟨a, hfound, rfl⟩

theorem length_of_digits? (h : digits? text = some (run, rest)) : rest.length < text.length := by
  unfold digits? at h
  split at h
  · cases h
  · next hrun =>
    cases h
    have hlength := congrArg List.length (List.takeWhile_append_dropWhile
      (p := Number.isDigit) (l := text))
    have hpos : 0 < (text.takeWhile Number.isDigit).length :=
      List.length_pos_iff.mpr (by simpa using hrun)
    rw [List.length_append] at hlength
    omega

theorem length_of_whole? (h : whole? text = some (run, rest)) : rest.length < text.length := by
  unfold whole? at h
  split at h
  · cases h
    exact Nat.lt_succ_self _
  · exact length_of_digits? h

theorem length_of_places? (h : places? text = some (run, rest)) : rest.length ≤ text.length := by
  unfold places? at h
  split at h
  · obtain ⟨digits, hdigits, -⟩ := exists_of_map h
    exact Nat.le_succ_of_le (Nat.le_of_lt (length_of_digits? hdigits))
  · cases h
    exact Nat.le_refl _

theorem length_of_signed? (h : signed? text = some (run, rest)) : rest.length < text.length := by
  unfold signed? at h
  split at h
  · obtain ⟨digits, hdigits, -⟩ := exists_of_map h
    exact Nat.lt_succ_of_lt (length_of_digits? hdigits)
  · obtain ⟨digits, hdigits, -⟩ := exists_of_map h
    exact Nat.lt_succ_of_lt (length_of_digits? hdigits)
  · exact length_of_digits? h

theorem length_of_power? (h : power? text = some (run, rest)) : rest.length ≤ text.length := by
  unfold power? at h
  split at h
  · cases h
    exact Nat.le_refl _
  · split at h
    · obtain ⟨digits, hsigned, -⟩ := exists_of_map h
      exact Nat.le_succ_of_le (Nat.le_of_lt (length_of_signed? hsigned))
    · cases h
      exact Nat.le_refl _

theorem length_of_unsigned? {sign : List Char} (h : unsigned? sign text = some (v, rest)) :
    rest.length < text.length := by
  simp only [unsigned?, Option.bind_eq_bind, Option.bind_eq_some_iff] at h
  obtain ⟨⟨whole, text₁⟩, hwhole, ⟨places, text₂⟩, hplaces, ⟨power, text₃⟩, hpower, n, -, h⟩ := h
  cases h
  have h₁ := length_of_whole? hwhole
  have h₂ := length_of_places? hplaces
  have h₃ := length_of_power? hpower
  dsimp only at h₂ h₃ ⊢
  omega

theorem length_of_number? (h : number? text = some (v, rest)) : rest.length < text.length := by
  unfold number? at h
  split at h
  · exact Nat.lt_succ_of_lt (length_of_unsigned? h)
  · exact length_of_unsigned? h

theorem length_of_scalar? (h : scalar? text = some (v, rest)) : rest.length < text.length := by
  unfold scalar? at h
  split at h
  · cases h
    simp only [List.length_cons]
    omega
  · cases h
    simp only [List.length_cons]
    omega
  · cases h
    simp only [List.length_cons]
    omega
  · obtain ⟨chars, hread, -⟩ := exists_of_map h
    exact Nat.lt_succ_of_lt (Text.Escaping.length_of_readTo hread)
  · exact length_of_number? h

theorem length_of_key? {key : String} (h : key? text = some (key, rest)) :
    rest.length < text.length := by
  unfold key? at h
  split at h
  · next hquote =>
    split at h
    · cases h
    · next hread =>
      split at h
      · next hcolon =>
        cases h
        have h₁ := length_of_skipBlanks hquote
        have h₂ := Text.Escaping.length_of_readTo hread
        have h₃ := length_of_skipBlanks hcolon
        omega
      · cases h
  · cases h

theorem length_of_open? {s : State} (h : open? opened text = some (s, rest)) :
    rest.length < text.length := by
  unfold open? at h
  split at h
  · cases h
    exact Nat.lt_succ_self _
  · split at h
    · next hinner =>
      cases h
      exact Nat.lt_succ_of_lt (length_of_skipBlanks hinner)
    · obtain ⟨key, hkey, -⟩ := exists_of_map h
      exact Nat.lt_succ_of_lt (length_of_key? hkey)
  · obtain ⟨w, hscalar, -⟩ := exists_of_map h
    exact length_of_scalar? hscalar

theorem length_of_begin? {s : State} (h : begin? opened text = some (s, rest)) :
    rest.length < text.length := by
  unfold begin? at h
  split at h
  · next hblanks =>
    cases h
    exact length_of_skipBlanks hblanks
  · have hle := (List.dropWhile_sublist isBlank (l := text)).length_le
    exact Nat.lt_of_lt_of_le (length_of_open? h) hle

theorem length_of_resume? {s : State} (h : resume? opened v text = some (s, rest)) :
    rest.length < text.length := by
  unfold resume? at h
  split at h
  · next hblanks =>
    cases h
    exact length_of_skipBlanks hblanks
  · next hblanks =>
    cases h
    exact length_of_skipBlanks hblanks
  · next hblanks =>
    obtain ⟨next, hnext, -⟩ := exists_of_map h
    exact Nat.lt_trans (length_of_key? hnext) (length_of_skipBlanks hblanks)
  · next hblanks =>
    cases h
    exact length_of_skipBlanks hblanks
  · cases h

theorem length_of_step? {s s' : State} (h : step? s text = some (s', rest)) :
    rest.length < text.length := by
  cases s with
  | before opened => exact length_of_begin? h
  | after opened v => exact length_of_resume? h

/-- Goes on until no step is left. All containers have to be closed then, and all of the text has to
be read. -/
def readFrom (s : State) (text : List Char) : Option Value :=
  match _h : step? s text with
  | some (s', rest) => readFrom s' rest
  | none =>
    match s, skipBlanks text with
    | .after [] v, [] => some v
    | _, _ => none
  termination_by text.length
  decreasing_by exact length_of_step? ‹_›

def read? (text : String) : Option Value := readFrom (.before []) text.toList

end Tokenry.Json
