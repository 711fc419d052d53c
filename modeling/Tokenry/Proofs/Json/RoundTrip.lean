import Mathlib.Data.List.Forall2
import Tokenry.Proofs.Json
import Tokenry.Proofs.Value
import Tokenry.Value.Json

namespace Tokenry

namespace Number

theorem isDigit_of_mem_toDigits {n : Nat} {c : Char} (h : c ∈ Nat.toDigits 10 n) :
    isDigit c = true := by
  have hc := Nat.isDigit_of_mem_toDigits (by decide) (by decide) h
  simpa [isDigit, Char.isDigit, Char.le_def] using hc

theorem ofDigits_toDigits (n : Nat) : ofDigits (Nat.toDigits 10 n) = n := by
  have hdigits := Nat.ofDigitChars_ten_toDigits (n := n)
  simp only [Nat.ofDigitChars_eq_foldl, Nat.mul_comm 10] at hdigits
  exact hdigits

theorem head?_toDigits {n : Nat} (h : 0 < n) : (Nat.toDigits 10 n).head? ≠ some '0' := by
  induction n using Nat.strong_induction_on with
  | _ n ih =>
    rw [Nat.toDigits_eq_if (by decide)]
    split
    · simp only [List.head?_cons, ne_eq, Option.some.injEq, Nat.digitChar_eq_zero]
      omega
    · have hhigh := ih (n / 10) (by omega) (by omega)
      rwa [List.head?_append_of_ne_nil _ Nat.toDigits_ne_nil]

end Number

namespace Json

variable {c : Char} {text rest : List Char} {v : Value} {opened : List Opened}

/-- Nothing that follows goes on with a number. -/
def Apart (rest : List Char) : Prop :=
  ∀ c ∈ rest.head?, Number.isDigit c = false ∧ c ≠ '.' ∧ c ≠ 'e' ∧ c ≠ 'E'

theorem digits?_append {run : List Char} (hrun : ∀ c ∈ run, Number.isDigit c = true)
    (hne : run ≠ []) (h : Apart rest) : digits? (run ++ rest) = some (run, rest) := by
  have htake : rest.takeWhile Number.isDigit = [] := by
    cases rest with
    | nil => rfl
    | cons c rest => simp [(h c rfl).1]
  have hdrop : rest.dropWhile Number.isDigit = rest := by
    cases rest with
    | nil => rfl
    | cons c rest => simp [(h c rfl).1]
  rw [digits?, List.takeWhile_append_of_pos hrun, List.dropWhile_append_of_pos hrun, htake, hdrop,
    List.append_nil]
  simp [hne]

theorem whole?_toDigits (n : Nat) (h : Apart rest) :
    whole? (Nat.toDigits 10 n ++ rest) = some (Nat.toDigits 10 n, rest) := by
  by_cases hzero : n = 0
  · rw [hzero, Nat.toDigits_zero]
    rfl
  · rw [whole?]
    · exact digits?_append (fun c ↦ Number.isDigit_of_mem_toDigits) Nat.toDigits_ne_nil h
    · intro later hlater
      have hhead := congrArg List.head? hlater
      rw [List.head?_append_of_ne_nil _ Nat.toDigits_ne_nil] at hhead
      exact Number.head?_toDigits (Nat.pos_of_ne_zero hzero) hhead

theorem places?_of_apart (h : Apart rest) : places? rest = some ([], rest) := by
  cases rest with
  | nil => rfl
  | cons c rest =>
    rw [places?]
    intro later hcons
    exact absurd (List.cons.inj hcons).1 (h c rfl).2.1

theorem power?_of_apart (h : Apart rest) : power? rest = some ([], rest) := by
  cases rest with
  | nil => rfl
  | cons c rest =>
    obtain ⟨-, -, hlower, hupper⟩ := h c rfl
    rw [power?, if_neg (by simp [hlower, hupper])]

theorem unsigned?_toDigits (sign : List Char) (n : Nat) (h : Apart rest) :
    unsigned? sign (Nat.toDigits 10 n ++ rest) =
      some (.int (if sign.isEmpty then n else -n), rest) := by
  simp [unsigned?, whole?_toDigits n h, places?_of_apart h, power?_of_apart h, numberOf?,
    Number.ofDigits_toDigits]

theorem number?_int (n : Int) (h : Apart rest) :
    number? ((toString n).toList ++ rest) = some (.int n, rest) := by
  cases n with
  | ofNat n =>
    have htext : (toString (Int.ofNat n)).toList = Nat.toDigits 10 n := by
      rw [Int.toString_eq_repr, Int.repr, Nat.repr_eq_ofList_toDigits, String.toList_ofList]
    rw [htext, number?, unsigned?_toDigits [] n h]
    · rfl
    · -- A minus in front would have to be a digit.
      intro later hlater
      have hhead := congrArg List.head? hlater
      rw [List.head?_append_of_ne_nil _ Nat.toDigits_ne_nil] at hhead
      have hminus := Number.isDigit_of_mem_toDigits (List.mem_of_mem_head? hhead)
      exact absurd hminus (by decide)
  | negSucc n =>
    have htext : (toString (Int.negSucc n)).toList = '-' :: Nat.toDigits 10 (n + 1) := by
      simp [Int.toString_eq_repr, Int.repr, Nat.repr_eq_ofList_toDigits]
    rw [htext, List.cons_append, number?, unsigned?_toDigits _ _ h]
    rfl

theorem scalar?_of_number? (h : number? text = some (v, rest)) : scalar? text = some (v, rest) := by
  unfold scalar?
  split
  · cases h
  · cases h
  · cases h
  · cases h
  · exact h

theorem scalar?_int (n : Int) (h : Apart rest) :
    scalar? ((toString n).toList ++ rest) = some (.int n, rest) :=
  scalar?_of_number? (number?_int n h)

theorem scalar?_text (s : String) (rest : List Char) :
    scalar? ((Text.Quoted.encode s).toList ++ rest) = some (.text s, rest) := by
  rw [Text.Quoted.encode, String.toList_ofList, Text.Quoted.encodeChars, List.cons_append,
    List.append_assoc, scalar?, List.singleton_append, Text.Quoted.undoes_escape.readTo_flatMap]
  simp

theorem readFrom_of_step? {s s' : State} (h : step? s text = some (s', rest)) :
    readFrom s text = readFrom s' rest := by
  rw [readFrom]
  split
  · next hstep =>
    rw [h] at hstep
    cases hstep
    rfl
  · next hstep =>
    rw [h] at hstep
    cases hstep

theorem skipBlanks_cons (h : isBlank c = false) : skipBlanks (c :: rest) = c :: rest := by
  simp [skipBlanks, h]

theorem readFrom_of_end {s : State} (h : step? s text = none) :
    readFrom s text =
      match s, skipBlanks text with
      | .after [] v, [] => some v
      | _, _ => none := by
  rw [readFrom]
  split
  · next hstep =>
    rw [h] at hstep
    cases hstep
  · rfl

theorem readFrom_before_space :
    readFrom (.before opened) (' ' :: rest) = readFrom (.before opened) rest := by
  have hstep : step? (.before opened) (' ' :: rest) = step? (.before opened) rest := rfl
  cases hrest : step? (.before opened) rest with
  | none => rw [readFrom_of_end hrest, readFrom_of_end (hstep.trans hrest)]
  | some next => rw [readFrom_of_step? hrest, readFrom_of_step? (hstep.trans hrest)]

theorem begin?_eq_open? (hblank : isBlank c = false) (hclose : c ≠ ']') :
    begin? opened (c :: rest) = open? opened (c :: rest) := by
  unfold begin?
  rw [skipBlanks_cons hblank]
  split
  · next heq => exact absurd (List.cons.inj heq).1 hclose
  · rfl

def marks : List Char := [' ', '\t', '\n', '\r', '[', ']', '\x7b']

theorem scalar?_mark : ∀ c ∈ marks, ∀ rest, scalar? (c :: rest) = none := by
  simp [marks, scalar?, number?, unsigned?, whole?, digits?, Number.isDigit]

theorem begin?_scalar (h : scalar? text = some (v, rest)) :
    begin? opened text = some (.after opened v, rest) := by
  cases text with
  | nil => cases h
  | cons c text =>
    have hmark : c ∉ marks := by
      intro hmark
      rw [scalar?_mark c hmark] at h
      cases h
    simp only [marks, List.mem_cons, List.not_mem_nil, or_false, not_or] at hmark
    obtain ⟨hspace, htab, hline, hreturn, hlist, hclose, hmapping⟩ := hmark
    have hblank : isBlank c = false := by simp [isBlank, hspace, htab, hline, hreturn]
    rw [begin?_eq_open? hblank hclose, open?, h]
    · rfl
    · intro later hcons
      exact hlist (List.cons.inj hcons).1
    · intro later hcons
      exact hmapping (List.cons.inj hcons).1

/-- A text that is taken off the front as a value, whatever is open and whatever follows. -/
def Reads (text : String) (v : Value) : Prop :=
  ∀ opened rest, Apart rest →
    readFrom (.before opened) (text.toList ++ rest) = readFrom (.after opened v) rest

theorem Reads.of_scalar? {text : String}
    (h : ∀ rest, Apart rest → scalar? (text.toList ++ rest) = some (v, rest)) : Reads text v :=
  fun _ rest hrest ↦ readFrom_of_step? (begin?_scalar (h rest hrest))

theorem Reads.int (n : Int) : Reads (toString n) (.int n) :=
  .of_scalar? fun _ ↦ scalar?_int n

theorem Reads.nat (n : Nat) : Reads (toString n) (.int n) := .int n

theorem Reads.quoted (s : String) : Reads (Text.Quoted.encode s) (.text s) :=
  .of_scalar? fun rest _ ↦ scalar?_text s rest

theorem Reads.read? {text : String} (h : Reads text v) : read? text = some v := by
  have hread := h [] [] (by simp [Apart])
  rw [List.append_nil] at hread
  rw [Json.read?, hread, readFrom_of_end rfl]
  rfl

def separated (texts : List String) : List Char :=
  texts.flatMap fun text ↦ ',' :: ' ' :: text.toList

theorem separated_cons (text : String) (texts : List String) (rest : List Char) :
    separated (text :: texts) ++ rest =
      ',' :: ' ' :: (text.toList ++ (separated texts ++ rest)) := by
  simp [separated]

theorem toList_intercalate (text : String) (texts : List String) :
    (", ".intercalate (text :: texts)).toList = text.toList ++ separated texts := by
  induction texts generalizing text with
  | nil => simp [separated]
  | cons later texts ih =>
    rw [String.intercalate_cons_cons, String.toList_append, String.toList_append, ih]
    simp [separated]

theorem apart_separated (h : Apart rest) (texts : List String) :
    Apart (separated texts ++ rest) := by
  cases texts with
  | nil => exact h
  | cons text texts =>
    intro c hc
    cases hc
    decide

theorem apart_close (h : c = ']' ∨ c = '\x7d') : Apart (c :: rest) := by
  intro d hd
  cases hd
  rcases h with rfl | rfl <;> decide

theorem readFrom_items {texts : List String} {values : List Value}
    (h : List.Forall₂ Reads texts values) (items : List Value) (v : Value) (rest : List Char) :
    readFrom (.after (.list items :: opened) v) (separated texts ++ ']' :: rest) =
      readFrom (.after opened (.list (items ++ v :: values))) rest := by
  -- The value that has been read is put into the list at the next comma or at the end.
  induction h generalizing items v with
  | nil => exact readFrom_of_step? rfl
  | @cons text w texts values htext _ ih =>
    have hcomma (later : List Char) : readFrom (.after (.list items :: opened) v) (',' :: later) =
        readFrom (.before (.list (items ++ [v]) :: opened)) later :=
      readFrom_of_step? rfl
    rw [separated_cons, hcomma, readFrom_before_space,
      htext _ _ (apart_separated (apart_close (.inl rfl)) texts), ih, List.append_assoc]
    rfl

theorem Reads.list {texts : List String} {values : List Value}
    (h : List.Forall₂ Reads texts values) :
    Reads ("[" ++ ", ".intercalate texts ++ "]") (.list values) := by
  intro opened rest _
  have hopen (inner : List Char) : readFrom (.before opened) ('[' :: inner) =
      readFrom (.before (.list [] :: opened)) inner :=
    readFrom_of_step? (begin?_eq_open? (by decide) (by decide))
  have htext : ("[" ++ ", ".intercalate texts ++ "]").toList ++ rest =
      '[' :: ((", ".intercalate texts).toList ++ ']' :: rest) := by
    simp
  rw [htext, hopen]
  cases h with
  | nil => exact readFrom_of_step? rfl
  | @cons text v texts values hfirst hlater =>
    rw [toList_intercalate, List.append_assoc,
      hfirst _ _ (apart_separated (apart_close (.inl rfl)) texts), readFrom_items hlater]
    rfl

/-- The text of an entry: its key between quotes, a colon, and a text that reads as its value. -/
def ReadsEntry (text : String) (field : String × Value) : Prop :=
  ∃ valueText, text = Text.Quoted.encode field.1 ++ ": " ++ valueText ∧ Reads valueText field.2

def fieldEntry (field : String × Value) : Value × Value := (.text field.1, field.2)

theorem keysDiffer_map_fieldEntry {fields : List (String × Value)} (h : (fields.map (·.1)).Nodup) :
    Value.KeysDiffer (fields.map fieldEntry) := by
  have hkeys : fields.Pairwise fun field later ↦ field.1 ≠ later.1 := List.pairwise_map.mp h
  refine List.pairwise_map.mpr (hkeys.imp ?_)
  intro field later hne
  simp [fieldEntry, Value.equal, hne]

theorem skipBlanks_encode (key : String) (rest : List Char) :
    skipBlanks ((Text.Quoted.encode key).toList ++ rest) =
      '"' :: (key.toList.flatMap Text.Quoted.escape ++ '"' :: rest) := by
  rw [Text.Quoted.encode, String.toList_ofList, Text.Quoted.encodeChars, List.cons_append,
    List.append_assoc, List.singleton_append, skipBlanks_cons (by decide)]

theorem key?_encode (key : String) (rest : List Char) :
    key? ((Text.Quoted.encode key).toList ++ ':' :: rest) = some (key, rest) := by
  unfold key?
  rw [skipBlanks_encode]
  simp only [Text.Quoted.undoes_escape.readTo_flatMap, skipBlanks_cons (c := ':') rfl,
    String.ofList_toList]

theorem key?_entry (key text : String) (rest : List Char) :
    key? ((Text.Quoted.encode key ++ ": " ++ text).toList ++ rest) =
      some (key, ' ' :: (text.toList ++ rest)) := by
  have htext : (Text.Quoted.encode key ++ ": " ++ text).toList ++ rest =
      (Text.Quoted.encode key).toList ++ ':' :: ' ' :: (text.toList ++ rest) := by
    simp
  rw [htext, key?_encode]

theorem key?_space : key? (' ' :: rest) = key? rest := rfl

theorem readFrom_entries {texts : List String} {fields : List (String × Value)}
    (h : List.Forall₂ ReadsEntry texts fields) (entries : List (Value × Value)) (key : String)
    (v : Value) (rest : List Char) :
    readFrom (.after (.mapping entries key :: opened) v) (separated texts ++ '\x7d' :: rest) =
      readFrom (.after opened
        (.mapping (Value.entriesOf (entries ++ fieldEntry (key, v) :: fields.map fieldEntry)))) rest := by
  induction h generalizing entries key v with
  | nil => exact readFrom_of_step? rfl
  | @cons text field texts fields hfield _ ih =>
    obtain ⟨valueText, rfl, hvalue⟩ := hfield
    have hcomma : step? (.after (.mapping entries key :: opened) v)
        (',' :: ' ' :: ((Text.Quoted.encode field.1 ++ ": " ++ valueText).toList ++
          (separated texts ++ '\x7d' :: rest))) =
        some (.before (.mapping (entries ++ [fieldEntry (key, v)]) field.1 :: opened),
          ' ' :: (valueText.toList ++ (separated texts ++ '\x7d' :: rest))) := by
      simp only [step?, resume?, skipBlanks_cons (c := ',') rfl, key?_space, key?_entry]
      rfl
    rw [separated_cons, readFrom_of_step? hcomma, readFrom_before_space,
      hvalue _ _ (apart_separated (apart_close (.inr rfl)) texts), ih, List.append_assoc]
    rfl

theorem Reads.mapping {texts : List String} {fields : List (String × Value)}
    (hkeys : (fields.map (·.1)).Nodup) (h : List.Forall₂ ReadsEntry texts fields) :
    Reads ("\x7b" ++ ", ".intercalate texts ++ "\x7d") (.mapping (fields.map fieldEntry)) := by
  intro opened rest _
  have htext : ("\x7b" ++ ", ".intercalate texts ++ "\x7d").toList ++ rest =
      '\x7b' :: ((", ".intercalate texts).toList ++ '\x7d' :: rest) := by
    simp
  -- No entry replaces another one, since the keys differ.
  have hdiffer := Value.entriesOf_eq_self (keysDiffer_map_fieldEntry hkeys)
  rw [htext]
  cases h with
  | nil => exact readFrom_of_step? (begin?_eq_open? (by decide) (by decide))
  | @cons text field texts fields hfield hlater =>
    obtain ⟨valueText, rfl, hvalue⟩ := hfield
    have hopen : step? (.before opened)
        ('\x7b' :: ((Text.Quoted.encode field.1 ++ ": " ++ valueText).toList ++
          (separated texts ++ '\x7d' :: rest))) =
        some (.before (.mapping [] field.1 :: opened),
          ' ' :: (valueText.toList ++ (separated texts ++ '\x7d' :: rest))) := by
      rw [step?, begin?_eq_open? (by decide) (by decide), open?]
      split
      · next hclose =>
        simp [skipBlanks_encode] at hclose
      · rw [key?_entry]
        rfl
    rw [toList_intercalate, List.append_assoc, readFrom_of_step? hopen, readFrom_before_space,
      hvalue _ _ (apart_separated (apart_close (.inr rfl)) texts), readFrom_entries hlater]
    rw [List.nil_append]
    exact congrArg (fun entries ↦ readFrom (.after opened (.mapping entries)) rest) hdiffer

end Json

namespace Value

mutual

/-- A value as other programs see it: a location is its offset, a range the pair of its offsets, and
a kind the name it is displayed under. -/
def plain : Value → Value
  | .list items => .list (plainItems items)
  | .mapping entries => .mapping (plainEntries entries)
  | .location at_ => .int at_
  | .range r => .list [.int r.start, .int r.stop]
  | .kind displayName => .text displayName
  | v => v

def plainItems : List Value → List Value
  | [] => []
  | v :: rest => v.plain :: plainItems rest

def plainEntries : List (Value × Value) → List (Value × Value)
  | [] => []
  | (k, v) :: rest => (k, v.plain) :: plainEntries rest

end

theorem plainItems_eq_map (items : List Value) : plainItems items = items.map plain := by
  induction items with
  | nil => rfl
  | cons v rest ih => rw [plainItems, ih, List.map_cons]

theorem plainEntries_fieldEntry (fields : List (String × Value)) :
    plainEntries (fields.map Json.fieldEntry) = (fields.map (.map id plain)).map Json.fieldEntry := by
  induction fields with
  | nil => rfl
  | cons field rest ih =>
    rw [List.map_cons, Json.fieldEntry, plainEntries, ih]
    rfl

/-- Values made of what other programs can read, and of kinds, locations and ranges. The keys of a
mapping are texts, and no two of them are the same. -/
inductive Portable : Value → Prop where
  | null : Portable .null
  | bool (b : Bool) : Portable (.bool b)
  | int (n : Int) : Portable (.int n)
  | text (s : String) : Portable (.text s)
  | list {items : List Value} (h : ∀ item ∈ items, Portable item) : Portable (.list items)
  | mapping (fields : List (String × Value)) (hkeys : (fields.map (·.1)).Nodup)
      (h : ∀ field ∈ fields, Portable field.2) : Portable (.mapping (fields.map Json.fieldEntry))
  | location (at_ : Location) : Portable (.location at_)
  | range (r : Range) : Portable (.range r)
  | kind (displayName : String) : Portable (.kind displayName)

def Carried (v : Value) : Prop := ∃ text, v.toJson = .ok text ∧ Json.Reads text v.plain

theorem carried_items {items : List Value} (h : ∀ item ∈ items, Carried item) :
    ∃ texts, itemsToJson items = .ok texts ∧
      List.Forall₂ Json.Reads texts (items.map plain) := by
  induction items with
  | nil => exact ⟨[], rfl, .nil⟩
  | cons v rest ih =>
    obtain ⟨text, htext, hreads⟩ := h v (.head _)
    obtain ⟨texts, htexts, hrest⟩ := ih fun item hitem ↦ h item (.tail _ hitem)
    refine ⟨text :: texts, ?_, .cons hreads hrest⟩
    rw [itemsToJson, htext, htexts]
    rfl

theorem carried_entries {fields : List (String × Value)} (h : ∀ field ∈ fields, Carried field.2) :
    ∃ texts, entriesToJson (fields.map Json.fieldEntry) = .ok texts ∧
      List.Forall₂ Json.ReadsEntry texts (fields.map (.map id plain)) := by
  induction fields with
  | nil => exact ⟨[], rfl, .nil⟩
  | cons field rest ih =>
    obtain ⟨text, htext, hreads⟩ := h field (.head _)
    obtain ⟨texts, htexts, hrest⟩ := ih fun other hother ↦ h other (.tail _ hother)
    refine ⟨(Text.Quoted.encode field.1 ++ ": " ++ text) :: texts, ?_,
      .cons ⟨text, rfl, hreads⟩ hrest⟩
    rw [List.map_cons, Json.fieldEntry, entriesToJson, keyText, htext, htexts]
    rfl

theorem Portable.carried {v : Value} (h : v.Portable) : v.Carried := by
  induction h with
  | null => exact ⟨_, rfl, .of_scalar? fun _ _ ↦ rfl⟩
  | bool b =>
    cases b with
    | true => exact ⟨_, rfl, .of_scalar? fun _ _ ↦ rfl⟩
    | false => exact ⟨_, rfl, .of_scalar? fun _ _ ↦ rfl⟩
  | int n => exact ⟨_, rfl, .int n⟩
  | text s => exact ⟨_, rfl, .quoted s⟩
  | list _ ih =>
    obtain ⟨texts, htexts, hreads⟩ := carried_items ih
    refine ⟨_, by rw [toJson, htexts]; rfl, ?_⟩
    rw [plain, plainItems_eq_map]
    exact .list hreads
  | mapping fields hkeys _ ih =>
    obtain ⟨texts, htexts, hreads⟩ := carried_entries ih
    refine ⟨_, by rw [toJson, htexts]; rfl, ?_⟩
    have hplain : ((fields.map (Prod.map id plain)).map (·.1)).Nodup := by
      rw [List.map_map]
      exact hkeys
    rw [plain, plainEntries_fieldEntry]
    exact .mapping hplain hreads
  | location at_ => exact ⟨_, rfl, .nat at_⟩
  | range r =>
    have hparts : List.Forall₂ Json.Reads [toString r.start, toString r.stop]
        [.int r.start, .int r.stop] :=
      .cons (.nat r.start) (.cons (.nat r.stop) .nil)
    refine ⟨_, ?_, .list hparts⟩
    rw [toJson, String.intercalate_cons_cons, String.intercalate_singleton]
    simp [toString, String.append_assoc]
  | kind displayName => exact ⟨_, rfl, .quoted displayName⟩

theorem Portable.read?_toJson {v : Value} (h : v.Portable) :
    ∃ text, v.toJson = .ok text ∧ Json.read? text = some v.plain := by
  obtain ⟨text, htext, hreads⟩ := h.carried
  exact ⟨text, htext, hreads.read?⟩

end Value

end Tokenry
