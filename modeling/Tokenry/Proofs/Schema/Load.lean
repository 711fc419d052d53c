import Mathlib.Data.List.Forall2
import Tokenry.Proofs.Attempt
import Tokenry.Schema.Load

namespace Tokenry

namespace Value

@[simp] theorem equal_text_iff {v : Value} {s : String} :
    v.equal (.text s) = true ↔ v = .text s := by
  cases v <;> simp [equal]

theorem lookup_text_eq_none_iff {entries : List (Value × Value)} {name : String} :
    lookup entries (.text name) = none ↔ ∀ entry ∈ entries, entry.1 ≠ .text name := by
  simp [lookup]

def items? : Value → Option (List Value)
  | .list items | .tuple items => some items
  | _ => none

end Value

namespace Schema

theorem mismatch_ne_ok {path : Path} {cause : Mismatch} {v : Value} :
    mismatch path cause ≠ .ok v := by
  simp [mismatch]

variable {path : Path} {raw v : Value}

section Scalars

attribute [local simp] load mismatch

theorem load_text_eq_ok_iff : text.load path raw = .ok v ↔ v = raw ∧ ∃ s, raw = .text s := by
  cases raw <;> simp [eq_comm]

theorem load_int_eq_ok_iff : int.load path raw = .ok v ↔ v = raw ∧ ∃ n, raw = .int n := by
  cases raw <;> simp [eq_comm]

theorem load_float_eq_ok_iff : float.load path raw = .ok v ↔ v = raw ∧ ∃ x, raw = .float x := by
  cases raw <;> simp [eq_comm]

theorem load_bool_eq_ok_iff : bool.load path raw = .ok v ↔ v = raw ∧ ∃ b, raw = .bool b := by
  cases raw <;> simp [eq_comm]

end Scalars

theorem load_literal_eq_ok_iff {choices : List Value} :
    (literal choices).load path raw = .ok v ↔ v = raw ∧ ∃ choice ∈ choices, choice.equal raw = true := by
  simp only [load, loadLiteral]
  split
  · next h =>
    rw [List.any_eq_true] at h
    rw [Except.ok.injEq, eq_comm, and_iff_left h]
  · next h =>
    rw [List.any_eq_true] at h
    simp [h, mismatch]

theorem loadItems_eq_ok_iff {load : Path → Value → Except LoadError Value} {index : Nat}
    {raws vs : List Value} :
    loadItems load path index raws = .ok vs ↔
      List.Forall₂ (fun entry v ↦ load (path.push (.item entry.2)) entry.1 = .ok v)
        (raws.zipIdx index) vs := by
  induction raws generalizing index vs with
  | nil => simp [loadItems, eq_comm]
  | cons raw rest ih =>
    rw [List.zipIdx_cons, List.forall₂_cons_left_iff]
    simp only [loadItems, bind_eq_ok_iff, pure_eq_ok_iff, ih]
    constructor
    · rintro ⟨v, hv, vs, hvs, rfl⟩
      exact ⟨v, vs, hv, hvs, rfl⟩
    · rintro ⟨v, vs, hv, hvs, rfl⟩
      exact ⟨v, hv, vs, hvs, rfl⟩

theorem loadSequence_eq_ok_iff {load : Path → Value → Except LoadError Value} {vs : List Value} :
    loadSequence load path raw = .ok vs ↔
      ∃ raws, raw.items? = some raws ∧
        List.Forall₂ (fun entry v ↦ load (path.push (.item entry.2)) entry.1 = .ok v)
          raws.zipIdx vs := by
  cases raw <;> simp [loadSequence, Value.items?, loadItems_eq_ok_iff]

theorem load_list_eq_ok_iff {item : Schema} :
    (list item).load path raw = .ok v ↔
      ∃ vs, loadSequence (fun p w ↦ item.load p w) path raw = .ok vs ∧ v = .list vs := by
  simp only [load, bind_eq_ok_iff, pure_eq_ok_iff]

theorem load_tupleOf_eq_ok_iff {item : Schema} :
    (tupleOf item).load path raw = .ok v ↔
      ∃ vs, loadSequence (fun p w ↦ item.load p w) path raw = .ok vs ∧ v = .tuple vs := by
  simp only [load, bind_eq_ok_iff, pure_eq_ok_iff]

/-- An entry is loaded as another one, whose key can be a key. -/
def LoadsEntry (loadKey loadValue : Path → Value → Except LoadError Value) (path : Path)
    (entry pair : Value × Value) : Prop :=
  loadKey (path.push .key) entry.1 = .ok pair.1 ∧
    loadValue (path.push (.entry entry.1)) entry.2 = .ok pair.2 ∧ pair.1.unkeyable? = none

theorem loadEntries_eq_ok_iff {loadKey loadValue : Path → Value → Except LoadError Value}
    {filled entries loaded : List (Value × Value)} :
    loadEntries loadKey loadValue path filled entries = .ok loaded ↔
      ∃ pairs, List.Forall₂ (LoadsEntry loadKey loadValue path) entries pairs ∧
        loaded = pairs.foldl (fun filled pair ↦ Value.insert pair.1 pair.2 filled) filled := by
  induction entries generalizing filled with
  | nil => simp [loadEntries, eq_comm]
  | cons entry rest ih =>
    obtain ⟨k, w⟩ := entry
    simp only [loadEntries, bind_eq_ok_iff]
    constructor
    · rintro ⟨key, hkey, value, hvalue, h⟩
      split at h
      · cases h
      · next hkeyable =>
        obtain ⟨pairs, hpairs, rfl⟩ := ih.mp h
        exact ⟨(key, value) :: pairs, .cons ⟨hkey, hvalue, hkeyable⟩ hpairs, rfl⟩
    · rintro ⟨pairs, hpairs, rfl⟩
      obtain ⟨⟨key, value⟩, later, ⟨hkey, hvalue, hkeyable⟩, hlater, rfl⟩ :=
        List.forall₂_cons_left_iff.mp hpairs
      refine ⟨key, hkey, value, hvalue, ?_⟩
      rw [hkeyable]
      exact ih.mpr ⟨later, hlater, rfl⟩

theorem load_mapping_eq_ok_iff {key value : Schema} :
    (mapping key value).load path raw = .ok v ↔
      ∃ entries pairs, raw = .mapping entries ∧
        List.Forall₂ (LoadsEntry (fun p w ↦ key.load p w) (fun p w ↦ value.load p w) path)
          entries pairs ∧
        v = .mapping (Value.entriesOf pairs) := by
  cases raw with
  | mapping entries =>
    simp only [load, bind_eq_ok_iff, pure_eq_ok_iff, loadEntries_eq_ok_iff]
    constructor
    · rintro ⟨loaded, ⟨pairs, hpairs, rfl⟩, rfl⟩
      exact ⟨entries, pairs, rfl, hpairs, rfl⟩
    · rintro ⟨_, pairs, ⟨⟩, hpairs, rfl⟩
      exact ⟨_, ⟨pairs, hpairs, rfl⟩, rfl⟩
  | _ => simp [load, mismatch]

theorem loadAlternative_eq_ok {causes : List LoadError} {options : List Schema}
    (h : loadAlternative path raw causes options = .ok v) :
    ∃ option ∈ options, option.load path raw = .ok v := by
  induction options generalizing causes with
  | nil => simp [loadAlternative] at h
  | cons option rest ih =>
    have hlater {causes : List LoadError} (h : loadAlternative path raw causes rest = .ok v) :
        ∃ chosen ∈ option :: rest, chosen.load path raw = .ok v := by
      obtain ⟨chosen, hmem, hload⟩ := ih h
      exact ⟨chosen, .tail _ hmem, hload⟩
    rw [loadAlternative] at h
    split at h
    · exact hlater h
    · split at h
      · next loaded hload =>
        cases h
        exact ⟨option, .head _, hload⟩
      · split at h
        · exact hlater h
        · cases h

theorem load_union_eq_ok {options : List Schema} (h : (union options).load path raw = .ok v) :
    (raw = .null ∧ v = .null ∧ options.any isNothing = true) ∨
      ∃ option ∈ options, option.load path raw = .ok v := by
  cases raw with
  | null =>
    simp only [load] at h
    split at h
    · next hnothing =>
      cases h
      exact .inl ⟨rfl, rfl, hnothing⟩
    · exact absurd h mismatch_ne_ok
  | _ => exact .inr (loadAlternative_eq_ok (by simpa only [load] using h))

theorem unknownKeys_eq_nil_iff {names : List String} {entries : List (Value × Value)} :
    unknownKeys names entries = [] ↔ ∀ entry ∈ entries, ∃ name ∈ names, entry.1 = .text name := by
  have hsort (texts : List String) : sortTexts texts = [] ↔ texts = [] := by
    rw [← List.length_eq_zero_iff, ← List.length_eq_zero_iff, sortTexts, List.length_mergeSort]
  simp [unknownKeys, hsort]

/-- What a field becomes, where `fits` tells what a value that is given may become. -/
inductive Outcome (entries : List (Value × Value)) (name : String) (rule : FieldRule)
    (isOptional : Bool) (fits : Value → Value → Prop) : Option Value → Prop
  | given {raw v : Value} : rule.loadable = true →
    Value.lookup entries (.text name) = some raw → fits raw v →
    Outcome entries name rule isOptional fits (some v)
  | absent {v : Value} : (rule.loadable = true → Value.lookup entries (.text name) = none) →
    rule.default = some v → Outcome entries name rule isOptional fits (some v)
  | nothing : rule.loadable = true → Value.lookup entries (.text name) = none →
    rule.default = none → isOptional = true →
    Outcome entries name rule isOptional fits (some .null)
  | without : rule.loadable = false → rule.default = none →
    Outcome entries name rule isOptional fits none

theorem Outcome.imp {entries : List (Value × Value)} {name : String} {rule : FieldRule}
    {isOptional : Bool} {fits fits' : Value → Value → Prop} {value : Option Value}
    (himp : ∀ raw v, fits raw v → fits' raw v)
    (h : Outcome entries name rule isOptional fits value) :
    Outcome entries name rule isOptional fits' value := by
  cases h with
  | given hloadable hgiven hfits => exact .given hloadable hgiven (himp _ _ hfits)
  | absent habsent hdefault => exact .absent habsent hdefault
  | nothing hloadable habsent hdefault hoptional =>
    exact .nothing hloadable habsent hdefault hoptional
  | without hloadable hdefault => exact .without hloadable hdefault

theorem loadFields_cons_eq_ok_iff {entries : List (Value × Value)} {name : String} {rule : FieldRule}
    {schema : Schema} {rest : List (String × FieldRule × Schema)} {loaded : List (String × Value)} :
    loadFields path entries ((name, rule, schema) :: rest) = .ok loaded ↔
      ∃ value later, Outcome entries name rule schema.isOptional
          (fun raw v ↦ schema.load (path.push (.field name)) raw = .ok v) value ∧
        loadFields path entries rest = .ok later ∧
        loaded = value.toList.map (fun v ↦ (name, v)) ++ later := by
  constructor
  · intro h
    rw [loadFields] at h
    split at h
    · next hloadable hgiven =>
      obtain ⟨v, hv, h⟩ := bind_eq_ok_iff.mp h
      obtain ⟨later, hlater, h⟩ := bind_eq_ok_iff.mp h
      exact ⟨some v, later, .given hloadable hgiven hv, hlater, pure_eq_ok_iff.mp h⟩
    · next v hdefault hnotGiven =>
      obtain ⟨later, hlater, h⟩ := bind_eq_ok_iff.mp h
      refine ⟨some v, later, .absent ?_ hdefault, hlater, pure_eq_ok_iff.mp h⟩
      intro hloadable
      exact Option.eq_none_iff_forall_ne_some.mpr fun raw hraw ↦ hnotGiven raw hloadable hraw
    · next hloadable hdefault => exact ⟨none, loaded, .without hloadable hdefault, h, rfl⟩
    · next hloadable habsent hdefault =>
      split at h
      · next hoptional =>
        obtain ⟨later, hlater, h⟩ := bind_eq_ok_iff.mp h
        exact ⟨some .null, later, .nothing hloadable habsent hdefault hoptional, hlater,
          pure_eq_ok_iff.mp h⟩
      · cases h
  · rintro ⟨value, later, houtcome, hlater, rfl⟩
    rw [loadFields]
    cases houtcome with
    | given hloadable hgiven hv =>
      simp only [hloadable, hgiven, hv, hlater]
      rfl
    | absent habsent hdefault =>
      cases hloadable : rule.loadable with
      | false =>
        simp only [hdefault, hlater]
        rfl
      | true =>
        simp only [habsent hloadable, hdefault, hlater]
        rfl
    | nothing hloadable habsent hdefault hoptional =>
      simp only [hloadable, habsent, hdefault, hoptional, hlater]
      rfl
    | without hloadable hdefault =>
      simp only [hloadable, hdefault, hlater]
      rfl

theorem load_record_eq_ok_iff {name : String} {fields : List (String × FieldRule × Schema)}
    {check : List (String × Value) → Option String} :
    (record name fields check).load path raw = .ok v ↔
      ∃ entries loaded, raw = .mapping entries ∧
        (∀ entry ∈ entries, ∃ field ∈ fields, field.2.1.loadable = true ∧ entry.1 = .text field.1) ∧
        loadFields path entries fields = .ok loaded ∧ check loaded = none ∧
        v = .record name loaded := by
  cases raw with
  | mapping entries =>
    have hkeys : unknownKeys ((fields.filter (·.2.1.loadable)).map (·.1)) entries = [] ↔
        ∀ entry ∈ entries, ∃ field ∈ fields, field.2.1.loadable = true ∧ entry.1 = .text field.1 := by
      rw [unknownKeys_eq_nil_iff]
      refine forall₂_congr fun entry _ ↦ ?_
      simp only [List.mem_map, List.mem_filter]
      grind
    rw [load]
    constructor
    · intro h
      split at h
      · next hnil =>
        obtain ⟨loaded, hloaded, h⟩ := bind_eq_ok_iff.mp h
        split at h
        · exact absurd h mismatch_ne_ok
        · next hcheck =>
          exact ⟨entries, loaded, rfl, hkeys.mp hnil, hloaded, hcheck, pure_eq_ok_iff.mp h⟩
      · exact absurd h mismatch_ne_ok
    · rintro ⟨_, loaded, ⟨⟩, hknown, hloaded, hcheck, rfl⟩
      rw [hkeys.mpr hknown]
      refine bind_eq_ok_iff.mpr ⟨loaded, hloaded, ?_⟩
      rw [hcheck]
      rfl
  | _ => simp [load, mismatch]

end Schema

end Tokenry
