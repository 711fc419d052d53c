import Mathlib
import Tokenry.Grammar.Config
import Tokenry.Proofs.Schema.Load
import Tokenry.Proofs.Value

namespace Tokenry

namespace Value

mutual

/-- A value as raw data: a record becomes the mapping of its fields, a sequence a list and a member
its name. -/
def dump : Value → Value
  | .list items | .tuple items => .list (dumpItems items)
  | .mapping entries => .mapping (dumpEntries entries)
  | .member _ name _ => .text name
  | .record _ fields => .mapping (dumpFields fields)
  | v => v

def dumpItems : List Value → List Value
  | [] => []
  | v :: rest => v.dump :: dumpItems rest

def dumpEntries : List (Value × Value) → List (Value × Value)
  | [] => []
  | (k, v) :: rest => (k, v.dump) :: dumpEntries rest

def dumpFields : List (String × Value) → List (Value × Value)
  | [] => []
  | (name, v) :: rest => (.text name, v.dump) :: dumpFields rest

end

theorem dump_eq_null_iff {v : Value} : v.dump = .null ↔ v = .null := by
  cases v <;> simp [dump]

theorem lookup_append_cons {before : List (Value × Value)} {name : String}
    (later : List (Value × Value)) (v : Value) (h : ∀ entry ∈ before, entry.1 ≠ .text name) :
    lookup (before ++ (.text name, v) :: later) (.text name) = some v := by
  have hbefore : before.find? (fun entry ↦ entry.1.equal (.text name)) = none := by simpa using h
  simp [lookup, List.find?_append, hbefore]

end Value

namespace Enumeration

def IsCanonical (e : Enumeration) (v : Value) : Prop :=
  ∃ before name value after, e.members = before ++ (name, value) :: after ∧
    (∀ m ∈ before, m.1 ≠ name ∧ m.2.equal value = false) ∧ v = .member e.name name value

theorem ofName?_of_isCanonical {e : Enumeration} {v : Value} (h : e.IsCanonical v) :
    ∃ name, v.dump = .text name ∧ e.ofName? name = some v := by
  obtain ⟨before, name, value, after, hmembers, hbefore, rfl⟩ := h
  refine ⟨name, by simp [Value.dump], ?_⟩
  have hlookup : e.members.lookup name = some value := by
    rw [List.lookup_eq_some_iff]
    exact ⟨before, after, hmembers, fun m hm ↦ by simpa using (hbefore m hm).1.symm⟩
  have hearlier : e.members.takeWhile (·.1 != name) = before := by
    rw [hmembers, List.takeWhile_append_of_pos fun m hm ↦ by simpa using (hbefore m hm).1]
    simp
  have hfind : before.find? (fun m ↦ m.2.equal value) = none := by
    rw [List.find?_eq_none]
    intro m hm
    simp [(hbefore m hm).2]
  simp [ofName?, hlookup, hearlier, hfind]

end Enumeration

namespace Schema

/-- The schemas whose values can be dumped. -/
inductive Dumpable : Schema → Prop
  | text : Dumpable .text
  | int : Dumpable .int
  | float : Dumpable .float
  | bool : Dumpable .bool
  | enumeration (e : Enumeration) : Dumpable (.enumeration e)
  | list {item : Schema} : Dumpable item → Dumpable (.list item)
  | tupleOf {item : Schema} : Dumpable item → Dumpable (.tupleOf item)
  | mapping {value : Schema} : Dumpable value → Dumpable (.mapping .text value)
  | union {schema : Schema} {options : List Schema} :
    options = [schema, .nothing] ∨ options = [.nothing, schema] → Dumpable schema →
    Dumpable (.union options)
  | record {name : String} {fields : List (String × FieldRule × Schema)}
    {check : List (String × Value) → Option String} :
    (fields.map (·.1)).Nodup → (∀ field ∈ fields, field.2.1.loadable = true) →
    (∀ field ∈ fields, Dumpable field.2.2) → Dumpable (.record name fields check)

theorem Dumpable.isNothing_eq_false {schema : Schema} (h : schema.Dumpable) :
    schema.isNothing = false := by
  cases h <;> rfl

theorem same_nothing (schema : Schema) : schema.same .nothing = schema.isNothing := by
  cases schema <;> simp [same, isNothing]

theorem nothing_same (schema : Schema) : nothing.same schema = schema.isNothing := by
  cases schema <;> simp [same, isNothing]

theorem optional_eq_union {schema : Schema} (h : schema.isNothing = false)
    (hself : schema.options = [schema]) : optional schema = .union [schema, .nothing] := by
  rw [optional, ofAlternatives, List.flatMap_cons, hself]
  simp [options, distinct, same_nothing, h]

theorem optional_union {schema : Schema} {alternatives : List Schema} (h : schema.isNothing = false)
    (halternatives : alternatives = [schema, .nothing] ∨ alternatives = [.nothing, schema]) :
    optional (.union alternatives) = .union alternatives := by
  have hnothing : nothing.isNothing = true := rfl
  rcases halternatives with rfl | rfl <;>
    simp [optional, ofAlternatives, options, distinct, hnothing, same_nothing, nothing_same, h]

theorem Dumpable.optional {schema : Schema} (h : schema.Dumpable) :
    (Schema.optional schema).Dumpable := by
  have hplain (hself : schema.options = [schema]) : (Schema.optional schema).Dumpable := by
    rw [optional_eq_union h.isNothing_eq_false hself]
    exact .union (.inl rfl) h
  cases h with
  | union hoptions h =>
    rw [optional_union h.isNothing_eq_false hoptions]
    exact .union hoptions h
  | _ => exact hplain rfl

mutual

/-- The values of a schema that can be dumped. -/
def Holds : Schema → Value → Prop
  | .text, v => ∃ s, v = .text s
  | .int, v => ∃ n, v = .int n
  | .float, v => ∃ x, v = .float x
  | .bool, v => ∃ b, v = .bool b
  | .enumeration e, v => e.IsCanonical v
  | .list item, v => ∃ vs, v = .list vs ∧ ∀ w ∈ vs, item.Holds w
  | .tupleOf item, v => ∃ vs, v = .tuple vs ∧ ∀ w ∈ vs, item.Holds w
  | .mapping key value, v =>
    ∃ entries, v = .mapping entries ∧ (entries.Pairwise fun a b ↦ a.1.equal b.1 = false) ∧
      ∀ entry ∈ entries, key.Holds entry.1 ∧ value.Holds entry.2
  | .union options, v => (v = .null ∧ options.any isNothing = true) ∨ HoldsOne options v
  | .record name fields check, v =>
    ∃ values, v = .record name values ∧ FieldsHold fields values ∧ check values = none
  | _, _ => False

def HoldsOne : List Schema → Value → Prop
  | [], _ => False
  | option :: rest, v => option.Holds v ∨ HoldsOne rest v

def FieldsHold : List (String × FieldRule × Schema) → List (String × Value) → Prop
  | [], values => values = []
  | (name, _, schema) :: rest, values =>
    ∃ v later, values = (name, v) :: later ∧ schema.Holds v ∧ FieldsHold rest later

end

/-- A field that has its value again after it has been left out: the value is the default, or
nothing where the schema allows that and there is no default. -/
def Restorable (rule : FieldRule) (isOptional : Bool) (v : Value) : Prop :=
  rule.default = some v ∨ (rule.default = none ∧ isOptional = true ∧ v = .null)

mutual

/-- Raw data for a value: what it is dumped as, where restorable fields may be missing from the
mappings that stand for records. -/
def WrittenAs : Schema → Value → Value → Prop
  | .list item, v, raw =>
    ∃ vs raws, v = .list vs ∧ raw = .list raws ∧ List.Forall₂ (fun w r ↦ item.WrittenAs w r) vs raws
  | .tupleOf item, v, raw =>
    ∃ vs raws, v = .tuple vs ∧ raw = .list raws ∧ List.Forall₂ (fun w r ↦ item.WrittenAs w r) vs raws
  | .mapping _ value, v, raw =>
    ∃ entries raws, v = .mapping entries ∧ raw = .mapping raws ∧
      List.Forall₂ (fun entry r ↦ r.1 = entry.1 ∧ value.WrittenAs entry.2 r.2) entries raws
  | .union options, v, raw => (v = .null ∧ raw = .null) ∨ WrittenAsOne options v raw
  | .record name fields _, v, raw =>
    ∃ values raws, v = .record name values ∧ raw = .mapping raws ∧ FieldsWritten fields values raws
  | .text, v, raw | .int, v, raw | .float, v, raw | .bool, v, raw | .enumeration _, v, raw =>
    raw = v.dump
  | _, _, _ => False

def WrittenAsOne : List Schema → Value → Value → Prop
  | [], _, _ => False
  | option :: rest, v, raw => option.WrittenAs v raw ∨ WrittenAsOne rest v raw

def FieldsWritten :
    List (String × FieldRule × Schema) → List (String × Value) → List (Value × Value) → Prop
  | [], values, raws => values = [] ∧ raws = []
  | (name, rule, schema) :: rest, values, raws =>
    ∃ v later, values = (name, v) :: later ∧
      ((∃ raw laterRaws, raws = (.text name, raw) :: laterRaws ∧ schema.WrittenAs v raw ∧
          FieldsWritten rest later laterRaws) ∨
        (Restorable rule schema.isOptional v ∧ FieldsWritten rest later raws))

end

section Nothing

variable {schema : Schema} {options : List Schema} {v raw : Value}

theorem holds_union_iff (hoptions : options = [schema, .nothing] ∨ options = [.nothing, schema]) :
    (union options).Holds v ↔ v = .null ∨ schema.Holds v := by
  rcases hoptions with rfl | rfl <;> simp [Holds, HoldsOne, isNothing]

theorem writtenAs_union_iff (hoptions : options = [schema, .nothing] ∨ options = [.nothing, schema]) :
    (union options).WrittenAs v raw ↔ (v = .null ∧ raw = .null) ∨ schema.WrittenAs v raw := by
  rcases hoptions with rfl | rfl <;> simp [WrittenAs, WrittenAsOne]

theorem load_union_null (hoptions : options = [schema, .nothing] ∨ options = [.nothing, schema])
    (path : Path) : (union options).load path .null = .ok .null := by
  rcases hoptions with rfl | rfl <;> simp [load, isNothing]

theorem load_union_cases (hoptions : options = [schema, .nothing] ∨ options = [.nothing, schema])
    {path : Path} (hload : (union options).load path raw = .ok v) :
    (raw = .null ∧ v = .null) ∨ schema.load path raw = .ok v := by
  rcases load_union_eq_ok hload with ⟨hraw, hv, -⟩ | ⟨option, hmem, hoption⟩
  · exact .inl ⟨hraw, hv⟩
  · have hoption' : option = schema ∨ option = .nothing := by
      rcases hoptions with rfl | rfl <;> simpa [or_comm] using hmem
    rcases hoption' with rfl | rfl
    · exact .inr hoption
    · exact absurd hoption mismatch_ne_ok

theorem load_union_of_load (hoptions : options = [schema, .nothing] ∨ options = [.nothing, schema])
    (h : schema.isNothing = false) {path : Path} (hraw : raw ≠ .null)
    (hload : schema.load path raw = .ok v) : (union options).load path raw = .ok v := by
  have hunion : (union options).load path raw = loadAlternative path raw [] options := by
    cases raw with
    | null => exact absurd rfl hraw
    | _ => simp only [load]
  rw [hunion]
  have hskip : nothing.isNothing = true := rfl
  rcases hoptions with rfl | rfl <;> simp [loadAlternative, hskip, h, hload]

theorem Dumpable.eq_null_iff_of_writtenAs (h : schema.Dumpable) (hraw : schema.WrittenAs v raw) :
    raw = .null ↔ v = .null := by
  induction h with
  | text | int | float | bool | enumeration =>
    obtain rfl := hraw
    exact Value.dump_eq_null_iff
  | list | tupleOf | mapping | record =>
    obtain ⟨_, _, rfl, rfl, -⟩ := hraw
    simp
  | union hoptions _ ih =>
    rcases (writtenAs_union_iff hoptions).mp hraw with ⟨rfl, rfl⟩ | hraw
    · exact Iff.rfl
    · exact ih hraw

end Nothing

theorem forall₂_dumpItems {item : Schema} {vs : List Value}
    (h : ∀ v ∈ vs, item.WrittenAs v v.dump) :
    List.Forall₂ (fun w r ↦ item.WrittenAs w r) vs (Value.dumpItems vs) := by
  induction vs with
  | nil => exact .nil
  | cons v rest ih =>
    obtain ⟨hv, hrest⟩ := List.forall_mem_cons.mp h
    exact .cons hv (ih hrest)

theorem forall₂_dumpEntries {value : Schema} {entries : List (Value × Value)}
    (h : ∀ entry ∈ entries, value.WrittenAs entry.2 entry.2.dump) :
    List.Forall₂ (fun entry r ↦ r.1 = entry.1 ∧ value.WrittenAs entry.2 r.2) entries
      (Value.dumpEntries entries) := by
  induction entries with
  | nil => exact .nil
  | cons entry rest ih =>
    obtain ⟨hentry, hrest⟩ := List.forall_mem_cons.mp h
    exact .cons ⟨rfl, hentry⟩ (ih hrest)

theorem fieldsWritten_dumpFields {fields : List (String × FieldRule × Schema)}
    {values : List (String × Value)}
    (h : ∀ field ∈ fields, ∀ v, field.2.2.Holds v → field.2.2.WrittenAs v v.dump)
    (hvalues : FieldsHold fields values) :
    FieldsWritten fields values (Value.dumpFields values) := by
  induction fields generalizing values with
  | nil =>
    cases hvalues
    exact ⟨rfl, rfl⟩
  | cons field rest ih =>
    obtain ⟨name, rule, schema⟩ := field
    obtain ⟨hschema, hrest⟩ := List.forall_mem_cons.mp h
    obtain ⟨v, later, rfl, hv, hlater⟩ := hvalues
    exact ⟨v, later, rfl, .inl ⟨v.dump, _, rfl, hschema v hv, ih hrest hlater⟩⟩

theorem Dumpable.writtenAs_dump {schema : Schema} (h : schema.Dumpable) {v : Value}
    (hv : schema.Holds v) : schema.WrittenAs v v.dump := by
  induction h generalizing v with
  | text | int | float | bool | enumeration => rfl
  | list _ ih =>
    obtain ⟨vs, rfl, hvs⟩ := hv
    exact ⟨vs, _, rfl, rfl, forall₂_dumpItems fun w hw ↦ ih (hvs w hw)⟩
  | tupleOf _ ih =>
    obtain ⟨vs, rfl, hvs⟩ := hv
    exact ⟨vs, _, rfl, rfl, forall₂_dumpItems fun w hw ↦ ih (hvs w hw)⟩
  | mapping _ ih =>
    obtain ⟨entries, rfl, -, hentries⟩ := hv
    exact ⟨entries, _, rfl, rfl, forall₂_dumpEntries fun entry hentry ↦ ih (hentries entry hentry).2⟩
  | union hoptions _ ih =>
    rw [writtenAs_union_iff hoptions]
    rcases (holds_union_iff hoptions).mp hv with rfl | hv
    · exact .inl ⟨rfl, by simp [Value.dump]⟩
    · exact .inr (ih hv)
  | record _ _ _ ih =>
    obtain ⟨values, rfl, hvalues, -⟩ := hv
    exact ⟨values, _, rfl, rfl,
      fieldsWritten_dumpFields (fun field hfield v ↦ ih field hfield) hvalues⟩

theorem loadItems_of_forall₂ {load : Path → Value → Except LoadError Value} {vs raws : List Value}
    (h : List.Forall₂ (fun v raw ↦ ∀ path, load path raw = .ok v) vs raws) (path : Path)
    (index : Nat) : loadItems load path index raws = .ok vs := by
  induction h generalizing index with
  | nil => rfl
  | cons hv _ ih =>
    rw [loadItems, hv, ih]
    rfl

theorem mem_fields_of_fieldsWritten {fields : List (String × FieldRule × Schema)}
    {values : List (String × Value)} {raws : List (Value × Value)}
    (h : FieldsWritten fields values raws) :
    ∀ entry ∈ raws, ∃ field ∈ fields, entry.1 = .text field.1 := by
  induction fields generalizing values raws with
  | nil => simp [h.2]
  | cons field rest ih =>
    obtain ⟨v, later, -, ⟨raw, laterRaws, rfl, -, hlater⟩ | ⟨-, hlater⟩⟩ := h
    · rintro entry (_ | ⟨_, hentry⟩)
      · exact ⟨field, .head _, rfl⟩
      · obtain ⟨other, hother, heq⟩ := ih hlater entry hentry
        exact ⟨other, .tail _ hother, heq⟩
    · intro entry hentry
      obtain ⟨other, hother, heq⟩ := ih hlater entry hentry
      exact ⟨other, .tail _ hother, heq⟩

theorem loadFields_of_fieldsWritten {fields : List (String × FieldRule × Schema)}
    {values : List (String × Value)} {raws before : List (Value × Value)} {path : Path}
    (hnames : (fields.map (·.1)).Nodup)
    (hloadable : ∀ field ∈ fields, field.2.1.loadable = true)
    (hload : ∀ field ∈ fields, ∀ path v raw, field.2.2.Holds v → field.2.2.WrittenAs v raw →
      field.2.2.load path raw = .ok v)
    (hvalues : FieldsHold fields values) (hwritten : FieldsWritten fields values raws)
    (hbefore : ∀ entry ∈ before, ∀ field ∈ fields, entry.1 ≠ .text field.1) :
    loadFields path (before ++ raws) fields = .ok values := by
  induction fields generalizing values raws before with
  | nil =>
    cases hvalues
    rfl
  | cons field rest ih =>
    obtain ⟨name, rule, schema⟩ := field
    obtain ⟨hname, hnames⟩ := List.nodup_cons.mp hnames
    obtain ⟨hrule, hloadable⟩ := List.forall_mem_cons.mp hloadable
    obtain ⟨hschema, hload⟩ := List.forall_mem_cons.mp hload
    obtain ⟨v, later, rfl, hv, hlater⟩ := hvalues
    have hfresh : ∀ entry ∈ before, entry.1 ≠ .text name :=
      fun entry hentry ↦ hbefore entry hentry _ (.head _)
    have hother : ∀ field ∈ rest, Value.text name ≠ .text field.1 := by
      intro other hother heq
      exact hname (List.mem_map.mpr ⟨other, hother, (Value.text.inj heq).symm⟩)
    rw [loadFields_cons_eq_ok_iff]
    obtain ⟨_, _, ⟨⟩, ⟨raw, laterRaws, rfl, hraw, hrest⟩ | ⟨hrestorable, hrest⟩⟩ := hwritten
    · have hgiven := Value.lookup_append_cons laterRaws raw hfresh
      refine ⟨some v, later, .given hrule hgiven (hschema _ _ _ hv hraw), ?_, rfl⟩
      -- the entry joins those before, where no later field looks for its name
      rw [List.append_cons]
      refine ih hnames hloadable hload hlater hrest ?_
      intro entry hentry field hfield
      rcases List.mem_append.mp hentry with hentry | hentry
      · exact hbefore entry hentry field (.tail _ hfield)
      · obtain rfl := List.mem_singleton.mp hentry
        exact hother field hfield
    · have habsent : Value.lookup (before ++ raws) (.text name) = none := by
        rw [Value.lookup_text_eq_none_iff]
        intro entry hentry
        rcases List.mem_append.mp hentry with hentry | hentry
        · exact hfresh entry hentry
        · obtain ⟨field, hfield, heq⟩ := mem_fields_of_fieldsWritten hrest entry hentry
          rw [heq]
          exact (hother field hfield).symm
      have hlaterFields := ih hnames hloadable hload hlater hrest
        fun entry hentry field hfield ↦ hbefore entry hentry field (.tail _ hfield)
      rcases hrestorable with hdefault | ⟨hdefault, hoptional, rfl⟩
      · exact ⟨some v, later, .absent (fun _ ↦ habsent) hdefault, hlaterFields, rfl⟩
      · exact ⟨some .null, later, .nothing hrule habsent hdefault hoptional, hlaterFields, rfl⟩

theorem Dumpable.load_of_writtenAs {schema : Schema} (h : schema.Dumpable) {v raw : Value}
    (hv : schema.Holds v) (hraw : schema.WrittenAs v raw) (path : Path) :
    schema.load path raw = .ok v := by
  induction h generalizing path v raw with
  | text | int | float | bool =>
    obtain ⟨_, rfl⟩ := hv
    obtain rfl := hraw
    simp [Value.dump, load]
  | enumeration e =>
    obtain rfl := hraw
    obtain ⟨name, hname, hmember⟩ := Enumeration.ofName?_of_isCanonical hv
    simp [hname, load, loadMember, hmember]
  | list _ ih =>
    obtain ⟨vs, rfl, hvs⟩ := hv
    obtain ⟨_, raws, ⟨⟩, rfl, hraws⟩ := hraw
    have hitems := (List.forall₂_and_left _ _).mpr ⟨hvs, hraws⟩
    rw [load_list_eq_ok_iff]
    exact ⟨vs, loadItems_of_forall₂ (hitems.imp fun _ _ h path ↦ ih h.1 h.2 path) path 0, rfl⟩
  | tupleOf _ ih =>
    obtain ⟨vs, rfl, hvs⟩ := hv
    obtain ⟨_, raws, ⟨⟩, rfl, hraws⟩ := hraw
    have hitems := (List.forall₂_and_left _ _).mpr ⟨hvs, hraws⟩
    rw [load_tupleOf_eq_ok_iff]
    exact ⟨vs, loadItems_of_forall₂ (hitems.imp fun _ _ h path ↦ ih h.1 h.2 path) path 0, rfl⟩
  | mapping _ ih =>
    obtain ⟨entries, rfl, hdistinct, hentries⟩ := hv
    obtain ⟨_, raws, ⟨⟩, rfl, hraws⟩ := hraw
    rw [load_mapping_eq_ok_iff]
    refine ⟨raws, entries, rfl, ?_, by rw [Value.entriesOf_eq_self hdistinct]⟩
    have hboth := (List.forall₂_and_left _ _).mpr ⟨hentries, hraws⟩
    refine List.Forall₂.flip (hboth.imp ?_)
    rintro ⟨key, w⟩ ⟨key', r⟩ ⟨⟨⟨s, rfl⟩, hw⟩, rfl, hr⟩
    exact ⟨by simp [load], ih hw hr _, rfl⟩
  | union hoptions h ih =>
    rcases (writtenAs_union_iff hoptions).mp hraw with ⟨rfl, rfl⟩ | hraw
    · exact load_union_null hoptions path
    · -- only nothing is written as nothing, so the alternatives are asked about all else
      have hnull := h.eq_null_iff_of_writtenAs hraw
      rcases (holds_union_iff hoptions).mp hv with rfl | hv
      · rw [hnull.mpr rfl]
        exact load_union_null hoptions path
      · by_cases hne : raw = .null
        · rw [hne, hnull.mp hne]
          exact load_union_null hoptions path
        · exact load_union_of_load hoptions h.isNothing_eq_false hne (ih hv hraw path)
  | record hnames hloadable _ ih =>
    obtain ⟨values, rfl, hvalues, hcheck⟩ := hv
    obtain ⟨_, raws, ⟨⟩, rfl, hraws⟩ := hraw
    have hknown := mem_fields_of_fieldsWritten hraws
    rw [load_record_eq_ok_iff]
    refine ⟨raws, values, rfl, ?_, ?_, hcheck, rfl⟩
    · intro entry hentry
      obtain ⟨field, hfield, heq⟩ := hknown entry hentry
      exact ⟨field, hfield, hloadable field hfield, heq⟩
    · rw [← List.nil_append raws]
      exact loadFields_of_fieldsWritten hnames hloadable
        (fun field hfield path v raw hv hraw ↦ ih field hfield hv hraw path) hvalues hraws (by simp)

end Schema

namespace Grammar

def textValue : Option String → Value
  | some s => .text s
  | none => .null

def intValue : Option Int → Value
  | some n => .int n
  | none => .null

@[simp] theorem textOf?_textValue (o : Option String) : textOf? (textValue o) = o := by
  cases o <;> rfl

@[simp] theorem intOf?_intValue (o : Option Int) : intOf? (intValue o) = o := by
  cases o <;> rfl

theorem holds_textValue (o : Option String) : (Schema.optional .text).Holds (textValue o) := by
  cases o with
  | none => exact .inl ⟨rfl, rfl⟩
  | some s => exact .inr (.inl ⟨s, rfl⟩)

theorem holds_intValue (o : Option Int) : (Schema.optional .int).Holds (intValue o) := by
  cases o with
  | none => exact .inl ⟨rfl, rfl⟩
  | some n => exact .inr (.inl ⟨n, rfl⟩)

namespace TokenConfig

def fields (t : TokenConfig) : List (String × Value) :=
  [("name", .text t.name), ("exact", textValue t.exact), ("regex", textValue t.regex),
    ("capture", intValue t.capture), ("doc", textValue t.doc)]

def toValue (t : TokenConfig) : Value := .record "TokenDeclCfg" t.fields

@[simp] theorem ofFields_fields (t : TokenConfig) : ofFields t.fields = t := by
  have hname : textOf? (.text t.name) = some t.name := rfl
  simp [ofFields, fields, fieldOf, List.lookup, hname]

theorem dumpable_schema : schema.Dumpable := by
  refine .record (by decide) (by simp [optionalField]) ?_
  simp [optionalField, Schema.Dumpable.text, Schema.Dumpable.int, Schema.Dumpable.optional]

theorem holds_toValue {t : TokenConfig} (h : t.mistake? = none) : schema.Holds t.toValue := by
  refine ⟨t.fields, rfl, ?_, by simpa using h⟩
  exact ⟨_, _, rfl, ⟨t.name, rfl⟩, _, _, rfl, holds_textValue _, _, _, rfl, holds_textValue _,
    _, _, rfl, holds_intValue _, _, _, rfl, holds_textValue _, rfl⟩

end TokenConfig

namespace Config

def fields (c : Config) : List (String × Value) :=
  [("tokens", .list (c.tokens.map (·.toValue))), ("skip", textValue c.skip)]

def toValue (c : Config) : Value := .record "GrammarCfg" c.fields

@[simp] theorem ofFields_fields (c : Config) : ofFields c.fields = c := by
  have htokens (tokens : List TokenConfig) :
      (tokens.map (·.toValue)).filterMap TokenConfig.ofValue? = tokens := by
    simp [List.filterMap_map, Function.comp_def, TokenConfig.toValue, TokenConfig.ofValue?]
  simp [ofFields, fields, fieldOf, List.lookup, htokens]

theorem dumpable_schema : schema.Dumpable := by
  refine .record (by decide) (by simp [optionalField]) ?_
  simp [optionalField, Schema.Dumpable.text, Schema.Dumpable.optional, Schema.Dumpable.list,
    TokenConfig.dumpable_schema]

theorem holds_toValue {c : Config} (h : c.mistake? = none)
    (htokens : ∀ t ∈ c.tokens, t.mistake? = none) : schema.Holds c.toValue := by
  have hlist : (Schema.list TokenConfig.schema).Holds (.list (c.tokens.map (·.toValue))) := by
    refine ⟨_, rfl, List.forall_mem_map.mpr ?_⟩
    intro t ht
    exact TokenConfig.holds_toValue (htokens t ht)
  refine ⟨c.fields, rfl, ?_, by simpa using h⟩
  exact ⟨_, _, rfl, hlist, _, _, rfl, holds_textValue _, rfl⟩

theorem load_eq {source : String} {raw : Value} {c : Config}
    (h : schema.load ⟨source, []⟩ raw = .ok c.toValue) : load source raw = .ok c := by
  simp [load, h, Except.map, toValue, ofValue]

end Config

end Grammar

namespace Schema

open Grammar (Config TokenConfig)

/-- Loading undoes dumping, and fields that come back by themselves may be left out before. The
documents of a grammar are a case of this: what their schemas hold are the configurations without a
mistake. -/
theorem load_dump :
    (∀ schema : Schema, schema.Dumpable → ∀ v, schema.Holds v → ∀ path,
      schema.load path v.dump = .ok v ∧
        ∀ raw, schema.WrittenAs v raw → schema.load path raw = .ok v) ∧
    (TokenConfig.schema.Dumpable ∧
      ∀ t : TokenConfig, t.mistake? = none → TokenConfig.schema.Holds t.toValue) ∧
    Config.schema.Dumpable ∧
      ∀ c : Config, c.mistake? = none → (∀ t ∈ c.tokens, t.mistake? = none) →
        Config.schema.Holds c.toValue ∧
          ∀ source, Config.load source c.toValue.dump = .ok c ∧
            ∀ raw, Config.schema.WrittenAs c.toValue raw → Config.load source raw = .ok c := by
  refine ⟨?_, ⟨TokenConfig.dumpable_schema, fun _ h ↦ TokenConfig.holds_toValue h⟩,
    Config.dumpable_schema, ?_⟩
  · intro schema h v hv path
    exact ⟨h.load_of_writtenAs hv (h.writtenAs_dump hv) path,
      fun raw hraw ↦ h.load_of_writtenAs hv hraw path⟩
  · intro c hc htokens
    have hholds := Config.holds_toValue hc htokens
    have hload (source : String) (raw : Value) (hraw : Config.schema.WrittenAs c.toValue raw) :
        Config.load source raw = .ok c :=
      Config.load_eq (Config.dumpable_schema.load_of_writtenAs hholds hraw _)
    exact ⟨hholds, fun source ↦ ⟨hload source _ (Config.dumpable_schema.writtenAs_dump hholds),
      hload source⟩⟩

def letToken : TokenConfig := { name := "Let", exact := some "let" }

def letDocument : Value :=
  .mapping [(.text "tokens",
    .list [.mapping [(.text "name", .text "Let"), (.text "exact", .text "let")]])]

theorem load_dump_let :
    Config.schema.WrittenAs (Config.toValue { tokens := [letToken] }) letDocument ∧
    Config.load "let" letDocument = .ok { tokens := [letToken] } ∧
    TokenConfig.schema.load ⟨"let", []⟩ letToken.toValue.dump = .ok letToken.toValue := by
  have htoken : TokenConfig.schema.WrittenAs letToken.toValue
      (.mapping [(.text "name", .text "Let"), (.text "exact", .text "let")]) :=
    ⟨_, _, rfl, rfl, _, _, rfl, .inl ⟨_, _, rfl, rfl, _, _, rfl, .inl ⟨_, _, rfl, .inr (.inl rfl),
      _, _, rfl, .inr ⟨.inl rfl, _, _, rfl, .inr ⟨.inl rfl, _, _, rfl,
        .inr ⟨.inl rfl, rfl, rfl⟩⟩⟩⟩⟩⟩
  have hwritten : Config.schema.WrittenAs (Config.toValue { tokens := [letToken] }) letDocument :=
    ⟨_, _, rfl, rfl, _, _, rfl, .inl ⟨_, _, rfl, ⟨_, _, rfl, rfl, .cons htoken .nil⟩,
      _, _, rfl, .inr ⟨.inl rfl, rfl, rfl⟩⟩⟩
  obtain ⟨hall, ⟨hdumpable, hholds⟩, -, hconfig⟩ := load_dump
  refine ⟨hwritten, ?_, (hall _ hdumpable _ (hholds letToken (by decide)) _).1⟩
  exact ((hconfig _ (by decide) (by decide)).2 "let").2 _ hwritten

end Schema

end Tokenry
