import Mathlib
import Tokenry.Proofs.Schema.Load
import Tokenry.Proofs.Value

namespace Tokenry

namespace Enumeration

variable {e : Enumeration} {v : Value}

/-- A value that stands for one of the members. -/
def IsMember (e : Enumeration) (v : Value) : Prop := ∃ m ∈ e.members, v = .member e.name m.1 m.2

theorem isMember_of_ofValue? {value : Value} (h : e.ofValue? value = some v) : e.IsMember v := by
  obtain ⟨m, hm, rfl⟩ := Option.map_eq_some_iff.mp h
  exact ⟨m, List.mem_of_find?_eq_some hm, rfl⟩

theorem isMember_of_ofName? {name : String} (h : e.ofName? name = some v) : e.IsMember v := by
  obtain ⟨value, hvalue, rfl⟩ := Option.map_eq_some_iff.mp h
  dsimp only
  cases hfirst : (e.members.takeWhile (·.1 != name)).find? fun m ↦ m.2.equal value with
  | none =>
    obtain ⟨before, after, hmembers, -⟩ := List.lookup_eq_some_iff.mp hvalue
    exact ⟨(name, value), by simp [hmembers], rfl⟩
  | some m =>
    have hm := List.mem_of_find?_eq_some hfirst
    exact ⟨m, (List.takeWhile_sublist _).subset hm, rfl⟩

end Enumeration

namespace Schema

/-- A schema in which no tuple has a fixed length. -/
inductive OpenEnded : Schema → Prop
  | any : OpenEnded .any
  | text : OpenEnded .text
  | int : OpenEnded .int
  | float : OpenEnded .float
  | bool : OpenEnded .bool
  | nothing : OpenEnded .nothing
  | unsupported (label : String) : OpenEnded (.unsupported label)
  | literal (choices : List Value) : OpenEnded (.literal choices)
  | enumeration (e : Enumeration) : OpenEnded (.enumeration e)
  | list {item : Schema} : OpenEnded item → OpenEnded (.list item)
  | tupleOf {item : Schema} : OpenEnded item → OpenEnded (.tupleOf item)
  | mapping {key value : Schema} : OpenEnded key → OpenEnded value → OpenEnded (.mapping key value)
  | union {options : List Schema} : (∀ option ∈ options, OpenEnded option) →
    OpenEnded (.union options)
  | record {name : String} {fields : List (String × FieldRule × Schema)}
    {check : List (String × Value) → Option String} :
    (∀ field ∈ fields, OpenEnded field.2.2) → OpenEnded (.record name fields check)

mutual

/-- What a schema promises about a loaded value that comes from a raw one. -/
def Fits : Schema → Value → Value → Prop
  | .any, raw, v => v = raw
  | .text, raw, v => v = raw ∧ ∃ s, v = .text s
  | .int, raw, v => v = raw ∧ ∃ n, v = .int n
  | .float, raw, v => v = raw ∧ ∃ x, v = .float x
  | .bool, raw, v => v = raw ∧ ∃ b, v = .bool b
  | .literal choices, raw, v => v = raw ∧ ∃ choice ∈ choices, choice.equal v = true
  | .enumeration e, _, v => e.IsMember v
  | .list item, raw, v =>
    ∃ raws vs, raw.items? = some raws ∧ v = .list vs ∧ List.Forall₂ (fun r w ↦ item.Fits r w) raws vs
  | .tupleOf item, raw, v =>
    ∃ raws vs, raw.items? = some raws ∧ v = .tuple vs ∧
      List.Forall₂ (fun r w ↦ item.Fits r w) raws vs
  | .mapping key value, raw, v =>
    ∃ entries loaded, raw = .mapping entries ∧ v = .mapping loaded ∧
      ∀ entry ∈ loaded, (∃ given ∈ entries, key.Fits given.1 entry.1) ∧
        ∃ given ∈ entries, value.Fits given.2 entry.2
  | .union options, raw, v =>
    (raw = .null ∧ v = .null ∧ options.any isNothing = true) ∨ FitsOne options raw v
  | .record name fields check, raw, v =>
    ∃ entries loaded, raw = .mapping entries ∧ v = .record name loaded ∧
      (∀ entry ∈ entries, ∃ field ∈ fields, field.2.1.loadable = true ∧ entry.1 = .text field.1) ∧
      FieldsFit entries fields loaded ∧ check loaded = none
  | .tuple _, _, _ | .nothing, _, _ | .unsupported _, _, _ => False

def FitsOne : List Schema → Value → Value → Prop
  | [], _, _ => False
  | option :: rest, raw, v => option.Fits raw v ∨ FitsOne rest raw v

def FieldsFit (entries : List (Value × Value)) :
    List (String × FieldRule × Schema) → List (String × Value) → Prop
  | [], loaded => loaded = []
  | (name, rule, schema) :: rest, loaded =>
    ∃ value later,
      Outcome entries name rule schema.isOptional (fun raw v ↦ schema.Fits raw v) value ∧
      FieldsFit entries rest later ∧ loaded = value.toList.map (fun v ↦ (name, v)) ++ later

end

variable {path : Path} {raw v : Value}

theorem fitsOne_of_mem {option : Schema} {options : List Schema} (hmem : option ∈ options)
    (h : option.Fits raw v) : FitsOne options raw v := by
  induction hmem with
  | head => exact .inl h
  | tail _ _ ih => exact .inr ih

theorem loadMember_eq_ok {e : Enumeration} (h : loadMember e path raw = .ok v) :
    (∃ name, e.ofName? name = some v) ∨ e.ofValue? raw = some v := by
  unfold loadMember at h
  dsimp only at h
  split at h
  · next m hm =>
    cases h
    simp only [Option.orElse_eq_orElse, Option.orElse_eq_or, Option.or_eq_some_iff] at hm
    rcases hm with hname | ⟨-, hvalue⟩
    · split at hname
      · split at hname
        · exact .inl ⟨_, hname⟩
        · cases hname
      · exact .inl ⟨_, hname⟩
      · cases hname
    · exact .inr hvalue
  · exact absurd h mismatch_ne_ok

theorem isMember_of_loadMember {e : Enumeration} (h : loadMember e path raw = .ok v) :
    e.IsMember v := by
  rcases loadMember_eq_ok h with ⟨name, hname⟩ | hvalue
  · exact Enumeration.isMember_of_ofName? hname
  · exact Enumeration.isMember_of_ofValue? hvalue

theorem forall₂_of_loadSequence {item : Schema} {vs : List Value}
    (hitem : ∀ {path raw v}, item.load path raw = .ok v → item.Fits raw v)
    (h : loadSequence (fun p w ↦ item.load p w) path raw = .ok vs) :
    ∃ raws, raw.items? = some raws ∧ List.Forall₂ (fun r w ↦ item.Fits r w) raws vs := by
  obtain ⟨raws, hraws, hloaded⟩ := loadSequence_eq_ok_iff.mp h
  refine ⟨raws, hraws, ?_⟩
  rw [← List.zipIdx_map_fst 0 raws, List.forall₂_map_left_iff]
  exact hloaded.imp fun _ _ hload ↦ hitem hload

theorem exists_loadsEntry {loadKey loadValue : Path → Value → Except LoadError Value}
    {pair : Value × Value} {entries pairs : List (Value × Value)}
    (h : List.Forall₂ (LoadsEntry loadKey loadValue path) entries pairs) (hpair : pair ∈ pairs) :
    ∃ given ∈ entries, LoadsEntry loadKey loadValue path given pair := by
  induction h with
  | nil => cases hpair
  | @cons given _ _ _ hgiven _ ih =>
    rcases List.mem_cons.mp hpair with rfl | hpair
    · exact ⟨given, .head _, hgiven⟩
    · obtain ⟨other, hother, hloads⟩ := ih hpair
      exact ⟨other, .tail _ hother, hloads⟩

theorem fieldsFit_of_loadFields {entries : List (Value × Value)}
    {fields : List (String × FieldRule × Schema)} {loaded : List (String × Value)}
    (hfields : ∀ field ∈ fields, ∀ {path raw v}, field.2.2.load path raw = .ok v →
      field.2.2.Fits raw v)
    (h : loadFields path entries fields = .ok loaded) : FieldsFit entries fields loaded := by
  induction fields generalizing loaded with
  | nil =>
    cases h
    rfl
  | cons field rest ih =>
    obtain ⟨name, rule, schema⟩ := field
    obtain ⟨hschema, hrest⟩ := List.forall_mem_cons.mp hfields
    obtain ⟨value, later, houtcome, hlater, rfl⟩ := loadFields_cons_eq_ok_iff.mp h
    exact ⟨value, later, houtcome.imp fun _ _ hload ↦ hschema hload, ih hrest hlater, rfl⟩

/-- Loading gives only what the schema promises. -/
theorem load_sound (schema : Schema) (hopen : schema.OpenEnded) (path : Path) (raw v : Value)
    (hload : schema.load path raw = .ok v) : schema.Fits raw v := by
  induction hopen generalizing path raw v with
  | any =>
    cases hload
    rfl
  | text =>
    obtain ⟨rfl, hform⟩ := load_text_eq_ok_iff.mp hload
    exact ⟨rfl, hform⟩
  | int =>
    obtain ⟨rfl, hform⟩ := load_int_eq_ok_iff.mp hload
    exact ⟨rfl, hform⟩
  | float =>
    obtain ⟨rfl, hform⟩ := load_float_eq_ok_iff.mp hload
    exact ⟨rfl, hform⟩
  | bool =>
    obtain ⟨rfl, hform⟩ := load_bool_eq_ok_iff.mp hload
    exact ⟨rfl, hform⟩
  | nothing => exact absurd hload mismatch_ne_ok
  | unsupported label => exact absurd hload mismatch_ne_ok
  | literal choices =>
    obtain ⟨rfl, hchoice⟩ := load_literal_eq_ok_iff.mp hload
    exact ⟨rfl, hchoice⟩
  | enumeration e => exact isMember_of_loadMember hload
  | list _ ih =>
    obtain ⟨vs, hvs, rfl⟩ := load_list_eq_ok_iff.mp hload
    obtain ⟨raws, hraws, hfit⟩ := forall₂_of_loadSequence (fun h ↦ ih _ _ _ h) hvs
    exact ⟨raws, vs, hraws, rfl, hfit⟩
  | tupleOf _ ih =>
    obtain ⟨vs, hvs, rfl⟩ := load_tupleOf_eq_ok_iff.mp hload
    obtain ⟨raws, hraws, hfit⟩ := forall₂_of_loadSequence (fun h ↦ ih _ _ _ h) hvs
    exact ⟨raws, vs, hraws, rfl, hfit⟩
  | mapping _ _ ihkey ihvalue =>
    obtain ⟨entries, pairs, rfl, hpairs, rfl⟩ := load_mapping_eq_ok_iff.mp hload
    refine ⟨entries, _, rfl, rfl, ?_⟩
    -- equal keys fall together, so a key and the value under it may come from two entries
    rintro ⟨k, w⟩ hentry
    obtain ⟨⟨pair, hpair, rfl⟩, pair', hpair', rfl⟩ := Value.mem_entriesOf hentry
    obtain ⟨given, hgiven, hkey, -⟩ := exists_loadsEntry hpairs hpair
    obtain ⟨given', hgiven', -, hvalue, -⟩ := exists_loadsEntry hpairs hpair'
    exact ⟨⟨given, hgiven, ihkey _ _ _ hkey⟩, given', hgiven', ihvalue _ _ _ hvalue⟩
  | union _ ih =>
    rcases load_union_eq_ok hload with hnull | ⟨option, hmem, hoption⟩
    · exact .inl hnull
    · exact .inr (fitsOne_of_mem hmem (ih option hmem _ _ _ hoption))
  | record _ ih =>
    obtain ⟨entries, loaded, rfl, hknown, hloaded, hcheck, rfl⟩ := load_record_eq_ok_iff.mp hload
    have hfit := fieldsFit_of_loadFields (fun field hfield _ _ _ h ↦ ih field hfield _ _ _ h) hloaded
    exact ⟨entries, loaded, rfl, rfl, hknown, hfit, hcheck⟩

def pageSchema : Schema :=
  .record "Page"
    [("mode", {}, .enumeration ⟨"Mode", [("LOOSE", .int 1), ("STRICT", .int 2)]⟩),
      ("sizes", {}, .mapping .text (.union [.int, .tupleOf .float])),
      ("title", {}, .optional .text)]
    fun _ ↦ none

def pageRaw : Value :=
  .mapping [(.text "sizes", .mapping [(.text "a", .int 3)]), (.text "mode", .text "STRICT")]

theorem load_sound_page : ∃ v, pageSchema.OpenEnded ∧ pageSchema.load ⟨"$", []⟩ pageRaw = .ok v ∧
    v = .record "Page" [("mode", .member "Mode" "STRICT" (.int 2)),
      ("sizes", .mapping [(.text "a", .int 3)]), ("title", .null)] ∧
    pageSchema.Fits pageRaw v := by
  have hsize : OpenEnded (.union [.int, .tupleOf .float]) := by
    refine .union (List.forall_mem_cons.mpr ⟨.int, List.forall_mem_singleton.mpr ?_⟩)
    exact .tupleOf .float
  have htitle : OpenEnded (.union [.text, .nothing]) :=
    .union (List.forall_mem_cons.mpr ⟨.text, List.forall_mem_singleton.mpr .nothing⟩)
  have hopen : pageSchema.OpenEnded := by
    refine .record (List.forall_mem_cons.mpr ⟨.enumeration _, ?_⟩)
    exact List.forall_mem_cons.mpr ⟨.mapping .text hsize, List.forall_mem_singleton.mpr htitle⟩
  have hload : pageSchema.load ⟨"$", []⟩ pageRaw =
      .ok (.record "Page" [("mode", .member "Mode" "STRICT" (.int 2)),
        ("sizes", .mapping [(.text "a", .int 3)]), ("title", .null)]) := by
    cbv
  exact ⟨_, hopen, hload, rfl, load_sound _ hopen _ _ _ hload⟩

end Schema

end Tokenry
