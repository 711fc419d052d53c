import Tokenry.Proofs.Schema.Report
import Tokenry.Proofs.Value

namespace Tokenry

namespace Schema

variable {path : Path} {raw v : Value}

/-- A sequence has as many items as there are schemas, and each item is loaded by the schema in its
place. -/
def LoadsEach (items : List Schema) (path : Path) (raw v : Value) : Prop :=
  ∃ raws vs, raw.items? = some raws ∧ v = .tuple vs ∧ raws.length = items.length ∧
    List.Forall₂ (fun place w ↦ place.1.load (path.push (.item place.2.2)) place.2.1 = .ok w)
      (items.zip raws.zipIdx) vs

theorem load_tuple_cons_eq_ok_iff {first : Schema} {rest : List Schema} :
    (tuple (first :: rest)).load path raw = .ok v ↔
      ∃ raws vs, raw.items? = some raws ∧ v = .tuple vs ∧
        List.Forall₂ (fun entry w ↦ first.load (path.push (.item entry.2)) entry.1 = .ok w)
          raws.zipIdx vs := by
  rw [load_tuple_eq_ok_iff]
  simp only [loadFirst, loadSequence_eq_ok_iff]
  constructor
  · rintro ⟨vs, ⟨raws, hraws, hitems⟩, rfl⟩
    exact ⟨raws, vs, hraws, rfl, hitems⟩
  · rintro ⟨raws, vs, hraws, rfl, hitems⟩
    exact ⟨vs, ⟨raws, hraws, hitems⟩, rfl⟩

theorem forall₂_zip_iff {items : List Schema} {raws vs : List Value} {first : Schema}
    (hlength : raws.length = items.length)
    (hsame : ∀ place ∈ items.zip raws.zipIdx,
      place.1.load (path.push (.item place.2.2)) place.2.1 =
        first.load (path.push (.item place.2.2)) place.2.1) :
    List.Forall₂ (fun place w ↦ place.1.load (path.push (.item place.2.2)) place.2.1 = .ok w)
        (items.zip raws.zipIdx) vs ↔
      List.Forall₂ (fun entry w ↦ first.load (path.push (.item entry.2)) entry.1 = .ok w)
        raws.zipIdx vs := by
  have hsnd : (items.zip raws.zipIdx).map (·.2) = raws.zipIdx :=
    List.map_snd_zip (by simp [hlength])
  nth_rewrite 2 [← hsnd]
  rw [List.forall₂_map_left_iff]
  constructor
  · intro h
    refine ((List.forall₂_and_left _ _).mpr ⟨hsame, h⟩).imp ?_
    intro place w hplace
    exact hplace.1.symm.trans hplace.2
  · intro h
    refine ((List.forall₂_and_left _ _).mpr ⟨hsame, h⟩).imp ?_
    intro place w hplace
    exact hplace.1.trans hplace.2

/-- A tuple is loaded by the first of its schemas, from a sequence of any length. This comes to
loading each item by the schema in its place if there are as many items as schemas and each schema
does with its item what the first one would do with it. -/
theorem load_tuple_by_first (first : Schema) (rest : List Schema) (path : Path) (raw : Value) :
    (∀ v, (tuple (first :: rest)).load path raw = .ok v ↔
      ∃ raws vs, raw.items? = some raws ∧ v = .tuple vs ∧
        List.Forall₂ (fun entry w ↦ first.load (path.push (.item entry.2)) entry.1 = .ok w)
          raws.zipIdx vs) ∧
    ∀ raws, raw.items? = some raws → raws.length = (first :: rest).length →
      (∀ place ∈ (first :: rest).zip raws.zipIdx,
        place.1.load (path.push (.item place.2.2)) place.2.1 =
          first.load (path.push (.item place.2.2)) place.2.1) →
      ∀ v, (tuple (first :: rest)).load path raw = .ok v ↔ LoadsEach (first :: rest) path raw v := by
  refine ⟨fun v ↦ load_tuple_cons_eq_ok_iff, ?_⟩
  intro raws hraws hlength hsame v
  rw [load_tuple_cons_eq_ok_iff]
  constructor
  · rintro ⟨_, vs, hown, rfl, hitems⟩
    obtain rfl := Option.some.inj (hraws.symm.trans hown)
    exact ⟨raws, vs, hraws, rfl, hlength, (forall₂_zip_iff hlength hsame).mpr hitems⟩
  · rintro ⟨_, vs, hown, rfl, -, hitems⟩
    obtain rfl := Option.some.inj (hraws.symm.trans hown)
    exact ⟨raws, vs, hraws, rfl, (forall₂_zip_iff hlength hsame).mp hitems⟩

theorem load_tuple_by_first_pair :
    (tuple [int, .union [text, int]]).load ⟨"$", []⟩ (.list [.int 1, .int 2]) =
      .ok (.tuple [.int 1, .int 2]) ∧
    LoadsEach [int, .union [text, int]] ⟨"$", []⟩ (.list [.int 1, .int 2])
      (.tuple [.int 1, .int 2]) := by
  have hload : (tuple [int, .union [text, int]]).load ⟨"$", []⟩ (.list [.int 1, .int 2]) =
      .ok (.tuple [.int 1, .int 2]) := by
    cbv
  refine ⟨hload, ?_⟩
  refine ((load_tuple_by_first int [.union [text, int]] ⟨"$", []⟩ _).2 _ rfl rfl ?_ _).mp hload
  refine List.forall_mem_cons.mpr ⟨rfl, List.forall_mem_singleton.mpr ?_⟩
  cbv

theorem load_tuple_mixed :
    LoadsEach [int, text] ⟨"$", []⟩ (.list [.int 1, .text "a"]) (.tuple [.int 1, .text "a"]) ∧
    (tuple [int, text]).load ⟨"$", []⟩ (.list [.int 1, .text "a"]) =
      .error (.mismatch ⟨"$", [.item 1]⟩ (.expected "int" "str")) ∧
    (tuple [int, text]).load ⟨"$", []⟩ (.list [.int 1]) = .ok (.tuple [.int 1]) ∧
    ¬∃ v, LoadsEach [int, text] ⟨"$", []⟩ (.list [.int 1]) v := by
  refine ⟨⟨_, _, rfl, rfl, rfl, ?_⟩, by cbv, by cbv, ?_⟩
  · exact .cons (by cbv) (.cons (by cbv) .nil)
  · rintro ⟨v, raws, vs, ⟨⟩, -, hlength, -⟩
    cases hlength

theorem tuple_eq_raw_of_loadSequence {load : Path → Value → Except LoadError Value} {vs : List Value}
    (hitem : ∀ {place item w}, load place item = .ok w → item.unkeyable? = none →
      w.unkeyable? = none → w = item)
    (hload : loadSequence load path raw = .ok vs) (hraw : raw.unkeyable? = none)
    (hv : (Value.tuple vs).unkeyable? = none) : .tuple vs = raw := by
  obtain ⟨raws, hraws, hitems⟩ := loadSequence_eq_ok_iff.mp hload
  have hkeyable := Value.keyable_of_items? hraws hraw
  have hkeyable' : ∀ w ∈ vs, w.unkeyable? = none :=
    Value.keyable_of_mem (by simpa [Value.unkeyable?] using hv)
  have hlength : raws.length = vs.length := by simpa using hitems.length_eq
  have heq : vs = raws := by
    refine List.ext_getElem hlength.symm ?_
    intro i hi hi'
    have hloaded := (List.forall₂_iff_get.mp hitems).2 i (by simpa using hi') hi
    simp only [List.get_eq_getElem, List.getElem_zipIdx] at hloaded
    exact hitem hloaded (hkeyable _ (List.getElem_mem _)) (hkeyable' _ (List.getElem_mem _))
  cases raw with
  | tuple own =>
    cases hraws
    rw [heq]
  | list own => simp [Value.unkeyable?] at hraw
  | _ => cases hraws

theorem eq_raw_of_load {schema : Schema} (hload : schema.load path raw = .ok v)
    (henum : ∀ e, ¬(enumeration e).Inside schema) (hraw : raw.unkeyable? = none)
    (hv : v.unkeyable? = none) : v = raw := by
  induction schema using Schema.induction generalizing path raw v with
  | any => exact (Except.ok.inj hload).symm
  | text => exact (load_text_eq_ok_iff.mp hload).1
  | int => exact (load_int_eq_ok_iff.mp hload).1
  | float => exact (load_float_eq_ok_iff.mp hload).1
  | bool => exact (load_bool_eq_ok_iff.mp hload).1
  | literal choices => exact (load_literal_eq_ok_iff.mp hload).1
  | nothing => exact absurd hload mismatch_ne_ok
  | unsupported label => exact absurd hload mismatch_ne_ok
  | enumeration e => exact absurd .self (henum e)
  | list item _ =>
    obtain ⟨vs, -, rfl⟩ := load_list_eq_ok_iff.mp hload
    simp [Value.unkeyable?] at hv
  | tupleOf item ih =>
    obtain ⟨vs, hvs, rfl⟩ := load_tupleOf_eq_ok_iff.mp hload
    refine tuple_eq_raw_of_loadSequence ?_ hvs hraw hv
    intro place w w' hw
    exact ih hw fun e hinside ↦ henum e (.tupleOf hinside)
  | tuple items ih =>
    obtain ⟨vs, hvs, rfl⟩ := load_tuple_eq_ok_iff.mp hload
    refine tuple_eq_raw_of_loadSequence ?_ hvs hraw hv
    intro place w w' hw
    cases items with
    | nil =>
      intro _ _
      exact (Except.ok.inj hw).symm
    | cons first rest => exact ih first (.head _) hw fun e hinside ↦ henum e (.tuple hinside)
  | mapping key value _ _ =>
    obtain ⟨entries, -, rfl, -⟩ := load_mapping_eq_ok_iff.mp hload
    simp [Value.unkeyable?] at hraw
  | union options ih =>
    rcases load_union_eq_ok hload with ⟨rfl, rfl, -⟩ | ⟨option, hmem, hoption⟩
    · rfl
    · exact ih option hmem hoption (fun e hinside ↦ henum e (.option hmem hinside)) hraw hv
  | record name fields check _ =>
    obtain ⟨entries, -, rfl, -⟩ := load_record_eq_ok_iff.mp hload
    simp [Value.unkeyable?] at hraw

theorem keys_eq_of_forall₂ {key value : Schema} {entries pairs : List (Value × Value)}
    (hpairs : List.Forall₂
      (LoadsEntry (fun p w ↦ key.load p w) (fun p w ↦ value.load p w) path) entries pairs)
    (henum : ∀ e, ¬(enumeration e).Inside key)
    (hkeyable : ∀ entry ∈ entries, entry.1.unkeyable? = none) :
    pairs.map (·.1) = entries.map (·.1) := by
  induction hpairs with
  | nil => rfl
  | cons hpair _ ih =>
    obtain ⟨hfirst, hrest⟩ := List.forall_mem_cons.mp hkeyable
    obtain ⟨hkey, -, hkey'⟩ := hpair
    rw [List.map_cons, List.map_cons, ih hrest, eq_raw_of_load hkey henum hfirst hkey']

/-- A mapping whose entries have been loaded has an entry for each of them, in order, just when the
loaded keys differ; where two are equal, the entries fall together. Without an enumeration in the
schema of the keys they never do, and the keys are those of the raw mapping. -/
theorem load_mapping_entries (key value : Schema) (path : Path) (entries : List (Value × Value))
    (v : Value) (hkeyable : ∀ entry ∈ entries, entry.1.unkeyable? = none)
    (hdiffer : Value.KeysDiffer entries)
    (hload : (mapping key value).load path (.mapping entries) = .ok v) :
    ∃ pairs loaded, v = .mapping loaded ∧ loaded = Value.entriesOf pairs ∧
      List.Forall₂ (LoadsEntry (fun p w ↦ key.load p w) (fun p w ↦ value.load p w) path)
        entries pairs ∧
      loaded.length ≤ entries.length ∧
      (loaded.length = entries.length ↔ Value.KeysDiffer pairs) ∧
      (Value.KeysDiffer pairs → loaded = pairs) ∧
      ((∀ e, ¬(enumeration e).Inside key) →
        loaded = pairs ∧ loaded.map (·.1) = entries.map (·.1)) := by
  obtain ⟨_, pairs, ⟨⟩, hpairs, rfl⟩ := load_mapping_eq_ok_iff.mp hload
  have hlength := hpairs.length_eq
  refine ⟨pairs, _, rfl, rfl, hpairs, ?_, ?_, Value.entriesOf_eq_self, ?_⟩
  · rw [hlength]
    exact Value.length_entriesOf_le pairs
  · rw [hlength]
    exact Value.length_entriesOf_eq_iff
  · intro henum
    have hkeys := keys_eq_of_forall₂ hpairs henum hkeyable
    have hsame := Value.entriesOf_eq_self (hdiffer.of_keys hkeys)
    rw [hsame]
    exact ⟨rfl, hkeys⟩

def modeSchema : Schema :=
  .enumeration ⟨"Mode", [("LOOSE", .text "loose"), ("STRICT", .text "strict")]⟩

def modesRaw : List (Value × Value) :=
  [(.tuple [.int 1], .text "LOOSE"), (.tuple [], .text "loose")]

theorem load_mapping_entries_modes :
    (∀ entry ∈ modesRaw, entry.1.unkeyable? = none) ∧ Value.KeysDiffer modesRaw ∧
    ∃ loaded, (mapping (.tupleOf int) modeSchema).load ⟨"$", []⟩ (.mapping modesRaw) =
      .ok (.mapping loaded) ∧ loaded.length = 2 ∧
      loaded.map (·.1) = [.tuple [.int 1], .tuple []] := by
  have hkeyable : ∀ entry ∈ modesRaw, entry.1.unkeyable? = none := by
    simp [modesRaw, Value.unkeyable?, Value.unkeyableItem?]
  have hdiffer : Value.KeysDiffer modesRaw := by
    simp [Value.KeysDiffer, modesRaw, Value.equal, Value.equalItems]
  have henum : ∀ e, ¬(enumeration e).Inside (.tupleOf int) := by
    rintro e (_ | _ | ⟨⟨⟩⟩)
  have hload : (mapping (.tupleOf int) modeSchema).load ⟨"$", []⟩ (.mapping modesRaw) =
      .ok (.mapping [(.tuple [.int 1], .member "Mode" "LOOSE" (.text "loose")),
        (.tuple [], .member "Mode" "LOOSE" (.text "loose"))]) := by
    cbv
  obtain ⟨pairs, loaded, hv, -, -, -, -, -, hkept⟩ :=
    load_mapping_entries _ _ _ _ _ hkeyable hdiffer hload
  obtain ⟨-, hkeys⟩ := hkept henum
  cases hv
  exact ⟨hkeyable, hdiffer, _, hload, rfl, hkeys⟩

def looseRaw : List (Value × Value) := [(.text "LOOSE", .int 1), (.text "loose", .int 2)]

theorem load_mapping_merges :
    (∀ entry ∈ looseRaw, entry.1.unkeyable? = none) ∧ Value.KeysDiffer looseRaw ∧
    (mapping modeSchema int).load ⟨"$", []⟩ (.mapping looseRaw) =
      .ok (.mapping [(.member "Mode" "LOOSE" (.text "loose"), .int 2)]) := by
  refine ⟨?_, ?_, by cbv⟩
  · simp [looseRaw, Value.unkeyable?]
  · simp [Value.KeysDiffer, looseRaw, Value.equal]

end Schema

end Tokenry
