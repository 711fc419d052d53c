import Tokenry.Proofs.Schema.RoundTrip
import Tokenry.Proofs.Schema.Soundness

namespace Tokenry

namespace Enumeration

variable {e : Enumeration} {v : Value}

theorem isCanonical_of_first {before after : List (String × Value)} {m : String × Value}
    {value : Value} (hnames : (e.members.map (·.1)).Nodup)
    (hmembers : e.members = before ++ m :: after) (hm : m.2.equal value = true)
    (hbefore : ∀ other ∈ before, ¬other.2.equal value = true) :
    e.IsCanonical (.member e.name m.1 m.2) := by
  refine ⟨before, m.1, m.2, after, hmembers, ?_, rfl⟩
  intro other hother
  constructor
  · intro hname
    rw [hmembers, List.map_append, List.nodup_append] at hnames
    exact hnames.2.2 other.1 (List.mem_map_of_mem hother) m.1 (by simp) hname
  · apply Bool.eq_false_iff.mpr
    intro hequal
    exact hbefore other hother (Value.equal_trans hequal hm)

theorem isCanonical_of_ofValue? {value : Value} (hnames : (e.members.map (·.1)).Nodup)
    (h : e.ofValue? value = some v) : e.IsCanonical v := by
  obtain ⟨m, hm, rfl⟩ := Option.map_eq_some_iff.mp h
  obtain ⟨hequal, before, after, hmembers, hbefore⟩ := List.find?_eq_some_iff_append.mp hm
  exact isCanonical_of_first hnames hmembers hequal (by simpa using hbefore)

theorem isCanonical_of_ofName? {name : String} (hnames : (e.members.map (·.1)).Nodup)
    (h : e.ofName? name = some v) : e.IsCanonical v := by
  obtain ⟨value, hvalue, rfl⟩ := Option.map_eq_some_iff.mp h
  obtain ⟨earlier, later, hmembers, hearlier⟩ := List.lookup_eq_some_iff.mp hvalue
  have hother : ∀ m ∈ earlier, m.1 ≠ name := by
    intro m hm
    simpa using (bne_iff_ne.mp (hearlier m hm)).symm
  have htake : e.members.takeWhile (·.1 != name) = earlier := by
    rw [hmembers, List.takeWhile_append_of_pos fun m hm ↦ bne_iff_ne.mpr (hother m hm)]
    simp
  dsimp only
  rw [htake]
  cases hfirst : earlier.find? fun m ↦ m.2.equal value with
  | none =>
    refine ⟨earlier, name, value, later, hmembers, ?_, rfl⟩
    intro m hm
    exact ⟨hother m hm, Bool.eq_false_iff.mpr (List.find?_eq_none.mp hfirst m hm)⟩
  | some m =>
    obtain ⟨hequal, before, between, rfl, hbefore⟩ := List.find?_eq_some_iff_append.mp hfirst
    rw [List.append_assoc, List.cons_append] at hmembers
    exact isCanonical_of_first hnames hmembers hequal (by simpa using hbefore)

end Enumeration

namespace Schema

variable {schema item key value : Schema} {path : Path} {raw v : Value}

/-- The schemas without records and without a choice between schemas. The members of an enumeration
have different names. -/
inductive Steady : Schema → Prop
  | any : Steady .any
  | text : Steady .text
  | int : Steady .int
  | float : Steady .float
  | bool : Steady .bool
  | literal (choices : List Value) : Steady (.literal choices)
  | enumeration {e : Enumeration} : (e.members.map (·.1)).Nodup → Steady (.enumeration e)
  | list {item : Schema} : Steady item → Steady (.list item)
  | tupleOf {item : Schema} : Steady item → Steady (.tupleOf item)
  | mapping {key value : Schema} : Steady key → Steady value → Steady (.mapping key value)
  | union {schema : Schema} {options : List Schema} :
    options = [schema, .nothing] ∨ options = [.nothing, schema] → Steady schema →
    Steady (.union options)

theorem Steady.isNothing_eq_false (h : schema.Steady) : schema.isNothing = false := by
  cases h <;> rfl

theorem Steady.optional (h : schema.Steady) : (Schema.optional schema).Steady := by
  have hplain (hself : schema.options = [schema]) : (Schema.optional schema).Steady := by
    rw [optional_eq_union h.isNothing_eq_false hself]
    exact .union (.inl rfl) h
  cases h with
  | union hoptions h =>
    rw [optional_union h.isNothing_eq_false hoptions]
    exact .union hoptions h
  | _ => exact hplain rfl

/-- A value that is loaded as it is, wherever it stands. -/
def Keeps (schema : Schema) (v : Value) : Prop := ∀ path, schema.load path v = .ok v

theorem keeps_enumeration {e : Enumeration} (h : e.IsCanonical v) : (enumeration e).Keeps v := by
  obtain ⟨name, hdump, hname⟩ := Enumeration.ofName?_of_isCanonical h
  obtain ⟨before, own, value, after, -, -, rfl⟩ := h
  obtain rfl : own = name := by simpa [Value.dump] using hdump
  intro path
  simp [load, loadMember, hname]

theorem loadSequence_of_keeps {raws : List Value} (hraws : raw.items? = some raws)
    (h : ∀ w ∈ raws, item.Keeps w) :
    loadSequence (fun p w ↦ item.load p w) path raw = .ok raws := by
  have hitems := loadItems_of_forall₂ (List.forall₂_same.mpr h) path 0
  cases raw with
  | list own | tuple own =>
    cases hraws
    exact hitems
  | _ => cases hraws

theorem keeps_mapping {entries : List (Value × Value)} (hdiffer : Value.KeysDiffer entries)
    (h : ∀ entry ∈ entries, key.Keeps entry.1 ∧ value.Keeps entry.2 ∧ entry.1.unkeyable? = none) :
    (mapping key value).Keeps (.mapping entries) := by
  intro path
  rw [load_mapping_eq_ok_iff]
  refine ⟨entries, entries, rfl, List.forall₂_same.mpr ?_, by rw [Value.entriesOf_eq_self hdiffer]⟩
  intro entry hentry
  obtain ⟨hkey, hvalue, hkeyable⟩ := h entry hentry
  exact ⟨hkey _, hvalue _, hkeyable⟩

/-- What is loaded item by item is kept item by item. -/
theorem forall_keeps_of_loadSequence {vs : List Value}
    (hitem : ∀ {path raw v}, item.load path raw = .ok v → item.Keeps v)
    (h : loadSequence (fun p w ↦ item.load p w) path raw = .ok vs) : ∀ w ∈ vs, item.Keeps w := by
  obtain ⟨raws, -, hloaded⟩ := loadSequence_eq_ok_iff.mp h
  clear h
  generalize raws.zipIdx = places at hloaded
  induction hloaded with
  | nil => simp
  | cons hfirst _ ih => exact List.forall_mem_cons.mpr ⟨hitem hfirst, ih⟩

/-- What has been loaded is loaded again as it is. -/
theorem load_again (schema : Schema) (h : schema.Steady) (path : Path) (raw v : Value)
    (hload : schema.load path raw = .ok v) : schema.Keeps v := by
  induction h generalizing path raw v with
  | any => exact fun _ ↦ rfl
  | text =>
    obtain ⟨rfl, s, rfl⟩ := load_text_eq_ok_iff.mp hload
    exact fun _ ↦ rfl
  | int =>
    obtain ⟨rfl, n, rfl⟩ := load_int_eq_ok_iff.mp hload
    exact fun _ ↦ rfl
  | float =>
    obtain ⟨rfl, x, rfl⟩ := load_float_eq_ok_iff.mp hload
    exact fun _ ↦ rfl
  | bool =>
    obtain ⟨rfl, b, rfl⟩ := load_bool_eq_ok_iff.mp hload
    exact fun _ ↦ rfl
  | literal choices =>
    obtain ⟨rfl, hchoice⟩ := load_literal_eq_ok_iff.mp hload
    exact fun _ ↦ load_literal_eq_ok_iff.mpr ⟨rfl, hchoice⟩
  | enumeration hnames =>
    apply keeps_enumeration
    rcases loadMember_eq_ok hload with ⟨name, hname⟩ | hvalue
    · exact Enumeration.isCanonical_of_ofName? hnames hname
    · exact Enumeration.isCanonical_of_ofValue? hnames hvalue
  | list _ ih =>
    obtain ⟨vs, hvs, rfl⟩ := load_list_eq_ok_iff.mp hload
    have hkept := forall_keeps_of_loadSequence (ih _ _ _) hvs
    exact fun _ ↦ load_list_eq_ok_iff.mpr ⟨vs, loadSequence_of_keeps rfl hkept, rfl⟩
  | tupleOf _ ih =>
    obtain ⟨vs, hvs, rfl⟩ := load_tupleOf_eq_ok_iff.mp hload
    have hkept := forall_keeps_of_loadSequence (ih _ _ _) hvs
    exact fun _ ↦ load_tupleOf_eq_ok_iff.mpr ⟨vs, loadSequence_of_keeps rfl hkept, rfl⟩
  | mapping _ _ ihkey ihvalue =>
    obtain ⟨entries, pairs, rfl, hpairs, rfl⟩ := load_mapping_eq_ok_iff.mp hload
    apply keeps_mapping (Value.keysDiffer_entriesOf pairs)
    intro entry hentry
    -- the key and the value may come from two entries, both of which have been loaded
    obtain ⟨⟨pair, hpair, hkey⟩, pair', hpair', hvalue⟩ := Value.mem_entriesOf hentry
    obtain ⟨given, -, hloaded, -, hkeyable⟩ := exists_loadsEntry hpairs hpair
    obtain ⟨given', -, -, hloaded', -⟩ := exists_loadsEntry hpairs hpair'
    rw [← hkey, ← hvalue]
    exact ⟨ihkey _ _ _ hloaded, ihvalue _ _ _ hloaded', hkeyable⟩
  | union hoptions h ih =>
    intro q
    by_cases hnull : v = .null
    · rw [hnull]
      exact load_union_null hoptions q
    · rcases load_union_cases hoptions hload with ⟨-, hv⟩ | hloaded
      · exact absurd hv hnull
      · exact load_union_of_load hoptions h.isNothing_eq_false hnull (ih _ _ _ hloaded q)

def tones : Enumeration := ⟨"Tone", [("LOW", .int 1), ("HIGH", .int 2), ("DEEP", .int 1)]⟩

def tonesRaw : Value :=
  .mapping [(.text "DEEP", .list [.int 3]), (.text "HIGH", .list []), (.int 1, .null)]

theorem load_again_tones : ∃ v,
    (mapping (.enumeration tones) (.optional (.tupleOf .int))).load ⟨"a", []⟩ tonesRaw = .ok v ∧
    v = .mapping [(.member "Tone" "LOW" (.int 1), .null), (.member "Tone" "HIGH" (.int 2), .tuple [])] ∧
    (mapping (.enumeration tones) (.optional (.tupleOf .int))).load ⟨"b", []⟩ v = .ok v := by
  have hsteady : (mapping (.enumeration tones) (.optional (.tupleOf .int))).Steady :=
    .mapping (.enumeration (by decide)) (Steady.tupleOf .int).optional
  have hload : (mapping (.enumeration tones) (.optional (.tupleOf .int))).load ⟨"a", []⟩ tonesRaw =
      .ok (.mapping [(.member "Tone" "LOW" (.int 1), .null),
        (.member "Tone" "HIGH" (.int 2), .tuple [])]) := by
    cbv
  exact ⟨_, hload, rfl, load_again _ hsteady _ _ _ hload _⟩

end Schema

end Tokenry
