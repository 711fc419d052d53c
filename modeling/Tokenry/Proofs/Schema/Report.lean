import Mathlib
import Tokenry.Proofs.Schema.Soundness

namespace Tokenry

namespace Path

def Within (q p : Path) : Prop := q.root = p.root ∧ p.trail <+: q.trail

variable {p q : Path}

theorem Within.refl (p : Path) : p.Within p := ⟨rfl, List.prefix_rfl⟩

theorem Within.of_push {s : Segment} (h : q.Within (p.push s)) : q.Within p :=
  ⟨h.1, (List.prefix_append _ _).trans h.2⟩

theorem Within.render_eq (h : q.Within p) : ∃ rest, q.render = p.render ++ rest := by
  obtain ⟨hroot, deeper, htrail⟩ := h
  refine ⟨String.join (deeper.map (·.render)), ?_⟩
  rw [render, render, hroot, ← htrail, List.map_append, String.join_append, String.append_assoc]

end Path

namespace Value

mutual

/-- Whether the keys of all mappings in a value can be keys. -/
def wellKeyed : Value → Bool
  | .list items | .tuple items | .set items => wellKeyedItems items
  | .mapping entries => wellKeyedEntries entries
  | _ => true

def wellKeyedItems : List Value → Bool
  | [] => true
  | v :: rest => v.wellKeyed && wellKeyedItems rest

def wellKeyedEntries : List (Value × Value) → Bool
  | [] => true
  | (k, v) :: rest => k.unkeyable?.isNone && k.wellKeyed && v.wellKeyed && wellKeyedEntries rest

end

theorem wellKeyedItems_iff {items : List Value} :
    wellKeyedItems items = true ↔ ∀ v ∈ items, v.wellKeyed = true := by
  induction items with
  | nil => simp [wellKeyedItems]
  | cons v rest ih => simp [wellKeyedItems, ih]

theorem wellKeyedEntries_iff {entries : List (Value × Value)} :
    wellKeyedEntries entries = true ↔ ∀ entry ∈ entries,
      entry.1.unkeyable? = none ∧ entry.1.wellKeyed = true ∧ entry.2.wellKeyed = true := by
  induction entries with
  | nil => simp [wellKeyedEntries]
  | cons entry rest ih => simp [wellKeyedEntries, ih, and_assoc]

theorem wellKeyed_of_items? {raw : Value} {items : List Value} (h : raw.items? = some items)
    (hraw : raw.wellKeyed = true) : ∀ v ∈ items, v.wellKeyed = true := by
  cases raw with
  | list own | tuple own =>
    cases h
    exact wellKeyedItems_iff.mp (by simpa [wellKeyed] using hraw)
  | _ => cases h

theorem exists_unkeyable {items : List Value} {t : String} (h : unkeyableItem? items = some t) :
    ∃ v ∈ items, v.unkeyable? = some t := by
  induction items with
  | nil => cases h
  | cons v rest ih =>
    simp only [unkeyableItem?, Option.orElse_eq_orElse, Option.orElse_eq_or,
      Option.or_eq_some_iff] at h
    rcases h with hv | ⟨-, hrest⟩
    · exact ⟨v, .head _, hv⟩
    · obtain ⟨w, hw, ht⟩ := ih hrest
      exact ⟨w, .tail _ hw, ht⟩

theorem keyable_of_mem {items : List Value} (h : unkeyableItem? items = none) :
    ∀ v ∈ items, v.unkeyable? = none := by
  induction items with
  | nil => simp
  | cons v rest ih =>
    simp only [unkeyableItem?, Option.orElse_eq_orElse, Option.orElse_eq_or,
      Option.or_eq_none_iff] at h
    exact List.forall_mem_cons.mpr ⟨h.1, ih h.2⟩

theorem ne_of_unkeyable {raw v : Value} {t : String} (hraw : raw.unkeyable? = none)
    (hv : v.unkeyable? = some t) : v ≠ raw := by
  rintro rfl
  cases hraw.symm.trans hv

theorem keyable_of_items? {raw : Value} {items : List Value} (h : raw.items? = some items)
    (hraw : raw.unkeyable? = none) : ∀ v ∈ items, v.unkeyable? = none := by
  cases raw with
  | tuple own =>
    cases h
    exact keyable_of_mem (by simpa [unkeyable?] using hraw)
  | list own => simp [unkeyable?] at hraw
  | _ => cases h

theorem mem_of_lookup {entries : List (Value × Value)} {key v : Value}
    (h : lookup entries key = some v) : ∃ entry ∈ entries, entry.2 = v := by
  obtain ⟨entry, hentry, rfl⟩ := Option.map_eq_some_iff.mp h
  exact ⟨entry, List.mem_of_find?_eq_some hentry, rfl⟩

end Value

namespace Schema

@[elab_as_elim]
theorem induction {motive : Schema → Prop} (any : motive .any) (text : motive .text)
    (int : motive .int) (float : motive .float) (bool : motive .bool) (nothing : motive .nothing)
    (unsupported : ∀ label, motive (.unsupported label))
    (literal : ∀ choices, motive (.literal choices))
    (enumeration : ∀ e, motive (.enumeration e))
    (list : ∀ item, motive item → motive (.list item))
    (tupleOf : ∀ item, motive item → motive (.tupleOf item))
    (tuple : ∀ items, (∀ item ∈ items, motive item) → motive (.tuple items))
    (mapping : ∀ key value, motive key → motive value → motive (.mapping key value))
    (union : ∀ options, (∀ option ∈ options, motive option) → motive (.union options))
    (record : ∀ name fields check, (∀ field ∈ fields, motive field.2.2) →
      motive (.record name fields check))
    (schema : Schema) : motive schema := by
  refine @Schema.rec motive (fun schemas ↦ ∀ schema ∈ schemas, motive schema)
    (fun fields ↦ ∀ field ∈ fields, motive field.2.2) (fun field ↦ motive field.2.2)
    (fun field ↦ motive field.2) any text int float bool nothing list tupleOf tuple mapping union
    literal enumeration record unsupported ?_ ?_ ?_ ?_ ?_ ?_ schema
  · simp
  · exact fun _ _ hhead htail ↦ List.forall_mem_cons.mpr ⟨hhead, htail⟩
  · simp
  · exact fun _ _ hhead htail ↦ List.forall_mem_cons.mpr ⟨hhead, htail⟩
  · exact fun _ _ h ↦ h
  · exact fun _ _ h ↦ h

/-- A schema that another one is made of. Of a tuple of fixed length only the first one counts. -/
inductive Inside (part : Schema) : Schema → Prop
  | self : Inside part part
  | list {item : Schema} : Inside part item → Inside part (.list item)
  | tupleOf {item : Schema} : Inside part item → Inside part (.tupleOf item)
  | tuple {item : Schema} {rest : List Schema} : Inside part item →
    Inside part (.tuple (item :: rest))
  | key {key value : Schema} : Inside part key → Inside part (.mapping key value)
  | value {key value : Schema} : Inside part value → Inside part (.mapping key value)
  | option {option : Schema} {options : List Schema} : option ∈ options → Inside part option →
    Inside part (.union options)
  | field {name : String} {fields : List (String × FieldRule × Schema)}
    {check : List (String × Value) → Option String} {field : String × FieldRule × Schema} :
    field ∈ fields → Inside part field.2.2 → Inside part (.record name fields check)

/-- A schema that may turn something that can be a key into a list, or into a tuple with a list in
it. -/
inductive MakesList : Schema → Prop
  | list (item : Schema) : MakesList (.list item)
  | tupleOf {item : Schema} : MakesList item → MakesList (.tupleOf item)
  | tuple {item : Schema} {rest : List Schema} : MakesList item → MakesList (.tuple (item :: rest))
  | union {option : Schema} {options : List Schema} : option ∈ options → MakesList option →
    MakesList (.union options)

inductive Fails (schema : Schema) (path : Path) : LoadError → Prop
  | reported {e : LoadError} {place : Path} : e.path? = some place → place.Within path →
    Fails schema path e
  | listKey {key value : Schema} : (mapping key value).Inside schema → key.MakesList →
    Fails schema path (.unkeyable "list")

variable {path : Path} {raw v : Value} {e : LoadError}

theorem Fails.mismatch {schema : Schema} (cause : Mismatch) :
    schema.Fails path (.mismatch path cause) := .reported rfl (.refl path)

theorem Fails.of_part {schema part : Schema} {place : Path} (h : part.Fails place e)
    (hpart : ∀ s : Schema, s.Inside part → s.Inside schema)
    (hplace : ∀ q : Path, q.Within place → q.Within path) : schema.Fails path e := by
  cases h with
  | reported htold hwithin => exact .reported htold (hplace _ hwithin)
  | listKey hinside hlist => exact .listKey (hpart _ hinside) hlist

theorem loadItems_eq_error {load : Path → Value → Except LoadError Value} {index : Nat}
    {raws : List Value} (h : loadItems load path index raws = .error e) :
    ∃ before item after, raws = before ++ item :: after ∧
      (∃ vs, loadItems load path index before = .ok vs) ∧
      load (path.push (.item (index + before.length))) item = .error e := by
  induction raws generalizing index with
  | nil => cases h
  | cons raw rest ih =>
    rw [loadItems, bind_eq_error_iff] at h
    rcases h with h | ⟨v, hv, h⟩
    · exact ⟨[], raw, rest, rfl, ⟨[], rfl⟩, h⟩
    · rcases bind_eq_error_iff.mp h with h | ⟨vs, -, h⟩
      · obtain ⟨before, item, after, rfl, ⟨vs, hvs⟩, herror⟩ := ih h
        refine ⟨raw :: before, item, after, rfl, ⟨v :: vs, ?_⟩, ?_⟩
        · rw [loadItems, hv, hvs]
          rfl
        · rwa [List.length_cons, Nat.add_comm before.length, ← Nat.add_assoc]
      · cases h

theorem loadSequence_eq_error {load : Path → Value → Except LoadError Value}
    (h : loadSequence load path raw = .error e) :
    (∃ before item after, raw.items? = some (before ++ item :: after) ∧
      (∃ vs, loadItems load path 0 before = .ok vs) ∧
      load (path.push (.item before.length)) item = .error e) ∨
      ∃ cause, e = .mismatch path cause := by
  have hitems {raws : List Value} (h : loadItems load path 0 raws = .error e) :
      ∃ before item after, some raws = some (before ++ item :: after) ∧
        (∃ vs, loadItems load path 0 before = .ok vs) ∧
        load (path.push (.item before.length)) item = .error e := by
    obtain ⟨before, item, after, rfl, hbefore, herror⟩ := loadItems_eq_error h
    exact ⟨before, item, after, rfl, hbefore, by rwa [Nat.zero_add] at herror⟩
  cases raw with
  | list raws => exact .inl (hitems h)
  | tuple raws => exact .inl (hitems h)
  | _ =>
    cases h
    exact .inr ⟨_, rfl⟩

theorem loadEntries_eq_error {loadKey loadValue : Path → Value → Except LoadError Value}
    {filled entries : List (Value × Value)}
    (h : loadEntries loadKey loadValue path filled entries = .error e) :
    ∃ entry ∈ entries, loadKey (path.push .key) entry.1 = .error e ∨
      loadValue (path.push (.entry entry.1)) entry.2 = .error e ∨
      ∃ key t, loadKey (path.push .key) entry.1 = .ok key ∧ key.unkeyable? = some t ∧
        e = .unkeyable t := by
  induction entries generalizing filled with
  | nil => cases h
  | cons entry rest ih =>
    obtain ⟨k, w⟩ := entry
    rw [loadEntries, bind_eq_error_iff] at h
    rcases h with h | ⟨key, hkey, h⟩
    · exact ⟨(k, w), .head _, .inl h⟩
    · rcases bind_eq_error_iff.mp h with h | ⟨value, -, h⟩
      · exact ⟨(k, w), .head _, .inr (.inl h)⟩
      · split at h
        · next t ht =>
          cases h
          exact ⟨(k, w), .head _, .inr (.inr ⟨key, t, hkey, ht, rfl⟩)⟩
        · obtain ⟨later, hlater, hcase⟩ := ih h
          exact ⟨later, .tail _ hlater, hcase⟩

theorem loadAlternative_eq_error {causes : List LoadError} {options : List Schema}
    (h : loadAlternative path raw causes options = .error e) :
    e.path? = some path ∨
      e.path? = none ∧ ∃ option ∈ options, option.load path raw = .error e := by
  induction options generalizing causes with
  | nil =>
    cases h
    exact .inl rfl
  | cons option rest ih =>
    have hlater {causes : List LoadError} (h : loadAlternative path raw causes rest = .error e) :
        e.path? = some path ∨
          e.path? = none ∧ ∃ chosen ∈ option :: rest, chosen.load path raw = .error e := by
      refine (ih h).imp_right ?_
      rintro ⟨hsilent, chosen, hmem, herror⟩
      exact ⟨hsilent, chosen, .tail _ hmem, herror⟩
    rw [loadAlternative] at h
    split at h
    · exact hlater h
    · split at h
      · cases h
      · next herror =>
        split at h
        · exact hlater h
        · next hsilent =>
          cases h
          exact .inr ⟨Option.not_isSome_iff_eq_none.mp hsilent, option, .head _, herror⟩

inductive FieldFails (path : Path) (entries : List (Value × Value)) (name : String)
    (rule : FieldRule) (schema : Schema) : LoadError → Prop
  | missing : rule.loadable = true → Value.lookup entries (.text name) = none →
    rule.default = none → schema.isOptional = false →
    FieldFails path entries name rule schema (.mismatch (path.push (.field name)) .missing)
  | given {raw : Value} {e : LoadError} : rule.loadable = true →
    Value.lookup entries (.text name) = some raw →
    schema.load (path.push (.field name)) raw = .error e →
    FieldFails path entries name rule schema e

theorem loadFields_cons_eq_error {entries : List (Value × Value)} {name : String}
    {rule : FieldRule} {schema : Schema} {rest : List (String × FieldRule × Schema)}
    (h : loadFields path entries ((name, rule, schema) :: rest) = .error e) :
    FieldFails path entries name rule schema e ∨
      ∃ value, Outcome entries name rule schema.isOptional
          (fun raw v ↦ schema.load (path.push (.field name)) raw = .ok v) value ∧
        loadFields path entries rest = .error e := by
  have hpure {f : List (String × Value) → List (String × Value)}
      (h : (do return f (← loadFields path entries rest)) = Except.error e) :
      loadFields path entries rest = .error e := by
    rcases bind_eq_error_iff.mp h with h | ⟨vs, -, h⟩
    · exact h
    · cases h
  rw [loadFields] at h
  split at h
  · next hloadable hgiven =>
    rcases bind_eq_error_iff.mp h with h | ⟨v, hv, h⟩
    · exact .inl (.given hloadable hgiven h)
    · exact .inr ⟨some v, .given hloadable hgiven hv, hpure h⟩
  · next v hdefault hnotGiven =>
    refine .inr ⟨some v, .absent ?_ hdefault, hpure h⟩
    intro hloadable
    exact Option.eq_none_iff_forall_ne_some.mpr fun raw hraw ↦ hnotGiven raw hloadable hraw
  · next hloadable hdefault => exact .inr ⟨none, .without hloadable hdefault, h⟩
  · next hloadable habsent hdefault =>
    split at h
    · next hoptional =>
      exact .inr ⟨some .null, .nothing hloadable habsent hdefault hoptional, hpure h⟩
    · next hrequired =>
      cases h
      exact .inl (.missing hloadable habsent hdefault (Bool.eq_false_iff.mpr hrequired))

theorem loadFields_eq_error {entries : List (Value × Value)}
    {fields : List (String × FieldRule × Schema)} (h : loadFields path entries fields = .error e) :
    ∃ before name rule schema after, fields = before ++ (name, rule, schema) :: after ∧
      (∃ loaded, loadFields path entries before = .ok loaded) ∧
      FieldFails path entries name rule schema e := by
  induction fields with
  | nil => cases h
  | cons field rest ih =>
    obtain ⟨name, rule, schema⟩ := field
    rcases loadFields_cons_eq_error h with hfails | ⟨value, houtcome, h⟩
    · exact ⟨[], name, rule, schema, rest, rfl, ⟨[], rfl⟩, hfails⟩
    · obtain ⟨before, name', rule', schema', after, rfl, ⟨loaded, hloaded⟩, hfails⟩ := ih h
      have hbefore := loadFields_cons_eq_ok_iff.mpr ⟨value, loaded, houtcome, hloaded, rfl⟩
      exact ⟨_ :: before, name', rule', schema', after, rfl, ⟨_, hbefore⟩, hfails⟩

theorem load_tuple_eq_ok_iff {items : List Schema} :
    (tuple items).load path raw = .ok v ↔
      ∃ vs, loadSequence (fun p w ↦ loadFirst items p w) path raw = .ok vs ∧ v = .tuple vs := by
  simp only [load, bind_eq_ok_iff, pure_eq_ok_iff]

/-- If a sequence that can be a key is loaded item by item, what keeps the result from being a key
comes from one of the items. -/
theorem unkeyable_of_loadSequence {load : Path → Value → Except LoadError Value} {vs : List Value}
    {t : String} (hload : loadSequence load path raw = .ok vs) (hraw : raw.unkeyable? = none)
    (ht : (Value.tuple vs).unkeyable? = some t) :
    ∃ place item w, load place item = .ok w ∧ item.unkeyable? = none ∧ w.unkeyable? = some t := by
  obtain ⟨raws, hraws, hitems⟩ := loadSequence_eq_ok_iff.mp hload
  rw [Value.unkeyable?] at ht
  obtain ⟨w, hw, hwt⟩ := Value.exists_unkeyable ht
  obtain ⟨i, hi, rfl⟩ := List.mem_iff_getElem.mp hw
  have hlength := hitems.length_eq
  have hitem := (List.forall₂_iff_get.mp hitems).2 i (by omega) hi
  refine ⟨_, _, _, hitem, ?_, hwt⟩
  refine Value.keyable_of_items? hraws hraw _ ?_
  simp

theorem makesList_of_load {schema : Schema} {t : String} (hload : schema.load path raw = .ok v)
    (hraw : raw.unkeyable? = none) (ht : v.unkeyable? = some t) :
    t = "list" ∧ schema.MakesList := by
  induction schema using Schema.induction generalizing path raw v with
  | any => exact absurd (Except.ok.inj hload).symm (Value.ne_of_unkeyable hraw ht)
  | text => exact absurd (load_text_eq_ok_iff.mp hload).1 (Value.ne_of_unkeyable hraw ht)
  | int => exact absurd (load_int_eq_ok_iff.mp hload).1 (Value.ne_of_unkeyable hraw ht)
  | float => exact absurd (load_float_eq_ok_iff.mp hload).1 (Value.ne_of_unkeyable hraw ht)
  | bool => exact absurd (load_bool_eq_ok_iff.mp hload).1 (Value.ne_of_unkeyable hraw ht)
  | literal choices =>
    exact absurd (load_literal_eq_ok_iff.mp hload).1 (Value.ne_of_unkeyable hraw ht)
  | nothing => exact absurd hload mismatch_ne_ok
  | unsupported label => exact absurd hload mismatch_ne_ok
  | enumeration e =>
    obtain ⟨m, -, rfl⟩ := isMember_of_loadMember hload
    cases ht
  | list item _ =>
    obtain ⟨vs, -, rfl⟩ := load_list_eq_ok_iff.mp hload
    cases ht
    exact ⟨rfl, .list item⟩
  | tupleOf item ih =>
    obtain ⟨vs, hvs, rfl⟩ := load_tupleOf_eq_ok_iff.mp hload
    obtain ⟨place, item', w, hw, hitem, hwt⟩ := unkeyable_of_loadSequence hvs hraw ht
    obtain ⟨rfl, hlist⟩ := ih hw hitem hwt
    exact ⟨rfl, .tupleOf hlist⟩
  | tuple items ih =>
    obtain ⟨vs, hvs, rfl⟩ := load_tuple_eq_ok_iff.mp hload
    obtain ⟨place, item', w, hw, hitem, hwt⟩ := unkeyable_of_loadSequence hvs hraw ht
    cases items with
    | nil => exact absurd (Except.ok.inj hw).symm (Value.ne_of_unkeyable hitem hwt)
    | cons first rest =>
      obtain ⟨rfl, hlist⟩ := ih first (.head _) hw hitem hwt
      exact ⟨rfl, .tuple hlist⟩
  | mapping key value _ _ =>
    -- a mapping cannot be a key
    obtain ⟨entries, -, rfl, -⟩ := load_mapping_eq_ok_iff.mp hload
    simp [Value.unkeyable?] at hraw
  | union options ih =>
    rcases load_union_eq_ok hload with ⟨-, rfl, -⟩ | ⟨option, hmem, hoption⟩
    · cases ht
    · obtain ⟨rfl, hlist⟩ := ih option hmem hoption hraw ht
      exact ⟨rfl, .union hmem hlist⟩
  | record name fields check _ =>
    obtain ⟨entries, -, rfl, -⟩ := load_record_eq_ok_iff.mp hload
    simp [Value.unkeyable?] at hraw

theorem fails_of_loadSequence {schema : Schema} {load : Path → Value → Except LoadError Value}
    (hitem : ∀ {place item}, load place item = .error e → item.wellKeyed = true →
      ∀ {path}, (∀ q : Path, q.Within place → q.Within path) → schema.Fails path e)
    (h : loadSequence load path raw = .error e) (hraw : raw.wellKeyed = true) :
    schema.Fails path e := by
  rcases loadSequence_eq_error h with ⟨before, item, after, hraws, -, herror⟩ | ⟨cause, rfl⟩
  · have hkeyed := Value.wellKeyed_of_items? hraws hraw item (by simp)
    exact hitem herror hkeyed fun _ hq ↦ hq.of_push
  · exact .mismatch cause

theorem fails_of_load {schema : Schema} (hload : schema.load path raw = .error e)
    (hraw : raw.wellKeyed = true) : schema.Fails path e := by
  induction schema using Schema.induction generalizing path raw e with
  | any => cases hload
  | text | int | float | bool =>
    cases raw <;> cases hload
    all_goals exact .mismatch _
  | nothing | unsupported =>
    cases hload
    exact .mismatch _
  | literal choices =>
    rw [load, loadLiteral] at hload
    split at hload
    · cases hload
    · cases hload
      exact .mismatch _
  | enumeration own =>
    unfold load loadMember at hload
    dsimp only at hload
    split at hload
    · cases hload
    · cases hload
      exact .mismatch _
  | list item ih =>
    rw [load] at hload
    rcases bind_eq_error_iff.mp hload with h | ⟨vs, -, h⟩
    · refine fails_of_loadSequence (fun herror hkeyed _ hplace ↦ ?_) h hraw
      exact (ih herror hkeyed).of_part (fun _ hinside ↦ .list hinside) hplace
    · cases h
  | tupleOf item ih =>
    rw [load] at hload
    rcases bind_eq_error_iff.mp hload with h | ⟨vs, -, h⟩
    · refine fails_of_loadSequence (fun herror hkeyed _ hplace ↦ ?_) h hraw
      exact (ih herror hkeyed).of_part (fun _ hinside ↦ .tupleOf hinside) hplace
    · cases h
  | tuple items ih =>
    rw [load] at hload
    rcases bind_eq_error_iff.mp hload with h | ⟨vs, -, h⟩
    · refine fails_of_loadSequence (fun herror hkeyed _ hplace ↦ ?_) h hraw
      cases items with
      | nil => cases herror
      | cons first rest =>
        exact (ih first (.head _) herror hkeyed).of_part (fun _ hinside ↦ .tuple hinside) hplace
    · cases h
  | mapping key value ihkey ihvalue =>
    cases raw with
    | mapping entries =>
      rw [load] at hload
      rcases bind_eq_error_iff.mp hload with h | ⟨loaded, -, h⟩
      · obtain ⟨entry, hmem, hcase⟩ := loadEntries_eq_error h
        rw [Value.wellKeyed, Value.wellKeyedEntries_iff] at hraw
        obtain ⟨hkeyable, hkey, hvalue⟩ := hraw entry hmem
        rcases hcase with h | h | ⟨k, t, hk, ht, rfl⟩
        · exact (ihkey h hkey).of_part (fun _ hinside ↦ .key hinside) fun _ hq ↦ hq.of_push
        · exact (ihvalue h hvalue).of_part (fun _ hinside ↦ .value hinside) fun _ hq ↦ hq.of_push
        · obtain ⟨rfl, hlist⟩ := makesList_of_load hk hkeyable ht
          exact .listKey .self hlist
      · cases h
    | _ =>
      cases hload
      exact .mismatch _
  | union options ih =>
    have halternative (h : loadAlternative path raw [] options = .error e) :
        (union options).Fails path e := by
      rcases loadAlternative_eq_error h with htold | ⟨-, option, hmem, herror⟩
      · exact .reported htold (.refl path)
      · exact (ih option hmem herror hraw).of_part (fun _ hinside ↦ .option hmem hinside)
          fun _ hq ↦ hq
    cases raw with
    | null =>
      rw [load] at hload
      split at hload
      · cases hload
      · cases hload
        exact .mismatch _
    | _ => exact halternative (by simpa only [load] using hload)
  | record name fields check ih =>
    cases raw with
    | mapping entries =>
      rw [Value.wellKeyed, Value.wellKeyedEntries_iff] at hraw
      rw [load] at hload
      split at hload
      · rcases bind_eq_error_iff.mp hload with h | ⟨loaded, -, h⟩
        · obtain ⟨before, field, rule, inner, after, rfl, -, hfails⟩ := loadFields_eq_error h
          cases hfails with
          | missing => exact .reported rfl (Path.Within.refl _).of_push
          | given _ hgiven herror =>
            obtain ⟨entry, hentry, rfl⟩ := Value.mem_of_lookup hgiven
            have hmem : (field, rule, inner) ∈ before ++ (field, rule, inner) :: after := by simp
            exact (ih _ hmem herror (hraw entry hentry).2.2).of_part
              (fun _ hinside ↦ .field hmem hinside) fun _ hq ↦ hq.of_push
        · split at h
          · cases h
            exact .mismatch _
          · cases h
      · cases hload
        exact .mismatch _
    | _ =>
      cases hload
      exact .mismatch _

theorem message_eq_of_path? {place : Path} (h : e.path? = some place) :
    ∃ reason, e.message = place.render ++ ": " ++ reason := by
  cases e with
  | mismatch own cause =>
    cases h
    exact ⟨cause.message, rfl⟩
  | noAlternative own causes =>
    cases h
    exact ⟨String.intercalate " | " (LoadError.messages causes), rfl⟩
  | unkeyable => cases h

theorem message_of_path? {place : Path} (h : e.path? = some place) :
    ∃ rest, e.message = place.render ++ rest := by
  obtain ⟨reason, hreason⟩ := message_eq_of_path? h
  exact ⟨": " ++ reason, hreason.trans (String.append_assoc ..)⟩

/-- Loading gives a value or an error whose message starts with the path of the whole. It fails in
another way only where keys may become lists; then the message has no path in it. -/
theorem load_reports (schema : Schema) (path : Path) (raw : Value) (hraw : raw.wellKeyed = true) :
    (∃ v, schema.load path raw = .ok v) ∨
    (∃ e, schema.load path raw = .error e ∧ e.path?.isSome = true ∧
      ∃ rest, e.message = path.render ++ rest) ∨
    (schema.load path raw = .error (.unkeyable "list") ∧
      ∃ key value, (mapping key value).Inside schema ∧ key.MakesList) := by
  cases hload : schema.load path raw with
  | ok v => exact .inl ⟨v, rfl⟩
  | error e =>
    refine .inr ?_
    cases fails_of_load hload hraw with
    | reported htold hwithin =>
      obtain ⟨rest, hrest⟩ := message_of_path? htold
      obtain ⟨deeper, hdeeper⟩ := hwithin.render_eq
      refine .inl ⟨e, rfl, by rw [htold]; rfl, deeper ++ rest, ?_⟩
      rw [hrest, hdeeper, String.append_assoc]
    | listKey hinside hlist => exact .inr ⟨rfl, _, _, hinside, hlist⟩

def widePage : Value :=
  .mapping [(.text "mode", .text "STRICT"),
    (.text "sizes", .mapping [(.text "a", .text "wide")])]

theorem load_reports_wide : widePage.wellKeyed = true ∧
    ∃ e, pageSchema.load ⟨"$", []⟩ widePage = .error e ∧ e.path?.isSome = true ∧
      ∃ rest, e.message = (Path.mk "$" []).render ++ rest := by
  have hkeyed : widePage.wellKeyed = true := by decide
  have hload : pageSchema.load ⟨"$", []⟩ widePage =
      .error (.noAlternative ⟨"$", [.field "sizes", .entry (.text "a")]⟩
        [.mismatch ⟨"$", [.field "sizes", .entry (.text "a")]⟩ (.expected "int" "str"),
          .mismatch ⟨"$", [.field "sizes", .entry (.text "a")]⟩ (.expected "list" "str")]) := by
    cbv
  refine ⟨hkeyed, ?_⟩
  rcases load_reports pageSchema ⟨"$", []⟩ widePage hkeyed with
    ⟨v, hok⟩ | htold | ⟨hlist, -⟩
  · cases hload.symm.trans hok
  · exact htold
  · cases hload.symm.trans hlist

theorem load_list_key :
    (Value.mapping [(.tuple [.int 1], .int 2)]).wellKeyed = true ∧
    (mapping (list int) int).load ⟨"$", []⟩ (.mapping [(.tuple [.int 1], .int 2)]) =
      .error (.unkeyable "list") ∧
    (LoadError.unkeyable "list").path? = none ∧
    (LoadError.unkeyable "list").message = "unhashable type: 'list'" := by
  refine ⟨by decide, by cbv, by decide, by decide⟩

end Schema

end Tokenry
