import Tokenry.Proofs.Schema.Load
import Tokenry.Proofs.Value
import Tokenry.Grammar.Config

namespace Tokenry

theorem sortTexts_eq_of_perm {texts texts' : List String} (h : texts.Perm texts') :
    sortTexts texts = sortTexts texts' := by
  have hperm : (sortTexts texts).Perm (sortTexts texts') :=
    (List.mergeSort_perm _ _).trans (h.trans (List.mergeSort_perm _ _).symm)
  refine hperm.eq_of_pairwise (fun a b _ _ ↦ le_antisymm) ?_ ?_
  · exact List.pairwise_mergeSort' _ _
  · exact List.pairwise_mergeSort' _ _

namespace Value

variable {entries entries' : List (Value × Value)} {name : String} {v : Value}

theorem mem_of_lookup_text (h : lookup entries (.text name) = some v) :
    (.text name, v) ∈ entries := by
  obtain ⟨⟨key, w⟩, hentry, rfl⟩ := Option.map_eq_some_iff.mp h
  have hkey := List.find?_some hentry
  obtain rfl : key = .text name := equal_text_iff.mp hkey
  exact List.mem_of_find?_eq_some hentry

theorem KeysDiffer.lookup_of_mem (h : KeysDiffer entries) (hmem : (.text name, v) ∈ entries) :
    lookup entries (.text name) = some v := by
  induction entries with
  | nil => cases hmem
  | cons first rest ih =>
    obtain ⟨hfirst, hrest⟩ := List.pairwise_cons.mp h
    rcases List.mem_cons.mp hmem with rfl | hmem
    · simp [lookup]
    · have hother : first.1.equal (.text name) = false := hfirst _ hmem
      have hlater := ih hrest hmem
      rw [lookup] at hlater ⊢
      rw [List.find?_cons_of_neg (by simp [hother]), hlater]

theorem lookup_eq_of_perm (h : KeysDiffer entries) (hperm : entries.Perm entries') :
    lookup entries (.text name) = lookup entries' (.text name) := by
  cases hlookup : lookup entries' (.text name) with
  | some v => exact h.lookup_of_mem (hperm.mem_iff.mpr (mem_of_lookup_text hlookup))
  | none =>
    rw [lookup_text_eq_none_iff] at hlookup ⊢
    intro entry hentry
    exact hlookup entry (hperm.mem_iff.mp hentry)

theorem lookup_rel {R : Value → Value → Prop}
    (h : List.Forall₂ (fun a b ↦ a.1 = b.1 ∧ (a.1 = .text name → R a.2 b.2)) entries entries') :
    Option.Rel R (lookup entries (.text name)) (lookup entries' (.text name)) := by
  induction h with
  | nil => exact .none
  | @cons a b _ _ hentry _ ih =>
    obtain ⟨hkey, hvalue⟩ := hentry
    by_cases hname : a.1 = .text name
    · have hname' : b.1 = .text name := hkey.symm.trans hname
      simpa [lookup, hname, hname'] using hvalue hname
    · have hname' : b.1 ≠ .text name := fun hb ↦ hname (hkey.trans hb)
      simpa [lookup, hname, hname'] using ih

end Value

namespace Schema

variable {schema : Schema} {raw : Value} {entries entries' : List (Value × Value)}

/-- Two raw values that become the same, or fail with the same error, wherever they stand. -/
def LoadsAlike (schema : Schema) (raw raw' : Value) : Prop :=
  ∀ path, schema.load path raw = schema.load path raw'

theorem loadsAlike_refl (schema : Schema) (raw : Value) : schema.LoadsAlike raw raw := fun _ ↦ rfl

theorem loadItems_congr {raws raws' : List Value} (h : List.Forall₂ schema.LoadsAlike raws raws')
    (path : Path) (index : Nat) :
    loadItems (fun p v ↦ schema.load p v) path index raws =
      loadItems (fun p v ↦ schema.load p v) path index raws' := by
  induction h generalizing index with
  | nil => rfl
  | cons hfirst _ ih => rw [loadItems, loadItems, hfirst, ih]

theorem unknownKeys_congr (names : List String)
    (hkeys : (entries.map (·.1)).Perm (entries'.map (·.1))) :
    unknownKeys names entries = unknownKeys names entries' := by
  have hunknown := hkeys.filter fun key ↦ !names.any fun name ↦ key.equal (.text name)
  rw [List.filter_map, List.filter_map] at hunknown
  have htexts := hunknown.map (·.plainText)
  rw [List.map_map, List.map_map] at htexts
  exact sortTexts_eq_of_perm htexts

theorem loadFields_congr {fields : List (String × FieldRule × Schema)}
    (hfields : ∀ field ∈ fields, Option.Rel field.2.2.LoadsAlike
      (Value.lookup entries (.text field.1)) (Value.lookup entries' (.text field.1))) (path : Path) :
    loadFields path entries fields = loadFields path entries' fields := by
  induction fields with
  | nil => rfl
  | cons field rest ih =>
    obtain ⟨name, rule, schema⟩ := field
    obtain ⟨hfirst, hrest⟩ := List.forall_mem_cons.mp hfields
    rw [loadFields, loadFields, ih hrest]
    dsimp only at hfirst
    generalize Value.lookup entries (.text name) = given at hfirst ⊢
    generalize Value.lookup entries' (.text name) = given' at hfirst ⊢
    cases hfirst with
    | none => rfl
    | some halike =>
      cases rule.loadable with
      | true => simp only [halike (path.push (.field name))]
      | false => cases rule.default <;> rfl

theorem loadsAlike_record {name : String} {fields : List (String × FieldRule × Schema)}
    {check : List (String × Value) → Option String} {shuffled : List (Value × Value)}
    (hdiffer : Value.KeysDiffer entries) (hperm : entries.Perm shuffled)
    (halike : List.Forall₂ (fun a b ↦ a.1 = b.1 ∧
      ∀ field ∈ fields, a.1 = .text field.1 → field.2.2.LoadsAlike a.2 b.2) shuffled entries') :
    (record name fields check).LoadsAlike (.mapping entries) (.mapping entries') := by
  have hsame : shuffled.map (·.1) = entries'.map (·.1) := by
    rw [← List.forall₂_eq_eq_eq, List.forall₂_map_left_iff, List.forall₂_map_right_iff]
    exact halike.imp fun _ _ h ↦ h.1
  have hkeys : (entries.map (·.1)).Perm (entries'.map (·.1)) := hsame ▸ hperm.map _
  have hfields : ∀ field ∈ fields, Option.Rel field.2.2.LoadsAlike
      (Value.lookup entries (.text field.1)) (Value.lookup entries' (.text field.1)) := by
    intro field hfield
    rw [Value.lookup_eq_of_perm hdiffer hperm]
    exact Value.lookup_rel (halike.imp fun _ _ h ↦ ⟨h.1, h.2 field hfield⟩)
  intro path
  rw [load, load, unknownKeys_congr _ hkeys, loadFields_congr hfields]

end Schema

namespace Grammar

/-- A token mapping with its entries in another order. Whatever else is given stays as it is. -/
inductive TokenConfig.Rearranged : Value → Value → Prop
  | same (raw : Value) : Rearranged raw raw
  | mapping {entries entries' : List (Value × Value)} : Value.KeysDiffer entries →
    entries.Perm entries' → Rearranged (.mapping entries) (.mapping entries')

/-- A list or tuple of tokens, in which each token mapping may have its entries in another order. -/
inductive TokensRearranged : Value → Value → Prop
  | same (listed : Value) : TokensRearranged listed listed
  | list {raws raws' : List Value} : List.Forall₂ TokenConfig.Rearranged raws raws' →
    TokensRearranged (.list raws) (.list raws')
  | tuple {raws raws' : List Value} : List.Forall₂ TokenConfig.Rearranged raws raws' →
    TokensRearranged (.tuple raws) (.tuple raws')

inductive EntryRearranged : Value × Value → Value × Value → Prop
  | same (entry : Value × Value) : EntryRearranged entry entry
  | tokens {listed listed' : Value} : TokensRearranged listed listed' →
    EntryRearranged (.text "tokens", listed) (.text "tokens", listed')

/-- A document with its entries in another order, and also those of each of its tokens. -/
inductive Config.Rearranged : Value → Value → Prop
  | same (raw : Value) : Rearranged raw raw
  | mapping {entries shuffled entries' : List (Value × Value)} : Value.KeysDiffer entries →
    entries.Perm shuffled → List.Forall₂ EntryRearranged shuffled entries' →
    Rearranged (.mapping entries) (.mapping entries')

theorem TokenConfig.Rearranged.loadsAlike {raw raw' : Value} (h : TokenConfig.Rearranged raw raw') :
    TokenConfig.schema.LoadsAlike raw raw' := by
  cases h with
  | same => exact Schema.loadsAlike_refl _ _
  | mapping hdiffer hperm =>
    refine Schema.loadsAlike_record hdiffer hperm (List.forall₂_same.mpr ?_)
    intro entry _
    exact ⟨rfl, fun _ _ _ ↦ Schema.loadsAlike_refl _ _⟩

theorem TokensRearranged.loadsAlike {listed listed' : Value} (h : TokensRearranged listed listed') :
    (Schema.list TokenConfig.schema).LoadsAlike listed listed' := by
  have hitems {raws raws' : List Value} (h : List.Forall₂ TokenConfig.Rearranged raws raws') :=
    Schema.loadItems_congr (h.imp fun _ _ ↦ TokenConfig.Rearranged.loadsAlike)
  intro path
  cases h with
  | same => rfl
  | list h | tuple h => simp only [Schema.load, Schema.loadSequence, hitems h]

/-- An entry of a document is loaded alike by the field that has its name. -/
theorem EntryRearranged.loadsAlike {entry entry' : Value × Value}
    (h : EntryRearranged entry entry') : entry.1 = entry'.1 ∧
    ∀ field ∈ [("tokens", { default := some (.list []) }, .list TokenConfig.schema),
      optionalField "skip" .text], entry.1 = .text field.1 →
        field.2.2.LoadsAlike entry.2 entry'.2 := by
  cases h with
  | same => exact ⟨rfl, fun _ _ _ ↦ Schema.loadsAlike_refl _ _⟩
  | tokens h =>
    refine ⟨rfl, ?_⟩
    intro field hfield hname
    rcases List.mem_pair.mp hfield with rfl | rfl
    · exact h.loadsAlike
    · simp [optionalField] at hname

/-- The order of its entries, and of the entries of its tokens, makes no difference to a document:
it becomes the same configuration, or it is refused with the same error. -/
theorem Config.load_rearranged (path : Path) (raw raw' : Value) (h : Config.Rearranged raw raw') :
    Config.schema.load path raw' = Config.schema.load path raw ∧
      ∀ source, Config.load source raw' = Config.load source raw := by
  have halike : Config.schema.LoadsAlike raw raw' := by
    cases h with
    | same => exact Schema.loadsAlike_refl _ _
    | mapping hdiffer hperm hentries =>
      exact Schema.loadsAlike_record hdiffer hperm (hentries.imp fun _ _ ↦ EntryRearranged.loadsAlike)
  refine ⟨(halike path).symm, ?_⟩
  intro source
  rw [Config.load, Config.load, halike]

def faultyToken : Value :=
  .mapping [(.text "size", .int 1), (.text "name", .null), (.int 7, .null)]

def faultyDocument : Value :=
  .mapping [(.text "skip", .int 3), (.text "tokens", .list [faultyToken])]

def faultyRearranged : Value :=
  let token := .mapping [(.int 7, .null), (.text "size", .int 1), (.text "name", .null)]
  .mapping [(.text "tokens", .list [token]), (.text "skip", .int 3)]

theorem Config.load_rearranged_faulty : Config.Rearranged faultyDocument faultyRearranged ∧
    ∃ e, Config.load "g" faultyDocument = .error e ∧
      e.message = "g.tokens[0]: unknown key(s): ['7', 'size']" ∧
      Config.load "g" faultyRearranged = .error e := by
  have hrearranged : Config.Rearranged faultyDocument faultyRearranged := by
    refine .mapping ?_ (.swap _ _ _) (.cons (.tokens (.list (.cons (.mapping ?_ ?_) .nil)))
      (.cons (.same _) .nil))
    · simp [Value.KeysDiffer, Value.equal]
    · simp [Value.KeysDiffer, Value.equal]
    · exact .trans (.cons _ (.swap _ _ _)) (.swap _ _ _)
  have hsort : sortTexts ["size", (Value.int 7).render] = ["7", "size"] := by
    have hseven : (Value.int 7).render = "7" := by rfl
    simp [hseven, sortTexts, List.mergeSort, List.MergeSort.Internal.splitInTwo]
  have htoken (path : Path) : TokenConfig.schema.load path faultyToken =
      .error (.mismatch path (.unknownKeys ["7", "size"])) := by
    simp [TokenConfig.schema, faultyToken, optionalField, Schema.load, Schema.unknownKeys, Value.equal,
      Value.plainText, hsort, Schema.mismatch]
  have hload : Config.load "g" faultyDocument =
      .error (.mismatch ⟨"g", [.field "tokens", .item 0]⟩ (.unknownKeys ["7", "size"])) := by
    simp [Config.load, Config.schema, faultyDocument, optionalField, Schema.load, Schema.unknownKeys,
      Value.equal, sortTexts, Schema.loadFields, Schema.loadSequence, Schema.loadItems, Value.lookup,
      htoken, bind, Except.bind, Except.map, Path.push]
  have hsame := (Config.load_rearranged ⟨"g", []⟩ _ _ hrearranged).2 "g"
  exact ⟨hrearranged, _, hload, by decide, hsame.trans hload⟩

end Grammar

end Tokenry
