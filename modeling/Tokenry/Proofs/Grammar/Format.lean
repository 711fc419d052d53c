import Tokenry.Proofs.Schema.Report
import Tokenry.Proofs.Schema.RoundTrip

namespace Tokenry

namespace Schema

def Tells (schema : Schema) : Prop :=
  ∀ path raw e, schema.load path raw = .error e → e.path?.isSome = true

variable {schema : Schema}

theorem tells_text : text.Tells := by
  intro path raw e h
  cases raw <;> cases h
  all_goals rfl

theorem tells_int : int.Tells := by
  intro path raw e h
  cases raw <;> cases h
  all_goals rfl

theorem tells_nothing : nothing.Tells := by
  rintro path raw e ⟨⟩
  rfl

theorem tells_list (hitem : schema.Tells) : (list schema).Tells := by
  intro path raw e h
  rw [load] at h
  rcases bind_eq_error_iff.mp h with h | ⟨vs, -, h⟩
  · rcases loadSequence_eq_error h with ⟨before, item, after, -, -, herror⟩ | ⟨cause, rfl⟩
    · exact hitem _ _ _ herror
    · rfl
  · cases h

theorem tells_union {options : List Schema} (hoptions : ∀ option ∈ options, option.Tells) :
    (union options).Tells := by
  intro path raw e h
  by_cases hnull : raw = .null
  · subst hnull
    rw [load] at h
    split at h
    · cases h
    · cases h
      rfl
  · have halternative : loadAlternative path raw [] options = .error e := by
      cases raw with
      | null => exact absurd rfl hnull
      | _ => simpa only [load] using h
    rcases loadAlternative_eq_error halternative with hown | ⟨-, option, hmem, herror⟩
    · rw [hown]
      rfl
    · exact hoptions option hmem _ _ _ herror

theorem tells_record {name : String} {fields : List (String × FieldRule × Schema)}
    {check : List (String × Value) → Option String} (hfields : ∀ field ∈ fields, field.2.2.Tells) :
    (record name fields check).Tells := by
  intro path raw e h
  cases raw with
  | mapping entries =>
    rw [load] at h
    split at h
    · rcases bind_eq_error_iff.mp h with h | ⟨loaded, -, h⟩
      · obtain ⟨before, field, rule, inner, after, rfl, -, hfails⟩ := loadFields_eq_error h
        cases hfails with
        | missing => rfl
        | given _ _ herror => exact hfields (field, rule, inner) (by simp) _ _ _ herror
      · split at h
        · cases h
          rfl
        · cases h
    · cases h
      rfl
  | _ =>
    cases h
    rfl

end Schema

namespace Grammar

open Schema (loadFields_cons_eq_ok_iff load_record_eq_ok_iff)

/-- A token with a literal and nothing else, or with a pattern. -/
def TokenConfig.Decided (t : TokenConfig) : Prop :=
  (∃ literal, t.exact = some literal ∧ t.regex = none ∧ t.capture = none) ∨
    ∃ pattern, t.exact = none ∧ t.regex = some pattern

theorem TokenConfig.decided_of_mistake? {t : TokenConfig} (h : t.mistake? = none) : t.Decided := by
  unfold mistake? at h
  split at h
  · cases h
  · next hone =>
    split at h
    · cases h
    · next hcapture =>
      cases hexact : t.exact with
      | some literal =>
        simp only [hexact, Option.isNone_some, beq_iff_eq, Option.isSome_some, Bool.true_and,
          Bool.not_eq_true, Option.isSome_eq_false_iff, Option.isNone_iff_eq_none] at hone hcapture
        refine .inl ⟨literal, hexact, ?_, hcapture⟩
        cases hregex : t.regex with
        | none => rfl
        | some pattern => simp [hregex] at hone
      | none =>
        cases hregex : t.regex with
        | none => simp [hexact, hregex] at hone
        | some pattern => exact .inr ⟨pattern, hexact, hregex⟩

theorem TokenConfig.mistake?_eq_none_iff {t : TokenConfig} : t.mistake? = none ↔ t.Decided := by
  refine ⟨decided_of_mistake?, ?_⟩
  rintro (⟨literal, hexact, hregex, hcapture⟩ | ⟨pattern, hexact, hregex⟩)
  · simp [mistake?, hexact, hregex, hcapture]
  · simp [mistake?, hexact, hregex]

theorem repeatedName?_eq_none_iff {seen : List String} {tokens : List TokenConfig} :
    repeatedName? seen tokens = none ↔
      (∀ name ∈ tokens.map (·.name), name ∉ seen) ∧ (tokens.map (·.name)).Nodup := by
  induction tokens generalizing seen with
  | nil => simp [repeatedName?]
  | cons t rest ih =>
    rw [repeatedName?]
    split
    · next hseen =>
      have hmem : t.name ∈ seen := by simpa using hseen
      simp [hmem]
    · next hseen =>
      have hnew : t.name ∉ seen := by simpa using hseen
      rw [ih, List.map_cons, List.nodup_cons, List.forall_mem_cons]
      constructor
      · rintro ⟨hnames, hnodup⟩
        refine ⟨⟨hnew, fun name hname ↦ ?_⟩, fun hname ↦ ?_, hnodup⟩
        · exact fun hmem ↦ hnames name hname (.tail _ hmem)
        · exact hnames t.name hname (.head _)
      · rintro ⟨⟨-, hnames⟩, hown, hnodup⟩
        refine ⟨fun name hname hmem ↦ ?_, hnodup⟩
        rcases List.mem_cons.mp hmem with rfl | hmem
        · exact hown hname
        · exact hnames name hname hmem

/-- A configuration that keeps the rules of grammar documents. -/
structure Config.Accepted (c : Config) : Prop where
  decided : ∀ t ∈ c.tokens, t.Decided
  names_nodup : (c.tokens.map (·.name)).Nodup
  skip_mem : ∀ name ∈ c.skip, name ∈ c.tokens.map (·.name)

theorem Config.rules_of_mistake? {c : Config} (h : c.mistake? = none) :
    (c.tokens.map (·.name)).Nodup ∧ ∀ name ∈ c.skip, name ∈ c.tokens.map (·.name) := by
  unfold mistake? at h
  split at h
  · cases h
  · next hrepeated =>
    refine ⟨(repeatedName?_eq_none_iff.mp hrepeated).2, ?_⟩
    intro name hname
    simp only [Option.mem_def.mp hname] at h
    split at h
    · next hany => simpa using hany
    · cases h

theorem Config.mistake?_eq_none_iff {c : Config} : c.mistake? = none ↔
    (c.tokens.map (·.name)).Nodup ∧ ∀ name ∈ c.skip, name ∈ c.tokens.map (·.name) := by
  refine ⟨rules_of_mistake?, ?_⟩
  rintro ⟨hnodup, hskip⟩
  have hrepeated : repeatedName? [] c.tokens = none :=
    repeatedName?_eq_none_iff.mpr ⟨by simp, hnodup⟩
  unfold mistake?
  rw [hrepeated]
  cases hname : c.skip with
  | none => rfl
  | some name =>
    have hmem := hskip name hname
    simpa using hmem

/-- What a mapping has under a name. Nothing is there if the name is not. -/
def entryOf (entries : List (Value × Value)) (name : String) : Value :=
  (Value.lookup entries (.text name)).getD .null

def KeysAmong (names : List String) (entries : List (Value × Value)) : Prop :=
  ∀ entry ∈ entries, ∃ name ∈ names, entry.1 = .text name

/-- A token as a mapping says it. -/
structure TokenConfig.Written (entries : List (Value × Value)) (t : TokenConfig) : Prop where
  keys : KeysAmong ["name", "exact", "regex", "capture", "doc"] entries
  name : Value.lookup entries (.text "name") = some (.text t.name)
  exact : entryOf entries "exact" = textValue t.exact
  regex : entryOf entries "regex" = textValue t.regex
  capture : entryOf entries "capture" = intValue t.capture
  doc : entryOf entries "doc" = textValue t.doc
  decided : t.Decided

def TokensWritten (listed : Value) (tokens : List TokenConfig) : Prop :=
  ∃ raws, listed.items? = some raws ∧
    List.Forall₂ (fun raw t ↦ ∃ entries, raw = .mapping entries ∧ TokenConfig.Written entries t)
      raws tokens

/-- A configuration as a mapping says it. The tokens may be left out, but they are not nothing. -/
structure Config.Written (entries : List (Value × Value)) (c : Config) : Prop where
  keys : KeysAmong ["tokens", "skip"] entries
  tokens : (Value.lookup entries (.text "tokens") = none ∧ c.tokens = []) ∨
    ∃ listed, Value.lookup entries (.text "tokens") = some listed ∧ TokensWritten listed c.tokens
  skip : entryOf entries "skip" = textValue c.skip
  names_nodup : (c.tokens.map (·.name)).Nodup
  skip_mem : ∀ name ∈ c.skip, name ∈ c.tokens.map (·.name)

section OptionalFields

variable {schema : Schema} {path : Path} {raw v : Value} {entries : List (Value × Value)}
  {name : String}

theorem load_optional_eq_ok_iff (h : schema.Dumpable) :
    (Schema.union [schema, .nothing]).load path raw = .ok v ↔
      raw = .null ∧ v = .null ∨ raw ≠ .null ∧ schema.load path raw = .ok v := by
  by_cases hnull : raw = .null
  · subst hnull
    rw [Schema.load_union_null (.inl rfl)]
    simp [eq_comm]
  · refine ⟨fun hload ↦ .inr ⟨hnull, ?_⟩, ?_⟩
    · rcases Schema.load_union_cases (.inl rfl) hload with ⟨rfl, -⟩ | hschema
      · exact absurd rfl hnull
      · exact hschema
    · rintro (⟨rfl, -⟩ | ⟨-, hload⟩)
      · exact absurd rfl hnull
      · exact Schema.load_union_of_load (.inl rfl) h.isNothing_eq_false hnull hload

section Scalars

variable {α : Type} {value : Option α → Value} (hschema : schema.Dumpable)
  (hnone : value none = .null) (hsome : ∀ a, value (some a) ≠ .null)
  (hload : ∀ {path raw v}, schema.load path raw = .ok v ↔ v = raw ∧ ∃ a, raw = value (some a))

include hschema hnone hsome hload

theorem load_optional_scalar_eq_ok_iff :
    (Schema.union [schema, .nothing]).load path raw = .ok v ↔ v = raw ∧ ∃ o, raw = value o := by
  rw [load_optional_eq_ok_iff hschema, hload]
  constructor
  · rintro (⟨rfl, rfl⟩ | ⟨-, rfl, a, rfl⟩)
    · exact ⟨rfl, none, hnone.symm⟩
    · exact ⟨rfl, some a, rfl⟩
  · rintro ⟨rfl, _ | a, rfl⟩
    · exact .inl ⟨hnone, hnone⟩
    · exact .inr ⟨hsome a, rfl, a, rfl⟩

theorem outcome_optional_iff {isOptional : Bool} {loaded : Option Value} :
    Schema.Outcome entries name { default := some .null } isOptional
        (fun raw v ↦ (Schema.union [schema, .nothing]).load path raw = .ok v) loaded ↔
      ∃ o, entryOf entries name = value o ∧ loaded = some (value o) := by
  have hfits {raw v : Value} :
      (Schema.union [schema, .nothing]).load path raw = .ok v ↔ v = raw ∧ ∃ o, raw = value o :=
    load_optional_scalar_eq_ok_iff hschema hnone hsome hload
  constructor
  · intro h
    cases h with
    | given _ hgiven hvalue =>
      obtain ⟨rfl, o, rfl⟩ := hfits.mp hvalue
      exact ⟨o, by simp [entryOf, hgiven], rfl⟩
    | absent habsent hdefault =>
      cases hdefault
      exact ⟨none, by simp [entryOf, habsent rfl, hnone], by rw [hnone]⟩
    | nothing _ _ hdefault => cases hdefault
    | without hloadable => cases hloadable
  · rintro ⟨o, hentry, rfl⟩
    cases hlookup : Value.lookup entries (.text name) with
    | none =>
      have hnull : value o = .null := by simpa [entryOf, hlookup] using hentry.symm
      exact .absent (fun _ ↦ hlookup) (by rw [hnull])
    | some raw =>
      obtain rfl : raw = value o := by simpa [entryOf, hlookup] using hentry
      exact .given rfl hlookup (hfits.mpr ⟨rfl, o, rfl⟩)

end Scalars

theorem text_outcome_iff {isOptional : Bool} {loaded : Option Value} :
    Schema.Outcome entries name { default := some .null } isOptional
        (fun raw v ↦ (Schema.optional .text).load path raw = .ok v) loaded ↔
      ∃ o, entryOf entries name = textValue o ∧ loaded = some (textValue o) :=
  outcome_optional_iff .text rfl (by simp [textValue]) Schema.load_text_eq_ok_iff

theorem int_outcome_iff {isOptional : Bool} {loaded : Option Value} :
    Schema.Outcome entries name { default := some .null } isOptional
        (fun raw v ↦ (Schema.optional .int).load path raw = .ok v) loaded ↔
      ∃ o, entryOf entries name = intValue o ∧ loaded = some (intValue o) :=
  outcome_optional_iff .int rfl (by simp [intValue]) Schema.load_int_eq_ok_iff

end OptionalFields

variable {path : Path} {raw v : Value}

theorem TokenConfig.name_outcome_iff {entries : List (Value × Value)} {loaded : Option Value} :
    Schema.Outcome entries "name" {} Schema.text.isOptional
        (fun raw v ↦ Schema.text.load path raw = .ok v) loaded ↔
      ∃ s, Value.lookup entries (.text "name") = some (.text s) ∧ loaded = some (.text s) := by
  constructor
  · intro h
    cases h with
    | given _ hgiven hfits =>
      obtain ⟨rfl, s, rfl⟩ := Schema.load_text_eq_ok_iff.mp hfits
      exact ⟨s, hgiven, rfl⟩
    | absent _ hdefault => cases hdefault
    | nothing _ _ _ hoptional => cases hoptional
    | without hloadable => cases hloadable
  · rintro ⟨s, hgiven, rfl⟩
    exact .given rfl hgiven (Schema.load_text_eq_ok_iff.mpr ⟨rfl, s, rfl⟩)

theorem TokenConfig.load_eq_ok_iff : TokenConfig.schema.load path raw = .ok v ↔
    ∃ t, (∃ entries, raw = .mapping entries ∧ TokenConfig.Written entries t) ∧ v = t.toValue := by
  rw [TokenConfig.schema, load_record_eq_ok_iff]
  simp only [optionalField, loadFields_cons_eq_ok_iff, name_outcome_iff, text_outcome_iff,
    int_outcome_iff]
  constructor
  · rintro ⟨entries, loaded, rfl, hknown, hfields, hcheck, rfl⟩
    obtain ⟨_, _, ⟨name, hname, rfl⟩, hfields, rfl⟩ := hfields
    obtain ⟨_, _, ⟨literal, hexact, rfl⟩, hfields, rfl⟩ := hfields
    obtain ⟨_, _, ⟨pattern, hregex, rfl⟩, hfields, rfl⟩ := hfields
    obtain ⟨_, _, ⟨group, hcapture, rfl⟩, hfields, rfl⟩ := hfields
    obtain ⟨_, _, ⟨doc, hdoc, rfl⟩, hnil, rfl⟩ := hfields
    cases hnil
    let t : TokenConfig := ⟨name, literal, pattern, group, doc⟩
    have hmistake : (ofFields t.fields).mistake? = none := hcheck
    rw [ofFields_fields, mistake?_eq_none_iff] at hmistake
    refine ⟨t, ⟨entries, rfl, ?_, hname, hexact, hregex, hcapture, hdoc, hmistake⟩, rfl⟩
    simpa [KeysAmong] using hknown
  · rintro ⟨t, ⟨entries, rfl, hwritten⟩, rfl⟩
    have hmistake : (ofFields t.fields).mistake? = none := by
      rw [ofFields_fields, mistake?_eq_none_iff]
      exact hwritten.decided
    refine ⟨entries, t.fields, rfl, by simpa [KeysAmong] using hwritten.keys, ?_, hmistake, rfl⟩
    exact ⟨_, _, ⟨_, hwritten.name, rfl⟩, ⟨_, _, ⟨_, hwritten.exact, rfl⟩,
      ⟨_, _, ⟨_, hwritten.regex, rfl⟩, ⟨_, _, ⟨_, hwritten.capture, rfl⟩,
      ⟨_, _, ⟨_, hwritten.doc, rfl⟩, rfl, rfl⟩, rfl⟩, rfl⟩, rfl⟩, rfl⟩

theorem forall₂_toValue_iff {Reads : Value → TokenConfig → Prop} {raws vs : List Value} :
    List.Forall₂ (fun raw v ↦ ∃ t, Reads raw t ∧ v = t.toValue) raws vs ↔
      ∃ tokens, List.Forall₂ Reads raws tokens ∧ vs = tokens.map (·.toValue) := by
  constructor
  · intro h
    induction h with
    | nil => exact ⟨[], .nil, rfl⟩
    | cons hfirst _ ih =>
      obtain ⟨t, ht, rfl⟩ := hfirst
      obtain ⟨tokens, htokens, rfl⟩ := ih
      exact ⟨t :: tokens, .cons ht htokens, rfl⟩
  · rintro ⟨tokens, htokens, rfl⟩
    rw [List.forall₂_map_right_iff]
    exact htokens.imp fun _ t ht ↦ ⟨t, ht, rfl⟩

theorem Config.load_tokens_eq_ok_iff :
    (Schema.list TokenConfig.schema).load path raw = .ok v ↔
      ∃ tokens, TokensWritten raw tokens ∧ v = .list (tokens.map (·.toValue)) := by
  have hitems {raws vs : List Value} :
      List.Forall₂ (fun entry v ↦
        TokenConfig.schema.load (path.push (.item entry.2)) entry.1 = .ok v) raws.zipIdx vs ↔
      ∃ tokens, List.Forall₂ (fun raw t ↦ ∃ entries, raw = .mapping entries ∧
        TokenConfig.Written entries t) raws tokens ∧ vs = tokens.map (·.toValue) := by
    rw [← forall₂_toValue_iff]
    simp only [TokenConfig.load_eq_ok_iff]
    nth_rewrite 2 [← List.zipIdx_map_fst 0 raws]
    rw [List.forall₂_map_left_iff]
  simp only [Schema.load_list_eq_ok_iff, Schema.loadSequence_eq_ok_iff, hitems, TokensWritten]
  constructor
  · rintro ⟨_, ⟨raws, hraws, tokens, htokens, rfl⟩, rfl⟩
    exact ⟨tokens, ⟨raws, hraws, htokens⟩, rfl⟩
  · rintro ⟨tokens, ⟨raws, hraws, htokens⟩, rfl⟩
    exact ⟨_, ⟨raws, hraws, tokens, htokens, rfl⟩, rfl⟩

theorem Config.tokens_outcome_iff {entries : List (Value × Value)} {loaded : Option Value}
    {isOptional : Bool} :
    Schema.Outcome entries "tokens" { default := some (.list []) } isOptional
        (fun raw v ↦ (Schema.list TokenConfig.schema).load path raw = .ok v) loaded ↔
      ∃ tokens, ((Value.lookup entries (.text "tokens") = none ∧ tokens = []) ∨
        ∃ listed, Value.lookup entries (.text "tokens") = some listed ∧
          TokensWritten listed tokens) ∧
        loaded = some (.list (tokens.map (·.toValue))) := by
  constructor
  · intro h
    cases h with
    | given _ hgiven hfits =>
      obtain ⟨tokens, htokens, rfl⟩ := load_tokens_eq_ok_iff.mp hfits
      exact ⟨tokens, .inr ⟨_, hgiven, htokens⟩, rfl⟩
    | absent habsent hdefault =>
      cases hdefault
      exact ⟨[], .inl ⟨habsent rfl, rfl⟩, rfl⟩
    | nothing _ _ hdefault => cases hdefault
    | without hloadable => cases hloadable
  · rintro ⟨tokens, ⟨habsent, rfl⟩ | ⟨listed, hgiven, htokens⟩, rfl⟩
    · exact .absent (fun _ ↦ habsent) rfl
    · exact .given rfl hgiven (load_tokens_eq_ok_iff.mpr ⟨tokens, htokens, rfl⟩)

theorem Config.schema_load_eq_ok_iff : Config.schema.load path raw = .ok v ↔
    ∃ c, (∃ entries, raw = .mapping entries ∧ Config.Written entries c) ∧ v = c.toValue := by
  rw [Config.schema, load_record_eq_ok_iff]
  simp only [optionalField, loadFields_cons_eq_ok_iff, tokens_outcome_iff, text_outcome_iff]
  constructor
  · rintro ⟨entries, loaded, rfl, hknown, hfields, hcheck, rfl⟩
    obtain ⟨_, _, ⟨tokens, htokens, rfl⟩, hfields, rfl⟩ := hfields
    obtain ⟨_, _, ⟨skip, hskip, rfl⟩, hnil, rfl⟩ := hfields
    cases hnil
    let c : Config := ⟨tokens, skip⟩
    have hmistake : (ofFields c.fields).mistake? = none := hcheck
    rw [ofFields_fields, mistake?_eq_none_iff] at hmistake
    refine ⟨c, ⟨entries, rfl, ?_, htokens, hskip, hmistake.1, hmistake.2⟩, rfl⟩
    simpa [KeysAmong] using hknown
  · rintro ⟨c, ⟨entries, rfl, hwritten⟩, rfl⟩
    have hmistake : (ofFields c.fields).mistake? = none := by
      rw [ofFields_fields, mistake?_eq_none_iff]
      exact ⟨hwritten.names_nodup, hwritten.skip_mem⟩
    refine ⟨entries, c.fields, rfl, by simpa [KeysAmong] using hwritten.keys, ?_, hmistake, rfl⟩
    exact ⟨_, _, ⟨_, hwritten.tokens, rfl⟩, ⟨_, _, ⟨_, hwritten.skip, rfl⟩, rfl, rfl⟩, rfl⟩

theorem Config.schema_tells : Config.schema.Tells := by
  have hoptional {scalar : Schema} (h : scalar.Tells) :
      (Schema.union [scalar, .nothing]).Tells := by
    refine Schema.tells_union (List.forall_mem_cons.mpr ⟨h, ?_⟩)
    exact List.forall_mem_singleton.mpr Schema.tells_nothing
  have htext : (Schema.optional .text).Tells := hoptional Schema.tells_text
  have hint : (Schema.optional .int).Tells := hoptional Schema.tells_int
  have htoken : TokenConfig.schema.Tells := by
    refine Schema.tells_record ?_
    simp only [optionalField, List.forall_mem_cons]
    exact ⟨Schema.tells_text, htext, htext, hint, htext, by simp⟩
  refine Schema.tells_record ?_
  simp only [optionalField, List.forall_mem_cons]
  exact ⟨Schema.tells_list htoken, htext, by simp⟩

theorem Config.load_eq_ok_iff {source : String} {c : Config} : Config.load source raw = .ok c ↔
    ∃ entries, raw = .mapping entries ∧ Config.Written entries c := by
  constructor
  · intro h
    cases hload : Config.schema.load ⟨source, []⟩ raw with
    | error e => simp [Config.load, hload, Except.map] at h
    | ok v =>
      obtain ⟨written, hwritten, rfl⟩ := schema_load_eq_ok_iff.mp hload
      obtain rfl := Except.ok.inj (h.symm.trans (load_eq hload))
      exact hwritten
  · intro hwritten
    exact load_eq (schema_load_eq_ok_iff.mpr ⟨c, hwritten, rfl⟩)

theorem TokensWritten.decided {listed : Value} {tokens : List TokenConfig}
    (h : TokensWritten listed tokens) : ∀ t ∈ tokens, t.Decided := by
  obtain ⟨raws, -, htokens⟩ := h
  induction htokens with
  | nil => simp
  | cons hfirst _ ih =>
    obtain ⟨_, -, hwritten⟩ := hfirst
    exact List.forall_mem_cons.mpr ⟨hwritten.decided, ih⟩

theorem Config.accepted_of_load {source : String} {c : Config}
    (h : Config.load source raw = .ok c) : c.Accepted := by
  obtain ⟨entries, -, hwritten⟩ := load_eq_ok_iff.mp h
  refine ⟨?_, hwritten.names_nodup, hwritten.skip_mem⟩
  rcases hwritten.tokens with ⟨-, hnil⟩ | ⟨listed, -, htokens⟩
  · simp [hnil]
  · exact htokens.decided

/-- A value is loaded as a grammar just when it is written in the format of grammar documents, and
what comes of it lists the tokens that are written there, in order, with nothing for what was left
out. Everything else is refused with an error that tells where it does not fit. -/
theorem Config.load_iff_written (path : Path) (raw : Value) :
    (∀ v, Config.schema.load path raw = .ok v ↔
      ∃ c, (∃ entries, raw = .mapping entries ∧ Config.Written entries c) ∧ v = c.toValue) ∧
    (∀ source c, Config.load source raw = .ok c ↔
      ∃ entries, raw = .mapping entries ∧ Config.Written entries c) ∧
    ((∃ v, Config.schema.load path raw = .ok v) ∨
      ∃ e, Config.schema.load path raw = .error e ∧ e.path?.isSome = true) := by
  refine ⟨fun v ↦ schema_load_eq_ok_iff, fun source c ↦ load_eq_ok_iff, ?_⟩
  cases hload : Config.schema.load path raw with
  | ok v => exact .inl ⟨v, rfl⟩
  | error e => exact .inr ⟨e, rfl, schema_tells path raw e hload⟩

end Grammar

end Tokenry
