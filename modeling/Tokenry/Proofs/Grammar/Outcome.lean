import Mathlib
import Tokenry.Command
import Tokenry.Proofs.Grammar.Format
import Tokenry.Proofs.Grammar.Independence
import Tokenry.Proofs.Pattern.Store

namespace Tokenry

namespace Grammar

theorem lookup_of_mem {entries : List (String × Kind)} {name : String} {k : Kind}
    (hnodup : (entries.map (·.1)).Nodup) (h : (name, k) ∈ entries) :
    entries.lookup name = some k := by
  obtain ⟨before, after, rfl⟩ := List.append_of_mem h
  refine List.lookup_eq_some_iff.mpr ⟨before, after, rfl, ?_⟩
  intro entry hentry
  rw [List.map_append, List.nodup_append] at hnodup
  have hne := hnodup.2.2 entry.1 (List.mem_map_of_mem hentry) name (by simp)
  simpa using hne.symm

theorem exists_lookup {entries : List (String × Kind)} {name : String}
    (h : name ∈ entries.map (·.1)) : ∃ k, entries.lookup name = some k := by
  rw [← Option.isSome_iff_exists]
  by_contra hnone
  rw [Bool.not_eq_true, Option.isSome_eq_false_iff, Option.isNone_iff_eq_none,
    List.lookup_eq_none_iff] at hnone
  obtain ⟨entry, hentry, rfl⟩ := List.mem_map.mp h
  simpa using hnone entry hentry

theorem skipKind_eq {entries : List (String × Kind)} {skip : Option String}
    (h : ∀ name ∈ skip, name ∈ entries.map (·.1)) :
    skipKind entries skip = .ok (skip.bind fun name ↦ entries.lookup name) := by
  cases skip with
  | none => rfl
  | some name =>
    obtain ⟨k, hk⟩ := exists_lookup (h name rfl)
    simp [skipKind, hk]

namespace TokenConfig

/-- The declaration that a token stands for. -/
def declared (t : TokenConfig) : Declaration where
  name := t.name
  strategy := if t.exact.isSome then .exact else .regex
  pattern := t.exact.getD (t.regex.getD "")
  capture := t.capture.getD 0
  doc := t.doc

/-- What keeps a token from being declared: its name, an empty literal or a negative group. -/
def fault? (t : TokenConfig) : Option DefinitionError :=
  if Text.isIdentifier t.name.toList = false then some (.notIdentifier t.name)
  else if t.exact = some "" then some (.emptyLiteral t.name)
  else if t.capture.getD 0 < 0 then
    some (.negativeCapture t.name (t.regex.getD "") (t.capture.getD 0))
  else none

variable {t : TokenConfig}

theorem fault?_eq_none_iff :
    t.fault? = none ↔
      Text.isIdentifier t.name.toList = true ∧ t.exact ≠ some "" ∧ ∀ n ∈ t.capture, 0 ≤ n := by
  have hcapture : (∀ n ∈ t.capture, 0 ≤ n) ↔ 0 ≤ t.capture.getD 0 := by
    cases t.capture <;> simp
  rw [hcapture, fault?]
  split
  · next hname => simp [hname]
  · next hname =>
    split
    · next hexact => simp [hexact]
    · next hexact =>
      split
      · next hnegative => simp [hnegative]
      · next hnegative => simpa [hname, hexact] using hnegative

theorem Decided.declaration_eq_check (h : t.Decided) : t.declaration = t.declared.check := by
  rcases h with ⟨literal, hexact, hregex, hcapture⟩ | ⟨pattern, hexact, hregex⟩
  · simp [declaration, declared, Declaration.ofOptions, hexact, hregex, hcapture]
  · simp [declaration, declared, Declaration.ofOptions, hexact, hregex]

theorem Decided.mistake?_declared (h : t.Decided) : t.declared.mistake? = t.fault? := by
  rcases h with ⟨literal, hexact, hregex, hcapture⟩ | ⟨pattern, hexact, hregex⟩
  · simp [declared, Declaration.mistake?, fault?, hexact, hcapture]
  · simp [declared, Declaration.mistake?, fault?, hexact, hregex]

theorem Decided.declaration_eq (h : t.Decided) :
    t.declaration = match t.fault? with
      | some e => .error e
      | none => .ok t.declared := by
  rw [h.declaration_eq_check, Declaration.check]
  cases hfault : t.fault? with
  | some e => simp only [h.mistake?_declared, hfault]
  | none => simp only [h.mistake?_declared, hfault]

theorem fault?_ne (t : TokenConfig) (name literal : String) :
    t.fault? ≠ some (.notOneStrategy name) ∧ t.fault? ≠ some (.captureOnLiteral name literal) := by
  unfold fault?
  split_ifs <;> simp

end TokenConfig

end Grammar

section Outcome

variable [Pattern.CharacterNames]

namespace Grammar

namespace TokenConfig

/-- What keeps the pattern of a token from being used, if it has one: a fault of the pattern or a
group that is not there. -/
def patternFault? (t : TokenConfig) : Option MatchError :=
  t.regex.bind fun pattern ↦
    match Pattern.compile pattern with
    | .error fault => some (.ofFault pattern fault)
    | .ok compiled =>
      if t.capture.getD 0 ≤ compiled.groups then none
      else some (.definition (.missingGroup pattern (t.capture.getD 0).toNat compiled.groups))

variable {t : TokenConfig}

theorem patternFault?_eq_none_iff :
    t.patternFault? = none ↔ ∀ pattern ∈ t.regex,
      ∃ compiled, Pattern.compile pattern = .ok compiled ∧
        ∀ n ∈ t.capture, n ≤ compiled.groups := by
  have hcapture (groups : Nat) : t.capture.getD 0 ≤ groups ↔ ∀ n ∈ t.capture, n ≤ groups := by
    cases t.capture <;> simp
  cases hregex : t.regex with
  | none => simp [patternFault?, hregex]
  | some pattern =>
    cases hcompile : Pattern.compile pattern with
    | error fault => simp [patternFault?, hregex, hcompile]
    | ok compiled => simp [patternFault?, hregex, hcompile, hcapture]

theorem Decided.compile_eq (h : t.Decided) :
    (match t.declared.strategy with
      | .exact => .ok ()
      | .regex => (Pattern.compileFor t.declared.pattern t.declared.capture.toNat).map fun _ ↦ ()) =
    match t.patternFault? with
      | some e => Except.error e
      | none => .ok () := by
  rcases h with ⟨literal, hexact, hregex, -⟩ | ⟨pattern, hexact, hregex⟩
  · simp [declared, patternFault?, hexact, hregex]
  · cases hcompile : Pattern.compile pattern with
    | error fault =>
      simp [declared, patternFault?, Pattern.compileFor, Except.map, hexact, hregex, hcompile]
    | ok compiled =>
      by_cases hgroup : t.capture.getD 0 ≤ compiled.groups
      all_goals
        simp [declared, patternFault?, Pattern.compileFor, Except.map, hexact, hregex, hcompile,
          hgroup]

/-- A kind that some session makes of a token. -/
def Defines (t : TokenConfig) (k : Kind) : Prop := ∃ s : Session, k = (s.declare t.declared {}).1

theorem Defines.declaration_eq {k : Kind} (h : t.Defines k) : k.declaration = some t.declared := by
  obtain ⟨s, rfl⟩ := h
  exact Kind.declare_declaration s t.declared {}

theorem Defines.prepare_eq {k : Kind} (h : t.Defines k) : k.changes.prepare = none := by
  obtain ⟨s, rfl⟩ := h
  rw [Kind.declare_changes]

end TokenConfig

variable {tokens : List TokenConfig}

theorem defineAll_error (s : Session) (h : ∀ t ∈ tokens, t.Decided) {e : DefinitionError}
    (he : tokens.findSome? TokenConfig.fault? = some e) : (defineAll s tokens).1 = .error e := by
  induction tokens generalizing s with
  | nil => cases he
  | cons t rest ih =>
    have hdeclaration := (h t (.head _)).declaration_eq
    rw [List.findSome?_cons] at he
    cases hfault : t.fault? with
    | some own =>
      simp only [hfault, Option.some.injEq] at he hdeclaration
      simp only [defineAll, hdeclaration, he]
    | none =>
      simp only [hfault] at he hdeclaration
      simp only [defineAll, hdeclaration]
      rw [ih _ (fun u hu ↦ h u (.tail _ hu)) he]
      rfl

theorem defineAll_ok (s : Session) (h : ∀ t ∈ tokens, t.Decided)
    (hsound : ∀ t ∈ tokens, t.fault? = none) :
    ∃ entries, (defineAll s tokens).1 = .ok entries ∧
      List.Forall₂ (fun t entry ↦ entry.1 = t.name ∧ t.Defines entry.2) tokens entries := by
  induction tokens generalizing s with
  | nil => exact ⟨[], rfl, .nil⟩
  | cons t rest ih =>
    have hdeclaration := (h t (.head _)).declaration_eq
    simp only [hsound t (.head _)] at hdeclaration
    obtain ⟨later, hlater, hforall⟩ := ih (s.declare t.declared {}).2
      (fun u hu ↦ h u (.tail _ hu)) (fun u hu ↦ hsound u (.tail _ hu))
    refine ⟨(t.name, (s.declare t.declared {}).1) :: later, ?_, .cons ⟨rfl, s, rfl⟩ hforall⟩
    simp only [defineAll, hdeclaration, hlater, Except.map]

end Grammar

namespace Session

variable {kinds kinds' : List Kind} {s s' : Session} {k : Kind}

omit [Pattern.CharacterNames] in
theorem isCompiled_iff : s.isCompiled k = true ↔ ∃ index waiting, k.deferred = some index ∧
    s.deferred[index]? = some waiting ∧ waiting.isCompiled = true := by
  cases hindex : k.deferred with
  | none => simp [isCompiled, hindex]
  | some index => cases hwaiting : s.deferred[index]? <;> simp [isCompiled, hindex, hwaiting]

theorem Leads.isCompiled (h : Leads kinds s kinds' s') (hk : s.isCompiled k = true) :
    s'.isCompiled k = true := by
  induction h with
  | refl => exact hk
  | declare d changes _ ih =>
    obtain ⟨index, waiting, hindex, hwaiting, hcompiled⟩ := isCompiled_iff.mp ih
    refine isCompiled_iff.mpr ⟨index, waiting, hindex, ?_, hcompiled⟩
    unfold Session.declare
    split
    · exact hwaiting
    · obtain ⟨hlt, -⟩ := Array.getElem?_eq_some_iff.mp hwaiting
      rw [Array.getElem?_push_lt hlt, ← Array.getElem?_eq_getElem hlt, hwaiting]
  | invent | derive | freshHandle | compile => assumption
  | handleOf _ _ ih =>
    unfold Session.handleOf
    split <;> exact ih
  | @force _ s₁ index _ ih =>
    obtain ⟨place, waiting, hplace, hwaiting, hcompiled⟩ := isCompiled_iff.mp ih
    refine isCompiled_iff.mpr ⟨place, waiting, hplace, ?_, hcompiled⟩
    obtain ⟨entry, hentry⟩ := Option.isSome_iff_exists.mp hcompiled
    unfold Session.force
    split
    · exact hwaiting
    · next other hother =>
      by_cases heq : index = place
      · subst heq
        obtain rfl := Option.some.inj (hwaiting.symm.trans hother)
        obtain ⟨hlt, -⟩ := Array.getElem?_eq_some_iff.mp hwaiting
        simp only [Pattern.Deferred.force_of_entry hentry]
        exact Array.getElem?_setIfInBounds_self_of_lt hlt
      · simp only [Array.getElem?_setIfInBounds_ne heq, hwaiting]

/-- Once a kind has been prepared, its pattern is compiled. -/
theorem Sound.isCompiled_prepare {made : List Kind} (h : s.Sound made) (hk : k ∈ made)
    {d : Declaration} (hd : k.declaration = some d) (hregex : d.strategy = .regex)
    (hplain : k.changes.prepare = none) (hprepare : (s.prepare k).1 = .ok ()) :
    (s.prepare k).2.isCompiled k = true := by
  obtain ⟨index, waiting, hindex, hwaiting, -⟩ := h.waits k hk d hd hregex
  obtain ⟨hlt, -⟩ := Array.getElem?_eq_some_iff.mp hwaiting
  simp only [Session.prepare, hplain, Session.catchUp, hindex, Session.force, hwaiting]
    at hprepare ⊢
  cases hforce : (waiting.force s.cache).1 with
  | error e =>
    rw [hforce] at hprepare
    cases hprepare
  | ok entry =>
    refine isCompiled_iff.mpr
      ⟨index, _, hindex, Array.getElem?_setIfInBounds_self_of_lt hlt, ?_⟩
    rw [Pattern.Deferred.force_ok_pattern hforce]
    rfl

end Session

namespace Table

open Grammar (TokenConfig)

variable {kinds : List Kind} {s : Session} {k : Kind} {token : TokenConfig}

theorem extend_cons (hs : s.Reliable kinds) (hk : k ∈ kinds) (hdecided : token.Decided)
    (hdefines : token.Defines k) (t : Table) (hnew : t.contains k = false) (repeated : List Kind)
    (rest : List Candidate) :
    ∃ s₁ : Session, s₁.Reliable kinds ∧
      (token.patternFault? = none → token.regex.isSome = true → s₁.isCompiled k = true) ∧
      extend s t repeated (.kind k :: rest) =
        match token.patternFault? with
        | some e => (.error (.preparation e), s₁)
        | none => extend s₁ (t.push k hnew) repeated rest := by
  have hs₁ := hs.leads (Session.Leads.refl.handleOf hk)
  have hprepare : ((s.handleOf k).2.prepare k).1 = match token.patternFault? with
      | some e => .error e
      | none => .ok () := by
    obtain ⟨s₀, rfl⟩ := hdefines
    rw [hs₁.prepare_eq hk]
    exact hdecided.compile_eq
  refine ⟨((s.handleOf k).2.prepare k).2, hs₁.leads (Session.Leads.refl.prepare k), ?_, ?_⟩
  · intro hsound hregex
    rw [hsound] at hprepare
    refine hs₁.sound.isCompiled_prepare (List.mem_reverse.mpr hk) hdefines.declaration_eq ?_
      hdefines.prepare_eq hprepare
    rcases hdecided with ⟨literal, -, hnone, -⟩ | ⟨pattern, hexact, -⟩
    · rw [hnone] at hregex
      cases hregex
    · simp [TokenConfig.declared, hexact]
  · simp only [extend, Session.resolve, Prod.map, id_eq, hs.orderly.handleOf_kind hk, hnew,
      Bool.false_eq_true, dite_false]
    generalize (s.handleOf k).2.prepare k = outcome at hprepare ⊢
    obtain ⟨result, s₁⟩ := outcome
    obtain rfl : result = _ := hprepare
    cases token.patternFault? <;> rfl

omit [Pattern.CharacterNames] in
theorem contains_eq_false {t : Table} {rest : List Kind}
    (h : ((t.kinds ++ k :: rest).map (·.id)).Nodup) : t.contains k = false := by
  rw [List.map_append, List.nodup_append] at h
  rw [contains, List.any_eq_false]
  intro l hl
  have hne := h.2.2 l.id (List.mem_map_of_mem hl) k.id (by simp)
  simpa using hne

variable {tokens : List TokenConfig} {listed : List Kind} {t : Table}

theorem extend_error (hs : s.Reliable kinds) (hmade : ∀ k ∈ listed, k ∈ kinds)
    (hdecided : ∀ u ∈ tokens, u.Decided) (hdefines : List.Forall₂ TokenConfig.Defines tokens listed)
    (hnew : ((t.kinds ++ listed).map (·.id)).Nodup) (repeated : List Kind) {e : MatchError}
    (he : tokens.findSome? TokenConfig.patternFault? = some e) :
    (extend s t repeated (listed.map .kind)).1 = .error (.preparation e) := by
  induction hdefines generalizing s t with
  | nil => cases he
  | @cons u k tokens listed hdefine _ ih =>
    obtain ⟨s₁, hs₁, -, hextend⟩ := extend_cons hs (hmade k (.head _)) (hdecided u (.head _))
      hdefine t (contains_eq_false hnew) repeated (listed.map .kind)
    rw [List.map_cons, hextend]
    rw [List.findSome?_cons] at he
    cases hfault : u.patternFault? with
    | some own =>
      simp only [hfault, Option.some.injEq] at he ⊢
      rw [he]
    | none =>
      simp only [hfault] at he ⊢
      refine ih hs₁ (fun l hl ↦ hmade l (.tail _ hl)) (fun v hv ↦ hdecided v (.tail _ hv)) ?_ he
      simpa [push] using hnew

theorem extend_ok (hs : s.Reliable kinds) (hmade : ∀ k ∈ listed, k ∈ kinds)
    (hdecided : ∀ u ∈ tokens, u.Decided) (hdefines : List.Forall₂ TokenConfig.Defines tokens listed)
    (hnew : ((t.kinds ++ listed).map (·.id)).Nodup) (repeated : List Kind)
    (hsound : ∀ u ∈ tokens, u.patternFault? = none) :
    ∃ table, (extend s t repeated (listed.map .kind)).1 = .ok (table, repeated.reverse) ∧
      table.kinds = t.kinds ++ listed ∧
      List.Forall₂ (fun u k ↦ u.regex.isSome = true →
        (extend s t repeated (listed.map .kind)).2.isCompiled k = true) tokens listed := by
  induction hdefines generalizing s t with
  | nil => exact ⟨t, rfl, by simp, .nil⟩
  | @cons u k tokens listed hdefine _ ih =>
    obtain ⟨s₁, hs₁, hcompiled, hextend⟩ := extend_cons hs (hmade k (.head _))
      (hdecided u (.head _)) hdefine t (contains_eq_false hnew) repeated (listed.map .kind)
    have hrest : ∀ l ∈ listed, l ∈ kinds := fun l hl ↦ hmade l (.tail _ hl)
    simp only [hsound u (.head _)] at hcompiled hextend
    obtain ⟨table, htable, hkinds, hforall⟩ := ih (t := t.push k (contains_eq_false hnew)) hs₁
      hrest (fun v hv ↦ hdecided v (.tail _ hv)) (by simpa [push] using hnew)
      (fun v hv ↦ hsound v (.tail _ hv))
    rw [List.map_cons, hextend]
    refine ⟨table, htable, by simpa [push] using hkinds, .cons ?_ hforall⟩
    intro hregex
    -- what follows only compiles more
    have hleads : Session.Leads kinds s₁ kinds
        (extend s₁ (t.push k (contains_eq_false hnew)) repeated (listed.map .kind)).2 :=
      Session.Leads.refl.extend fun l hl ↦ hrest l (by simpa using hl)
    exact hleads.isCompiled (hcompiled trivial hregex)

omit [Pattern.CharacterNames] in
theorem priority?_of_getElem? {i : Nat} (h : t.kinds[i]? = some k) : t.priority? k = some i := by
  obtain ⟨hi, rfl⟩ := List.getElem?_eq_some_iff.mp h
  refine List.findIdx?_eq_some_iff_getElem.mpr ⟨hi, by simp, ?_⟩
  intro j hj hid
  have hi' : i < (t.kinds.map (·.id)).length := by simpa using hi
  have hj' : j < (t.kinds.map (·.id)).length := by omega
  have hmap : (t.kinds.map (·.id))[j] = (t.kinds.map (·.id))[i] := by simpa using hid
  have hij := (List.Nodup.getElem_inj_iff t.distinct).mp hmap
  omega

end Table

namespace Grammar

variable {kinds : List Kind} {s : Session} {c : Config} {g : Grammar} {k : Kind}

theorem defineAll_listed (hs : s.Reliable kinds) (hc : c.Accepted)
    (hsound : ∀ t ∈ c.tokens, t.fault? = none) :
    ∃ entries, (defineAll s c.tokens).1 = .ok entries ∧
      entries.map (·.1) = c.tokens.map (·.name) ∧
      List.Forall₂ TokenConfig.Defines c.tokens (entries.map (·.2)) ∧
      (defineAll s c.tokens).2.Reliable (kinds ++ entries.map (·.2)) ∧
      ((Table.empty.kinds ++ entries.map (·.2)).map (·.id)).Nodup := by
  obtain ⟨entries, hdefine, hentries⟩ := defineAll_ok s hc.decided hsound
  have hafter := hs.leads (Session.Leads.refl.defineAll c.tokens)
  rw [← defined_of_defineAll hdefine] at hafter
  refine ⟨entries, hdefine, ?_, ?_, hafter, ?_⟩
  · rw [← List.forall₂_eq_eq_eq, List.forall₂_map_left_iff, List.forall₂_map_right_iff]
    exact hentries.flip.imp fun _ _ h ↦ h.1
  · exact List.forall₂_map_right_iff.mpr (hentries.imp fun _ _ h ↦ h.2)
  · have hnodup := hafter.sound.ids_nodup
    rw [List.map_reverse, List.nodup_reverse, List.map_append] at hnodup
    exact (List.nodup_append.mp hnodup).2.1

theorem build_definition_error (s : Session) (hc : c.Accepted) {e : DefinitionError}
    (he : c.tokens.findSome? TokenConfig.fault? = some e) :
    (build s c).1 = .error (.definition e) := by
  have hdefine := defineAll_error s hc.decided he
  unfold build
  generalize defineAll s c.tokens = outcome at hdefine ⊢
  obtain ⟨result, s₁⟩ := outcome
  obtain rfl : result = .error e := hdefine
  rfl

theorem build_eq {entries : List (String × Kind)} (h : (defineAll s c.tokens).1 = .ok entries) :
    build s c =
      match Table.extend (defineAll s c.tokens).2 .empty [] ((entries.map (·.2)).map .kind) with
      | (.error e, s) => (.error (.table e), s)
      | (.ok (table, _), s) =>
        ((skipKind entries c.skip).map fun skip ↦ { table, kinds := entries, skip }, s) := by
  unfold build Table.build
  generalize defineAll s c.tokens = outcome at h ⊢
  obtain ⟨result, s₁⟩ := outcome
  obtain rfl : result = .ok entries := h
  simp only [List.map_map]
  rfl

/-- A grammar that is what a configuration says, in the session that has built it. -/
structure Realizes (g : Grammar) (c : Config) (s : Session) : Prop where
  names_eq : g.kinds.map (·.1) = c.tokens.map (·.name)
  listed : g.table.kinds = g.kinds.map (·.2)
  defines : List.Forall₂ TokenConfig.Defines c.tokens g.table.kinds
  compiled : List.Forall₂ (fun t k ↦ t.regex.isSome = true → s.isCompiled k = true) c.tokens
    g.table.kinds
  skip_eq : g.skip = c.skip.bind g.find?

theorem build_pattern_error (hs : s.Reliable kinds) (hc : c.Accepted)
    (hsound : ∀ t ∈ c.tokens, t.fault? = none) {e : MatchError}
    (he : c.tokens.findSome? TokenConfig.patternFault? = some e) :
    (build s c).1 = .error (.table (.preparation e)) := by
  obtain ⟨entries, hdefine, -, hdefines, hafter, hnodup⟩ := defineAll_listed hs hc hsound
  have hextend := Table.extend_error hafter (fun k hk ↦ List.mem_append_right _ hk) hc.decided
    hdefines hnodup [] he
  rw [build_eq hdefine]
  generalize Table.extend (defineAll s c.tokens).2 .empty [] ((entries.map (·.2)).map .kind) =
    outcome at hextend ⊢
  obtain ⟨result, s₂⟩ := outcome
  obtain rfl : result = .error (.preparation e) := hextend
  rfl

theorem build_ok (hs : s.Reliable kinds) (hc : c.Accepted)
    (hsound : ∀ t ∈ c.tokens, t.fault? = none)
    (hpatterns : ∀ t ∈ c.tokens, t.patternFault? = none) :
    ∃ g, (build s c).1 = .ok g ∧ g.Realizes c (build s c).2 := by
  obtain ⟨entries, hdefine, hnames, hdefines, hafter, hnodup⟩ := defineAll_listed hs hc hsound
  obtain ⟨table, hextend, hkinds, hcompiled⟩ := Table.extend_ok hafter
    (fun k hk ↦ List.mem_append_right _ hk) hc.decided hdefines hnodup [] hpatterns
  have hlisted : table.kinds = entries.map (·.2) := hkinds
  have hskip : skipKind entries c.skip = .ok (c.skip.bind fun name ↦ entries.lookup name) :=
    skipKind_eq fun name hname ↦ hnames ▸ hc.skip_mem name hname
  rw [build_eq hdefine]
  generalize Table.extend (defineAll s c.tokens).2 .empty [] ((entries.map (·.2)).map .kind) =
    outcome at hextend hcompiled ⊢
  obtain ⟨result, s₂⟩ := outcome
  obtain rfl : result = .ok (table, [].reverse) := hextend
  refine ⟨⟨table, entries, c.skip.bind fun name ↦ entries.lookup name⟩, ?_, ?_⟩
  · simp only [hskip, Except.map]
  · exact ⟨hnames, hlisted, hlisted ▸ hdefines, hlisted ▸ hcompiled, rfl⟩

/-- What becomes of a configuration: the error of the first token that cannot be declared; if there
is none, the error of the first pattern that cannot be used; and if there is none either, a
grammar. -/
theorem build_cases (hs : s.Reliable kinds) (hc : c.Accepted) :
    (∃ e, c.tokens.findSome? TokenConfig.fault? = some e ∧
      (build s c).1 = .error (.definition e)) ∨
    (∀ t ∈ c.tokens, t.fault? = none) ∧
      ((∃ e, c.tokens.findSome? TokenConfig.patternFault? = some e ∧
        (build s c).1 = .error (.table (.preparation e))) ∨
      (∀ t ∈ c.tokens, t.patternFault? = none) ∧
        ∃ g, (build s c).1 = .ok g ∧ g.Realizes c (build s c).2) := by
  cases hfault : c.tokens.findSome? TokenConfig.fault? with
  | some e => exact .inl ⟨e, rfl, build_definition_error s hc hfault⟩
  | none =>
    have hsound := List.findSome?_eq_none_iff.mp hfault
    refine .inr ⟨hsound, ?_⟩
    cases hpattern : c.tokens.findSome? TokenConfig.patternFault? with
    | some e => exact .inl ⟨e, rfl, build_pattern_error hs hc hsound hpattern⟩
    | none =>
      have hpatterns := List.findSome?_eq_none_iff.mp hpattern
      exact .inr ⟨hpatterns, build_ok hs hc hsound hpatterns⟩

theorem realizes_of_build (hs : s.Reliable kinds) (hc : c.Accepted) (hg : (build s c).1 = .ok g) :
    g.Realizes c (build s c).2 ∧ ∀ t ∈ c.tokens, t.fault? = none ∧ t.patternFault? = none := by
  rcases build_cases hs hc with
    ⟨e, -, he⟩ | ⟨hsound, ⟨e, -, he⟩ | ⟨hpatterns, g', hg', hrealizes⟩⟩
  · cases hg.symm.trans he
  · cases hg.symm.trans he
  · cases hg.symm.trans hg'
    exact ⟨hrealizes, fun t ht ↦ ⟨hsound t ht, hpatterns t ht⟩⟩

theorem first_of_build {e : BuildError} (hs : s.Reliable kinds) (hc : c.Accepted)
    (he : (build s c).1 = .error e) :
    (∃ cause, c.tokens.findSome? TokenConfig.fault? = some cause ∧ e = .definition cause) ∨
      (∀ t ∈ c.tokens, t.fault? = none) ∧
        ∃ cause, c.tokens.findSome? TokenConfig.patternFault? = some cause ∧
          e = .table (.preparation cause) := by
  rcases build_cases hs hc with ⟨e', hfirst, he'⟩ | ⟨hsound, ⟨e', hfirst, he'⟩ | ⟨-, g, hg, -⟩⟩
  · cases he.symm.trans he'
    exact .inl ⟨e', hfirst, rfl⟩
  · cases he.symm.trans he'
    exact .inr ⟨hsound, e', hfirst, rfl⟩
  · cases he.symm.trans hg

theorem build_ok_iff (hs : s.Reliable kinds) (hc : c.Accepted) :
    (∃ g, (build s c).1 = .ok g) ↔ ∀ t ∈ c.tokens, t.fault? = none ∧ t.patternFault? = none := by
  constructor
  · rintro ⟨g, hg⟩
    exact (realizes_of_build hs hc hg).2
  · intro h
    obtain ⟨g, hg, -⟩ := build_ok hs hc (fun t ht ↦ (h t ht).1) (fun t ht ↦ (h t ht).2)
    exact ⟨g, hg⟩

theorem Realizes.token (h : g.Realizes c s) (hc : c.Accepted) {i : Nat} {t : TokenConfig}
    (ht : c.tokens[i]? = some t) :
    ∃ k, g.table.kinds[i]? = some k ∧ g.table.priority? k = some i ∧ g.find? t.name = some k ∧
      t.Defines k ∧ (t.regex.isSome = true → s.isCompiled k = true) := by
  obtain ⟨hi, rfl⟩ := List.getElem?_eq_some_iff.mp ht
  obtain ⟨hlength, hdefines⟩ := List.forall₂_iff_get.mp h.defines
  have hcompiled := (List.forall₂_iff_get.mp h.compiled).2
  have hi' : i < g.table.kinds.length := hlength ▸ hi
  have hkind : g.table.kinds[i]? = some g.table.kinds[i] := List.getElem?_eq_getElem hi'
  refine ⟨g.table.kinds[i], hkind, Table.priority?_of_getElem? hkind, ?_, hdefines i hi hi',
    hcompiled i hi hi'⟩
  have hi'' : i < g.kinds.length := by rwa [h.listed, List.length_map] at hi'
  have hname : g.kinds[i].1 = c.tokens[i].name := by
    have hnames := congrArg (·[i]?) h.names_eq
    simpa [hi, hi''] using hnames
  have hentry : (c.tokens[i].name, g.table.kinds[i]) = g.kinds[i] := by
    simp [← hname, h.listed]
  exact lookup_of_mem (h.names_eq ▸ hc.names_nodup) (hentry ▸ List.getElem_mem hi'')

theorem Realizes.skip_spec (h : g.Realizes c s) (hc : c.Accepted) :
    (g.skip = none ↔ c.skip = none) ∧ ∀ k ∈ g.skip, k ∈ g.table.kinds := by
  cases hskip : c.skip with
  | none =>
    have hnone : g.skip = none := by rw [h.skip_eq, hskip]; rfl
    simp [hnone]
  | some name =>
    obtain ⟨k, hk⟩ := exists_lookup (h.names_eq ▸ hc.skip_mem name hskip)
    have hsome : g.skip = some k := by rw [h.skip_eq, hskip]; exact hk
    obtain ⟨before, after, hkinds, -⟩ := List.lookup_eq_some_iff.mp hk
    simp [hsome, h.listed, hkinds]

open Session (Act Log)

/-- What a document that has been loaded makes, whatever the session has done before. Its grammar is
built if every token has an identifier for a name, no literal is empty, no group is negative, and
every pattern compiles and has the group. Then the table has one kind for each token, in their
order, declared as the token says and compiled, and the skip kind is the one that is named.
Otherwise the error is that of the first token that cannot be declared, and only if all can, that of
the first pattern that cannot be used. -/
theorem build_of_load (acts : List Act) (source : String) (raw : Value) (c : Config)
    (hload : Config.load source raw = .ok c) :
    ((∃ g, (build (Log.performAll {} acts).session c).1 = .ok g) ↔
      ∀ t ∈ c.tokens, Text.isIdentifier t.name.toList = true ∧ t.exact ≠ some "" ∧
        (∀ n ∈ t.capture, 0 ≤ n) ∧
        ∀ pattern ∈ t.regex, ∃ compiled, Pattern.compile pattern = .ok compiled ∧
          ∀ n ∈ t.capture, n ≤ compiled.groups) ∧
    (∀ g, (build (Log.performAll {} acts).session c).1 = .ok g →
      g.table.size = c.tokens.length ∧ g.kinds.map (·.1) = c.tokens.map (·.name) ∧
      g.table.kinds = g.kinds.map (·.2) ∧
      (∀ i t, c.tokens[i]? = some t → ∃ k, g.table.kinds[i]? = some k ∧
        g.table.priority? k = some i ∧ g.find? t.name = some k ∧
        k.DeclaredAs t.declared ∧ k.declaration = some t.declared ∧
        (t.regex.isSome = true →
          (build (Log.performAll {} acts).session c).2.isCompiled k = true)) ∧
      g.skip = c.skip.bind g.find? ∧ (g.skip = none ↔ c.skip = none) ∧
      ∀ k ∈ g.skip, k ∈ g.table.kinds) ∧
    ∀ e, (build (Log.performAll {} acts).session c).1 = .error e →
      ((∃ cause, c.tokens.findSome? TokenConfig.fault? = some cause ∧ e = .definition cause) ∨
        (∀ t ∈ c.tokens, t.fault? = none) ∧
          ∃ cause, c.tokens.findSome? TokenConfig.patternFault? = some cause ∧
            e = .table (.preparation cause)) ∧
      ∀ name literal, e ≠ .unknownSkip name ∧ e ≠ .definition (.notOneStrategy name) ∧
        e ≠ .definition (.captureOnLiteral name literal) := by
  have hc := Config.accepted_of_load hload
  have hs := Session.Reliable.performAll acts
  refine ⟨?_, ?_, ?_⟩
  · rw [build_ok_iff hs hc]
    refine forall₂_congr fun t _ ↦ ?_
    rw [TokenConfig.fault?_eq_none_iff, TokenConfig.patternFault?_eq_none_iff, and_assoc, and_assoc]
  · intro g hg
    obtain ⟨hrealizes, hsound⟩ := realizes_of_build hs hc hg
    obtain ⟨hskip, hmem⟩ := hrealizes.skip_spec hc
    refine ⟨hrealizes.defines.length_eq.symm, hrealizes.names_eq, hrealizes.listed, ?_,
      hrealizes.skip_eq, hskip, hmem⟩
    intro i t ht
    obtain ⟨k, hk, hpriority, hfind, hdefines, hcompiled⟩ := hrealizes.token hc ht
    have htoken := List.mem_of_getElem? ht
    have hdeclaration := (hc.decided t htoken).declaration_eq
    simp only [(hsound t htoken).1] at hdeclaration
    obtain ⟨s₀, hs₀⟩ := hdefines
    exact ⟨k, hk, hpriority, hfind, ⟨s₀, t.name, _, hdeclaration, hs₀⟩,
      TokenConfig.Defines.declaration_eq ⟨s₀, hs₀⟩, hcompiled⟩
  · intro e he
    have hfirst := first_of_build hs hc he
    refine ⟨hfirst, fun name literal ↦ ?_⟩
    rcases hfirst with ⟨cause, hcause, rfl⟩ | ⟨-, cause, -, rfl⟩
    · obtain ⟨t, -, hfault⟩ := List.exists_of_findSome?_eq_some hcause
      obtain ⟨hone, hliteral⟩ := t.fault?_ne name literal
      simp only [hfault, ne_eq, Option.some.injEq] at hone hliteral
      simp [hone, hliteral]
    · simp

end Grammar

end Outcome

namespace Grammar

open Session (Log)

def wordDocument : Value :=
  .mapping [(.text "tokens", .list [
      .mapping [(.text "name", .text "Space"), (.text "regex", .text "( +)"),
        (.text "capture", .int 1)],
      .mapping [(.text "name", .text "Word"), (.text "exact", .text "let")]]),
    (.text "skip", .text "Space")]

theorem build_of_load_words : ∃ g, Config.load "words" wordDocument = .ok wordConfig ∧
    (build (Log.performAll {} []).session wordConfig).1 = .ok g ∧ g.table.size = 2 ∧
    g.skip = g.find? "Space" ∧
    ∃ k, g.table.kinds[1]? = some k ∧ g.table.priority? k = some 1 ∧ g.find? "Word" = some k ∧
      k.declaration = some { name := "Word", strategy := .exact, pattern := "let" } := by
  have hload : Config.load "words" wordDocument = .ok wordConfig := by cbv
  have hbuilt : (build (Log.performAll {} []).session wordConfig).1.map (fun _ ↦ ()) = .ok () := by
    cbv
  obtain ⟨-, hok, -⟩ := build_of_load [] "words" wordDocument wordConfig hload
  cases hg : (build (Log.performAll {} []).session wordConfig).1 with
  | error e =>
    rw [hg] at hbuilt
    cases hbuilt
  | ok g =>
    obtain ⟨hsize, -, -, htokens, hskip, -⟩ := hok g hg
    obtain ⟨k, hk, hpriority, hfind, -, hdeclaration, -⟩ :=
      htokens 1 { name := "Word", exact := some "let" } rfl
    exact ⟨g, hload, rfl, hsize, hskip, k, hk, hpriority, hfind, hdeclaration⟩

-- The first pattern cannot be used, but the second token cannot even be declared.
example : (build {} { tokens := [{ name := "Open", regex := some "(" },
    { name := "2nd", exact := some ")" }] }).1.map (fun _ ↦ ()) =
      .error (.definition (.notIdentifier "2nd")) := by
  cbv

end Grammar

section Refusal

variable [Pattern.CharacterNames]

namespace Grammar

theorem TokenConfig.patternFault?_cases {t : TokenConfig} {cause : MatchError}
    (h : t.patternFault? = some cause) :
    (∃ mistake, cause = .definition mistake) ∨ ∃ pattern, t.regex = some pattern ∧
      (Pattern.compile pattern = .error .repetitionTooLarge ∧ cause = .repetitionTooLarge ∨
        Pattern.compile pattern = .error .alphabetsClash ∧ cause = .alphabetsClash) := by
  obtain ⟨pattern, hregex, h⟩ := Option.bind_eq_some_iff.mp h
  split at h
  · next fault hfault =>
    cases h
    cases fault with
    | malformed reason position => exact .inl ⟨_, rfl⟩
    | repetitionTooLarge => exact .inr ⟨pattern, hregex, .inl ⟨hfault, rfl⟩⟩
    | alphabetsClash => exact .inr ⟨pattern, hregex, .inr ⟨hfault, rfl⟩⟩
  · split at h
    · cases h
    · cases h
      exact .inl ⟨_, rfl⟩

end Grammar

theorem Pattern.compile_error_of_read {text : String} {fault : Pattern.Fault}
    (hfirst : (Pattern.Input.ofText text.toList).rest ≠ [])
    (hread : (Pattern.Reader.alternatives (3 * text.toList.length + 8) true true {}).run
      (.ofText text.toList) = .error fault) : Pattern.compile text = .error fault := by
  simp [Pattern.compile, hread, hfirst, bind, Except.bind]

theorem Command.answer_of_loadGrammar {around : Surroundings} {r : Request} {failure : Failure}
    (h : loadGrammar around r.grammarPath = .error failure) :
    answer around r =
      if failure.mendable then .ok { exit := 2, complaint := Text.trimEnd failure.message ++ "\n" }
      else .error failure := by
  have htext : answerText around r = .error failure := by
    cases r with
    | kinds grammar =>
      simp only [answerText, answerValue]
      rw [show loadGrammar around (.ofText grammar) = .error failure from h]
      rfl
    | scan grammar source =>
      simp only [answerText, answerValue]
      rw [show loadGrammar around (.ofText grammar) = .error failure from h]
      rfl
  rw [answer, htext]

namespace Grammar

open Session (Act Log)

/-- A document that has been loaded is no grammar by a mistake in a definition, which is told with
the exit status two; or all tokens can be declared, and the first pattern that cannot be used asks
for too many repetitions or for two alphabets. Too many repetitions break the program off. -/
theorem build_error_of_load (acts : List Act) (source : String) (raw : Value) (c : Config)
    (hload : Config.load source raw = .ok c) (e : BuildError)
    (he : (build (Log.performAll {} acts).session c).1 = .error e) :
    ((∃ cause, e = .definition cause ∨ e = .table (.preparation (.definition cause))) ∨
      (∀ t ∈ c.tokens, t.fault? = none) ∧
        ∃ before t after pattern, c.tokens = before ++ t :: after ∧
          (∀ u ∈ before, u.patternFault? = none) ∧ t.regex = some pattern ∧
          (Pattern.compile pattern = .error .repetitionTooLarge ∧
              e = .table (.preparation .repetitionTooLarge) ∨
            Pattern.compile pattern = .error .alphabetsClash ∧
              e = .table (.preparation .alphabetsClash))) ∧
    ∀ around r, Command.loadGrammar around r.grammarPath = .error (.grammar (.build e)) →
      Command.answer around r =
        if e = .table (.preparation .repetitionTooLarge) then .error (.grammar (.build e))
        else .ok { exit := 2, complaint := Text.trimEnd e.message ++ "\n" } := by
  have hs := Session.Reliable.performAll acts
  rcases first_of_build hs (Config.accepted_of_load hload) he with
    ⟨cause, -, rfl⟩ | ⟨hsound, cause, hfirst, rfl⟩
  · refine ⟨.inl ⟨cause, .inl rfl⟩, ?_⟩
    intro around r hr
    exact Command.answer_of_loadGrammar hr
  · obtain ⟨before, t, after, htokens, hfault, hbefore⟩ := List.findSome?_eq_some_iff.mp hfirst
    refine ⟨?_, ?_⟩
    · rcases t.patternFault?_cases hfault with ⟨mistake, rfl⟩ | ⟨pattern, hregex, hcompile⟩
      · exact .inl ⟨mistake, .inr rfl⟩
      · refine .inr ⟨hsound, before, t, after, pattern, htokens, hbefore, hregex, ?_⟩
        rcases hcompile with ⟨hcompile, rfl⟩ | ⟨hcompile, rfl⟩
        · exact .inl ⟨hcompile, rfl⟩
        · exact .inr ⟨hcompile, rfl⟩
    · intro around r hr
      rw [Command.answer_of_loadGrammar hr]
      rcases t.patternFault?_cases hfault with
        ⟨mistake, rfl⟩ | ⟨_, -, ⟨-, rfl⟩ | ⟨-, rfl⟩⟩ <;> rfl

end Grammar

end Refusal

namespace Grammar

open Session (Log)

def openDocument : Value :=
  .mapping [(.text "tokens",
    .list [.mapping [(.text "name", .text "Open"), (.text "regex", .text "(")]])]

def openConfig : Config := { tokens := [{ name := "Open", regex := some "(" }] }

theorem build_error_of_load_open :
    Config.load "open" openDocument = .ok openConfig ∧
    ∃ e, (build (Log.performAll {} []).session openConfig).1 = .error e ∧
      ∃ cause, e = .definition cause ∨ e = .table (.preparation (.definition cause)) := by
  have hload : Config.load "open" openDocument = .ok openConfig := by cbv
  have hbuilt : (build (Log.performAll {} []).session openConfig).1.map (fun _ ↦ ()) =
      .error (.table (.preparation
        (.definition (.malformedPattern "(" .unterminatedGroup (some 0))))) := by
    cbv
  refine ⟨hload, ?_⟩
  cases he : (build (Log.performAll {} []).session openConfig).1 with
  | ok g =>
    rw [he] at hbuilt
    cases hbuilt
  | error e =>
    rw [he] at hbuilt
    obtain rfl := Except.error.inj hbuilt
    obtain ⟨hdefinition | ⟨-, before, t, after, pattern, -, -, -, hother⟩, -⟩ :=
      build_error_of_load [] "open" openDocument openConfig hload _ he
    · exact ⟨_, rfl, hdefinition⟩
    · simp at hother

def countlessDocument : Value :=
  .mapping [(.text "tokens",
    .list [.mapping [(.text "name", .text "A"), (.text "regex", .text "a\x7b4294967295\x7d")]])]

def countlessConfig : Config where
  tokens := [{ name := "A", regex := some "a\x7b4294967295\x7d" }]

/-- Not everything that keeps a document from being a grammar is a mistake in a definition. -/
theorem build_countless :
    Config.load "countless" countlessDocument = .ok countlessConfig ∧
    ∃ e, (build {} countlessConfig).1 = .error e ∧
      ¬ ∃ cause, e = .definition cause ∨ e = .table (.preparation (.definition cause)) := by
  have hload : Config.load "countless" countlessDocument = .ok countlessConfig := by cbv
  have hcompile : Pattern.compile "a\x7b4294967295\x7d" = .error .repetitionTooLarge :=
    Pattern.compile_error_of_read (by decide) (by cbv)
  have hbuilt : (build {} countlessConfig).1 =
      .error (.table (.preparation .repetitionTooLarge)) := by
    refine build_pattern_error Session.Reliable.start (Config.accepted_of_load hload) ?_ ?_
    · intro t ht
      obtain rfl := List.mem_singleton.mp ht
      decide
    · simp [countlessConfig, TokenConfig.patternFault?, hcompile, MatchError.ofFault]
  exact ⟨hload, _, hbuilt, by simp⟩

end Grammar

end Tokenry
