import Mathlib.Data.List.Nodup
import Tokenry.Grammar
import Tokenry.Proofs.Session

namespace Tokenry

namespace Session

variable {kinds kinds' kinds'' : List Kind} {s s' s'' : Session} {k l : Kind}

/-- The kinds of a session are numbered in the order in which they were made, and the handles that
they go by are one for each kind and different things. -/
structure Orderly (kinds : List Kind) (s : Session) : Prop where
  next_eq : s.nextKind = kinds.length
  id_eq : ∀ (place : Nat) (k : Kind), kinds[place]? = some k → k.id = place
  canonical_made : ∀ h ∈ s.canonical, h.kind ∈ kinds
  canonical_ids : (s.canonical.map (·.kind.id)).Nodup
  canonical_serials : (s.canonical.map (·.serial)).Nodup
  serial_lt : ∀ h ∈ s.canonical, h.serial < s.nextSerial

structure Extends (s s' : Session) : Prop where
  canonical : ∀ h ∈ s.canonical, h ∈ s'.canonical
  serial_le : s.nextSerial ≤ s'.nextSerial
  new : ∀ h ∈ s'.canonical, h ∈ s.canonical ∨ s.nextSerial ≤ h.serial

structure Makes (s : Session) (k : Kind) (s' : Session) : Prop where
  id_eq : k.id = s.nextKind
  next_eq : s'.nextKind = s.nextKind + 1
  serial_eq : s'.nextSerial = s.nextSerial
  canonical_eq : s'.canonical = s.canonical

theorem invent_makes (s : Session) (className : String) (rename : Option String)
    (matching : Matching) (prepared : Except MatchError Unit) :
    s.Makes (s.invent className rename matching prepared).1
      (s.invent className rename matching prepared).2 :=
  ⟨rfl, rfl, rfl, rfl⟩

theorem derive_makes (s : Session) (parent : Kind) (className : String) :
    s.Makes (s.derive parent className).1 (s.derive parent className).2 := by
  refine ⟨?_, rfl, rfl, rfl⟩
  simp only [Session.derive, Kind.derive]
  split <;> rfl

theorem Extends.refl (s : Session) : s.Extends s :=
  ⟨fun _ hh ↦ hh, Nat.le_refl _, fun _ hh ↦ .inl hh⟩

theorem Extends.trans (h : s.Extends s') (h' : s'.Extends s'') : s.Extends s'' := by
  refine ⟨fun x hx ↦ h'.canonical x (h.canonical x hx), Nat.le_trans h.serial_le h'.serial_le, ?_⟩
  intro x hx
  rcases h'.new x hx with hx | hx
  · exact h.new x hx
  · exact .inr (Nat.le_trans h.serial_le hx)

theorem Extends.of_eq (hserial : s'.nextSerial = s.nextSerial)
    (hcanonical : s'.canonical = s.canonical) : s.Extends s' := by
  refine ⟨fun x hx ↦ ?_, Nat.le_of_eq hserial.symm, fun x hx ↦ .inl ?_⟩
  · rwa [hcanonical]
  · rwa [hcanonical] at hx

theorem Makes.extends (h : s.Makes k s') : s.Extends s' := .of_eq h.serial_eq h.canonical_eq

theorem handleOf_extends (s : Session) (k : Kind) : s.Extends (s.handleOf k).2 := by
  unfold Session.handleOf
  split
  · exact .refl s
  · refine ⟨fun x hx ↦ .tail _ hx, Nat.le_succ _, ?_⟩
    intro x hx
    rcases List.mem_cons.mp hx with rfl | hx
    · exact .inr (Nat.le_refl _)
    · exact .inl hx

namespace Orderly

theorem start : Orderly [.eof] {} := by
  refine ⟨rfl, ?_, by simp, by simp, by simp, by simp⟩
  intro place k hk
  obtain ⟨rfl, rfl⟩ : place = 0 ∧ Kind.eof = k := by
    cases place with
    | zero => exact ⟨rfl, by simpa using hk⟩
    | succ place => simp at hk
  rfl

theorem eq_of_id (h : Orderly kinds s) (hk : k ∈ kinds) (hl : l ∈ kinds) (hid : k.id = l.id) :
    k = l := by
  obtain ⟨i, hi⟩ := List.mem_iff_getElem?.mp hk
  obtain ⟨j, hj⟩ := List.mem_iff_getElem?.mp hl
  have hplace : i = j := (h.id_eq i k hi).symm.trans (hid.trans (h.id_eq j l hj))
  rw [hplace] at hi
  exact Option.some.inj (hi.symm.trans hj)

theorem ids_increase (h : Orderly kinds s) : kinds.Pairwise fun k l ↦ k.id < l.id := by
  rw [List.pairwise_iff_getElem]
  intro i j hi hj hlt
  rw [h.id_eq i _ (List.getElem?_eq_getElem hi), h.id_eq j _ (List.getElem?_eq_getElem hj)]
  exact hlt

theorem of_eq (h : Orderly kinds s) (hnext : s'.nextKind = s.nextKind)
    (hserial : s'.nextSerial = s.nextSerial) (hcanonical : s'.canonical = s.canonical) :
    Orderly kinds s' := by
  obtain ⟨hkinds, hid, hmade, hids, hserials, hlt⟩ := h
  rw [← hcanonical] at hmade hids hserials hlt
  rw [← hserial] at hlt
  exact ⟨hnext.trans hkinds, hid, hmade, hids, hserials, hlt⟩

theorem make (h : Orderly kinds s) (hmakes : s.Makes k s') : Orderly (kinds ++ [k]) s' := by
  refine ⟨?_, ?_, ?_, ?_, ?_, ?_⟩
  · simp [hmakes.next_eq, h.next_eq]
  · intro place l hl
    rcases Nat.lt_trichotomy place kinds.length with hlt | rfl | hlt
    · rw [List.getElem?_append_left hlt] at hl
      exact h.id_eq place l hl
    · obtain rfl : k = l := by simpa using hl
      rw [hmakes.id_eq, h.next_eq]
    · rw [List.getElem?_eq_none (by simpa using Nat.succ_le_of_lt hlt)] at hl
      cases hl
  · rw [hmakes.canonical_eq]
    exact fun x hx ↦ List.mem_append_left _ (h.canonical_made x hx)
  · rw [hmakes.canonical_eq]
    exact h.canonical_ids
  · rw [hmakes.canonical_eq]
    exact h.canonical_serials
  · rw [hmakes.canonical_eq, hmakes.serial_eq]
    exact h.serial_lt

theorem handleOf (h : Orderly kinds s) (hk : k ∈ kinds) : Orderly kinds (s.handleOf k).2 := by
  unfold Session.handleOf
  split
  · exact h
  · next hnone =>
    have hnew : ∀ x ∈ s.canonical, x.kind.id ≠ k.id := by
      intro x hx heq
      have hfind := List.find?_eq_none.mp hnone x hx
      exact hfind (Kind.beq_iff_id_eq.mpr heq)
    have hserial : ∀ x ∈ s.canonical, x.serial ≠ s.nextSerial :=
      fun x hx ↦ Nat.ne_of_lt (h.serial_lt x hx)
    refine ⟨h.next_eq, h.id_eq, ?_, ?_, ?_, ?_⟩
    · intro x hx
      rcases List.mem_cons.mp hx with rfl | hx
      · exact hk
      · exact h.canonical_made x hx
    · exact List.nodup_cons.mpr ⟨by simpa [freshHandle] using hnew, h.canonical_ids⟩
    · exact List.nodup_cons.mpr ⟨by simpa [freshHandle] using hserial, h.canonical_serials⟩
    · intro x hx
      rcases List.mem_cons.mp hx with rfl | hx
      · exact Nat.lt_succ_self _
      · exact Nat.lt_succ_of_lt (h.serial_lt x hx)

theorem handleOf_kind (h : Orderly kinds s) (hk : k ∈ kinds) : (s.handleOf k).1.kind = k := by
  unfold Session.handleOf
  split
  · next x hfind =>
    have hmade := h.canonical_made x (List.mem_of_find?_eq_some hfind)
    have hsame := List.find?_some hfind
    exact h.eq_of_id hmade hk (Kind.beq_iff_id_eq.mp hsame)
  · rfl

end Orderly

theorem handleOf_mem (s : Session) (k : Kind) :
    (s.handleOf k).1 ∈ (s.handleOf k).2.canonical := by
  unfold Session.handleOf
  split
  · next hfind => exact List.mem_of_find?_eq_some hfind
  · exact .head _

/-- What is meant where a kind is wanted: kinds are counted in the order in which they were made,
from the end of the source on, and handles in the order in which they were handed out. -/
inductive Mention where
  | kind (place : Nat)
  | handle (index : Nat)
  | foreign (thing : Foreign)

inductive Act where
  | define (name : String) (o : Declaration.Options) (changes : Overrides)
  | declare (d : Declaration) (changes : Overrides)
  | invent (className : String) (rename : Option String) (matching : Matching)
    (prepared : Except MatchError Unit)
  | derive (parent : Nat) (className : String)
  | handleOf (place : Nat)
  | freshHandle (place : Nat)
  | reject (thing : Foreign)
  | use (indices : List Nat)
  | compile (text : String)
  | tabulate (listed : List Mention)
  | build (c : Grammar.Config)

/-- A handle that has been handed out: which kind was asked for, and whether by its own handle. -/
structure Issue where
  place : Nat
  canonical : Bool
  handle : Handle

structure Log where
  session : Session := {}
  kinds : List Kind := [.eof]
  issues : List Issue := []

namespace Log

def candidate? (log : Log) : Mention → Option Candidate
  | .kind place => (log.kinds[place]?).map .kind
  | .handle index => (log.issues[index]?).map (.handle ·.handle)
  | .foreign thing => some (.foreign thing)

def make (log : Log) (made : Kind × Session) : Log :=
  { log with session := made.2, kinds := log.kinds ++ [made.1] }

def issue (log : Log) (place : Nat) (canonical : Bool) (given : Handle × Session) : Log :=
  { log with session := given.2, issues := log.issues ++ [⟨place, canonical, given.1⟩] }

variable {log : Log}

/-- The handles that have been handed out: each is one of the kind that was asked for, and two of
them are the same thing just when the handle of one kind was asked for twice. -/
structure Orderly (log : Log) : Prop where
  session : log.session.Orderly log.kinds
  kind_eq : ∀ a ∈ log.issues, log.kinds[a.place]? = some a.handle.kind
  serial_lt : ∀ a ∈ log.issues, a.handle.serial < log.session.nextSerial
  canonical : ∀ a ∈ log.issues, a.canonical = true → a.handle ∈ log.session.canonical
  fresh : ∀ a ∈ log.issues, a.canonical = false →
    ∀ h ∈ log.session.canonical, h.serial ≠ a.handle.serial
  same_iff : log.issues.Pairwise fun a b ↦ a.handle.same b.handle = true ↔
    a.canonical = true ∧ b.canonical = true ∧ a.place = b.place

namespace Orderly

theorem start : Orderly {} := ⟨.start, by simp, by simp, by simp, by simp, by simp⟩

theorem id_eq (h : log.Orderly) {a : Issue} (ha : a ∈ log.issues) : a.handle.kind.id = a.place :=
  h.session.id_eq _ _ (h.kind_eq a ha)

theorem add (h : log.Orderly) {a : Issue} (hkind : log.kinds[a.place]? = some a.handle.kind)
    (hlt : a.handle.serial < log.session.nextSerial)
    (hcanonical : a.canonical = true → a.handle ∈ log.session.canonical)
    (hfresh : a.canonical = false → (∀ x ∈ log.session.canonical, x.serial ≠ a.handle.serial) ∧
      ∀ b ∈ log.issues, b.handle.serial ≠ a.handle.serial) :
    Orderly { log with issues := log.issues ++ [a] } := by
  have hmem {b : Issue} (hb : b ∈ log.issues ++ [a]) : b ∈ log.issues ∨ b = a := by simpa using hb
  refine ⟨h.session, ?_, ?_, ?_, ?_, ?_⟩
  · intro b hb
    rcases hmem hb with hb | rfl
    · exact h.kind_eq b hb
    · exact hkind
  · intro b hb
    rcases hmem hb with hb | rfl
    · exact h.serial_lt b hb
    · exact hlt
  · intro b hb
    rcases hmem hb with hb | rfl
    · exact h.canonical b hb
    · exact hcanonical
  · intro b hb hb'
    rcases hmem hb with hb | rfl
    · exact h.fresh b hb hb'
    · exact (hfresh hb').1
  · refine List.pairwise_append.mpr ⟨h.same_iff, List.pairwise_singleton _ _, ?_⟩
    intro b hb a' ha'
    obtain rfl := List.mem_singleton.mp ha'
    simp only [Handle.same, beq_iff_eq]
    cases hform : a'.canonical with
    | false => simpa using (hfresh hform).2 b hb
    | true =>
      cases hform' : b.canonical with
      | false => simpa using (h.fresh b hb hform' _ (hcanonical hform)).symm
      | true =>
        -- both are handles that kinds go by, of which each kind has one
        have hid : a'.handle.kind.id = a'.place := h.session.id_eq _ _ hkind
        have hmem' := h.canonical b hb hform'
        simp only [true_and]
        constructor
        · intro hserial
          have heq := List.inj_on_of_nodup_map h.session.canonical_serials hmem' (hcanonical hform)
            hserial
          rw [← h.id_eq hb, heq, hid]
        · intro hplace
          have heq := List.inj_on_of_nodup_map h.session.canonical_ids hmem' (hcanonical hform)
            ((h.id_eq hb).trans (hplace.trans hid.symm))
          rw [heq]

end Orderly

end Log

end Session

section

variable [Pattern.CharacterNames]

namespace Grammar

def defined (s : Session) : List TokenConfig → List Kind
  | [] => []
  | t :: rest =>
    match t.declaration with
    | .error _ => []
    | .ok d => (s.declare d {}).1 :: defined (s.declare d {}).2 rest

theorem defined_of_defineAll {s : Session} {tokens : List TokenConfig}
    {entries : List (String × Kind)} (h : (defineAll s tokens).1 = .ok entries) :
    entries.map (·.2) = defined s tokens := by
  induction tokens generalizing s entries with
  | nil =>
    cases h
    rfl
  | cons t rest ih =>
    cases hd : t.declaration with
    | error e =>
      simp only [defineAll, hd] at h
      cases h
    | ok d =>
      simp only [defineAll, defined, hd] at h ⊢
      cases hlater : (defineAll (s.declare d {}).2 rest).1 with
      | error e =>
        rw [hlater] at h
        cases h
      | ok later =>
        rw [hlater] at h
        cases h
        rw [List.map_cons, ih hlater]

end Grammar

namespace Session

namespace Log

def perform (log : Log) : Act → Log
  | .define name o changes =>
    match Declaration.ofOptions name o with
    | .ok d => log.make (log.session.declare d changes)
    | .error _ => log
  | .declare d changes =>
    match d.check with
    | .ok d => log.make (log.session.declare d changes)
    | .error _ => log
  | .invent className rename matching prepared =>
    log.make (log.session.invent className rename matching prepared)
  | .derive parent className =>
    match log.kinds[parent]? with
    | some k => log.make (log.session.derive k className)
    | none => log
  | .handleOf place =>
    match log.kinds[place]? with
    | some k => log.issue place true (log.session.handleOf k)
    | none => log
  | .freshHandle place =>
    match log.kinds[place]? with
    | some k => log.issue place false (log.session.freshHandle k)
    | none => log
  | .reject thing => { log with session := (log.session.resolve (.foreign thing)).2 }
  | .use indices => { log with session := log.session.touch indices }
  | .compile text =>
    { log with session := { log.session with cache := (log.session.cache.compile text).2 } }
  | .tabulate listed =>
    { log with session := (Table.build log.session (listed.filterMap log.candidate?)).2 }
  | .build c =>
    { log with session := (Grammar.build log.session c).2,
               kinds := log.kinds ++ Grammar.defined log.session c.tokens }

def performAll (log : Log) (acts : List Act) : Log := acts.foldl perform log

end Log

/-- The ways from a session and its kinds to a later one, by the steps that all work of a session is
made of. -/
inductive Leads (kinds : List Kind) (s : Session) : List Kind → Session → Prop
  | refl : Leads kinds s kinds s
  | declare {kinds' : List Kind} {s' : Session} (d : Declaration) (changes : Overrides) :
      Leads kinds s kinds' s' →
      Leads kinds s (kinds' ++ [(s'.declare d changes).1]) (s'.declare d changes).2
  | invent {kinds' : List Kind} {s' : Session} (className : String) (rename : Option String)
      (matching : Matching) (prepared : Except MatchError Unit) : Leads kinds s kinds' s' →
      Leads kinds s (kinds' ++ [(s'.invent className rename matching prepared).1])
        (s'.invent className rename matching prepared).2
  | derive {kinds' : List Kind} {s' : Session} {parent : Kind} (className : String) :
      parent ∈ kinds' → Leads kinds s kinds' s' →
      Leads kinds s (kinds' ++ [(s'.derive parent className).1]) (s'.derive parent className).2
  | handleOf {kinds' : List Kind} {s' : Session} {k : Kind} : k ∈ kinds' →
      Leads kinds s kinds' s' → Leads kinds s kinds' (s'.handleOf k).2
  | freshHandle {kinds' : List Kind} {s' : Session} {k : Kind} : k ∈ kinds' →
      Leads kinds s kinds' s' → Leads kinds s kinds' (s'.freshHandle k).2
  | force {kinds' : List Kind} {s' : Session} (index : Nat) : Leads kinds s kinds' s' →
      Leads kinds s kinds' (s'.force index).2
  | compile {kinds' : List Kind} {s' : Session} (text : String) : Leads kinds s kinds' s' →
      Leads kinds s kinds' { s' with cache := (s'.cache.compile text).2 }

variable {kinds kinds' kinds'' : List Kind} {s s' s'' : Session} {k l : Kind}

namespace Leads

theorem trans (h : Leads kinds s kinds' s') (h' : Leads kinds' s' kinds'' s'') :
    Leads kinds s kinds'' s'' := by
  induction h' with
  | refl => exact h
  | declare d changes _ ih => exact ih.declare d changes
  | invent className rename matching prepared _ ih =>
    exact ih.invent className rename matching prepared
  | derive className hparent _ ih => exact ih.derive className hparent
  | handleOf hk _ ih => exact ih.handleOf hk
  | freshHandle hk _ ih => exact ih.freshHandle hk
  | force index _ ih => exact ih.force index
  | compile text _ ih => exact ih.compile text

theorem isPrefix (h : Leads kinds s kinds' s') : kinds <+: kinds' := by
  induction h with
  | refl => exact List.prefix_rfl
  | declare _ _ _ ih => exact ih.trans (List.prefix_append _ _)
  | invent _ _ _ _ _ ih => exact ih.trans (List.prefix_append _ _)
  | derive _ _ _ ih => exact ih.trans (List.prefix_append _ _)
  | handleOf _ _ ih => exact ih
  | freshHandle _ _ ih => exact ih
  | force _ _ ih => exact ih
  | compile _ _ ih => exact ih

/-- What holds of every kind that is declared or written by hand, and is handed on to derived kinds,
holds of all kinds. -/
theorem forall_kinds {P : Kind → Prop} (h : Leads kinds s kinds' s') (hkinds : ∀ k ∈ kinds, P k)
    (hdeclare : ∀ (s : Session) d changes, P (s.declare d changes).1)
    (hinvent : ∀ (s : Session) className rename matching prepared,
      P (s.invent className rename matching prepared).1)
    (hderive : ∀ (s : Session) parent className, P parent → P (s.derive parent className).1) :
    ∀ k ∈ kinds', P k := by
  have hconcat {kinds : List Kind} {new : Kind} (hold : ∀ k ∈ kinds, P k) (hnew : P new) :
      ∀ k ∈ kinds ++ [new], P k := by
    intro k hk
    rcases List.mem_append.mp hk with hk | hk
    · exact hold k hk
    · obtain rfl := List.mem_singleton.mp hk
      exact hnew
  induction h with
  | refl => exact hkinds
  | declare d changes _ ih => exact hconcat ih (hdeclare _ d changes)
  | invent className rename matching prepared _ ih =>
    exact hconcat ih (hinvent _ className rename matching prepared)
  | derive className hparent _ ih => exact hconcat ih (hderive _ _ className (ih _ hparent))
  | handleOf _ _ ih => exact ih
  | freshHandle _ _ ih => exact ih
  | force _ _ ih => exact ih
  | compile _ _ ih => exact ih

theorem catchUp (h : Leads kinds s kinds' s') (deferred : Option Nat) :
    Leads kinds s kinds' (s'.catchUp deferred).2 := by
  cases deferred with
  | none => exact h
  | some index => exact h.force index

theorem follow (h : Leads kinds s kinds' s') (deferred : Option Nat)
    (method : Method Unit (Except MatchError Unit)) :
    Leads kinds s kinds' (s'.follow deferred method).2 := by
  induction method generalizing s' with
  | settle outcome => exact h
  | ask _ next ih => exact ih _ (h.catchUp deferred)

theorem prepare (h : Leads kinds s kinds' s') (k : Kind) :
    Leads kinds s kinds' (s'.prepare k).2 := by
  unfold Session.prepare
  split
  · exact h.catchUp _
  · exact h.follow _ _

theorem touch (h : Leads kinds s kinds' s') (indices : List Nat) :
    Leads kinds s kinds' (s'.touch indices) := by
  unfold Session.touch
  induction indices generalizing s' with
  | nil => exact h
  | cons index rest ih => exact ih (h.force index)

theorem resolve (h : Leads kinds s kinds' s') {c : Candidate}
    (hc : ∀ k, c = .kind k → k ∈ kinds') : Leads kinds s kinds' (s'.resolve c).2 := by
  cases c with
  | kind k => exact h.handleOf (hc k rfl)
  | handle => exact h
  | «foreign» => exact h

theorem extend (h : Leads kinds s kinds' s') {t : Table} {repeated : List Kind}
    {listed : List Candidate} (hlisted : ∀ k, .kind k ∈ listed → k ∈ kinds') :
    Leads kinds s kinds' (Table.extend s' t repeated listed).2 := by
  induction listed generalizing s' t repeated with
  | nil => exact h
  | cons c rest ih =>
    have hresolve := h.resolve fun k hk ↦ hlisted k (hk ▸ .head _)
    have hrest : ∀ k, .kind k ∈ rest → k ∈ kinds' := fun k hk ↦ hlisted k (.tail _ hk)
    rw [Table.extend]
    split
    · next heq =>
      rw [heq] at hresolve
      exact hresolve
    · next h' s₁ heq =>
      rw [heq] at hresolve
      split
      · exact ih hresolve hrest
      · have hprepare := hresolve.prepare h'.kind
        split
        · next heq =>
          rw [heq] at hprepare
          exact hprepare
        · next heq =>
          rw [heq] at hprepare
          exact ih hprepare hrest

theorem defineAll (h : Leads kinds s kinds' s') (tokens : List Grammar.TokenConfig) :
    Leads kinds s (kinds' ++ Grammar.defined s' tokens) (Grammar.defineAll s' tokens).2 := by
  induction tokens generalizing kinds' s' with
  | nil => simpa [Grammar.defined, Grammar.defineAll] using h
  | cons t rest ih =>
    cases hd : t.declaration with
    | error e => simpa [Grammar.defined, Grammar.defineAll, hd] using h
    | ok d =>
      simp only [Grammar.defined, Grammar.defineAll, hd]
      rw [List.append_cons]
      exact ih (h.declare d {})

theorem build (h : Leads kinds s kinds' s') (c : Grammar.Config) :
    Leads kinds s (kinds' ++ Grammar.defined s' c.tokens) (Grammar.build s' c).2 := by
  have hdefine := h.defineAll c.tokens
  unfold Grammar.build
  split
  · next heq =>
    rw [heq] at hdefine
    exact hdefine
  · next entries s₁ heq =>
    rw [heq] at hdefine
    have hmade : ∀ k, Candidate.kind k ∈ entries.map (fun entry ↦ .kind entry.2) →
        k ∈ kinds' ++ Grammar.defined s' c.tokens := by
      intro k hk
      obtain ⟨entry, hentry, rfl⟩ : ∃ entry ∈ entries, entry.2 = k := by simpa using hk
      rw [← Grammar.defined_of_defineAll (congrArg Prod.fst heq)]
      exact List.mem_append_right _ (List.mem_map_of_mem hentry)
    have htable : Leads kinds s _ (Table.extend s₁ .empty [] _).2 := hdefine.extend hmade
    unfold Table.build
    split
    · next heq =>
      rw [heq] at htable
      exact htable
    · next heq =>
      rw [heq] at htable
      exact htable

end Leads

theorem declare_makes (s : Session) (d : Declaration) (changes : Overrides) :
    s.Makes (s.declare d changes).1 (s.declare d changes).2 := by
  unfold Session.declare
  split <;> exact ⟨rfl, rfl, rfl, rfl⟩

theorem force_identities (s : Session) (index : Nat) :
    (s.force index).2.nextKind = s.nextKind ∧ (s.force index).2.nextSerial = s.nextSerial ∧
      (s.force index).2.canonical = s.canonical := by
  unfold Session.force
  split <;> exact ⟨rfl, rfl, rfl⟩

theorem Leads.extends (h : Leads kinds s kinds' s') : s.Extends s' := by
  induction h with
  | refl => exact .refl s
  | declare d changes _ ih => exact ih.trans (declare_makes _ d changes).extends
  | invent className rename matching prepared _ ih =>
    exact ih.trans (invent_makes _ className rename matching prepared).extends
  | derive className _ _ ih => exact ih.trans (derive_makes _ _ className).extends
  | handleOf _ _ ih => exact ih.trans (handleOf_extends _ _)
  | freshHandle _ _ ih => exact ih.trans ⟨fun _ hx ↦ hx, Nat.le_succ _, fun _ hx ↦ .inl hx⟩
  | @force _ s₁ index _ ih =>
    obtain ⟨-, hserial, hcanonical⟩ := force_identities s₁ index
    exact ih.trans (.of_eq hserial hcanonical)
  | compile text _ ih => exact ih.trans (.of_eq rfl rfl)

theorem Orderly.leads (h : Orderly kinds s) (hleads : Leads kinds s kinds' s') :
    Orderly kinds' s' := by
  induction hleads with
  | refl => exact h
  | declare d changes _ ih => exact ih.make (declare_makes _ d changes)
  | invent className rename matching prepared _ ih =>
    exact ih.make (invent_makes _ className rename matching prepared)
  | derive className _ _ ih => exact ih.make (derive_makes _ _ className)
  | handleOf hk _ ih => exact ih.handleOf hk
  | freshHandle _ _ ih =>
    exact ⟨ih.next_eq, ih.id_eq, ih.canonical_made, ih.canonical_ids, ih.canonical_serials,
      fun x hx ↦ Nat.lt_succ_of_lt (ih.serial_lt x hx)⟩
  | @force _ s₁ index _ ih =>
    obtain ⟨hnext, hserial, hcanonical⟩ := force_identities s₁ index
    exact ih.of_eq hnext hserial hcanonical
  | compile text _ ih => exact ih.of_eq rfl rfl rfl

namespace Log

variable {log : Log}

theorem perform_leads (log : Log) (act : Act) :
    Leads log.kinds log.session (log.perform act).kinds (log.perform act).session := by
  cases act with
  | define | declare =>
    simp only [perform]
    split
    · exact Leads.refl.declare _ _
    · exact .refl
  | invent className rename matching prepared =>
    exact Leads.refl.invent className rename matching prepared
  | derive parent className =>
    simp only [perform]
    split
    · next k hk => exact Leads.refl.derive className (List.mem_of_getElem? hk)
    · exact .refl
  | handleOf place =>
    simp only [perform]
    split
    · next k hk => exact Leads.refl.handleOf (List.mem_of_getElem? hk)
    · exact .refl
  | freshHandle place =>
    simp only [perform]
    split
    · next k hk => exact Leads.refl.freshHandle (List.mem_of_getElem? hk)
    · exact .refl
  | reject thing => exact .refl
  | use indices => exact Leads.refl.touch indices
  | compile text => exact Leads.refl.compile text
  | tabulate listed =>
    refine Leads.refl.extend ?_
    intro k hk
    obtain ⟨mention, -, hmention⟩ := List.mem_filterMap.mp hk
    cases mention with
    | kind place =>
      obtain ⟨l, hl, heq⟩ := Option.map_eq_some_iff.mp hmention
      cases heq
      exact List.mem_of_getElem? hl
    | handle index =>
      obtain ⟨i, -, heq⟩ := Option.map_eq_some_iff.mp hmention
      cases heq
    | «foreign» thing => cases hmention
  | build c => exact Leads.refl.build c

theorem performAll_leads (log : Log) (acts : List Act) :
    Leads log.kinds log.session (log.performAll acts).kinds (log.performAll acts).session := by
  induction acts generalizing log with
  | nil => exact .refl
  | cons act rest ih => exact (perform_leads log act).trans (ih (log.perform act))

namespace Orderly

theorem advance {log' : Log} (h : log.Orderly)
    (hleads : Leads log.kinds log.session log'.kinds log'.session)
    (hissues : log'.issues = log.issues) : log'.Orderly := by
  have hextends := hleads.extends
  obtain ⟨later, hlater⟩ := hleads.isPrefix
  refine ⟨h.session.leads hleads, ?_, ?_, ?_, ?_, hissues ▸ h.same_iff⟩
  · intro a ha
    rw [hissues] at ha
    have hkind := h.kind_eq a ha
    obtain ⟨hlt, -⟩ := List.getElem?_eq_some_iff.mp hkind
    rw [← hlater, List.getElem?_append_left hlt, hkind]
  · intro a ha
    exact Nat.lt_of_lt_of_le (h.serial_lt a (hissues ▸ ha)) hextends.serial_le
  · intro a ha hcanonical
    exact hextends.canonical _ (h.canonical a (hissues ▸ ha) hcanonical)
  · intro a ha hfresh x hx
    rw [hissues] at ha
    rcases hextends.new x hx with hx | hx
    · exact h.fresh a ha hfresh x hx
    · exact Nat.ne_of_gt (Nat.lt_of_lt_of_le (h.serial_lt a ha) hx)

theorem perform (h : log.Orderly) (act : Act) : (log.perform act).Orderly := by
  cases act with
  | handleOf place =>
    simp only [Log.perform]
    split
    · next k hk =>
      have hmade := List.mem_of_getElem? hk
      have hnext : Orderly { log with session := (log.session.handleOf k).2 } :=
        h.advance (Leads.refl.handleOf hmade) rfl
      have hmem := handleOf_mem log.session k
      refine hnext.add ?_ (hnext.session.serial_lt _ hmem) (fun _ ↦ hmem) (by simp)
      rw [h.session.handleOf_kind hmade]
      exact hk
    · exact h
  | freshHandle place =>
    simp only [Log.perform]
    split
    · next k hk =>
      have hnext : Orderly { log with session := (log.session.freshHandle k).2 } :=
        h.advance (Leads.refl.freshHandle (List.mem_of_getElem? hk)) rfl
      refine hnext.add hk (Nat.lt_succ_self _) (by simp) fun _ ↦ ⟨?_, ?_⟩
      · exact fun x hx ↦ Nat.ne_of_lt (h.session.serial_lt x hx)
      · exact fun b hb ↦ Nat.ne_of_lt (h.serial_lt b hb)
    · exact h
  | define | declare | derive =>
    refine h.advance (perform_leads log _) ?_
    simp only [Log.perform]
    split <;> rfl
  | invent | reject | use | compile | tabulate | build => exact h.advance (perform_leads log _) rfl

theorem performAll (h : log.Orderly) (acts : List Act) : (log.performAll acts).Orderly := by
  induction acts generalizing log with
  | nil => exact h
  | cons act rest ih => exact ih (h.perform act)

end Orderly

theorem issues_isPrefix (log : Log) (acts : List Act) :
    log.issues <+: (log.performAll acts).issues := by
  induction acts generalizing log with
  | nil => exact List.prefix_rfl
  | cons act rest ih =>
    refine List.IsPrefix.trans ?_ (ih (log.perform act))
    cases act with
    | handleOf | freshHandle =>
      simp only [perform]
      split
      · exact List.prefix_append _ _
      · exact List.prefix_rfl
    | define | declare | derive =>
      simp only [perform]
      split <;> exact List.prefix_rfl
    | invent | reject | use | compile | tabulate | build => exact List.prefix_rfl

/-- Whatever has been asked of a session, its kinds have growing identities, in the order in which
they were made, and nothing that follows changes the kinds or the handles that are there. A handle
is one of the kind that was asked for; the handle that a kind goes by stays the same, and any other
two handles are different things. Handles of one kind are equal and have the same hash, and the
handles of two kinds compare as the kinds were made. -/
theorem performAll_identities (acts : List Act) :
    ((performAll {} acts).kinds.Pairwise fun k l ↦ k.id < l.id) ∧
    (∀ later, (performAll {} acts).kinds <+: (performAll {} (acts ++ later)).kinds ∧
      (performAll {} acts).issues <+: (performAll {} (acts ++ later)).issues) ∧
    ((performAll {} acts).issues.Pairwise fun a b ↦ a.handle.same b.handle = true ↔
      a.canonical = true ∧ b.canonical = true ∧ a.place = b.place) ∧
    ∀ a ∈ (performAll {} acts).issues, ∀ b ∈ (performAll {} acts).issues,
      (performAll {} acts).kinds[a.place]? = some a.handle.kind ∧
      (a.canonical = true → b.canonical = true → a.place = b.place → a.handle = b.handle) ∧
      ((a.handle == b.handle) = true ↔ a.place = b.place) ∧
      ((a.handle == b.handle) = true → a.handle.hash = b.handle.hash) ∧
      (compare a.handle b.handle = .lt ↔ a.place < b.place) ∧
      ((compare a.handle b.handle = .lt ∧ ¬ (a.handle == b.handle) = true ∧
          ¬ compare b.handle a.handle = .lt) ∨
        (¬ compare a.handle b.handle = .lt ∧ (a.handle == b.handle) = true ∧
          ¬ compare b.handle a.handle = .lt) ∨
        (¬ compare a.handle b.handle = .lt ∧ ¬ (a.handle == b.handle) = true ∧
          compare b.handle a.handle = .lt)) := by
  have h := Orderly.start.performAll acts
  refine ⟨h.session.ids_increase, ?_, h.same_iff, ?_⟩
  · intro later
    simp only [performAll, List.foldl_append]
    exact ⟨(performAll_leads _ later).isPrefix, issues_isPrefix _ later⟩
  · intro a ha b hb
    have hlt {a b : Issue} (ha : a ∈ (performAll {} acts).issues)
        (hb : b ∈ (performAll {} acts).issues) :
        compare a.handle b.handle = .lt ↔ a.place < b.place := by
      rw [← h.id_eq ha, ← h.id_eq hb]
      exact Nat.compare_eq_lt
    have heq : (a.handle == b.handle) = true ↔ a.place = b.place := by
      rw [← h.id_eq ha, ← h.id_eq hb]
      exact Kind.beq_iff_id_eq
    refine ⟨h.kind_eq a ha, ?_, heq, ?_, hlt ha hb, ?_⟩
    · intro hca hcb hplace
      have hid : a.handle.kind.id = b.handle.kind.id := by rw [h.id_eq ha, h.id_eq hb, hplace]
      exact List.inj_on_of_nodup_map h.session.canonical_ids (h.canonical a ha hca)
        (h.canonical b hb hcb) hid
    · intro hsame
      rw [Handle.hash, Handle.hash, h.id_eq ha, h.id_eq hb, heq.mp hsame]
    · rw [hlt ha hb, hlt hb ha, heq]
      omega

end Log

end Session

end

namespace Session.Log

def letActs : List Act :=
  [.define "Let" { exact := some "let" } {}, .define "9" { exact := some "nine" } {},
    .derive 1 "Leave", .handleOf 1, .freshHandle 2, .reject { shown := "1", typeName := "int" },
    .handleOf 1]

theorem performAll_identities_let : ∃ a b c, (performAll {} letActs).issues = [a, b, c] ∧
    a.place = 1 ∧ b.place = 2 ∧ a.handle = c.handle ∧ compare a.handle b.handle = .lt ∧
    ¬ (a.handle == b.handle) = true ∧ (performAll {} letActs).kinds.length = 3 := by
  obtain ⟨a, b, c, hissues, ha, hb, hc, hcanonical, hlength⟩ :
      ∃ a b c, (performAll {} letActs).issues = [a, b, c] ∧ a.place = 1 ∧ b.place = 2 ∧
        c.place = 1 ∧ (a.canonical = true ∧ c.canonical = true) ∧
        (performAll {} letActs).kinds.length = 3 :=
    ⟨_, _, _, rfl, rfl, rfl, rfl, ⟨rfl, rfl⟩, rfl⟩
  obtain ⟨-, -, -, hall⟩ := performAll_identities letActs
  have hmem {x : Issue} (hx : x ∈ [a, b, c]) : x ∈ (performAll {} letActs).issues := hissues ▸ hx
  obtain ⟨-, -, heq, -, hlt, -⟩ := hall a (hmem (by simp)) b (hmem (by simp))
  obtain ⟨-, hsame, -⟩ := hall a (hmem (by simp)) c (hmem (by simp))
  refine ⟨a, b, c, hissues, ha, hb, ?_, ?_, ?_, hlength⟩
  · exact hsame hcanonical.1 hcanonical.2 (ha.trans hc.symm)
  · exact hlt.mpr (by omega)
  · exact fun h ↦ absurd (heq.mp h) (by omega)

end Session.Log

end Tokenry
