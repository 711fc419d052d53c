import Mathlib.Data.List.Sort
import Mathlib.Order.Bounds.Basic
import Tokenry.Proofs.Rule.March

namespace Tokenry

structure Attempt where
  kind : Kind
  at_ : Location

structure Miss where
  kind : Kind
  place : Location

/-- The failure of an attempt that finds no token. -/
def Attempt.miss? (skip : Option Kind) (src : Source) (a : Attempt) : Option Miss :=
  match (Context.lex { src, skip } a.kind a.at_).1, Context.skipTrivia { src, skip } a.at_ with
  | .ok none, .ok behind => some ⟨a.kind, behind⟩
  | _, _ => none

/-- The attempts that a production makes from a place on. The second of a pair is tried where the
first ended. -/
def Production.attempts (skip : Option Kind) (src : Source) :
    Production → Location → List Attempt
  | .token k, at_ => [⟨k, at_⟩]
  | .discard inner, at_ => inner.attempts skip src at_
  | .pair first second, at_ =>
    first.attempts skip src at_ ++
      match (first.run { src, skip } at_).1 with
      | .ok (some left) => second.attempts skip src left.range.stop
      | _ => []
  | .build _ inner, at_ => (inner ()).attempts skip src at_
  | .refuse _, _ => []

inductive Operation where
  | lex (kind : Kind) (at_ : Location)
  | run (p : Production) (at_ : Location)

inductive Outcome where
  | token (found : Option Token)
  | parsed (found : Option Parsed)

namespace Operation

def perform (cx : Context) : Operation → Except RuleError Outcome × Context
  | .lex k at_ => ((cx.lex k at_).1.map .token, (cx.lex k at_).2)
  | .run p at_ => ((p.run cx at_).1.map .parsed, (p.run cx at_).2)

def attempts (skip : Option Kind) (src : Source) : Operation → List Attempt
  | .lex k at_ => [⟨k, at_⟩]
  | .run p at_ => p.attempts skip src at_

end Operation

namespace Context

def attemptAll (cx : Context) (attempts : List Attempt) : Context :=
  attempts.foldl (fun cx a ↦ (cx.lex a.kind a.at_).2) cx

def performAll (cx : Context) (operations : List Operation) : Context :=
  operations.foldl (fun cx op ↦ (op.perform cx).2) cx

def SameInput (cx cx' : Context) : Prop := cx'.src = cx.src ∧ cx'.skip = cx.skip

/-- What a context holds after some failures: the furthest of their places, and the kinds that were
missed there, each once and in the order of their identities. -/
structure Records (cx : Context) (missed : List Miss) : Prop where
  furthest_greatest : IsGreatest {place | place = 0 ∨ ∃ m ∈ missed, m.place = place} cx.furthest
  missed_of_mem : ∀ k ∈ cx.expected, ⟨k, cx.furthest⟩ ∈ missed
  mem_of_missed : ∀ m ∈ missed, m.place = cx.furthest → m.kind.id ∈ cx.expected.map (·.id)
  increasing : (cx.expected.map (·.id)).Pairwise (· < ·)
  nil_iff : cx.expected = [] ↔ missed = []

variable {cx cx' cx'' : Context} {skip : Option Kind} {src : Source} {k : Kind} {at_ : Location}

theorem SameInput.trans (h : cx.SameInput cx') (h' : cx'.SameInput cx'') : cx.SameInput cx'' :=
  ⟨h'.1.trans h.1, h'.2.trans h.2⟩

theorem Alike.sameInput (h : cx.Alike cx') : cx.SameInput cx' := by
  obtain ⟨_, rfl⟩ := h
  exact ⟨rfl, rfl⟩

theorem sameInput_miss (cx : Context) (k : Kind) (at_ : Location) :
    cx.SameInput (cx.miss k at_) := by
  unfold miss
  split
  · exact ⟨rfl, rfl⟩
  · split <;> exact ⟨rfl, rfl⟩

def noting (cx : Context) : Option Miss → Context
  | none => cx
  | some m => cx.miss m.kind m.place

theorem lex_result (cx : Context) (k : Kind) (at_ : Location) :
    (cx.lex k at_).1 = (lex { src := cx.src, skip := cx.skip } k at_).1 := by
  have hskip : ({ src := cx.src, skip := cx.skip } : Context).skipTrivia at_ =
      cx.skipTrivia at_ := rfl
  simp only [lex, hskip]
  cases cx.skipTrivia at_ with
  | error e => rfl
  | ok behind =>
    obtain ⟨consulted, hcx⟩ := cx.alike_consult at_ k behind
    obtain ⟨consulted', hcx'⟩ :=
      alike_consult { src := cx.src, skip := cx.skip } at_ k behind
    simp only [hcx, hcx']
    cases k.tokenAt cx.src behind with
    | error e => rfl
    | ok found => cases found <;> rfl

theorem lex_alike (cx : Context) (k : Kind) (at_ : Location) :
    (cx.noting (Attempt.miss? cx.skip cx.src ⟨k, at_⟩)).Alike (cx.lex k at_).2 := by
  have hskip : ({ src := cx.src, skip := cx.skip } : Context).skipTrivia at_ =
      cx.skipTrivia at_ := rfl
  simp only [Attempt.miss?, ← lex_result, hskip]
  simp only [lex]
  cases cx.skipTrivia at_ with
  | error e => exact ⟨cx.consulted, rfl⟩
  | ok behind =>
    obtain ⟨consulted, hcx⟩ := cx.alike_consult at_ k behind
    simp only [hcx]
    cases k.tokenAt cx.src behind with
    | error e => exact ⟨consulted, rfl⟩
    | ok found =>
      cases found with
      | none => exact Alike.miss ⟨consulted, rfl⟩ k behind
      | some t => exact ⟨consulted, rfl⟩

theorem sameInput_lex (cx : Context) (k : Kind) (at_ : Location) :
    cx.SameInput (cx.lex k at_).2 := by
  refine SameInput.trans ?_ (cx.lex_alike k at_).sameInput
  unfold noting
  split
  · exact ⟨rfl, rfl⟩
  · exact cx.sameInput_miss _ _

theorem sameInput_attemptAll (cx : Context) (attempts : List Attempt) :
    cx.SameInput (cx.attemptAll attempts) := by
  induction attempts generalizing cx with
  | nil => exact ⟨rfl, rfl⟩
  | cons a rest ih => exact (cx.sameInput_lex a.kind a.at_).trans (ih _)

theorem attemptAll_append (cx : Context) (attempts more : List Attempt) :
    cx.attemptAll (attempts ++ more) = (cx.attemptAll attempts).attemptAll more :=
  List.foldl_append

section InsertKind

variable {kinds : List Kind}

theorem mem_of_mem_insertKind {l : Kind} (h : l ∈ insertKind k kinds) : l = k ∨ l ∈ kinds := by
  induction kinds with
  | nil => exact .inl (List.mem_singleton.mp h)
  | cons first rest ih =>
    rw [insertKind] at h
    split at h
    · exact List.mem_cons.mp h
    · split at h
      · exact .inr h
      · rcases List.mem_cons.mp h with rfl | h
        · exact .inr (.head _)
        · exact (ih h).imp_right (.tail _)

theorem mem_map_id_insertKind {id : Nat} :
    id ∈ (insertKind k kinds).map (·.id) ↔ id = k.id ∨ id ∈ kinds.map (·.id) := by
  induction kinds with
  | nil => simp [insertKind]
  | cons first rest ih =>
    rw [insertKind]
    split
    · simp
    · split
      · next heq => simp [heq]
      · rw [List.map_cons, List.mem_cons, ih, List.map_cons, List.mem_cons]
        exact or_left_comm

theorem insertKind_ne_nil : insertKind k kinds ≠ [] := by
  have hmem : k.id ∈ (insertKind k kinds).map (·.id) := mem_map_id_insertKind.mpr (.inl rfl)
  intro h
  simp [h] at hmem

theorem insertKind_increasing (h : (kinds.map (·.id)).Pairwise (· < ·)) :
    ((insertKind k kinds).map (·.id)).Pairwise (· < ·) := by
  induction kinds with
  | nil => simp [insertKind]
  | cons first rest ih =>
    rw [insertKind]
    split
    · next hlt =>
      refine List.pairwise_cons.mpr ⟨?_, h⟩
      intro id hid
      rcases List.mem_cons.mp hid with rfl | hid
      · exact hlt
      · exact Nat.lt_trans hlt (List.rel_of_pairwise_cons h hid)
    · next hnot =>
      split
      · exact h
      · next hne =>
        refine List.pairwise_cons.mpr ⟨?_, ih (List.Pairwise.of_cons h)⟩
        intro id hid
        rcases mem_map_id_insertKind.mp hid with rfl | hid
        · exact Nat.lt_of_le_of_ne (Nat.not_lt.mp hnot) (Ne.symm hne)
        · exact List.rel_of_pairwise_cons h hid

end InsertKind

namespace Records

variable {missed missed' : List Miss}

theorem start (skip : Option Kind) (src : Source) : Records { src, skip } [] := by
  refine ⟨⟨.inl rfl, ?_⟩, by simp, by simp, by simp, by simp⟩
  rintro place (rfl | ⟨m, hm, -⟩)
  · exact Nat.le_refl _
  · cases hm

theorem alike (h : cx.Records missed) (hcx : cx.Alike cx') : cx'.Records missed := by
  obtain ⟨_, rfl⟩ := hcx
  exact ⟨h.furthest_greatest, h.missed_of_mem, h.mem_of_missed, h.increasing, h.nil_iff⟩

theorem place_le (h : cx.Records missed) {m : Miss} (hm : m ∈ missed) : m.place ≤ cx.furthest :=
  h.furthest_greatest.2 (.inr ⟨m, hm, rfl⟩)

theorem miss (h : cx.Records missed) (k : Kind) (place : Location) :
    (cx.miss k place).Records (missed ++ [⟨k, place⟩]) := by
  have hmem {m : Miss} : m ∈ missed ++ [⟨k, place⟩] ↔ m ∈ missed ∨ m = ⟨k, place⟩ := by simp
  unfold Context.miss
  split
  · next hfurther =>
    refine ⟨⟨.inr ⟨⟨k, place⟩, by simp, rfl⟩, ?_⟩, by simp, ?_, by simp, by simp⟩
    · rintro other (rfl | ⟨m, hm, rfl⟩)
      · exact Nat.zero_le _
      · rcases hmem.mp hm with hm | rfl
        · exact Nat.le_trans (h.place_le hm) (Nat.le_of_lt hfurther)
        · exact Nat.le_refl _
    · intro m hm hplace
      rcases hmem.mp hm with hm | rfl
      · exact absurd (h.place_le hm) (Nat.not_le.mpr (hplace ▸ hfurther))
      · simp
  · next hnot =>
    have hgreatest : IsGreatest
        {other | other = 0 ∨ ∃ m ∈ missed ++ [⟨k, place⟩], m.place = other} cx.furthest := by
      constructor
      · rcases h.furthest_greatest.1 with hzero | ⟨m, hm, hplace⟩
        · exact .inl hzero
        · exact .inr ⟨m, hmem.mpr (.inl hm), hplace⟩
      · rintro other (rfl | ⟨m, hm, rfl⟩)
        · exact Nat.zero_le _
        · rcases hmem.mp hm with hm | rfl
          · exact h.place_le hm
          · exact Nat.not_lt.mp hnot
    split
    · next heq =>
      subst heq
      refine ⟨hgreatest, ?_, ?_, insertKind_increasing h.increasing, ?_⟩
      · intro l hl
        rcases mem_of_mem_insertKind hl with rfl | hl
        · exact hmem.mpr (.inr rfl)
        · exact hmem.mpr (.inl (h.missed_of_mem l hl))
      · intro m hm hplace
        rcases hmem.mp hm with hm | rfl
        · exact mem_map_id_insertKind.mpr (.inr (h.mem_of_missed m hm hplace))
        · exact mem_map_id_insertKind.mpr (.inl rfl)
      · simp [insertKind_ne_nil]
    · next hne =>
      -- a failure short of the furthest place, so there was one at that place
      have hsome : missed ≠ [] := by
        rintro rfl
        rcases h.furthest_greatest.1 with hzero | ⟨m, hm, -⟩
        · lia
        · cases hm
      refine ⟨hgreatest, ?_, ?_, h.increasing, ?_⟩
      · intro l hl
        exact hmem.mpr (.inl (h.missed_of_mem l hl))
      · intro m hm hplace
        rcases hmem.mp hm with hm | rfl
        · exact h.mem_of_missed m hm hplace
        · exact absurd hplace hne
      · simp [h.nil_iff, hsome]

theorem lex (h : cx.Records missed) (k : Kind) (at_ : Location) :
    (cx.lex k at_).2.Records
      (missed ++ (Attempt.miss? cx.skip cx.src ⟨k, at_⟩).toList) := by
  refine alike ?_ (cx.lex_alike k at_)
  cases Attempt.miss? cx.skip cx.src ⟨k, at_⟩ with
  | none => simpa [noting] using h
  | some m => exact h.miss m.kind m.place

theorem attemptAll (h : cx.Records missed) (attempts : List Attempt) :
    (cx.attemptAll attempts).Records
      (missed ++ attempts.filterMap (·.miss? cx.skip cx.src)) := by
  induction attempts generalizing cx missed with
  | nil => simpa [Context.attemptAll] using h
  | cons a rest ih =>
    obtain ⟨hsrc, hskip⟩ := cx.sameInput_lex a.kind a.at_
    have hrest := ih (h.lex a.kind a.at_)
    rw [hsrc, hskip, List.append_assoc] at hrest
    have hmissed : (a :: rest).filterMap (·.miss? cx.skip cx.src) =
        (a.miss? cx.skip cx.src).toList ++ rest.filterMap (·.miss? cx.skip cx.src) := by
      cases hm : a.miss? cx.skip cx.src <;> simp [hm]
    rw [hmissed]
    exact hrest

theorem ids_eq_of_perm (h : cx.Records missed) (h' : cx'.Records missed')
    (hperm : missed'.Perm missed) :
    cx'.furthest = cx.furthest ∧ cx'.expected.map (·.id) = cx.expected.map (·.id) := by
  have hfurthest : cx'.furthest = cx.furthest := by
    have hgreatest := h'.furthest_greatest
    simp only [hperm.mem_iff] at hgreatest
    exact hgreatest.unique h.furthest_greatest
  refine ⟨hfurthest, h'.increasing.eq_of_mem_iff h.increasing ?_⟩
  intro id
  constructor
  · intro hid
    obtain ⟨k, hk, rfl⟩ := List.mem_map.mp hid
    exact h.mem_of_missed _ (hperm.mem_iff.mp (h'.missed_of_mem k hk)) hfurthest
  · intro hid
    obtain ⟨k, hk, rfl⟩ := List.mem_map.mp hid
    exact h'.mem_of_missed _ (hperm.mem_iff.mpr (h.missed_of_mem k hk)) hfurthest.symm

end Records

end Context

namespace Production

theorem run_token (k : Kind) (cx : Context) (at_ : Location) :
    (token k).run cx at_ =
      ((cx.lex k at_).1.map (Option.map fun t ↦ ⟨.token t, t.range⟩), (cx.lex k at_).2) := by
  rw [run]
  rcases cx.lex k at_ with ⟨e | _ | t, cx'⟩ <;> rfl

theorem run_discard (inner : Production) (cx : Context) (at_ : Location) :
    (discard inner).run cx at_ =
      ((inner.run cx at_).1.map (Option.map fun p ↦ ⟨.nothing, p.range⟩), (inner.run cx at_).2) := by
  rw [run]
  rcases inner.run cx at_ with ⟨e | _ | p, cx'⟩ <;> rfl

theorem run_build (convert : Conversion) (inner : Unit → Production) (cx : Context)
    (at_ : Location) :
    (build convert inner).run cx at_ =
      (((inner ()).run cx at_).1.bind fun found ↦ match found with
        | some p => (convert p.value p.range).map fun value ↦ some ⟨value, p.range⟩
        | none => .ok none, ((inner ()).run cx at_).2) := by
  rw [run]
  rcases (inner ()).run cx at_ with ⟨e | _ | p, cx'⟩
  · rfl
  · rfl
  · simp only [Except.bind]
    cases convert p.value p.range <;> rfl

theorem run_pair (first second : Production) (cx : Context) (at_ : Location) :
    (pair first second).run cx at_ = match first.run cx at_ with
      | (.ok (some left), cx') =>
        ((second.run cx' left.range.stop).1.map (Option.map fun right ↦
          ⟨.pair left.value right.value, left.range.join right.range⟩),
          (second.run cx' left.range.stop).2)
      | read => read := by
  rw [run]
  rcases first.run cx at_ with ⟨e | _ | left, cx'⟩
  · rfl
  · rfl
  · simp only
    rcases second.run cx' left.range.stop with ⟨e | _ | right, cx''⟩ <;> rfl

/-- What a production reads does not depend on the record, and it leaves the context as its attempts
leave it. -/
theorem run_eq_attempts (p : Production) (cx : Context) (at_ : Location) :
    (p.run cx at_).1 = (p.run { src := cx.src, skip := cx.skip } at_).1 ∧
      (p.run cx at_).2 = cx.attemptAll (p.attempts cx.skip cx.src at_) := by
  induction p generalizing cx at_ with
  | token k =>
    rw [run_token, run_token, ← cx.lex_result]
    exact ⟨rfl, rfl⟩
  | discard inner ih =>
    obtain ⟨hresult, hcx⟩ := ih cx at_
    rw [run_discard, run_discard, hresult]
    exact ⟨rfl, hcx⟩
  | build convert inner ih =>
    obtain ⟨hresult, hcx⟩ := ih () cx at_
    rw [run_build, run_build, hresult]
    exact ⟨rfl, hcx⟩
  | refuse cause => exact ⟨rfl, rfl⟩
  | pair first second ihfirst ihsecond =>
    -- the context after the first has the same source and skip kind, so the second reads alike
    have hsame (cx : Context) : cx.SameInput (first.run cx at_).2 := by
      rw [(ihfirst cx at_).2]
      exact cx.sameInput_attemptAll _
    have hfirst := hsame cx
    have hfresh := hsame { src := cx.src, skip := cx.skip }
    obtain ⟨hresult, hcx⟩ := ihfirst cx at_
    rw [run_pair, run_pair, attempts, Context.attemptAll_append, ← hcx, ← hresult]
    generalize first.run cx at_ = read at *
    generalize first.run { src := cx.src, skip := cx.skip } at_ = read' at *
    obtain ⟨result, cx₁⟩ := read
    obtain ⟨result', cx₂⟩ := read'
    obtain rfl : result = result' := hresult
    rcases result with e | _ | left
    · exact ⟨rfl, rfl⟩
    · exact ⟨rfl, rfl⟩
    · obtain ⟨hsecond, hcx₁⟩ := ihsecond cx₁ left.range.stop
      have hsecond' := (ihsecond cx₂ left.range.stop).1
      rw [hfirst.1, hfirst.2] at hsecond hcx₁
      rw [hfresh.1, hfresh.2] at hsecond'
      exact ⟨by simp only [hsecond, hsecond'], hcx₁⟩

end Production

namespace Operation

theorem perform_eq_attempts (op : Operation) (cx : Context) :
    (op.perform cx).1 = (op.perform { src := cx.src, skip := cx.skip }).1 ∧
      (op.perform cx).2 = cx.attemptAll (op.attempts cx.skip cx.src) := by
  cases op with
  | lex k at_ =>
    simp only [perform, ← cx.lex_result]
    exact ⟨trivial, rfl⟩
  | run p at_ =>
    obtain ⟨hresult, hcx⟩ := p.run_eq_attempts cx at_
    simp only [perform, ← hresult]
    exact ⟨trivial, hcx⟩

end Operation

namespace Context

theorem performAll_eq_attemptAll (cx : Context) (operations : List Operation) :
    cx.performAll operations =
      cx.attemptAll (operations.flatMap (·.attempts cx.skip cx.src)) := by
  induction operations generalizing cx with
  | nil => rfl
  | cons op rest ih =>
    have hcx := (op.perform_eq_attempts cx).2
    obtain ⟨hsrc, hskip⟩ := cx.sameInput_attemptAll (op.attempts cx.skip cx.src)
    have hrest := ih (op.perform cx).2
    rw [hcx, hsrc, hskip] at hrest
    rw [List.flatMap_cons, attemptAll_append, ← hrest, ← hcx]
    rfl

def misses (skip : Option Kind) (src : Source) (operations : List Operation) : List Miss :=
  (operations.flatMap (·.attempts skip src)).filterMap (·.miss? skip src)

/-- After any operations, in any order and at any places, a context holds the furthest place where
one of their attempts failed and the kinds that were missed there, each once and in the order of
their identities; it holds none only if no attempt failed. The next operation makes its attempts and
gives what it would give to a new context, and the order of the failures does not show. -/
theorem performAll_records (skip : Option Kind) (src : Source) (operations : List Operation) :
    (performAll { src, skip } operations).Records (misses skip src operations) ∧
    (∀ op : Operation,
      (op.perform (performAll { src, skip } operations)).1 = (op.perform { src, skip }).1 ∧
      (op.perform (performAll { src, skip } operations)).2 =
        (performAll { src, skip } operations).attemptAll (op.attempts skip src)) ∧
    ∀ others : List Operation, (misses skip src others).Perm (misses skip src operations) →
      (performAll { src, skip } others).furthest =
        (performAll { src, skip } operations).furthest ∧
      (performAll { src, skip } others).expected.map (·.id) =
        (performAll { src, skip } operations).expected.map (·.id) := by
  have hrecords (operations : List Operation) :
      (performAll { src, skip } operations).Records (misses skip src operations) := by
    rw [performAll_eq_attemptAll]
    exact (Records.start skip src).attemptAll _
  refine ⟨hrecords operations, ?_, ?_⟩
  · intro op
    have hsame : SameInput { src, skip } (performAll { src, skip } operations) := by
      rw [performAll_eq_attemptAll]
      exact sameInput_attemptAll _ _
    have hop := op.perform_eq_attempts (performAll { src, skip } operations)
    rwa [hsame.1, hsame.2] at hop
  · intro others hperm
    exact (hrecords operations).ids_eq_of_perm (hrecords others) hperm

end Context

end Tokenry
