import Mathlib.Data.List.Induction
import Tokenry.Proofs.Session.Patterns

namespace Tokenry.Pattern

variable [CharacterNames]

namespace Cache

variable {cache : Cache} {text : String} {entry : Nat}

omit [CharacterNames] in
theorem find?_push {other : String} {compiled : Compiled} (h : cache.find? text = some entry) :
    (Cache.mk (cache.entries.push (other, compiled))).find? text = some entry := by
  obtain ⟨hlt, hfound, hfirst⟩ := Array.findIdx?_eq_some_iff_getElem.mp h
  refine Array.findIdx?_eq_some_iff_getElem.mpr ⟨by simp; omega, ?_, ?_⟩
  · rwa [Array.getElem_push_lt hlt]
  · intro j hj
    rw [Array.getElem_push_lt (by omega)]
    exact hfirst j hj

theorem find?_compile (h : cache.find? text = some entry) (other : String) :
    (cache.compile other).2.find? text = some entry := by
  unfold compile
  split
  · exact h
  · split
    · exact h
    · exact find?_push h

theorem find?_of_compile (h : (cache.compile text).1 = .ok entry) :
    (cache.compile text).2.find? text = some entry := by
  unfold compile at h ⊢
  split at h
  · next hfind =>
    cases h
    exact hfind
  · next hfind =>
    split at h
    · cases h
    · cases h
      have hnew := Array.findIdx?_eq_none_iff.mp hfind
      refine Array.findIdx?_eq_some_iff_getElem.mpr ⟨by simp, by simp, ?_⟩
      intro j hj
      rw [Array.getElem_push_lt hj]
      simpa using hnew _ (Array.getElem_mem hj)

theorem compile_error {e : MatchError} (h : (cache.compile text).1 = .error e) :
    (cache.compile text).2 = cache := by
  unfold compile at h ⊢
  split at h
  · cases h
  · split at h
    · rfl
    · cases h

theorem Sound.get?_of_find? (h : cache.Sound) (hfind : cache.find? text = some entry) :
    ∃ compiled, cache.get? entry = some compiled ∧ Pattern.compile text = .ok compiled := by
  have hhit : cache.compile text = (.ok entry, cache) := by rw [Cache.compile, hfind]
  have hspec := h.compile text
  rw [hhit] at hspec
  exact hspec.2 entry rfl

end Cache

namespace Deferred

variable {d : Deferred} {cache : Cache} {entry : Nat} {e : MatchError}

/-- A pattern whose entry, if it has one, is that of its text and holds what it compiles to. -/
def Held (d : Deferred) (cache : Cache) : Prop :=
  d.Remembered cache ∧ ∀ entry, d.entry = some entry → cache.find? d.text = some entry

theorem force_of_entry (h : d.entry = some entry) : d.force cache = (.ok entry, d, cache) := by
  unfold force
  rw [h]

theorem force_of_new (hcache : cache.Sound) (h : d.entry = none) :
    (∃ e, cache.compile d.text = (.error e, cache) ∧ d.force cache = (.error e, d, cache)) ∨
    ∃ entry compiled, (cache.compile d.text).1 = .ok entry ∧
      Pattern.compile d.text = .ok compiled ∧
      d.force cache = if d.capture ≤ compiled.groups then
          (.ok entry, { d with entry := some entry }, (cache.compile d.text).2)
        else (.error (.definition (.missingGroup d.text d.capture compiled.groups)), d,
          (cache.compile d.text).2) := by
  have hspec := hcache.compile d.text
  cases hcompile : cache.compile d.text with
  | mk result cache' =>
    cases result with
    | error e =>
      obtain rfl : cache' = cache := by
        simpa only [hcompile] using Cache.compile_error (congrArg Prod.fst hcompile)
      refine .inl ⟨e, rfl, ?_⟩
      unfold force
      rw [h, hcompile]
    | ok entry =>
      rw [hcompile] at hspec
      obtain ⟨compiled, hget, hok⟩ := hspec.2 entry rfl
      refine .inr ⟨entry, compiled, rfl, hok, ?_⟩
      unfold force
      rw [h, hcompile]
      simp only [hget, Option.map_some, Option.getD_some]

theorem force_ok_pattern (h : (d.force cache).1 = .ok entry) :
    (d.force cache).2.1 = { d with entry := some entry } := by
  unfold force at h ⊢
  split at h
  · next hentry =>
    cases h
    rw [← hentry]
  · split at h
    · cases h
    · dsimp only at h ⊢
      split at h
      · next hgroup =>
        cases h
        rw [if_pos hgroup]
      · cases h

theorem force_ok_find? (hcache : cache.Sound) (hd : d.Held cache)
    (h : (d.force cache).1 = .ok entry) : (d.force cache).2.2.find? d.text = some entry := by
  cases hentry : d.entry with
  | some own =>
    rw [force_of_entry hentry] at h ⊢
    cases h
    exact hd.2 _ hentry
  | none =>
    rcases force_of_new hcache hentry with ⟨e, -, hforce⟩ | ⟨own, compiled, hown, -, hforce⟩
    · rw [hforce] at h
      cases h
    · have hfind := Cache.find?_of_compile hown
      rw [hforce] at h ⊢
      split at h
      · next hgroup =>
        cases h
        rw [if_pos hgroup]
        exact hfind
      · cases h

theorem force_error (hcache : cache.Sound) (h : (d.force cache).1 = .error e) :
    (d.force cache).2.1 = d ∧ ((d.force cache).2.2 = cache ∨
      ∃ compiled, Pattern.compile d.text = .ok compiled ∧ cache.find? d.text = none ∧
        e = .definition (.missingGroup d.text d.capture compiled.groups) ∧
        (d.force cache).2.2 = ⟨cache.entries.push (d.text, compiled)⟩) := by
  cases hentry : d.entry with
  | some own =>
    rw [force_of_entry hentry] at h
    cases h
  | none =>
    rcases force_of_new hcache hentry with ⟨e', -, hforce⟩ | ⟨own, compiled, -, hok, hforce⟩
    · rw [hforce]
      exact ⟨rfl, .inl rfl⟩
    · rw [hforce] at h ⊢
      split at h
      · cases h
      · next hgroup =>
        cases h
        rw [if_neg hgroup]
        refine ⟨rfl, ?_⟩
        cases hfind : cache.find? d.text with
        | some entry => exact .inl (by simp [Cache.compile, hfind])
        | none => exact .inr ⟨compiled, hok, rfl, rfl, by simp [Cache.compile, hfind, hok]⟩

theorem Held.compile (h : d.Held cache) (text : String) : d.Held (cache.compile text).2 :=
  ⟨h.1.compile text, fun entry hentry ↦ Cache.find?_compile (h.2 entry hentry) text⟩

theorem find?_force {text : String} (h : cache.find? text = some entry) :
    (d.force cache).2.2.find? text = some entry := by
  rcases d.force_cache_eq cache with heq | heq
  · rwa [heq]
  · rw [heq]
    exact Cache.find?_compile h d.text

theorem get?_force {compiled : Compiled} (h : cache.get? entry = some compiled) :
    (d.force cache).2.2.get? entry = some compiled := by
  rcases d.force_cache_eq cache with heq | heq
  · rwa [heq]
  · rw [heq]
    exact Cache.get?_compile h d.text

theorem Held.of_force {other : Deferred} (h : other.Held cache) (d : Deferred) :
    other.Held (d.force cache).2.2 :=
  ⟨h.1.of_force d, fun entry hentry ↦ find?_force (h.2 entry hentry)⟩

theorem Held.force (hcache : cache.Sound) (hd : d.Held cache) :
    (d.force cache).2.1.Held (d.force cache).2.2 := by
  refine ⟨(force_outcome hcache hd.1).1, ?_⟩
  intro entry hentry
  cases hforce : (d.force cache).1 with
  | error e =>
    have hd' := (force_error hcache hforce).1
    rw [hd'] at hentry ⊢
    exact find?_force (hd.2 entry hentry)
  | ok own =>
    rw [force_ok_pattern hforce] at hentry ⊢
    cases hentry
    exact force_ok_find? hcache hd hforce

/-- A match that is tried inside the source leaves behind what forcing the pattern leaves. -/
theorem matchAt_state (d : Deferred) (cache : Cache) {src : Source} {at_ : Location}
    (hat : at_ ≤ src.size) :
    (d.matchAt cache src at_).2 = (d.force cache).2 ∧
      ∀ e, (d.matchAt cache src at_).1 = .error e ↔ (d.force cache).1 = .error e := by
  unfold matchAt
  rw [if_neg (Nat.not_lt.mpr hat)]
  split
  · next heq => simp [heq]
  · next heq => simp [heq]

end Deferred

structure Store where
  cache : Cache := {}
  patterns : List Deferred := []

namespace Store

inductive Call where
  | compile (text : String)
  | make (text : String) (capture : Int)
  | get (index : Nat)
  | lex (index : Nat) (src : Source) (at_ : Location)

inductive Reply where
  | entry (entry : Nat)
  | made (index : Nat)
  | found (range : Option Range)
  | nothing

/-- The pattern that a call gets, if it gets one: a match past the end of the source does not. -/
def Call.gets : Call → Option Nat
  | .get index => some index
  | .lex index src at_ => if at_ ≤ src.size then some index else none
  | _ => none

def perform (store : Store) : Call → Except MatchError Reply × Store
  | .compile text =>
    ((store.cache.compile text).1.map .entry, { store with cache := (store.cache.compile text).2 })
  | .make text capture =>
    match Deferred.make text capture with
    | .error e => (.error (.definition e), store)
    | .ok d => (.ok (.made store.patterns.length), { store with patterns := store.patterns ++ [d] })
  | .get index =>
    match store.patterns[index]? with
    | none => (.ok .nothing, store)
    | some d =>
      let (result, d, cache) := d.force store.cache
      (result.map .entry, ⟨cache, store.patterns.set index d⟩)
  | .lex index src at_ =>
    match store.patterns[index]? with
    | none => (.ok .nothing, store)
    | some d =>
      let (result, d, cache) := d.matchAt store.cache src at_
      (result.map .found, ⟨cache, store.patterns.set index d⟩)

def performAll (store : Store) (calls : List Call) : Store :=
  calls.foldl (fun store call ↦ (store.perform call).2) store

def run (calls : List Call) : Store := performAll {} calls

variable {store store' : Store} {call : Call} {d : Deferred} {i : Nat} {e : MatchError}

def forced (store : Store) (index : Nat) (d : Deferred) : Store :=
  ⟨(d.force store.cache).2.2, store.patterns.set index (d.force store.cache).2.1⟩

omit [CharacterNames] in
theorem set_eq_self (hd : store.patterns[i]? = some d) :
    store.patterns.set i d = store.patterns := by
  obtain ⟨hlt, rfl⟩ := List.getElem?_eq_some_iff.mp hd
  exact List.set_getElem_self hlt

theorem perform_of_gets (h : call.gets = some i) (hd : store.patterns[i]? = some d) :
    (store.perform call).2 = store.forced i d ∧
      ∀ e, (store.perform call).1 = .error e ↔ (d.force store.cache).1 = .error e := by
  have hmap {α : Type} {x : Except MatchError α} {f : α → Reply} {e : MatchError} :
      x.map f = .error e ↔ x = .error e := by
    cases x <;> simp [Except.map]
  cases call with
  | compile | make => cases h
  | get index =>
    cases h
    simp only [perform, hd]
    exact ⟨rfl, fun e ↦ hmap⟩
  | lex index src at_ =>
    simp only [Call.gets, Option.ite_none_right_eq_some, Option.some.injEq] at h
    obtain ⟨hat, rfl⟩ := h
    obtain ⟨hstate, herror⟩ := d.matchAt_state store.cache hat
    simp only [perform, hd, hstate]
    exact ⟨rfl, fun e ↦ hmap.trans (herror e)⟩

theorem perform_cases (store : Store) (call : Call) :
    (store.perform call).2 = store ∨
    (∃ text, (store.perform call).2 = { store with cache := (store.cache.compile text).2 }) ∨
    (∃ d : Deferred, d.entry = none ∧
      (store.perform call).2 = { store with patterns := store.patterns ++ [d] }) ∨
    ∃ i d, call.gets = some i ∧ store.patterns[i]? = some d ∧
      (store.perform call).2 = store.forced i d := by
  cases call with
  | compile text => exact .inr (.inl ⟨text, rfl⟩)
  | make text capture =>
    simp only [perform, Deferred.make]
    split
    · exact .inl rfl
    · next d hmake =>
      split at hmake
      · cases hmake
      · cases hmake
        exact .inr (.inr (.inl ⟨_, rfl, rfl⟩))
  | get index =>
    cases hd : store.patterns[index]? with
    | none => exact .inl (by simp [perform, hd])
    | some d => exact .inr (.inr (.inr ⟨index, d, rfl, hd, (perform_of_gets rfl hd).1⟩))
  | lex index src at_ =>
    cases hd : store.patterns[index]? with
    | none => exact .inl (by simp [perform, hd])
    | some d =>
      by_cases hat : at_ ≤ src.size
      · have hgets : (Call.lex index src at_).gets = some index := if_pos hat
        exact .inr (.inr (.inr ⟨index, d, hgets, hd, (perform_of_gets hgets hd).1⟩))
      · refine .inl ?_
        simp only [perform, hd, Deferred.matchAt, if_pos (Nat.not_le.mp hat), set_eq_self hd]

structure Sound (store : Store) : Prop where
  cache : store.cache.Sound
  held : ∀ d ∈ store.patterns, d.Held store.cache

/-- A later store has the entries and the patterns of an earlier one; a pattern keeps its text, its
group and the entry that it has been given. -/
structure Grows (store store' : Store) : Prop where
  find : ∀ text entry, store.cache.find? text = some entry → store'.cache.find? text = some entry
  get : ∀ entry compiled, store.cache.get? entry = some compiled →
    store'.cache.get? entry = some compiled
  patterns : ∀ (i : Nat) d, store.patterns[i]? = some d → ∃ d', store'.patterns[i]? = some d' ∧
    d'.text = d.text ∧ d'.capture = d.capture ∧ ∀ entry, d.entry = some entry → d' = d

omit [CharacterNames] in
theorem Grows.refl (store : Store) : store.Grows store :=
  ⟨fun _ _ h ↦ h, fun _ _ h ↦ h, fun _ d hd ↦ ⟨d, hd, rfl, rfl, fun _ _ ↦ rfl⟩⟩

omit [CharacterNames] in
theorem Grows.trans {store'' : Store} (h : store.Grows store') (h' : store'.Grows store'') :
    store.Grows store'' := by
  refine ⟨fun text entry hf ↦ h'.find _ _ (h.find _ _ hf),
    fun entry compiled hg ↦ h'.get _ _ (h.get _ _ hg), ?_⟩
  intro i d hd
  obtain ⟨d₁, hd₁, htext₁, hcapture₁, hkept₁⟩ := h.patterns i d hd
  obtain ⟨d₂, hd₂, htext₂, hcapture₂, hkept₂⟩ := h'.patterns i d₁ hd₁
  refine ⟨d₂, hd₂, htext₂.trans htext₁, hcapture₂.trans hcapture₁, ?_⟩
  intro entry hentry
  obtain rfl := hkept₁ entry hentry
  exact hkept₂ entry hentry

theorem Sound.perform (h : store.Sound) (call : Call) : (store.perform call).2.Sound := by
  rcases perform_cases store call with heq | ⟨text, heq⟩ | ⟨d, hnew, heq⟩ | ⟨i, d, -, hd, heq⟩
  · rwa [heq]
  · rw [heq]
    exact ⟨(h.cache.compile text).1, fun d hd ↦ (h.held d hd).compile text⟩
  · rw [heq]
    refine ⟨h.cache, ?_⟩
    intro other hother
    rcases List.mem_append.mp hother with hother | hother
    · exact h.held other hother
    · obtain rfl := List.mem_singleton.mp hother
      exact ⟨fun entry hentry ↦ by simp [hnew] at hentry,
        fun entry hentry ↦ by simp [hnew] at hentry⟩
  · rw [heq]
    have hheld := h.held d (List.mem_of_getElem? hd)
    refine ⟨(Deferred.force_spec hheld.1.sound h.cache).2.2.2.1, ?_⟩
    intro other hother
    rcases List.mem_or_eq_of_mem_set hother with hother | rfl
    · exact (h.held other hother).of_force d
    · exact hheld.force h.cache

theorem Sound.grows (h : store.Sound) (call : Call) : store.Grows (store.perform call).2 := by
  rcases perform_cases store call with heq | ⟨text, heq⟩ | ⟨d, hnew, heq⟩ | ⟨i, d, -, hd, heq⟩
  · rw [heq]
    exact .refl store
  · rw [heq]
    exact ⟨fun _ _ hf ↦ Cache.find?_compile hf text, fun _ _ hg ↦ Cache.get?_compile hg text,
      (Grows.refl store).patterns⟩
  · rw [heq]
    refine ⟨fun _ _ hf ↦ hf, fun _ _ hg ↦ hg, ?_⟩
    intro j other hother
    obtain ⟨hlt, -⟩ := List.getElem?_eq_some_iff.mp hother
    refine ⟨other, ?_, rfl, rfl, fun _ _ ↦ rfl⟩
    rw [List.getElem?_append_left hlt, hother]
  · rw [heq]
    refine ⟨fun _ _ hf ↦ Deferred.find?_force hf, fun _ _ hg ↦ Deferred.get?_force hg, ?_⟩
    intro j other hother
    by_cases hij : i = j
    · subst hij
      obtain rfl := Option.some.inj (hd.symm.trans hother)
      obtain ⟨hlt, -⟩ := List.getElem?_eq_some_iff.mp hd
      have hheld := h.held d (List.mem_of_getElem? hd)
      obtain ⟨htext, hcapture, -⟩ := Deferred.force_spec hheld.1.sound h.cache
      refine ⟨_, List.getElem?_set_self hlt, htext, hcapture, ?_⟩
      intro entry hentry
      rw [Deferred.force_of_entry hentry]
    · exact ⟨other, by simp only [forced, List.getElem?_set_ne hij, hother], rfl, rfl,
        fun _ _ ↦ rfl⟩

theorem Sound.performAll (h : store.Sound) (calls : List Call) :
    (store.performAll calls).Sound ∧ store.Grows (store.performAll calls) := by
  induction calls generalizing store with
  | nil => exact ⟨h, .refl store⟩
  | cons call rest ih =>
    obtain ⟨hsound, hgrows⟩ := ih (h.perform call)
    exact ⟨hsound, (h.grows call).trans hgrows⟩

theorem run_append (calls later : List Call) :
    run (calls ++ later) = (run calls).performAll later :=
  List.foldl_append

theorem sound_run (calls : List Call) : (run calls).Sound :=
  (Sound.performAll ⟨by simp [Cache.Sound], by simp⟩ calls).1

theorem grows_run (calls later : List Call) : (run calls).Grows (run (calls ++ later)) := by
  rw [run_append]
  exact ((sound_run calls).performAll later).2

/-- A call of a run that gets a pattern which is there, and does not fail. -/
def Obtained (calls : List Call) (i : Nat) : Prop :=
  ∃ before call after, calls = before ++ call :: after ∧ call.gets = some i ∧
    i < (run before).patterns.length ∧ ∃ reply, ((run before).perform call).1 = .ok reply

theorem Obtained.append {calls : List Call} (h : Obtained calls i) (later : List Call) :
    Obtained (calls ++ later) i := by
  obtain ⟨before, call, after, rfl, hcall⟩ := h
  exact ⟨before, call, after ++ later, by simp, hcall⟩

theorem run_concat (calls : List Call) (call : Call) :
    run (calls ++ [call]) = ((run calls).perform call).2 :=
  run_append calls [call]

theorem obtained_of_compiled {calls : List Call} (hd : (run calls).patterns[i]? = some d)
    (h : d.isCompiled = true) : Obtained calls i := by
  induction calls using List.reverseRecOn generalizing d with
  | nil => simp [run, performAll] at hd
  | append_singleton calls call ih =>
    rw [run_concat] at hd
    rcases perform_cases (run calls) call with heq | ⟨text, heq⟩ | ⟨new, hnew, heq⟩ |
      ⟨j, old, hgets, hold, heq⟩
    · rw [heq] at hd
      exact (ih hd h).append [call]
    · rw [heq] at hd
      exact (ih hd h).append [call]
    · rw [heq, List.getElem?_append] at hd
      split at hd
      · exact (ih hd h).append [call]
      · obtain rfl := List.mem_singleton.mp (List.mem_of_getElem? hd)
        simp [Deferred.isCompiled, hnew] at h
    · rw [heq] at hd
      by_cases hij : j = i
      · subst hij
        obtain ⟨hlt, -⟩ := List.getElem?_eq_some_iff.mp hold
        simp only [forced, List.getElem?_set_self hlt, Option.some.injEq] at hd
        cases hforce : (old.force (run calls).cache).1 with
        | error e =>
          -- A failure leaves the pattern as it was, so it has been compiled before.
          rw [(Deferred.force_error (sound_run calls).cache hforce).1] at hd
          subst hd
          exact (ih hold h).append [call]
        | ok entry =>
          refine ⟨calls, call, [], rfl, hgets, hlt, ?_⟩
          cases hreply : ((run calls).perform call).1 with
          | ok reply => exact ⟨reply, rfl⟩
          | error e =>
            have herror := ((perform_of_gets hgets hold).2 e).mp hreply
            cases hforce.symm.trans herror
      · simp only [forced, List.getElem?_set_ne hij] at hd
        exact (ih hd h).append [call]

theorem compiled_of_obtained {calls : List Call} (hd : (run calls).patterns[i]? = some d)
    (h : Obtained calls i) : d.isCompiled = true := by
  obtain ⟨before, call, after, rfl, hgets, hlt, reply, hreply⟩ := h
  obtain ⟨old, hold⟩ : ∃ old, (run before).patterns[i]? = some old :=
    ⟨_, List.getElem?_eq_getElem hlt⟩
  obtain ⟨hstate, herror⟩ := perform_of_gets hgets hold
  cases hforce : (old.force (run before).cache).1 with
  | error e => cases hreply.symm.trans ((herror e).mpr hforce)
  | ok entry =>
    have hafter : (run (before ++ [call])).patterns[i]? =
        some { old with entry := some entry } := by
      rw [run_concat, hstate, ← Deferred.force_ok_pattern hforce]
      exact List.getElem?_set_self hlt
    obtain ⟨d', hd', -, -, hkept⟩ := (grows_run (before ++ [call]) after).patterns i _ hafter
    rw [List.append_assoc, List.singleton_append, hd] at hd'
    cases hd'
    rw [hkept entry rfl]
    rfl

/-- What a failure leaves of a store: its patterns, and its cache too unless the error is that a
text lacks a group. Then the text compiles, and it may be new in the cache. -/
def LeftBy (store : Store) (e : MatchError) (store' : Store) : Prop :=
  store'.patterns = store.patterns ∧
  (store'.cache = store.cache ∨
    ∃ text capture compiled, Pattern.compile text = .ok compiled ∧
      store.cache.find? text = none ∧
      e = .definition (.missingGroup text capture compiled.groups) ∧
      store'.cache = ⟨store.cache.entries.push (text, compiled)⟩)

theorem leftBy_of_gets (h : store.Sound) (hgets : call.gets = some i)
    (hd : store.patterns[i]? = some d) (herror : (store.perform call).1 = .error e) :
    store.LeftBy e (store.perform call).2 := by
  obtain ⟨hstate, hiff⟩ := perform_of_gets hgets hd
  obtain ⟨hsame, hcache⟩ := Deferred.force_error h.cache ((hiff e).mp herror)
  rw [hstate]
  refine ⟨by simp only [forced, hsame, set_eq_self hd], ?_⟩
  rcases hcache with hcache | ⟨compiled, hok, hnew, he, hcache⟩
  · exact .inl hcache
  · exact .inr ⟨d.text, d.capture, compiled, hok, hnew, he, hcache⟩

theorem Sound.leftBy (h : store.Sound) (herror : (store.perform call).1 = .error e) :
    store.LeftBy e (store.perform call).2 := by
  cases call with
  | compile text =>
    cases hcompile : (store.cache.compile text).1 with
    | ok entry => simp [Store.perform, hcompile, Except.map] at herror
    | error e' => exact ⟨rfl, .inl (Cache.compile_error hcompile)⟩
  | make text capture =>
    cases hmake : Deferred.make text capture with
    | ok d => simp [Store.perform, hmake] at herror
    | error e' =>
      simp only [Store.perform, hmake]
      exact ⟨rfl, .inl rfl⟩
  | get index =>
    cases hd : store.patterns[index]? with
    | none => simp [Store.perform, hd] at herror
    | some d => exact leftBy_of_gets h rfl hd herror
  | lex index src at_ =>
    cases hd : store.patterns[index]? with
    | none => simp [Store.perform, hd] at herror
    | some d =>
      by_cases hat : at_ ≤ src.size
      · exact leftBy_of_gets h (if_pos hat) hd herror
      · simp [Store.perform, hd, Deferred.matchAt, Nat.not_le.mp hat, Except.map] at herror

/-- Whether getting a pattern fails, and how, depends on its text and its group alone. -/
theorem Sound.perform_error_iff (h : store.Sound) (hgets : call.gets = some i)
    (hd : store.patterns[i]? = some d) :
    (store.perform call).1 = .error e ↔ compileFor d.text d.capture = .error e := by
  obtain ⟨-, herror, hok⟩ :=
    Deferred.force_outcome h.cache (h.held d (List.mem_of_getElem? hd)).1
  rw [(perform_of_gets hgets hd).2 e]
  refine ⟨?_, herror e⟩
  intro hforce
  cases hfor : compileFor d.text d.capture with
  | error e' =>
    cases (herror e' hfor).symm.trans hforce
    rfl
  | ok compiled =>
    obtain ⟨entry, hentry, -⟩ := hok compiled hfor
    cases hentry.symm.trans hforce

theorem gets_error_pattern (hgets : call.gets = some i)
    (herror : (store.perform call).1 = .error e) :
    ∃ d, store.patterns[i]? = some d := by
  cases hd : store.patterns[i]? with
  | some d => exact ⟨d, rfl⟩
  | none =>
    cases call with
    | compile | make => cases hgets
    | get index =>
      cases hgets
      simp [perform, hd] at herror
    | lex index src at_ =>
      simp only [Call.gets, Option.ite_none_right_eq_some, Option.some.injEq] at hgets
      obtain ⟨-, rfl⟩ := hgets
      simp [perform, hd] at herror

theorem run_error_again {calls : List Call} (hgets : call.gets = some i)
    (herror : ((run calls).perform call).1 = .error e) (later : List Call) {again : Call}
    (hagain : again.gets = some i) : ((run (calls ++ later)).perform again).1 = .error e := by
  obtain ⟨d, hd⟩ := gets_error_pattern hgets herror
  obtain ⟨d', hd', htext, hcapture, -⟩ := (grows_run calls later).patterns i d hd
  rw [(sound_run _).perform_error_iff hagain hd', htext, hcapture]
  exact ((sound_run calls).perform_error_iff hgets hd).mp herror

theorem compile_reply {text : String} {entry : Nat} (h : store.cache.find? text = some entry) :
    (store.perform (.compile text)).1 = .ok (.entry entry) := by
  simp only [perform, Cache.compile, h, Except.map]

theorem get_reply {entry : Nat} (hd : store.patterns[i]? = some d) (h : d.entry = some entry) :
    (store.perform (.get i)).1 = .ok (.entry entry) := by
  simp only [perform, hd, Deferred.force_of_entry h, Except.map]

theorem lex_reply {entry : Nat} {compiled : Compiled} {src : Source} {at_ : Location}
    (hd : store.patterns[i]? = some d) (h : d.entry = some entry)
    (hget : store.cache.get? entry = some compiled) (hat : at_ ≤ src.size) :
    (store.perform (.lex i src at_)).1 = .ok (.found (compiled.find d.capture src at_)) := by
  simp only [perform, hd, Deferred.matchAt, if_neg (Nat.not_lt.mpr hat), Deferred.force_of_entry h,
    hget, Option.bind_some, Except.map]

theorem cached_stays {calls : List Call} {text : String} {entry : Nat}
    (h : (run calls).cache.find? text = some entry) :
    ∃ compiled, Pattern.compile text = .ok compiled ∧
      ∀ later, (run (calls ++ later)).cache.find? text = some entry ∧
        (run (calls ++ later)).cache.get? entry = some compiled ∧
        ((run (calls ++ later)).perform (.compile text)).1 = .ok (.entry entry) := by
  obtain ⟨compiled, hget, hok⟩ := (sound_run calls).cache.get?_of_find? h
  refine ⟨compiled, hok, ?_⟩
  intro later
  have hgrows := grows_run calls later
  have hfind := hgrows.find text entry h
  exact ⟨hfind, hgrows.get entry compiled hget, compile_reply hfind⟩

theorem compiled_stays {calls : List Call} {entry : Nat} (hd : (run calls).patterns[i]? = some d)
    (h : d.entry = some entry) :
    (run calls).cache.find? d.text = some entry ∧
    ∃ compiled, (run calls).cache.get? entry = some compiled ∧ d.capture ≤ compiled.groups ∧
      ∀ later, (run (calls ++ later)).patterns[i]? = some d ∧
        ((run (calls ++ later)).perform (.get i)).1 = .ok (.entry entry) ∧
        ∀ src at_, at_ ≤ src.size → ((run (calls ++ later)).perform (.lex i src at_)).1 =
          .ok (.found (compiled.find d.capture src at_)) := by
  obtain ⟨hremembered, hfind⟩ := (sound_run calls).held d (List.mem_of_getElem? hd)
  obtain ⟨compiled, hget, hfor⟩ := hremembered entry h
  refine ⟨hfind entry h, compiled, hget, (compileFor_eq_ok_iff.mp hfor).2, ?_⟩
  intro later
  have hgrows := grows_run calls later
  obtain ⟨d', hd', -, -, hkept⟩ := hgrows.patterns i d hd
  obtain rfl := hkept entry h
  have hget' := hgrows.get entry compiled hget
  exact ⟨hd', get_reply hd' h, fun src at_ hat ↦ lex_reply hd' h hget' hat⟩

theorem compiled_entry_eq {d' : Deferred} (hstore : store.Sound) (hd : d ∈ store.patterns)
    (hd' : d' ∈ store.patterns) (h : d.isCompiled = true) (h' : d'.isCompiled = true)
    (htext : d.text = d'.text) : d.entry = d'.entry := by
  obtain ⟨entry, hentry⟩ := Option.isSome_iff_exists.mp h
  obtain ⟨entry', hentry'⟩ := Option.isSome_iff_exists.mp h'
  have hfind := (hstore.held d hd).2 entry hentry
  have hfind' := (hstore.held d' hd').2 entry' hentry'
  rw [hentry, hentry', ← hfind, ← hfind', htext]

/-- Whatever has been called, with or without success: what is in the cache compiles and stays what
it is; a pattern is compiled once a call has obtained it, and from then on has the one entry of its
text, with a group that is there; a call that fails changes no pattern, and a pattern that could not
be obtained cannot be obtained later. -/
theorem run_remembers (calls : List Call) :
    (∀ text entry, (run calls).cache.find? text = some entry →
      ∃ compiled, Pattern.compile text = .ok compiled ∧
        ∀ later, (run (calls ++ later)).cache.find? text = some entry ∧
          (run (calls ++ later)).cache.get? entry = some compiled ∧
          ((run (calls ++ later)).perform (.compile text)).1 = .ok (.entry entry)) ∧
    (∀ i d, (run calls).patterns[i]? = some d →
      (d.isCompiled = true ↔ Obtained calls i) ∧
      ∀ entry, d.entry = some entry →
        (run calls).cache.find? d.text = some entry ∧
        ∃ compiled, (run calls).cache.get? entry = some compiled ∧ d.capture ≤ compiled.groups ∧
          ∀ later, (run (calls ++ later)).patterns[i]? = some d ∧
            ((run (calls ++ later)).perform (.get i)).1 = .ok (.entry entry) ∧
            ∀ src at_, at_ ≤ src.size → ((run (calls ++ later)).perform (.lex i src at_)).1 =
              .ok (.found (compiled.find d.capture src at_))) ∧
    (∀ d ∈ (run calls).patterns, ∀ d' ∈ (run calls).patterns, d.isCompiled = true →
      d'.isCompiled = true → d.text = d'.text → d.entry = d'.entry) ∧
    ∀ call e, ((run calls).perform call).1 = .error e →
      (run calls).LeftBy e ((run calls).perform call).2 ∧
      ∀ i, call.gets = some i → ∀ later again, again.gets = some i →
        ((run (calls ++ later)).perform again).1 = .error e := by
  have hsound := sound_run calls
  refine ⟨fun text entry h ↦ cached_stays h, ?_, ?_, ?_⟩
  · intro i d hd
    exact ⟨⟨obtained_of_compiled hd, compiled_of_obtained hd⟩, fun entry h ↦ compiled_stays hd h⟩
  · intro d hd d' hd' h h' htext
    exact compiled_entry_eq hsound hd hd' h h' htext
  · intro call e herror
    refine ⟨hsound.leftBy herror, ?_⟩
    intro i hgets later again hagain
    exact run_error_again hgets herror later hagain

-- Two patterns of one text: the group of the second is not there, so only the first is compiled.
example : (run [.make "(a)" 1, .make "(a)" 2, .get 1, .get 0]).patterns =
    [⟨"(a)", 1, some 0⟩, ⟨"(a)", 2, none⟩] := by
  cbv

end Store

end Tokenry.Pattern
