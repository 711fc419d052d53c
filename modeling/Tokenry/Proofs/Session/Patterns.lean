import Tokenry.Proofs.Session.Identity

namespace Tokenry

variable [Pattern.CharacterNames]

namespace Pattern

variable {cache : Cache} {d : Deferred} {text : String} {capture : Nat} {compiled : Compiled}

theorem Cache.get?_compile {entry : Nat} (h : cache.get? entry = some compiled) (text : String) :
    (cache.compile text).2.get? entry = some compiled := by
  unfold Cache.compile
  split
  · exact h
  · split
    · exact h
    · obtain ⟨found, hfound, rfl⟩ := Option.map_eq_some_iff.mp h
      obtain ⟨hlt, -⟩ := Array.getElem?_eq_some_iff.mp hfound
      simp only [Cache.get?, Array.getElem?_push_lt hlt, Option.map_some]
      rw [Array.getElem?_eq_getElem hlt] at hfound
      rw [Option.some.inj hfound]

theorem Cache.compileFor_of_error {e : MatchError} (h : (cache.compile text).1 = .error e)
    (capture : Nat) : compileFor text capture = .error e := by
  unfold Cache.compile at h
  split at h
  · cases h
  · split at h
    · next fault hfault =>
      cases h
      simp only [compileFor, hfault]
    · cases h

/-- A deferred pattern whose entry, if it has one, holds what it compiles to. -/
def Deferred.Remembered (d : Deferred) (cache : Cache) : Prop :=
  ∀ entry, d.entry = some entry →
    ∃ compiled, cache.get? entry = some compiled ∧ compileFor d.text d.capture = .ok compiled

theorem Deferred.Remembered.sound (h : d.Remembered cache) : d.Sound := by
  intro hcompiled
  obtain ⟨entry, hentry⟩ := Option.isSome_iff_exists.mp hcompiled
  obtain ⟨compiled, -, hfor⟩ := h entry hentry
  exact ⟨compiled, hfor⟩

theorem Deferred.Remembered.compile (h : d.Remembered cache) (text : String) :
    d.Remembered (cache.compile text).2 := by
  intro entry hentry
  obtain ⟨compiled, hget, hcompiled⟩ := h entry hentry
  exact ⟨compiled, Cache.get?_compile hget text, hcompiled⟩

theorem Deferred.force_cache_eq (d : Deferred) (cache : Cache) :
    (d.force cache).2.2 = cache ∨ (d.force cache).2.2 = (cache.compile d.text).2 := by
  unfold Deferred.force
  split
  · exact .inl rfl
  · split
    · next heq => exact .inr (by rw [heq])
    · next heq =>
      refine .inr ?_
      rw [heq]
      dsimp only
      split <;> rfl

theorem Deferred.Remembered.of_force {other : Deferred} (h : other.Remembered cache)
    (d : Deferred) : other.Remembered (d.force cache).2.2 := by
  rcases d.force_cache_eq cache with heq | heq
  · rwa [heq]
  · rw [heq]
    exact h.compile d.text

/-- Forcing a deferred pattern has the outcome of compiling it. If there is something compiled, the
entry leads to it, and the pattern remembers the entry. -/
theorem Deferred.force_outcome (hcache : cache.Sound) (hd : d.Remembered cache) :
    (d.force cache).2.1.Remembered (d.force cache).2.2 ∧
    (∀ e, compileFor d.text d.capture = .error e → (d.force cache).1 = .error e) ∧
    ∀ compiled, compileFor d.text d.capture = .ok compiled →
      ∃ entry, (d.force cache).1 = .ok entry ∧ (d.force cache).2.2.get? entry = some compiled := by
  unfold Deferred.force
  split
  · next entry hentry =>
    obtain ⟨compiled, hget, hcompiled⟩ := hd entry hentry
    refine ⟨hd, ?_, ?_⟩
    · intro e he
      cases hcompiled.symm.trans he
    · intro compiled' h'
      cases hcompiled.symm.trans h'
      exact ⟨entry, rfl, hget⟩
  · next hentry =>
    have hspec := hcache.compile d.text
    have hkept := hd.compile d.text
    split
    · next e cache' heq =>
      rw [heq] at hkept
      have herror : compileFor d.text d.capture = .error e :=
        Cache.compileFor_of_error (congrArg Prod.fst heq) d.capture
      refine ⟨hkept, ?_, ?_⟩
      · intro e' he'
        cases herror.symm.trans he'
        rfl
      · intro compiled' h'
        cases herror.symm.trans h'
    · next entry cache' heq =>
      rw [heq] at hspec hkept
      obtain ⟨compiled, hget, hcompile⟩ := hspec.2 entry rfl
      simp only [hget, Option.map_some, Option.getD_some]
      split
      · next hgroup =>
        have hcompiled : compileFor d.text d.capture = .ok compiled :=
          compileFor_eq_ok_iff.mpr ⟨hcompile, hgroup⟩
        refine ⟨?_, ?_, ?_⟩
        · intro entry' hentry'
          cases hentry'
          exact ⟨compiled, hget, hcompiled⟩
        · intro e he
          cases hcompiled.symm.trans he
        · intro compiled' h'
          cases hcompiled.symm.trans h'
          exact ⟨entry, rfl, hget⟩
      · next hgroup =>
        have herror : compileFor d.text d.capture =
            .error (.definition (.missingGroup d.text d.capture compiled.groups)) := by
          simp only [compileFor, hcompile, if_neg hgroup]
        refine ⟨hkept, ?_, ?_⟩
        · intro e he
          cases herror.symm.trans he
          rfl
        · intro compiled' h'
          cases herror.symm.trans h'

theorem Deferred.matchAt_eq (hcache : cache.Sound) (hd : d.Remembered cache) (src : Source)
    (at_ : Location) :
    (d.matchAt cache src at_).1 = matchWith (compileFor d.text d.capture) d.capture src at_ := by
  obtain ⟨-, herror, hok⟩ := Deferred.force_outcome hcache hd
  obtain ⟨-, hcapture, -⟩ := Deferred.force_spec hd.sound hcache
  unfold Deferred.matchAt matchWith
  split
  · rfl
  · cases hfor : compileFor d.text d.capture with
    | error e =>
      have hforce := herror e hfor
      split
      · next heq =>
        rw [heq] at hforce
        cases hforce
        rfl
      · next heq =>
        rw [heq] at hforce
        cases hforce
    | ok compiled =>
      obtain ⟨entry, hforce, hget⟩ := hok compiled hfor
      split
      · next heq =>
        rw [heq] at hforce
        cases hforce
      · next heq =>
        rw [heq] at hforce hget hcapture
        cases hforce
        simp only [hget, Option.bind_some, Except.map]
        rw [hcapture]

end Pattern

namespace Session

/-- What holds of the sessions that a run leads to. -/
structure Reliable (kinds : List Kind) (s : Session) : Prop where
  orderly : s.Orderly kinds
  sound : s.Sound kinds.reverse
  remembers : ∀ waiting ∈ s.deferred, waiting.Remembered s.cache

variable {kinds kinds' : List Kind} {s s' : Session} {k : Kind}

theorem Sound.compile {made : List Kind} (h : Sound made s) (text : String) :
    Sound made { s with cache := (s.cache.compile text).2 } :=
  ⟨h.id_lt, h.ids_nodup, h.canonical_made, (h.cache_sound.compile text).1, h.deferred_sound,
    h.waits⟩

theorem declare_remembers (h : ∀ waiting ∈ s.deferred, waiting.Remembered s.cache)
    (d : Declaration) (changes : Overrides) :
    ∀ waiting ∈ (s.declare d changes).2.deferred,
      waiting.Remembered (s.declare d changes).2.cache := by
  unfold Session.declare
  split
  · exact h
  · intro waiting hmem
    rcases Array.mem_push.mp hmem with hmem | rfl
    · exact h waiting hmem
    · intro entry hentry
      cases hentry

theorem force_remembers (hcache : s.cache.Sound)
    (h : ∀ waiting ∈ s.deferred, waiting.Remembered s.cache) (index : Nat) :
    ∀ waiting ∈ (s.force index).2.deferred, waiting.Remembered (s.force index).2.cache := by
  unfold Session.force
  split
  · exact h
  · next d hd =>
    intro waiting hmem
    rcases Array.mem_or_eq_of_mem_setIfInBounds hmem with hmem | rfl
    · exact (h waiting hmem).of_force d
    · exact (Pattern.Deferred.force_outcome hcache (h d (Array.mem_of_getElem? hd))).1

namespace Reliable

theorem start : Reliable [.eof] {} :=
  ⟨.start, History.start.sound, by simp⟩

theorem leads (h : Reliable kinds s) (hleads : Leads kinds s kinds' s') : Reliable kinds' s' := by
  suffices hrest : s'.Sound kinds'.reverse ∧
      ∀ waiting ∈ s'.deferred, waiting.Remembered s'.cache from
    ⟨h.orderly.leads hleads, hrest.1, hrest.2⟩
  induction hleads with
  | refl => exact ⟨h.sound, h.remembers⟩
  | declare d changes _ ih =>
    rw [List.reverse_append]
    exact ⟨ih.1.declare d changes, declare_remembers ih.2 d changes⟩
  | invent className rename matching prepared _ ih =>
    rw [List.reverse_append]
    exact ⟨ih.1.invent className rename matching prepared, ih.2⟩
  | derive className hparent _ ih =>
    rw [List.reverse_append]
    exact ⟨ih.1.derive (List.mem_reverse.mpr hparent) className, ih.2⟩
  | handleOf hk _ ih =>
    refine ⟨ih.1.handleOf (List.mem_reverse.mpr hk), ?_⟩
    unfold Session.handleOf
    split <;> exact ih.2
  | freshHandle _ _ ih =>
    exact ⟨⟨ih.1.id_lt, ih.1.ids_nodup, ih.1.canonical_made, ih.1.cache_sound,
      ih.1.deferred_sound, ih.1.waits⟩, ih.2⟩
  | force index _ ih => exact ⟨ih.1.force index, force_remembers ih.1.cache_sound ih.2 index⟩
  | compile text _ ih => exact ⟨ih.1.compile text, fun waiting hw ↦ (ih.2 waiting hw).compile text⟩

theorem performAll (acts : List Act) :
    (Log.performAll {} acts).session.Reliable (Log.performAll {} acts).kinds :=
  start.leads (Log.performAll_leads {} acts)

theorem catchUp_eq (h : Reliable kinds s) {index : Nat} {waiting : Pattern.Deferred}
    (hwaiting : s.deferred[index]? = some waiting) :
    (s.catchUp (some index)).1 =
        (Pattern.compileFor waiting.text waiting.capture).map (fun _ ↦ ()) ∧
      ∃ waiting', (s.catchUp (some index)).2.deferred[index]? = some waiting' ∧
        waiting'.text = waiting.text ∧ waiting'.capture = waiting.capture := by
  have hmem := Array.mem_of_getElem? hwaiting
  have hremembered := h.remembers waiting hmem
  obtain ⟨-, herror, hok⟩ := Pattern.Deferred.force_outcome h.sound.cache_sound hremembered
  obtain ⟨htext, hcapture, -⟩ :=
    Pattern.Deferred.force_spec hremembered.sound h.sound.cache_sound
  obtain ⟨hlt, -⟩ := Array.getElem?_eq_some_iff.mp hwaiting
  simp only [Session.catchUp, Session.force, hwaiting]
  refine ⟨?_, _, Array.getElem?_setIfInBounds_self_of_lt hlt, htext, hcapture⟩
  cases hfor : Pattern.compileFor waiting.text waiting.capture with
  | error e =>
    rw [herror e hfor]
    rfl
  | ok compiled =>
    obtain ⟨entry, hentry, -⟩ := hok compiled hfor
    rw [hentry]
    rfl

/-- Whatever an author has put in the place of the preparation, each time that it asks for the
preparation it is given the same answer. -/
theorem follow_eq (h : Reliable kinds s) {index : Nat} {waiting : Pattern.Deferred}
    (hwaiting : s.deferred[index]? = some waiting) (method : Method Unit (Except MatchError Unit)) :
    (s.follow (some index) method).1 =
      method.run fun _ ↦ (Pattern.compileFor waiting.text waiting.capture).map fun _ ↦ () := by
  induction method generalizing s waiting with
  | settle outcome => rfl
  | ask _ next ih =>
    obtain ⟨houtcome, waiting', hwaiting', htext, hcapture⟩ := h.catchUp_eq hwaiting
    rw [Session.follow, Method.run, ih _ (h.leads (Leads.refl.catchUp _)) hwaiting', htext,
      hcapture, houtcome]

theorem prepare_of_waiting (h : Reliable kinds s) (hplain : k.changes.prepare = none) {index : Nat}
    {waiting : Pattern.Deferred} (hindex : k.deferred = some index)
    (hwaiting : s.deferred[index]? = some waiting) :
    (s.prepare k).1 = (Pattern.compileFor waiting.text waiting.capture).map fun _ ↦ () := by
  simp only [Session.prepare, hplain, hindex]
  exact (h.catchUp_eq hwaiting).1

end Reliable

theorem follow_none (s : Session) (method : Method Unit (Except MatchError Unit)) :
    (s.follow none method).1 = method.run fun _ ↦ .ok () := by
  induction method generalizing s with
  | settle outcome => rfl
  | ask _ next ih => exact ih _ _

theorem Leads.declared_of_deferred (h : Leads [.eof] {} kinds s) :
    ∀ k ∈ kinds, k.deferred ≠ none → ∃ d, k.declaration = some d ∧ d.strategy = .regex := by
  refine h.forall_kinds ?_ ?_ ?_ ?_
  · intro k hk hdeferred
    obtain rfl := List.mem_singleton.mp hk
    exact absurd rfl hdeferred
  · intro s d changes hdeferred
    refine ⟨d, Kind.declare_declaration s d changes, ?_⟩
    cases hd : d.strategy with
    | regex => rfl
    | exact =>
      simp only [Session.declare, hd] at hdeferred
      exact absurd rfl hdeferred
  · intro s className rename matching prepared hdeferred
    exact absurd rfl hdeferred
  · intro s parent className hparent
    simp only [Session.derive, Kind.derive]
    split <;> exact hparent

/-- A declared kind, also if it is derived from another one, matches where its literal or its
pattern does, apart from the matches that its author turns down. -/
theorem Leads.tryMatch_of_declaration (h : Leads [.eof] {} kinds s) :
    ∀ k ∈ kinds, ∀ d, k.declaration = some d → k.changes.Narrows →
      ∃ keep : Source → Location → Range → Bool, ∀ src at_, k.tryMatch src at_ =
        ((Kind.ofDeclaration k.id k.deferred d).tryMatch src at_).map
          (·.filter (keep src at_)) := by
  refine h.forall_kinds ?_ ?_ ?_ ?_
  · intro k hk d hd
    obtain rfl := List.mem_singleton.mp hk
    cases hd
  · intro s d changes d' hd' hchanges
    obtain rfl : d = d' := by
      rw [Kind.declare_declaration] at hd'
      exact Option.some.inj hd'
    cases hd : d.strategy with
    | exact =>
      simp only [Session.declare, hd] at hchanges ⊢
      exact Kind.tryMatch_override hchanges _
    | regex =>
      simp only [Session.declare, hd] at hchanges ⊢
      exact Kind.tryMatch_override hchanges _
  · intro s className rename matching prepared d hd
    cases hd
  · intro s parent className hparent
    simp only [Session.derive, Kind.derive]
    split <;> exact hparent

theorem Leads.answers (h : Leads [.eof] {} kinds s) (hk : k ∈ kinds) {d : Declaration}
    (hd : k.declaration = some d) (hchanges : k.changes.Narrows) (husable : d.Usable)
    (src : Source) : k.Answers src := by
  obtain ⟨keep, hmatch⟩ := h.tryMatch_of_declaration k hk d hd hchanges
  intro at_
  obtain ⟨found, hfound⟩ := Kind.ofDeclaration_answers husable k.id k.deferred src at_
  rw [hmatch, hfound]
  exact ⟨_, rfl⟩

/-- A kind whose pattern cannot be used says so, unless it is asked past the end of the source. -/
theorem Leads.tryMatch_of_error (h : Leads [.eof] {} kinds s) (hk : k ∈ kinds) {d : Declaration}
    (hd : k.declaration = some d) (hchanges : k.changes.Narrows) (hregex : d.strategy = .regex)
    {e : MatchError} (he : Pattern.compileFor d.pattern d.capture.toNat = .error e) (src : Source)
    (at_ : Location) :
    k.tryMatch src at_ = if at_ ≤ src.size then .error e else .ok none := by
  obtain ⟨keep, hmatch⟩ := h.tryMatch_of_declaration k hk d hd hchanges
  rw [hmatch]
  simp only [Kind.ofDeclaration, hregex, he, Pattern.matchWith]
  by_cases hat : at_ ≤ src.size
  · rw [if_neg (Nat.not_lt.mpr hat), if_pos hat]
    rfl
  · rw [if_pos (Nat.not_le.mp hat), if_neg hat]
    rfl

/-- Whether a kind can be prepared does not change. -/
theorem Leads.prepare_again (h : Leads [.eof] {} kinds s) (h' : Leads kinds s kinds' s')
    (hk : k ∈ kinds) : (s'.prepare k).1 = (s.prepare k).1 := by
  cases hdeferred : k.deferred with
  | none =>
    cases hmethod : k.changes.prepare with
    | none => simp only [Session.prepare, hmethod, hdeferred, Session.catchUp]
    | some method => simp only [Session.prepare, hmethod, hdeferred, follow_none]
  | some index =>
    obtain ⟨d, hd, hregex⟩ := h.declared_of_deferred k hk (by simp [hdeferred])
    have hs := Reliable.start.leads h
    have hs' := hs.leads h'
    have hk' := h'.isPrefix.subset hk
    obtain ⟨i, waiting, hi, hwaiting, htext, hcapture⟩ :=
      hs.sound.waits k (List.mem_reverse.mpr hk) d hd hregex
    obtain ⟨j, waiting', hj, hwaiting', htext', hcapture'⟩ :=
      hs'.sound.waits k (List.mem_reverse.mpr hk') d hd hregex
    obtain rfl : i = j := Option.some.inj (hi.symm.trans hj)
    -- both sessions hold the same text, and compiling it is all that is asked of them
    cases hmethod : k.changes.prepare with
    | none =>
      rw [hs.prepare_of_waiting hmethod hi hwaiting, hs'.prepare_of_waiting hmethod hi hwaiting',
        htext, htext', hcapture, hcapture']
    | some method =>
      simp only [Session.prepare, hmethod, hi]
      rw [hs.follow_eq hwaiting, hs'.follow_eq hwaiting', htext, htext', hcapture, hcapture']

end Session

end Tokenry
