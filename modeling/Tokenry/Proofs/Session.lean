import Mathlib.Data.List.Basic
import Mathlib.Data.List.Nodup
import Tokenry.Proofs.Kind

namespace Tokenry

variable [Pattern.CharacterNames]

namespace Pattern

def Cache.Sound (cache : Cache) : Prop :=
  ∀ entry ∈ cache.entries, Pattern.compile entry.1 = .ok entry.2

def Deferred.Sound (d : Deferred) : Prop :=
  d.isCompiled = true → ∃ compiled, compileFor d.text d.capture = .ok compiled

theorem Cache.Sound.compile {cache : Cache} (h : cache.Sound) (text : String) :
    (cache.compile text).2.Sound ∧ ∀ entry, (cache.compile text).1 = .ok entry →
      ∃ compiled, (cache.compile text).2.get? entry = some compiled ∧
        Pattern.compile text = .ok compiled := by
  unfold Cache.compile
  split
  · next entry hfind =>
    refine ⟨h, ?_⟩
    intro entry' hentry
    obtain rfl := Except.ok.inj hentry
    obtain ⟨hlt, htext, -⟩ := Array.findIdx?_eq_some_iff_getElem.mp hfind
    refine ⟨cache.entries[entry].2, by simp [Cache.get?, hlt], ?_⟩
    rw [← h _ (Array.getElem_mem hlt), beq_iff_eq.mp htext]
  · split
    · next fault _ => exact ⟨h, fun entry hentry ↦ by cases hentry⟩
    · next compiled hcompile =>
      refine ⟨?_, ?_⟩
      · intro entry hentry
        rcases Array.mem_push.mp hentry with hentry | rfl
        · exact h entry hentry
        · exact hcompile
      · intro entry hentry
        obtain rfl := Except.ok.inj hentry
        exact ⟨compiled, by simp [Cache.get?], hcompile⟩

/-- Forcing a deferred pattern keeps its text and its group; when it succeeds, the pattern can be
used. -/
theorem Deferred.force_spec {d : Deferred} {cache : Cache} (hd : d.Sound) (hcache : cache.Sound) :
    (d.force cache).2.1.text = d.text ∧ (d.force cache).2.1.capture = d.capture ∧
    (d.force cache).2.1.Sound ∧ (d.force cache).2.2.Sound ∧
    ∀ entry, (d.force cache).1 = .ok entry →
      ∃ compiled, compileFor d.text d.capture = .ok compiled := by
  unfold Deferred.force
  split
  · next entry hentry =>
    exact ⟨rfl, rfl, hd, hcache, fun _ _ ↦ hd (by simp [isCompiled, hentry])⟩
  · have hcompile := hcache.compile d.text
    split
    · next e cache' heq =>
      rw [heq] at hcompile
      exact ⟨rfl, rfl, hd, hcompile.1, fun _ h ↦ by cases h⟩
    · next entry cache' heq =>
      rw [heq] at hcompile
      obtain ⟨hcache', hfound⟩ := hcompile
      obtain ⟨compiled, hget, hcompiled⟩ := hfound entry rfl
      simp only [hget, Option.map_some, Option.getD_some]
      split
      · next hgroup =>
        have husable : ∃ compiled, compileFor d.text d.capture = .ok compiled :=
          ⟨compiled, compileFor_eq_ok_iff.mpr ⟨hcompiled, hgroup⟩⟩
        exact ⟨rfl, rfl, fun _ ↦ husable, hcache', fun _ _ ↦ husable⟩
      · exact ⟨rfl, rfl, hd, hcache', fun _ h ↦ by cases h⟩

end Pattern

namespace Session

/-- The sessions that definitions, lookups and first uses lead to, each with the kinds that it has
made, the latest first. -/
inductive History : List Kind → Session → Prop
  | start : History [.eof] {}
  | declare {made : List Kind} {s : Session} (d : Declaration) (changes : Overrides) :
      History made s → History ((s.declare d changes).1 :: made) (s.declare d changes).2
  | invent {made : List Kind} {s : Session} (className : String) (rename : Option String)
      (matching : Matching) (prepared : Except MatchError Unit) : History made s →
      History ((s.invent className rename matching prepared).1 :: made)
        (s.invent className rename matching prepared).2
  | derive {made : List Kind} {s : Session} {parent : Kind} (className : String) :
      parent ∈ made → History made s →
      History ((s.derive parent className).1 :: made) (s.derive parent className).2
  | handleOf {made : List Kind} {s : Session} {k : Kind} : k ∈ made → History made s →
      History made (s.handleOf k).2
  | freshHandle {made : List Kind} {s : Session} {k : Kind} : k ∈ made → History made s →
      History made (s.freshHandle k).2
  | force {made : List Kind} {s : Session} (index : Nat) : History made s →
      History made (s.force index).2

/-- The pattern that a declared kind relies on is among those that wait in a session. -/
def Holds (s : Session) (k : Kind) : Prop :=
  ∀ d, k.declaration = some d → d.strategy = .regex →
    ∃ index waiting, k.deferred = some index ∧ s.deferred[index]? = some waiting ∧
      waiting.text = d.pattern ∧ waiting.capture = d.capture.toNat

structure Sound (made : List Kind) (s : Session) : Prop where
  id_lt : ∀ k ∈ made, k.id < s.nextKind
  ids_nodup : (made.map (·.id)).Nodup
  canonical_made : ∀ h ∈ s.canonical, h.kind ∈ made
  cache_sound : s.cache.Sound
  deferred_sound : ∀ waiting ∈ s.deferred, waiting.Sound
  waits : ∀ k ∈ made, s.Holds k

variable {made : List Kind} {s s' : Session} {k l : Kind}

theorem Sound.cons (h : Sound made s) (hid : k.id = s.nextKind)
    (hnext : s'.nextKind = s.nextKind + 1) (hcanonical : s'.canonical = s.canonical)
    (hcache : s'.cache = s.cache) (hdeferred : ∀ waiting ∈ s'.deferred, waiting.Sound)
    (hkept : ∀ (index : Nat) waiting, s.deferred[index]? = some waiting →
      s'.deferred[index]? = some waiting)
    (hk : s'.Holds k) : Sound (k :: made) s' := by
  refine ⟨?_, ?_, ?_, hcache ▸ h.cache_sound, hdeferred, ?_⟩
  · intro l hl
    rcases List.mem_cons.mp hl with rfl | hl
    · omega
    · have hlt := h.id_lt l hl
      omega
  · refine List.nodup_cons.mpr ⟨?_, h.ids_nodup⟩
    intro hmem
    obtain ⟨l, hl, heq⟩ := List.mem_map.mp hmem
    exact absurd (heq.trans hid) (Nat.ne_of_lt (h.id_lt l hl))
  · intro handle hmem
    rw [hcanonical] at hmem
    exact .tail _ (h.canonical_made handle hmem)
  · intro l hl
    rcases List.mem_cons.mp hl with rfl | hl
    · exact hk
    · intro d hd hregex
      obtain ⟨index, waiting, hindex, hwaiting, htext⟩ := h.waits l hl d hd hregex
      exact ⟨index, waiting, hindex, hkept index waiting hwaiting, htext⟩

theorem Sound.declare (h : Sound made s) (d : Declaration) (changes : Overrides) :
    Sound ((s.declare d changes).1 :: made) (s.declare d changes).2 := by
  cases hd : d.strategy with
  | exact =>
    simp only [Session.declare, hd]
    refine h.cons rfl rfl rfl rfl h.deferred_sound (fun _ _ hw ↦ hw) ?_
    intro d' hd' hregex
    obtain rfl : d = d' := Option.some.inj hd'
    cases hd.symm.trans hregex
  | regex =>
    simp only [Session.declare, hd]
    refine h.cons rfl rfl rfl rfl ?_ ?_ ?_
    · intro waiting hmem
      rcases Array.mem_push.mp hmem with hmem | rfl
      · exact h.deferred_sound waiting hmem
      · intro hcompiled
        cases hcompiled
    · intro index waiting hwaiting
      obtain ⟨hlt, -⟩ := Array.getElem?_eq_some_iff.mp hwaiting
      rw [Array.getElem?_push_lt hlt, ← hwaiting, Array.getElem?_eq_getElem hlt]
    · intro d' hd' _
      obtain rfl : d = d' := Option.some.inj hd'
      exact ⟨s.deferred.size, _, rfl, Array.getElem?_push_size, rfl, rfl⟩

theorem Sound.invent (h : Sound made s) (className : String) (rename : Option String)
    (matching : Matching) (prepared : Except MatchError Unit) :
    Sound ((s.invent className rename matching prepared).1 :: made)
      (s.invent className rename matching prepared).2 := by
  refine h.cons rfl rfl rfl rfl h.deferred_sound (fun _ _ hw ↦ hw) ?_
  intro d hd _
  cases hd

theorem Sound.derive (h : Sound made s) {parent : Kind} (hparent : parent ∈ made)
    (className : String) :
    Sound ((s.derive parent className).1 :: made) (s.derive parent className).2 := by
  have hderived : (parent.derive s.nextKind className).id = s.nextKind ∧
      (parent.derive s.nextKind className).declaration = parent.declaration ∧
      (parent.derive s.nextKind className).deferred = parent.deferred := by
    unfold Kind.derive
    split <;> exact ⟨rfl, rfl, rfl⟩
  obtain ⟨hid, hdeclaration, hdeferred⟩ := hderived
  refine h.cons hid rfl rfl rfl h.deferred_sound (fun _ _ hw ↦ hw) ?_
  intro d hd hregex
  obtain ⟨index, waiting, hindex, hwaiting⟩ :=
    h.waits parent hparent d (hdeclaration ▸ hd) hregex
  exact ⟨index, waiting, hdeferred.trans hindex, hwaiting⟩

theorem Sound.handleOf (h : Sound made s) (hk : k ∈ made) : Sound made (s.handleOf k).2 := by
  unfold Session.handleOf
  split
  · exact h
  · refine ⟨h.id_lt, h.ids_nodup, ?_, h.cache_sound, h.deferred_sound, h.waits⟩
    intro handle hmem
    rcases List.mem_cons.mp hmem with rfl | hmem
    · exact hk
    · exact h.canonical_made handle hmem

theorem Sound.force (h : Sound made s) (index : Nat) : Sound made (s.force index).2 := by
  unfold Session.force
  split
  · exact h
  · next waiting hwaiting =>
    have hmem := Array.mem_of_getElem? hwaiting
    obtain ⟨htext, hcapture, hsound, hcache, -⟩ :=
      Pattern.Deferred.force_spec (h.deferred_sound waiting hmem) h.cache_sound
    refine ⟨h.id_lt, h.ids_nodup, h.canonical_made, hcache, ?_, ?_⟩
    · intro other hother
      rcases Array.mem_or_eq_of_mem_setIfInBounds hother with hother | rfl
      · exact h.deferred_sound other hother
      · exact hsound
    · intro k hk d hd hregex
      obtain ⟨place, other, hplace, hother, htext', hcapture'⟩ := h.waits k hk d hd hregex
      -- the pattern that was forced keeps its text and its group, and the others stay
      by_cases heq : index = place
      · subst heq
        obtain rfl := Option.some.inj (hwaiting.symm.trans hother)
        obtain ⟨hlt, -⟩ := Array.getElem?_eq_some_iff.mp hwaiting
        exact ⟨index, _, hplace, Array.getElem?_setIfInBounds_self_of_lt hlt,
          htext.trans htext', hcapture.trans hcapture'⟩
      · exact ⟨place, other, hplace, by rwa [Array.getElem?_setIfInBounds_ne heq], htext',
          hcapture'⟩

theorem History.sound (h : History made s) : Sound made s := by
  induction h with
  | start =>
    refine ⟨by simp [Kind.eof], by simp, by simp, ?_, by simp, ?_⟩
    · intro entry hentry
      simp at hentry
    · intro k hk d hd
      obtain rfl := List.mem_singleton.mp hk
      cases hd
  | declare d changes _ ih => exact ih.declare d changes
  | invent className rename matching prepared _ ih =>
    exact ih.invent className rename matching prepared
  | derive className hparent _ ih => exact ih.derive hparent className
  | handleOf hk _ ih => exact ih.handleOf hk
  | freshHandle _ _ ih =>
    exact ⟨ih.id_lt, ih.ids_nodup, ih.canonical_made, ih.cache_sound, ih.deferred_sound, ih.waits⟩
  | force index _ ih => exact ih.force index

theorem Sound.catchUp (h : Sound made s) (deferred : Option Nat) :
    Sound made (s.catchUp deferred).2 := by
  cases deferred with
  | none => exact h
  | some index => exact h.force index

theorem Sound.follow (h : Sound made s) (deferred : Option Nat)
    (method : Method Unit (Except MatchError Unit)) : Sound made (s.follow deferred method).2 := by
  induction method generalizing s with
  | settle outcome => exact h
  | ask _ next ih => exact ih _ (h.catchUp deferred)

theorem Sound.prepare (h : Sound made s) (k : Kind) : Sound made (s.prepare k).2 := by
  unfold Session.prepare
  split
  · exact h.catchUp _
  · exact h.follow _ _

theorem Sound.eq_of_id (h : Sound made s) (hk : k ∈ made) (hl : l ∈ made) (hid : k.id = l.id) :
    k = l :=
  List.inj_on_of_nodup_map h.ids_nodup hk hl hid

theorem Sound.handleOf_kind (h : Sound made s) (hk : k ∈ made) : (s.handleOf k).1.kind = k := by
  unfold Session.handleOf
  split
  · next handle hfind =>
    have hmem := h.canonical_made handle (List.mem_of_find?_eq_some hfind)
    have hsame := List.find?_some hfind
    have hid : handle.kind.id = k.id := beq_iff_eq.mp hsame
    exact h.eq_of_id hmem hk hid
  · rfl

/-- A declared kind that has been prepared can be used, unless its author has put something else in
the place of the preparation. -/
theorem Sound.usable_of_prepare (h : Sound made s) (hk : k ∈ made)
    (hplain : k.changes.prepare = none) (hprepare : (s.prepare k).1 = .ok ()) {d : Declaration}
    (hd : k.declaration = some d) : d.Usable := by
  intro hregex
  obtain ⟨index, waiting, hindex, hwaiting, htext, hcapture⟩ := h.waits k hk d hd hregex
  obtain ⟨-, -, -, -, husable⟩ := Pattern.Deferred.force_spec
    (h.deferred_sound waiting (Array.mem_of_getElem? hwaiting)) h.cache_sound
  simp only [Session.prepare, hplain, Session.catchUp, hindex, Session.force, hwaiting] at hprepare
  cases hforce : (waiting.force s.cache).1 with
  | error e =>
    rw [hforce] at hprepare
    cases hprepare
  | ok entry =>
    obtain ⟨compiled, hcompiled⟩ := husable entry hforce
    rw [htext, hcapture] at hcompiled
    exact ⟨compiled, Pattern.compileFor_eq_ok_iff.mp hcompiled⟩

end Session

end Tokenry
