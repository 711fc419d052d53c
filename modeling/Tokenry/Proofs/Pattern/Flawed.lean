import Mathlib
import Tokenry.Proofs.Pattern.Store

namespace Tokenry

section Flaws

variable [Pattern.CharacterNames]

namespace Pattern

variable {text : String} {capture : Nat} {e : MatchError}

/-- What is wrong with a pattern of which a group is asked. -/
inductive Flawed (text : String) (capture : Nat) : MatchError → Prop
  | fault {fault : Fault} : compile text = .error fault →
      Flawed text capture (.ofFault text fault)
  | group {compiled : Compiled} : compile text = .ok compiled → compiled.groups < capture →
      Flawed text capture (.definition (.missingGroup text capture compiled.groups))

theorem Flawed.compileFor_eq (h : Flawed text capture e) : compileFor text capture = .error e := by
  cases h with
  | fault hfault => simp only [compileFor, hfault]
  | group hok hgroup => simp only [compileFor, hok, if_neg (Nat.not_le.mpr hgroup)]

theorem Flawed.mistake (h : Flawed text capture e) :
    (∃ mistake : DefinitionError, e = .definition mistake ∧ mistake.pattern? = some text) ∨
      compile text = .error .repetitionTooLarge ∨ compile text = .error .alphabetsClash := by
  cases h with
  | @fault fault hfault =>
    cases fault with
    | malformed reason position => exact .inl ⟨_, rfl, rfl⟩
    | repetitionTooLarge => exact .inr (.inl hfault)
    | alphabetsClash => exact .inr (.inr hfault)
  | group => exact .inl ⟨_, rfl, rfl⟩

theorem Deferred.Remembered.not_compiled {d : Deferred} {cache : Cache} (h : d.Remembered cache)
    (he : compileFor d.text d.capture = .error e) : d.isCompiled = false := by
  cases hcompiled : d.isCompiled with
  | false => rfl
  | true =>
    obtain ⟨compiled, hok⟩ := h.sound hcompiled
    cases hok.symm.trans he

theorem Store.Sound.lex_of_error {store : Store} (h : store.Sound) {i : Nat} {d : Deferred}
    (hd : store.patterns[i]? = some d) (he : compileFor d.text d.capture = .error e)
    (src : Source) (at_ : Location) :
    (store.perform (.lex i src at_)).1 =
        (if at_ ≤ src.size then .error e else .ok (.found none)) ∧
      (store.perform (.lex i src at_)).2.patterns = store.patterns := by
  by_cases hat : at_ ≤ src.size
  · have hgets : (Store.Call.lex i src at_).gets = some i := if_pos hat
    have herror := (h.perform_error_iff hgets hd).mpr he
    rw [if_pos hat]
    exact ⟨herror, (h.leftBy herror).1⟩
  · -- past the end the pattern is not forced
    have hpast : src.size < at_ := Nat.not_le.mp hat
    simp only [Store.perform, hd, Deferred.matchAt, if_pos hpast, if_neg hat, Except.map]
    exact ⟨trivial, Store.set_eq_self hd⟩

end Pattern

namespace Session

variable {kinds : List Kind} {s : Session} {k : Kind} {d : Declaration} {e : MatchError}

theorem Reliable.isCompiled_of_error (h : Reliable kinds s) (hk : k ∈ kinds)
    (hd : k.declaration = some d) (hregex : d.strategy = .regex)
    (he : Pattern.compileFor d.pattern d.capture.toNat = .error e) : s.isCompiled k = false := by
  obtain ⟨index, waiting, hindex, hwaiting, htext, hcapture⟩ :=
    h.sound.waits k (List.mem_reverse.mpr hk) d hd hregex
  rw [← htext, ← hcapture] at he
  have hremembered := h.remembers waiting (Array.mem_of_getElem? hwaiting)
  simpa only [isCompiled, hindex, Option.bind_some, hwaiting, Option.any_some] using
    hremembered.not_compiled he

theorem Reliable.prepare_of_error (h : Reliable kinds s) (hk : k ∈ kinds)
    (hd : k.declaration = some d) (hplain : k.changes.prepare = none)
    (hregex : d.strategy = .regex)
    (he : Pattern.compileFor d.pattern d.capture.toNat = .error e) :
    (s.prepare k).1 = .error e := by
  obtain ⟨index, waiting, hindex, hwaiting, htext, hcapture⟩ :=
    h.sound.waits k (List.mem_reverse.mpr hk) d hd hregex
  rw [h.prepare_of_waiting hplain hindex hwaiting, htext, hcapture, he]
  rfl

end Session

end Flaws

namespace Pattern

/-- Whatever has been called before, a pattern that cannot be used, on its own or as the pattern of
a kind, is not compiled and does not become so: a match that is tried inside a source tells what is
wrong, and so does preparing the kind, unless its author has put something else in their place. It
is only past the end that nothing is told. -/
theorem flawed_refused [CharacterNames] (text : String) (capture : Nat) (e : MatchError)
    (h : Flawed text capture e) :
    ((∃ mistake : DefinitionError, e = .definition mistake ∧ mistake.pattern? = some text) ∨
      compile text = .error .repetitionTooLarge ∨ compile text = .error .alphabetsClash) ∧
    (∀ calls i d, (Store.run calls).patterns[i]? = some d → d.text = text → d.capture = capture →
      d.isCompiled = false ∧ ∀ src at_,
        ((Store.run calls).perform (.lex i src at_)).1 =
          (if at_ ≤ src.size then .error e else .ok (.found none)) ∧
        ((Store.run calls).perform (.lex i src at_)).2.patterns = (Store.run calls).patterns) ∧
    ∀ acts, ∀ k ∈ (Session.Log.performAll {} acts).kinds, ∀ d, k.declaration = some d →
      d.strategy = .regex → d.pattern = text → d.capture = capture →
      (Session.Log.performAll {} acts).session.isCompiled k = false ∧
      (∀ src at_,
        ((Session.Log.performAll {} acts).session.touch (k.consults src at_)).isCompiled k =
          false) ∧
      (k.changes.Narrows →
        ((Session.Log.performAll {} acts).session.prepare k).1 = .error e ∧
        ∀ src at_, k.tryMatch src at_ = if at_ ≤ src.size then .error e else .ok none) := by
  have he := h.compileFor_eq
  refine ⟨h.mistake, ?_, ?_⟩
  · rintro calls i d hd rfl rfl
    have hsound := Store.sound_run calls
    have hheld := hsound.held d (List.mem_of_getElem? hd)
    exact ⟨hheld.1.not_compiled he, hsound.lex_of_error hd he⟩
  · rintro acts k hk d hd hregex rfl hcapture
    rw [← Int.toNat_natCast capture, ← hcapture] at he
    have hleads := Session.Log.performAll_leads {} acts
    have hs := Session.Reliable.performAll acts
    refine ⟨hs.isCompiled_of_error hk hd hregex he, ?_, ?_⟩
    · intro src at_
      have htouched := Session.Reliable.start.leads (hleads.touch (k.consults src at_))
      exact htouched.isCompiled_of_error hk hd hregex he
    · intro hchanges
      exact ⟨hs.prepare_of_error hk hd hchanges.prepare_eq hregex he,
        hleads.tryMatch_of_error hk hd hchanges hregex he⟩

theorem flawed_open : Flawed "(abc" 0
    (.definition (.malformedPattern "(abc" .unterminatedGroup (some 0))) := by
  have hopen : compile "(abc" = .error (.malformed .unterminatedGroup (some 0)) := by cbv
  exact .fault hopen

def openKind : Kind :=
  (Session.declare {} { name := "Open", strategy := .regex, pattern := "(abc" } {}).1

def openActs : List Session.Act :=
  [.define "Open" { regex := some "(abc" } {}, .compile "(abc", .use [0]]

theorem flawed_refused_open :
    ((Store.run [.make "(abc" 0, .compile "(abc", .get 0]).perform
        (.lex 0 #['a', 'b', 'c'] 3)).1 =
      .error (.definition (.malformedPattern "(abc" .unterminatedGroup (some 0))) ∧
    openKind ∈ (Session.Log.performAll {} openActs).kinds ∧
    openKind.tryMatch #['a', 'b', 'c'] 0 =
      .error (.definition (.malformedPattern "(abc" .unterminatedGroup (some 0))) := by
  obtain ⟨-, hlex, hmatch⟩ := flawed_refused "(abc" 0 _ flawed_open
  have hpattern : (Store.run [.make "(abc" 0, .compile "(abc", .get 0]).patterns[0]? =
      some ⟨"(abc", 0, none⟩ := by cbv
  have hkinds : (Session.Log.performAll {} openActs).kinds = [.eof, openKind] := by rfl
  have hmem : openKind ∈ (Session.Log.performAll {} openActs).kinds := by simp [hkinds]
  obtain ⟨-, hrefused⟩ := hlex _ 0 _ hpattern rfl rfl
  obtain ⟨-, -, hasked⟩ := hmatch openActs openKind hmem _ rfl rfl rfl rfl
  obtain ⟨-, hasked⟩ := hasked Overrides.narrows_empty
  exact ⟨(hrefused _ 3).1, hmem, hasked _ 0⟩

/-- Past the end a pattern that cannot be used passes for one that does not match. -/
theorem flawed_silent :
    Flawed "(abc" 0 (.definition (.malformedPattern "(abc" .unterminatedGroup (some 0))) ∧
    ((Store.run [.make "(abc" 0]).perform (.lex 0 #['a', 'b', 'c'] 4)).1 = .ok (.found none) ∧
    openKind.tryMatch #['a', 'b', 'c'] 4 = .ok none := by
  refine ⟨flawed_open, ?_, ?_⟩
  · cbv
  · cbv

end Pattern

end Tokenry
