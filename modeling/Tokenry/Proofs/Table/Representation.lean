import Tokenry.Proofs.Grammar.Outcome
import Tokenry.Proofs.Table

namespace Tokenry

namespace Session

theorem SamePatterns.isCompiled_eq {s s' : Session} (h : s.SamePatterns s') (k : Kind) :
    s'.isCompiled k = s.isCompiled k := by
  rw [isCompiled, isCompiled, h.1]

end Session

namespace Table

variable {kinds : List Kind} {s : Session} {k : Kind} {t : Table}

theorem exists_mem_eraseDups (ks : List Kind) : ∀ k ∈ ks, ∃ l ∈ ks.eraseDups, l.id = k.id := by
  cases ks with
  | nil => simp
  | cons first rest =>
    intro k hk
    rw [List.eraseDups_cons]
    by_cases hid : k.id = first.id
    · exact ⟨first, .head _, hid.symm⟩
    · have hne : (k == first) = false := Bool.eq_false_iff.mpr (hid ∘ Kind.beq_iff_id_eq.mp)
      have hrest : k ∈ rest.filter fun l ↦ !l == first := by
        rcases List.mem_cons.mp hk with rfl | hk
        · exact absurd rfl hid
        · exact List.mem_filter.mpr ⟨hk, by simp [hne]⟩
      obtain ⟨l, hl, heq⟩ := exists_mem_eraseDups _ k hrest
      exact ⟨l, .tail _ hl, heq⟩
termination_by ks.length
decreasing_by
  have hlength := List.length_filter_le (fun l ↦ !l == first) rest
  simp only [List.length_cons]
  omega

theorem mem_eraseDups_iff (hs : s.Orderly kinds) {ks : List Kind} (hks : ∀ l ∈ ks, l ∈ kinds)
    (hk : k ∈ kinds) : k ∈ ks.eraseDups ↔ k ∈ ks := by
  constructor
  · exact fun h ↦ (eraseDups_sublist ks).subset h
  · intro h
    obtain ⟨l, hl, hid⟩ := exists_mem_eraseDups ks k h
    obtain rfl := hs.eq_of_id (hks l ((eraseDups_sublist ks).subset hl)) hk hid
    exact hl

theorem contains_iff_mem (hs : s.Orderly kinds) (ht : ∀ l ∈ t.kinds, l ∈ kinds) (hk : k ∈ kinds) :
    t.contains k = true ↔ k ∈ t.kinds := by
  rw [contains, List.any_eq_true]
  constructor
  · rintro ⟨l, hl, hid⟩
    obtain rfl := hs.eq_of_id (ht l hl) hk (beq_iff_eq.mp hid)
    exact hl
  · exact fun h ↦ ⟨k, h, by simp⟩

theorem priority?_eq_some_iff (hs : s.Orderly kinds) (ht : ∀ l ∈ t.kinds, l ∈ kinds)
    (hk : k ∈ kinds) {i : Nat} : t.priority? k = some i ↔ t.kinds[i]? = some k := by
  constructor
  · intro h
    obtain ⟨hi, hid, -⟩ := List.findIdx?_eq_some_iff_getElem.mp h
    have hmem := List.getElem_mem hi
    rw [List.getElem?_eq_getElem hi, hs.eq_of_id (ht _ hmem) hk (beq_iff_eq.mp hid)]
  · exact priority?_of_getElem?

end Table

section Building

variable [Pattern.CharacterNames]

namespace Session

variable {kinds kinds' : List Kind} {s s' : Session} {k : Kind} {ks : List Kind} {index : Nat}

theorem Leads.prepareAll (h : Leads kinds s kinds' s') (ks : List Kind) :
    Leads kinds s kinds' (s'.prepareAll ks) := by
  induction ks generalizing s' with
  | nil => exact h
  | cons k rest ih => exact ih (h.prepare k)

theorem Leads.isCompiled_prepareAll (h : Leads [.eof] {} kinds s) (hmade : ∀ l ∈ ks, l ∈ kinds)
    (hok : ∀ l ∈ ks, (s.prepare l).1 = .ok ()) (hk : k ∈ ks) (hdeferred : k.deferred ≠ none)
    (hplain : k.changes.prepare = none) : (s.prepareAll ks).isCompiled k = true := by
  induction ks generalizing s with
  | nil => cases hk
  | cons first rest ih =>
    obtain ⟨hfirst, hrest⟩ := List.forall_mem_cons.mp hmade
    obtain ⟨hfirstOk, hrestOk⟩ := List.forall_mem_cons.mp hok
    have hnext : Leads kinds s kinds (s.prepare first).2 := Leads.refl.prepare first
    rcases List.mem_cons.mp hk with rfl | hk
    · obtain ⟨d, hd, hregex⟩ := h.declared_of_deferred k hfirst hdeferred
      have hcompiled := (Reliable.start.leads h).sound.isCompiled_prepare
        (List.mem_reverse.mpr hfirst) hd hregex hplain hfirstOk
      have hlater : Leads kinds (s.prepare k).2 kinds _ := Leads.refl.prepareAll rest
      exact hlater.isCompiled hcompiled
    · refine ih (h.trans hnext) hrest ?_ hk
      intro l hl
      rw [h.prepare_again hnext (hrest l hl), hrestOk l hl]

theorem prepareAll_concat (s : Session) (ks : List Kind) (k : Kind) :
    s.prepareAll (ks ++ [k]) = ((s.prepareAll ks).prepare k).2 := by
  simp only [prepareAll, List.foldl_append, List.foldl_cons, List.foldl_nil]

theorem catchUp_deferred {deferred : Option Nat} (h : deferred ≠ some index) :
    (s.catchUp deferred).2.deferred[index]? = s.deferred[index]? := by
  cases deferred with
  | none => rfl
  | some place =>
    have hne : place ≠ index := fun heq ↦ h (heq ▸ rfl)
    simp only [Session.catchUp, Session.force]
    cases s.deferred[place]? with
    | none => rfl
    | some waiting => exact Array.getElem?_setIfInBounds_ne hne

theorem follow_deferred {deferred : Option Nat} (h : deferred ≠ some index)
    (method : Method Unit (Except MatchError Unit)) :
    (s.follow deferred method).2.deferred[index]? = s.deferred[index]? := by
  induction method generalizing s with
  | settle outcome => rfl
  | ask _ next ih => exact (ih _).trans (catchUp_deferred h)

theorem prepare_deferred (h : k.deferred ≠ some index) :
    (s.prepare k).2.deferred[index]? = s.deferred[index]? := by
  unfold Session.prepare
  split
  · exact catchUp_deferred h
  · exact follow_deferred h _

theorem prepareAll_deferred (h : ∀ l ∈ ks, l.deferred ≠ some index) :
    (s.prepareAll ks).deferred[index]? = s.deferred[index]? := by
  induction ks generalizing s with
  | nil => rfl
  | cons k rest ih =>
    obtain ⟨hk, hrest⟩ := List.forall_mem_cons.mp h
    exact (ih hrest).trans (prepare_deferred hk)

end Session

namespace Table

open Session (Leads)

variable {kinds : List Kind} {s : Session} {k : Kind} {t : Table} {listed : List Candidate}

theorem build_ends (hs : Leads [.eof] {} kinds s)
    (hlisted : ∀ c ∈ listed, ∃ k ∈ kinds, c.kind? = some k) :
    ListingEnds s .empty (meant listed).eraseDups (build s listed) := by
  have hends := extend_ends hs hlisted .empty []
  rwa [filter_contains_empty] at hends

theorem build_ok_iff (hs : Leads [.eof] {} kinds s)
    (hlisted : ∀ c ∈ listed, ∃ k ∈ kinds, c.kind? = some k) :
    (∃ t again, (build s listed).1 = .ok (t, again)) ↔
      ∀ k ∈ meant listed, (s.prepare k).1 = .ok () := by
  have hends := build_ends hs hlisted
  generalize build s listed = outcome at hends ⊢
  cases hends with
  | complete hok _ =>
    refine ⟨fun _ k hk ↦ hok k ?_, fun _ ↦ ⟨_, _, rfl⟩⟩
    exact (mem_eraseDups_iff (Session.Orderly.start.leads hs) (fun l hl ↦ mem_meant hl hlisted)
      (mem_meant hk hlisted)).mpr hk
  | @stopped before after k e s' hsplit _ he _ _ =>
    refine ⟨?_, fun hok ↦ ?_⟩
    · rintro ⟨_, _, ⟨⟩⟩
    have hk : k ∈ meant listed := (eraseDups_sublist _).subset (by rw [hsplit]; simp)
    cases he.symm.trans (hok k hk)

theorem kinds_of_build (hs : Leads [.eof] {} kinds s)
    (hlisted : ∀ c ∈ listed, ∃ k ∈ kinds, c.kind? = some k) {again : List Kind}
    (h : (build s listed).1 = .ok (t, again)) : t.kinds = (meant listed).eraseDups := by
  have hends := build_ends hs hlisted
  generalize build s listed = outcome at hends h
  cases hends with
  | complete _ hkinds =>
    cases h
    exact hkinds
  | stopped => cases h

/-- What is asked of a table in a later session, about a kind that may be younger than the table. -/
theorem answers_of_kind? (hs : Leads [.eof] {} kinds s) {kinds' : List Kind} {s' : Session}
    (hs' : Leads kinds s kinds' s') (ht : ∀ l ∈ t.kinds, l ∈ kinds) (hk : k ∈ kinds')
    {c : Candidate} (hc : c.kind? = some k) :
    ∃ own, (s'.resolve c).1 = .ok own ∧ (t.includes c = true ↔ k ∈ t.kinds) ∧
      ∀ i, t.priority? own.kind = some i ↔ t.kinds[i]? = some k := by
  have horderly := Session.Orderly.start.leads (hs.trans hs')
  have ht' : ∀ l ∈ t.kinds, l ∈ kinds' := fun l hl ↦ hs'.isPrefix.subset (ht l hl)
  obtain ⟨own, s₁, hresolve, rfl, -⟩ := horderly.resolve_of_kind? hc hk
  refine ⟨own, by rw [hresolve], ?_, fun i ↦ priority?_eq_some_iff horderly ht' hk⟩
  rw [← contains_iff_mem horderly ht' hk]
  simp [includes, hc]

/-- A table is built of kinds, in whatever way they are listed, just when all of them can be
prepared. It holds the first mention of each, in order and each once; whenever and however it is
asked about a kind, it holds the kind just when the kind was listed, it has a position for it just
then, and the position is where the kind stands. If the table is not built, the first kind that
cannot be prepared is the reason: the kinds before it have been prepared, and nothing that comes
later was looked at. -/
theorem build_represents (hs : Leads [.eof] {} kinds s) (listed : List Candidate)
    (hlisted : ∀ c ∈ listed, ∃ k ∈ kinds, c.kind? = some k) :
    ((∃ t again, (build s listed).1 = .ok (t, again)) ↔
      ∀ k ∈ meant listed, (s.prepare k).1 = .ok ()) ∧
    (∀ t again, (build s listed).1 = .ok (t, again) →
      t.kinds = (meant listed).eraseDups ∧ (t.kinds.map (·.id)).Nodup ∧
      ∀ kinds' s', Leads kinds s kinds' s' → ∀ k ∈ kinds', ∀ c : Candidate, c.kind? = some k →
        ∃ own, (s'.resolve c).1 = .ok own ∧
          (t.includes c = true ↔ k ∈ meant listed) ∧
          ((∃ i, t.priority? own.kind = some i) ↔ k ∈ meant listed) ∧
          ∀ i, t.priority? own.kind = some i ↔ t.kinds[i]? = some k) ∧
    ∀ e, (build s listed).1 = .error e →
      ∃ before k after cause, (meant listed).eraseDups = before ++ k :: after ∧
        (∀ l ∈ before, (s.prepare l).1 = .ok ()) ∧ (s.prepare k).1 = .error cause ∧
        e = .preparation cause ∧
        (s.prepareAll (before ++ [k])).SamePatterns (build s listed).2 ∧
        (∀ l ∈ before, l.deferred ≠ none → l.changes.prepare = none →
          (build s listed).2.isCompiled l = true) ∧
        (∀ index, (∀ l ∈ before ++ [k], l.deferred ≠ some index) →
          (build s listed).2.deferred[index]? = s.deferred[index]?) ∧
        ∀ own ∈ (build s listed).2.canonical, own ∈ s.canonical ∨ own.kind ∈ before ++ [k] := by
  have horderly := Session.Orderly.start.leads hs
  have hmeant : ∀ k ∈ meant listed, k ∈ kinds := fun k hk ↦ mem_meant hk hlisted
  refine ⟨build_ok_iff hs hlisted, ?_, ?_⟩
  · intro t again h
    have hkinds := kinds_of_build hs hlisted h
    have ht : ∀ l ∈ t.kinds, l ∈ kinds := by
      intro l hl
      rw [hkinds] at hl
      exact hmeant l ((eraseDups_sublist _).subset hl)
    refine ⟨hkinds, t.distinct, ?_⟩
    intro kinds' s' hs' k hk c hc
    have hlater := horderly.leads hs'
    have hmem : k ∈ t.kinds ↔ k ∈ meant listed := by
      rw [hkinds]
      exact mem_eraseDups_iff hlater (fun l hl ↦ hs'.isPrefix.subset (hmeant l hl)) hk
    obtain ⟨own, hresolve, hincludes, hpriority⟩ := answers_of_kind? hs hs' ht hk hc
    refine ⟨own, hresolve, hincludes.trans hmem, ?_, hpriority⟩
    simp only [hpriority, ← hmem, List.mem_iff_getElem?]
  · intro e h
    have hends := build_ends hs hlisted
    have hleads : Leads kinds s kinds (build s listed).2 :=
      Leads.refl.extend fun k hk ↦ hmeant k (List.mem_filterMap.mpr ⟨_, hk, rfl⟩)
    generalize build s listed = outcome at hends hleads h ⊢
    cases hends with
    | complete => cases h
    | @stopped before after k cause s' hsplit hok he hpatterns hown =>
      cases h
      have hmade : ∀ l ∈ before ++ k :: after, l ∈ kinds :=
        fun l hl ↦ hmeant l ((eraseDups_sublist _).subset (hsplit ▸ hl))
      refine ⟨before, k, after, cause, hsplit, hok, he, rfl, hpatterns, ?_, ?_, ?_⟩
      · intro l hl hdeferred hplain
        have hcompiled := hs.isCompiled_prepareAll
          (fun x hx ↦ hmade x (List.mem_append_left _ hx)) hok hl hdeferred hplain
        have hnext : Leads kinds (s.prepareAll before) kinds _ := Leads.refl.prepare k
        rw [hpatterns.isCompiled_eq, Session.prepareAll_concat]
        exact hnext.isCompiled hcompiled
      · intro index hindex
        rw [hpatterns.1]
        exact Session.prepareAll_deferred hindex
      · intro own hmem
        refine (hown own hmem).imp_right ?_
        rintro (hpresent | hid)
        · simp [contains, empty] at hpresent
        · obtain ⟨l, hl, hid⟩ := List.mem_map.mp hid
          have hl' : l ∈ kinds := by
            refine hmade l ?_
            rw [List.append_cons]
            exact List.mem_append_left _ hl
          have hownMade := (horderly.leads hleads).canonical_made own hmem
          rwa [← horderly.eq_of_id hl' hownMade hid]

end Table

end Building

namespace Table

open Session (Act Log)

def blankKind : Kind :=
  (Session.declare {} { name := "Blank", strategy := .regex, pattern := " +" } {}).1

def brokenKind : Kind :=
  (Session.declare { nextKind := 2, deferred := #[{ text := " +", capture := 0 }] }
    { name := "Broken", strategy := .regex, pattern := "(a" } {}).1

def wordKind : Kind :=
  (Session.declare { nextKind := 3 } { name := "Word", strategy := .exact, pattern := "w" } {}).1

def blankActs : List Act :=
  [.define "Blank" { regex := some " +" } {}, .define "Broken" { regex := some "(a" } {},
    .define "Word" { exact := some "w" } {}]

theorem blankActs_kinds : (Log.performAll {} blankActs).kinds =
    [.eof, blankKind, brokenKind, wordKind] := by
  rfl

theorem blankActs_session : (Log.performAll {} blankActs).session =
    { nextKind := 4,
      deferred := #[{ text := " +", capture := 0 }, { text := "(a", capture := 0 }] } := by
  rfl

theorem build_represents_blank :
    (∃ t again, (build (Log.performAll {} blankActs).session
        [.kind wordKind, .handle ⟨blankKind, 9⟩, .kind blankKind, .kind wordKind]).1 =
          .ok (t, again) ∧
      t.kinds = [wordKind, blankKind] ∧ t.includes (.handle ⟨blankKind, 7⟩) = true ∧
      ∃ own, ((Log.performAll {} blankActs).session.resolve (.kind blankKind)).1 = .ok own ∧
        t.priority? own.kind = some 1) ∧
    (build (Log.performAll {} blankActs).session
        [.kind blankKind, .handle ⟨brokenKind, 9⟩, .kind wordKind]).1 =
      .error (.preparation (.definition (.malformedPattern "(a" .unterminatedGroup (some 0)))) ∧
    (build (Log.performAll {} blankActs).session
        [.kind blankKind, .handle ⟨brokenKind, 9⟩, .kind wordKind]).2.isCompiled blankKind =
      true := by
  have hs := Log.performAll_leads {} blankActs
  have hmade {c : Candidate} {k : Kind} (hc : c.kind? = some k)
      (hk : k ∈ [blankKind, brokenKind, wordKind]) :
      ∃ k ∈ (Log.performAll {} blankActs).kinds, c.kind? = some k :=
    ⟨k, blankActs_kinds ▸ List.mem_cons_of_mem _ hk, hc⟩
  have hfine : ∀ c ∈ [Candidate.kind wordKind, .handle ⟨blankKind, 9⟩, .kind blankKind,
      .kind wordKind], ∃ k ∈ (Log.performAll {} blankActs).kinds, c.kind? = some k := by
    simp only [List.forall_mem_cons]
    exact ⟨hmade rfl (by simp), hmade rfl (by simp), hmade rfl (by simp), hmade rfl (by simp),
      by simp⟩
  have hbroken : ∀ c ∈ [Candidate.kind blankKind, .handle ⟨brokenKind, 9⟩, .kind wordKind],
      ∃ k ∈ (Log.performAll {} blankActs).kinds, c.kind? = some k := by
    simp only [List.forall_mem_cons]
    exact ⟨hmade rfl (by simp), hmade rfl (by simp), hmade rfl (by simp), by simp⟩
  have hblank : ((Log.performAll {} blankActs).session.prepare blankKind).1 = .ok () := by
    rw [blankActs_session]
    cbv
  obtain ⟨hok, htable, -⟩ := build_represents hs _ hfine
  obtain ⟨-, -, hstopped⟩ := build_represents hs _ hbroken
  constructor
  · obtain ⟨t, again, ht⟩ := hok.mpr (by simp [meant, Candidate.kind?, hblank]; rfl)
    obtain ⟨hkinds, -, hask⟩ := htable t again ht
    have hmem : blankKind ∈ (Log.performAll {} blankActs).kinds := by
      simp [blankActs_kinds]
    obtain ⟨-, -, hincludes, -⟩ := hask _ _ .refl blankKind hmem (.handle ⟨blankKind, 7⟩) rfl
    obtain ⟨own, hown, -, -, hpriority⟩ := hask _ _ .refl blankKind hmem (.kind blankKind) rfl
    refine ⟨t, again, ht, hkinds, hincludes.mpr (by simp [meant, Candidate.kind?]), own, hown, ?_⟩
    rw [hpriority, hkinds]
    rfl
  · have herror : (build (Log.performAll {} blankActs).session
        [.kind blankKind, .handle ⟨brokenKind, 9⟩, .kind wordKind]).1 =
        .error (.preparation
          (.definition (.malformedPattern "(a" .unterminatedGroup (some 0)))) := by
      rw [blankActs_session]
      cbv
    refine ⟨herror, ?_⟩
    obtain ⟨before, k, after, cause, hsplit, -, hcause, -, -, hcompiled, -⟩ := hstopped _ herror
    have hwaits : blankKind.deferred = some 0 := rfl
    refine hcompiled blankKind ?_ (by simp [hwaits]) rfl
    have hfirst : [blankKind, brokenKind, wordKind] = before ++ k :: after := hsplit
    cases before with
    | nil =>
      cases hfirst
      cases hblank.symm.trans hcause
    | cons first rest =>
      obtain ⟨rfl, -⟩ := List.cons.inj hfirst
      exact .head _

end Table

end Tokenry
