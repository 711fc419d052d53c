import Tokenry.Proofs.Session.Patterns

namespace Tokenry

namespace Session

variable {kinds : List Kind} {s s' s'' : Session}

/-- A session that knows the same of patterns. -/
def SamePatterns (s s' : Session) : Prop := s'.deferred = s.deferred ∧ s'.cache = s.cache

theorem SamePatterns.trans (h : s.SamePatterns s') (h' : s'.SamePatterns s'') :
    s.SamePatterns s'' :=
  ⟨h'.1.trans h.1, h'.2.trans h.2⟩

theorem handleOf_patterns (s : Session) (k : Kind) : s.SamePatterns (s.handleOf k).2 := by
  unfold Session.handleOf
  split <;> exact ⟨rfl, rfl⟩

section

variable [Pattern.CharacterNames]

/-- The session after some kinds have been prepared, one after the other, whether or not they can
be. -/
def prepareAll (s : Session) (kinds : List Kind) : Session :=
  kinds.foldl (fun s k ↦ (s.prepare k).2) s

theorem SamePatterns.catchUp (h : s.SamePatterns s') (deferred : Option Nat) :
    (s'.catchUp deferred).1 = (s.catchUp deferred).1 ∧
      (s.catchUp deferred).2.SamePatterns (s'.catchUp deferred).2 := by
  cases deferred with
  | none => exact ⟨rfl, h⟩
  | some index =>
    simp only [Session.catchUp, Session.force, h.1, h.2]
    cases s.deferred[index]? with
    | none => exact ⟨rfl, h⟩
    | some deferred => exact ⟨rfl, rfl, rfl⟩

theorem SamePatterns.follow (h : s.SamePatterns s') (deferred : Option Nat)
    (method : Method Unit (Except MatchError Unit)) :
    (s'.follow deferred method).1 = (s.follow deferred method).1 ∧
      (s.follow deferred method).2.SamePatterns (s'.follow deferred method).2 := by
  induction method generalizing s s' with
  | settle outcome => exact ⟨rfl, h⟩
  | ask _ next ih =>
    obtain ⟨houtcome, hnext⟩ := h.catchUp deferred
    rw [Session.follow, Session.follow, houtcome]
    exact ih _ hnext

theorem SamePatterns.prepare (h : s.SamePatterns s') (k : Kind) :
    (s'.prepare k).1 = (s.prepare k).1 ∧ (s.prepare k).2.SamePatterns (s'.prepare k).2 := by
  unfold Session.prepare
  split
  · exact h.catchUp _
  · exact h.follow _ _

theorem SamePatterns.prepareAll (h : s.SamePatterns s') (ks : List Kind) :
    (s.prepareAll ks).SamePatterns (s'.prepareAll ks) := by
  induction ks generalizing s s' with
  | nil => exact h
  | cons k rest ih => exact ih (h.prepare k).2

theorem catchUp_canonical (s : Session) (deferred : Option Nat) :
    (s.catchUp deferred).2.canonical = s.canonical := by
  cases deferred with
  | none => rfl
  | some index => exact (s.force_identities index).2.2

theorem follow_canonical (s : Session) (deferred : Option Nat)
    (method : Method Unit (Except MatchError Unit)) :
    (s.follow deferred method).2.canonical = s.canonical := by
  induction method generalizing s with
  | settle outcome => rfl
  | ask _ next ih => exact (ih _ _).trans (catchUp_canonical s deferred)

theorem prepare_canonical (s : Session) (k : Kind) : (s.prepare k).2.canonical = s.canonical := by
  unfold Session.prepare
  split
  · exact catchUp_canonical s _
  · exact follow_canonical s _ _

/-- However a kind is given, what is meant is one of its handles. Only a handle of the kind itself
is ever new. -/
theorem Orderly.resolve_of_kind? (hs : s.Orderly kinds) {c : Candidate} {k : Kind}
    (hc : c.kind? = some k) (hk : k ∈ kinds) :
    ∃ own s₁, s.resolve c = (.ok own, s₁) ∧ own.kind = k ∧ Leads kinds s kinds s₁ ∧
      s.SamePatterns s₁ ∧ ∀ other ∈ s₁.canonical, other ∈ s.canonical ∨ other.kind = k := by
  cases c with
  | kind l =>
    obtain rfl := Option.some.inj hc
    refine ⟨_, _, rfl, hs.handleOf_kind hk, Leads.refl.handleOf hk, s.handleOf_patterns l, ?_⟩
    change ∀ other ∈ (s.handleOf l).2.canonical, _
    unfold Session.handleOf
    split
    · exact fun other hother ↦ .inl hother
    · intro other hother
      rcases List.mem_cons.mp hother with rfl | hother
      · exact .inr rfl
      · exact .inl hother
  | handle own =>
    exact ⟨own, s, rfl, Option.some.inj hc, .refl, ⟨rfl, rfl⟩, fun other hother ↦ .inl hother⟩
  | «foreign» thing => cases hc

end

end Session

namespace Table

open Session (Leads)

variable {kinds : List Kind} {s : Session} {k : Kind} {t : Table}

def meant (listed : List Candidate) : List Kind := listed.filterMap (·.kind?)

theorem meant_append (listed more : List Candidate) :
    meant (listed ++ more) = meant listed ++ meant more :=
  List.filterMap_append

theorem eraseDups_sublist (ks : List Kind) : ks.eraseDups.Sublist ks := by
  cases ks with
  | nil => simp
  | cons k rest =>
    rw [List.eraseDups_cons]
    have hrest := eraseDups_sublist (rest.filter fun l ↦ !l == k)
    exact (hrest.trans List.filter_sublist).cons_cons k
termination_by ks.length
decreasing_by
  have hlength := List.length_filter_le (fun l ↦ !l == k) rest
  simp only [List.length_cons]
  omega

theorem filter_eraseDups {p : Kind → Bool} (hp : ∀ k l : Kind, k.id = l.id → p k = p l)
    (ks : List Kind) : ks.eraseDups.filter p = (ks.filter p).eraseDups := by
  cases ks with
  | nil => simp
  | cons k rest =>
    have hrest := filter_eraseDups hp (rest.filter fun l ↦ !l == k)
    rw [List.eraseDups_cons]
    cases hk : p k with
    | true =>
      rw [List.filter_cons_of_pos hk, List.filter_cons_of_pos hk, List.eraseDups_cons, hrest,
        List.filter_comm]
    | false =>
      -- the kinds that go with `k` are not in the list any more
      have hgone : (rest.filter fun l ↦ !l == k).filter p = rest.filter p := by
        rw [List.filter_filter]
        refine List.filter_congr fun l _ ↦ ?_
        by_cases hl : l.id = k.id
        · simp [hp l k hl, hk]
        · have hne : (l == k) = false := Bool.eq_false_iff.mpr (hl ∘ Kind.beq_iff_id_eq.mp)
          simp [hne]
      rw [List.filter_cons_of_neg (by simp [hk]), List.filter_cons_of_neg (by simp [hk]), hrest,
        hgone]
termination_by ks.length
decreasing_by
  have hlength := List.length_filter_le (fun l ↦ !l == k) rest
  simp only [List.length_cons]
  omega

theorem eraseDups_isPrefix (ks more : List Kind) : ks.eraseDups <+: (ks ++ more).eraseDups := by
  cases ks with
  | nil => exact List.nil_prefix
  | cons k rest =>
    rw [List.cons_append, List.eraseDups_cons, List.eraseDups_cons, List.filter_append,
      List.prefix_cons_inj]
    exact eraseDups_isPrefix _ _
termination_by ks.length
decreasing_by
  have hlength := List.length_filter_le (fun l ↦ !l == k) rest
  simp only [List.length_cons]
  omega

theorem mem_meant {listed : List Candidate} (h : k ∈ meant listed)
    (hlisted : ∀ c ∈ listed, ∃ l ∈ kinds, c.kind? = some l) : k ∈ kinds := by
  obtain ⟨c, hc, hmeans⟩ := List.mem_filterMap.mp h
  obtain ⟨l, hl, hmeans'⟩ := hlisted c hc
  obtain rfl := Option.some.inj (hmeans.symm.trans hmeans')
  exact hl

theorem contains_push (h : t.contains k = false) (l : Kind) :
    (t.push k h).contains l = (l == k || t.contains l) := by
  have hid : (k.id == l.id) = (l == k) := Bool.beq_comm
  simp [contains, push, hid, Bool.or_comm]

theorem filter_contains_empty (ks : List Kind) : (ks.filter fun k ↦ !empty.contains k) = ks := by
  simp [empty, contains]

variable [Pattern.CharacterNames]

theorem extend_of_kind? (hs : s.Orderly kinds) {c : Candidate} (hc : c.kind? = some k)
    (hk : k ∈ kinds) (t : Table) (repeated : List Kind) (rest : List Candidate) :
    ∃ s₁, Leads kinds s kinds s₁ ∧ s.SamePatterns s₁ ∧
      (∀ own ∈ s₁.canonical, own ∈ s.canonical ∨ own.kind = k) ∧
      (t.contains k = true →
        extend s t repeated (c :: rest) = extend s₁ t (k :: repeated) rest) ∧
      ∀ h : t.contains k = false,
        (∀ e, (s₁.prepare k).1 = .error e →
          extend s t repeated (c :: rest) = (.error (.preparation e), (s₁.prepare k).2)) ∧
        ((s₁.prepare k).1 = .ok () →
          extend s t repeated (c :: rest) =
            extend (s₁.prepare k).2 (t.push k h) repeated rest) := by
  obtain ⟨own, s₁, hresolve, rfl, hs₁, hsame, hcanonical⟩ := hs.resolve_of_kind? hc hk
  refine ⟨s₁, hs₁, hsame, hcanonical, ?_, ?_⟩
  · intro hpresent
    simp only [extend, hresolve, dif_pos hpresent]
  · intro habsent
    have hnot : ¬ t.contains own.kind = true := by simp [habsent]
    constructor
    · intro e he
      have hprepare : s₁.prepare own.kind = (.error e, (s₁.prepare own.kind).2) := by rw [← he]
      simp only [extend, hresolve, dif_neg hnot]
      rw [hprepare]
    · intro hok
      have hprepare : s₁.prepare own.kind = (.ok (), (s₁.prepare own.kind).2) := by rw [← hok]
      simp only [extend, hresolve, dif_neg hnot]
      rw [hprepare]

/-- The two ends of listing kinds of which some are new to a table: all of these can be prepared and
stand behind the others, or the first that cannot be prepared is reported. Then the patterns are as
those before it and it have left them, and only what was looked at has been given a handle. -/
inductive ListingEnds (s : Session) (t : Table) (new : List Kind) :
    Except Error (Table × List Kind) × Session → Prop
  | complete {table : Table} {again : List Kind} {s' : Session} :
      (∀ k ∈ new, (s.prepare k).1 = .ok ()) → table.kinds = t.kinds ++ new →
      ListingEnds s t new (.ok (table, again), s')
  | stopped {before after : List Kind} {k : Kind} {e : MatchError} {s' : Session} :
      new = before ++ k :: after → (∀ l ∈ before, (s.prepare l).1 = .ok ()) →
      (s.prepare k).1 = .error e → (s.prepareAll (before ++ [k])).SamePatterns s' →
      (∀ own ∈ s'.canonical, own ∈ s.canonical ∨ t.contains own.kind = true ∨
        own.kind.id ∈ (before ++ [k]).map (·.id)) →
      ListingEnds s t new (.error (.preparation e), s')

variable {s₁ : Session} {new : List Kind} {outcome : Except Error (Table × List Kind) × Session}

theorem ListingEnds.of_present (hsame : s.SamePatterns s₁)
    (hown : ∀ own ∈ s₁.canonical, own ∈ s.canonical ∨ own.kind = k)
    (hpresent : t.contains k = true) (h : ListingEnds s₁ t new outcome) :
    ListingEnds s t new outcome := by
  have hprepare (l : Kind) : (s.prepare l).1 = (s₁.prepare l).1 := (hsame.prepare l).1.symm
  cases h with
  | complete hok hkinds => exact .complete (fun l hl ↦ (hprepare l).trans (hok l hl)) hkinds
  | stopped hsplit hok he hpatterns hnew =>
    refine .stopped hsplit (fun l hl ↦ (hprepare l).trans (hok l hl)) ((hprepare _).trans he)
      ((hsame.prepareAll _).trans hpatterns) ?_
    intro own hmem
    rcases hnew own hmem with hold | hlater
    · rcases hown own hold with hold | rfl
      · exact .inl hold
      · exact .inr (.inl hpresent)
    · exact .inr hlater

theorem ListingEnds.of_push (hs : Leads [.eof] {} kinds s) (hs₁ : Leads kinds s kinds s₁)
    (hsame : s.SamePatterns s₁) (hown : ∀ own ∈ s₁.canonical, own ∈ s.canonical ∨ own.kind = k)
    (habsent : t.contains k = false) (hprepare : (s.prepare k).1 = .ok ())
    (hmade : ∀ l ∈ new, l ∈ kinds)
    (h : ListingEnds (s₁.prepare k).2 (t.push k habsent) new outcome) :
    ListingEnds s t (k :: new) outcome := by
  -- whether another kind can be prepared is the same before and after `k` is
  have hearlier {l : Kind} (hl : l ∈ new) :
      (s.prepare l).1 = ((s₁.prepare k).2.prepare l).1 :=
    (hs.prepare_again (hs₁.prepare k) (hmade l hl)).symm
  cases h with
  | complete hok hkinds =>
    refine .complete (List.forall_mem_cons.mpr ⟨hprepare, fun l hl ↦ ?_⟩) ?_
    · exact (hearlier hl).trans (hok l hl)
    · rw [hkinds]
      simp [push]
  | @stopped before after l e s' hsplit hok he hpatterns hnew =>
    subst hsplit
    refine .stopped List.cons_append.symm ?_ ?_ ?_ ?_
    · refine List.forall_mem_cons.mpr ⟨hprepare, fun x hx ↦ ?_⟩
      exact (hearlier (List.mem_append_left _ hx)).trans (hok x hx)
    · exact (hearlier (by simp)).trans he
    · exact ((hsame.prepare k).2.prepareAll _).trans hpatterns
    · intro own hmem
      rcases hnew own hmem with hold | hpresent | hlater
      · rw [Session.prepare_canonical] at hold
        exact (hown own hold).imp_right fun h ↦ .inr (by simp [h])
      · rw [contains_push, Bool.or_eq_true] at hpresent
        refine .inr (hpresent.symm.imp_right fun hid ↦ ?_)
        simp [Kind.beq_iff_id_eq.mp hid]
      · exact .inr (.inr (.tail _ hlater))

theorem extend_ends (hs : Leads [.eof] {} kinds s) {listed : List Candidate}
    (hlisted : ∀ c ∈ listed, ∃ k ∈ kinds, c.kind? = some k) (t : Table) (repeated : List Kind) :
    ListingEnds s t ((meant listed).filter fun k ↦ !t.contains k).eraseDups
      (extend s t repeated listed) := by
  induction listed generalizing s t repeated with
  | nil => exact .complete (by simp [meant]) (by simp [meant])
  | cons c rest ih =>
    obtain ⟨⟨k, hk, hc⟩, hrest⟩ := List.forall_mem_cons.mp hlisted
    obtain ⟨s₁, hs₁, hsame, hown, hkeep, hnew⟩ :=
      extend_of_kind? (Session.Orderly.start.leads hs) hc hk t repeated rest
    have hmeant : meant (c :: rest) = k :: meant rest := by simp [meant, hc]
    rw [hmeant]
    cases hcontains : t.contains k with
    | true =>
      rw [hkeep hcontains, List.filter_cons_of_neg (by simp [hcontains])]
      exact (ih (hs.trans hs₁) hrest t (k :: repeated)).of_present hsame hown hcontains
    | false =>
      obtain ⟨hfails, hpush⟩ := hnew hcontains
      have hprepare := (hsame.prepare k).1
      rw [List.filter_cons_of_pos (by simp [hcontains]), List.eraseDups_cons]
      cases hfirst : (s.prepare k).1 with
      | error e =>
        rw [hfails e (hprepare.trans hfirst)]
        refine .stopped (List.nil_append _).symm (by simp) hfirst (hsame.prepare k).2 ?_
        intro own hmem
        rw [Session.prepare_canonical] at hmem
        exact (hown own hmem).imp_right fun h ↦ .inr (by simp [h])
      | ok =>
        have hfilter : ((meant rest).filter fun l ↦ !t.contains l).filter (fun l ↦ !l == k) =
            (meant rest).filter fun l ↦ !(t.push k hcontains).contains l := by
          rw [List.filter_filter]
          refine List.filter_congr fun l _ ↦ ?_
          rw [contains_push, Bool.not_or]
        rw [hpush (hprepare.trans hfirst), hfilter]
        refine .of_push hs hs₁ hsame hown hcontains hfirst ?_
          (ih (hs.trans (hs₁.prepare k)) hrest (t.push k hcontains) repeated)
        intro l hl
        exact mem_meant (List.filter_sublist.subset ((eraseDups_sublist _).subset hl)) hrest

end Table

namespace Session.Log

variable [Pattern.CharacterNames]

/-- A list of kinds that have been made and that can be prepared. -/
def Prepares (log : Log) (listed : List Candidate) : Prop :=
  ∀ c ∈ listed, ∃ k ∈ log.kinds, c.kind? = some k ∧ (log.session.prepare k).1 = .ok ()

variable {acts : List Act} {listed : List Candidate}

theorem Prepares.later (h : (performAll {} acts).Prepares listed) (later : List Act) :
    (performAll {} (acts ++ later)).Prepares listed := by
  have hleads := performAll_leads (performAll {} acts) later
  have hsplit : performAll {} (acts ++ later) = (performAll {} acts).performAll later := by
    simp only [performAll, List.foldl_append]
  rw [hsplit]
  intro c hc
  obtain ⟨k, hk, hmeans, hprepare⟩ := h c hc
  refine ⟨k, hleads.isPrefix.subset hk, hmeans, ?_⟩
  rw [(performAll_leads {} acts).prepare_again hleads hk, hprepare]

/-- A table can be built of kinds that can be prepared; it holds the first mention of each. -/
theorem Prepares.build (h : (performAll {} acts).Prepares listed) :
    ∃ table again, (Table.build (performAll {} acts).session listed).1 = .ok (table, again) ∧
      table.kinds = (Table.meant listed).eraseDups := by
  have hlisted : ∀ c ∈ listed, ∃ k ∈ (performAll {} acts).kinds, c.kind? = some k := by
    intro c hc
    obtain ⟨k, hk, hmeans, -⟩ := h c hc
    exact ⟨k, hk, hmeans⟩
  have hends := Table.extend_ends (performAll_leads {} acts) hlisted .empty []
  rw [Table.filter_contains_empty] at hends
  unfold Table.build
  generalize Table.extend _ .empty [] listed = outcome at hends ⊢
  cases hends with
  | complete _ hkinds => exact ⟨_, _, rfl, hkinds⟩
  | @stopped before after k e s' hsplit _ he _ _ =>
    have hk : k ∈ Table.meant listed := by
      refine (Table.eraseDups_sublist _).subset ?_
      rw [hsplit]
      simp
    obtain ⟨c, hc, hmeans⟩ := List.mem_filterMap.mp hk
    obtain ⟨l, -, hmeans', hprepare⟩ := h c hc
    obtain rfl := Option.some.inj (hmeans.symm.trans hmeans')
    cases he.symm.trans hprepare

theorem Prepares.answers (h : (performAll {} acts).Prepares listed) {k : Kind}
    (hk : k ∈ Table.meant listed) {d : Declaration} (hd : k.declaration = some d)
    (hchanges : k.changes.Narrows) (src : Source) : k.Answers src := by
  obtain ⟨c, hc, hmeans⟩ := List.mem_filterMap.mp hk
  obtain ⟨l, hl, hmeans', hprepare⟩ := h c hc
  obtain rfl := Option.some.inj (hmeans.symm.trans hmeans')
  have husable := (Reliable.performAll acts).sound.usable_of_prepare (List.mem_reverse.mpr hl)
    hchanges.prepare_eq hprepare hd
  exact (performAll_leads {} acts).answers hl hd hchanges husable src

end Session.Log

end Tokenry
