import Tokenry.Proofs.Rule.Coverage
import Tokenry.Proofs.Rule.Record

namespace Tokenry

namespace Range

def Within (r s : Range) : Prop := s.start ≤ r.start ∧ r.stop ≤ s.stop

structure Hull (r : Range) (ranges : List Range) : Prop where
  start_min : (ranges.map (·.start)).min? = some r.start
  stop_max : (ranges.map (·.stop)).max? = some r.stop

variable {r s : Range} {ranges more : List Range}

theorem hull_iff : r.Hull ranges ↔ (∃ s ∈ ranges, s.start = r.start) ∧
    (∃ s ∈ ranges, s.stop = r.stop) ∧ ∀ s ∈ ranges, s.Within r := by
  have hmin : (ranges.map (·.start)).min? = some r.start ↔ _ := List.min?_eq_some_iff
  have hmax : (ranges.map (·.stop)).max? = some r.stop ↔ _ := List.max?_eq_some_iff
  simp only [List.mem_map, forall_exists_index, and_imp, forall_apply_eq_imp_iff₂] at hmin hmax
  constructor
  · rintro ⟨hstart, hstop⟩
    obtain ⟨hfirst, hstart⟩ := hmin.mp hstart
    obtain ⟨hlast, hstop⟩ := hmax.mp hstop
    exact ⟨hfirst, hlast, fun s hs ↦ ⟨hstart s hs, hstop s hs⟩⟩
  · rintro ⟨hfirst, hlast, hcover⟩
    refine ⟨hmin.mpr ⟨hfirst, ?_⟩, hmax.mpr ⟨hlast, ?_⟩⟩
    · intro s hs
      exact (hcover s hs).1
    · intro s hs
      exact (hcover s hs).2

namespace Hull

theorem singleton (r : Range) : r.Hull [r] := ⟨rfl, rfl⟩

theorem join (h : r.Hull ranges) (h' : s.Hull more) : (r.join s).Hull (ranges ++ more) := by
  obtain ⟨⟨a, ha, hastart⟩, ⟨b, hb, hbstop⟩, hcover⟩ := hull_iff.mp h
  obtain ⟨⟨c, hc, hcstart⟩, ⟨d, hd, hdstop⟩, hcover'⟩ := hull_iff.mp h'
  refine hull_iff.mpr ⟨?_, ?_, ?_⟩
  · simp only [Range.join, List.mem_append]
    rcases Nat.le_total r.start s.start with hle | hle
    · exact ⟨a, .inl ha, by lia⟩
    · exact ⟨c, .inr hc, by lia⟩
  · simp only [Range.join, List.mem_append]
    rcases Nat.le_total r.stop s.stop with hle | hle
    · exact ⟨d, .inr hd, by lia⟩
    · exact ⟨b, .inl hb, by lia⟩
  · intro t ht
    simp only [Range.Within, Range.join] at *
    rcases List.mem_append.mp ht with ht | ht
    · obtain ⟨hstart, hstop⟩ := hcover t ht
      lia
    · obtain ⟨hstart, hstop⟩ := hcover' t ht
      lia

theorem within (h : r.Hull ranges) (h' : s.Hull more) (hsub : ranges ⊆ more) : r.Within s := by
  obtain ⟨⟨a, ha, hastart⟩, ⟨b, hb, hbstop⟩, -⟩ := hull_iff.mp h
  obtain ⟨-, -, hcover⟩ := hull_iff.mp h'
  exact ⟨hastart ▸ (hcover a (hsub ha)).1, hbstop ▸ (hcover b (hsub hb)).2⟩

end Hull

end Range

namespace Tree

/-- A value and the values in it. -/
def parts : Tree → List Tree
  | .nothing => [.nothing]
  | .token t => [.token t]
  | .pair a b => .pair a b :: (a.parts ++ b.parts)
  | .marker k r => [.marker k r]
  | .payload k r value => .payload k r value :: value.parts
  | .node rule r value => .node rule r value :: value.parts
  | .ending k => [.ending k]

def kindRange? : Tree → Option Range
  | .marker _ r | .payload _ r _ => some r
  | _ => none

end Tree

/-- What a kind builds over a range. The end of the source records none. -/
inductive Kind.Builds (k : Kind) (range : Range) : Tree → Prop
  | marker : k.form = .marker → Builds k range (.marker k range)
  | payload (value : Tree) : k.form = .payload → Builds k range (.payload k range value)
  | ending : k.form = .ending → Builds k range (.ending k)

theorem Kind.Builds.range_eq {k : Kind} {range r : Range} {tree : Tree} (h : k.Builds range tree)
    (hr : tree.kindRange? = some r) : range = r := by
  cases h with
  | marker => exact Option.some.inj hr
  | payload => exact Option.some.inj hr
  | ending => cases hr

def Attempt.token? (cx : Context) (a : Attempt) : Option Token :=
  match (cx.lex a.kind a.at_).1 with
  | .ok found => found
  | .error _ => none

/-- A conversion whose result holds no marker and no payload but those that it was given. -/
def Conversion.HandsOn (convert : Conversion) : Prop :=
  ∀ (value : Tree) (range : Range) (tree : Tree), convert value range = .ok tree →
    ∀ part ∈ tree.parts, part.kindRange?.isSome → part ∈ value.parts

def Book.opened (book : Book) (callee : Callee → Production) (c : Callee) : Production :=
  match book.inner callee c with
  | .ok production => production
  | .error e => .refuse e

namespace Book

theorem mem_parts_conversion {k : Kind} {value tree part : Tree} {range : Range}
    (h : conversion (.kind k) value range = .ok tree) (hpart : part ∈ tree.parts) :
    part = tree ∨ part ∈ value.parts := by
  simp only [conversion] at h
  split at h
  · cases h
    exact .inl (List.mem_singleton.mp hpart)
  · cases h
    rcases List.mem_cons.mp hpart with rfl | hpart
    · exact .inl rfl
    · exact .inr (.tail _ (List.mem_append_right _ hpart))
  · cases h
    exact .inl (List.mem_singleton.mp hpart)
  · cases h
    exact .inl (List.mem_singleton.mp hpart)

theorem conversion_rule_handsOn (definition : RuleDefinition) :
    (conversion (.rule definition)).HandsOn := by
  intro value range tree h part hpart hkind
  simp only [conversion] at h
  split at h
  · cases h
    rcases List.mem_cons.mp hpart with rfl | hpart
    · cases hkind
    · exact hpart
  · cases h

end Book

namespace Production

/-- The tokens that a production finds from a place on. -/
def consumed (cx : Context) (p : Production) (at_ : Location) : List Token :=
  (p.attempts cx.skip cx.src at_).filterMap (·.token? cx)

/-- While one production is read from a place on, another one is read from a place on. -/
inductive Reaches (cx : Context) : Production → Location → Production → Location → Prop
  | refl (p : Production) (at_ : Location) : Reaches cx p at_ p at_
  | discard {inner q : Production} {at_ place : Location} : Reaches cx inner at_ q place →
      Reaches cx (.discard inner) at_ q place
  | first {first second q : Production} {at_ place : Location} : Reaches cx first at_ q place →
      Reaches cx (.pair first second) at_ q place
  | second {first second q : Production} {at_ place : Location} {left : Parsed} :
      (first.run cx at_).1 = .ok (some left) → Reaches cx second left.range.stop q place →
      Reaches cx (.pair first second) at_ q place
  | build {convert : Conversion} {inner : Unit → Production} {q : Production}
      {at_ place : Location} : Reaches cx (inner ()) at_ q place →
      Reaches cx (.build convert inner) at_ q place

def OfKind (k : Kind) (p : Production) : Prop :=
  ∃ (book : Book) (callee : Callee → Production),
    p = .build (Book.conversion (.kind k)) fun _ ↦ book.opened callee (.kind k)

def HandsOn : Production → Prop
  | .token _ | .refuse _ => True
  | .discard inner => inner.HandsOn
  | .pair first second => first.HandsOn ∧ second.HandsOn
  | .build convert inner =>
    ((∃ k, (build convert inner).OfKind k) ∨ convert.HandsOn) ∧ (inner ()).HandsOn

variable {cx : Context} {p q : Production} {at_ place : Location} {parsed : Parsed} {k : Kind}

theorem run_token_iff : ((token k).run cx at_).1 = .ok (some parsed) ↔
    ∃ t, (cx.lex k at_).1 = .ok (some t) ∧ parsed = ⟨.token t, t.range⟩ := by
  rw [run_token]
  rcases cx.lex k at_ with ⟨e | _ | t, cx'⟩ <;> simp [Except.map, eq_comm]

theorem run_discard_iff {inner : Production} :
    ((discard inner).run cx at_).1 = .ok (some parsed) ↔
      ∃ found, (inner.run cx at_).1 = .ok (some found) ∧ parsed = ⟨.nothing, found.range⟩ := by
  rw [run_discard]
  rcases inner.run cx at_ with ⟨e | _ | found, cx'⟩ <;> simp [Except.map, eq_comm]

theorem run_build_iff {convert : Conversion} {inner : Unit → Production} :
    ((build convert inner).run cx at_).1 = .ok (some parsed) ↔
      ∃ found, ((inner ()).run cx at_).1 = .ok (some found) ∧
        convert found.value found.range = .ok parsed.value ∧ parsed.range = found.range := by
  rw [run_build]
  rcases (inner ()).run cx at_ with ⟨e | _ | found, cx'⟩
  · simp [Except.bind]
  · simp [Except.bind]
  · cases hvalue : convert found.value found.range with
    | error e => simp [Except.bind, Except.map, hvalue]
    | ok value =>
      obtain ⟨value', range⟩ := parsed
      simp [Except.bind, Except.map, hvalue, eq_comm]

theorem run_pair_iff {first second : Production} :
    ((pair first second).run cx at_).1 = .ok (some parsed) ↔
      ∃ left right, (first.run cx at_).1 = .ok (some left) ∧
        (second.run cx left.range.stop).1 = .ok (some right) ∧
        parsed = ⟨.pair left.value right.value, left.range.join right.range⟩ := by
  -- the context after the first differs in its record only, of which the second takes no notice
  have hsecond (place : Location) :
      (second.run (first.run cx at_).2 place).1 = (second.run cx place).1 := by
    obtain ⟨hsrc, hskip⟩ := cx.sameInput_attemptAll (first.attempts cx.skip cx.src at_)
    rw [(second.run_eq_attempts cx place).1, (second.run_eq_attempts _ place).1,
      (first.run_eq_attempts cx at_).2, hsrc, hskip]
  rw [run_pair]
  rcases hfirst : first.run cx at_ with ⟨e | _ | left, cx'⟩
  · simp
  · simp
  · rw [hfirst] at hsecond
    simp only [hsecond, Except.ok.injEq, Option.some.injEq, exists_and_left, exists_eq_left']
    rcases (second.run cx left.range.stop).1 with e | _ | right <;> simp [Except.map, eq_comm]

theorem consumed_pair {first second : Production} {left : Parsed}
    (h : (first.run cx at_).1 = .ok (some left)) :
    (pair first second).consumed cx at_ =
      first.consumed cx at_ ++ second.consumed cx left.range.stop := by
  rw [(first.run_eq_attempts cx at_).1] at h
  simp only [consumed, attempts, h, List.filterMap_append]

theorem run_hull (h : (p.run cx at_).1 = .ok (some parsed)) :
    parsed.range.Hull ((p.consumed cx at_).map (·.range)) := by
  induction p generalizing at_ parsed with
  | token k =>
    obtain ⟨t, ht, rfl⟩ := run_token_iff.mp h
    have hconsumed : (token k).consumed cx at_ = [t] := by
      simp [consumed, attempts, Attempt.token?, ht]
    rw [hconsumed]
    exact .singleton t.range
  | discard inner ih =>
    obtain ⟨found, hfound, rfl⟩ := run_discard_iff.mp h
    change found.range.Hull _
    exact ih hfound
  | pair first second ihfirst ihsecond =>
    obtain ⟨left, right, hleft, hright, rfl⟩ := run_pair_iff.mp h
    rw [consumed_pair hleft, List.map_append]
    exact (ihfirst hleft).join (ihsecond hright)
  | build convert inner ih =>
    obtain ⟨found, hfound, -, hrange⟩ := run_build_iff.mp h
    rw [hrange]
    exact ih () hfound
  | refuse cause => cases h

namespace Reaches

/-- A production that succeeds has read all that it reaches, and what that consumed is among what it
consumed. -/
theorem exists_run (h : Reaches cx p at_ q place) (hrun : (p.run cx at_).1 = .ok (some parsed)) :
    (∃ built, (q.run cx place).1 = .ok (some built)) ∧
      q.consumed cx place ⊆ p.consumed cx at_ := by
  induction h generalizing parsed with
  | refl p at_ => exact ⟨⟨parsed, hrun⟩, List.Subset.refl _⟩
  | discard _ ih =>
    obtain ⟨found, hfound, -⟩ := run_discard_iff.mp hrun
    exact ih hfound
  | first _ ih =>
    obtain ⟨left, right, hleft, -⟩ := run_pair_iff.mp hrun
    obtain ⟨hbuilt, hsub⟩ := ih hleft
    rw [consumed_pair hleft]
    exact ⟨hbuilt, List.subset_append_of_subset_left _ hsub⟩
  | second hleft _ ih =>
    obtain ⟨left, right, hleft', hright, -⟩ := run_pair_iff.mp hrun
    obtain rfl : _ = left := by simpa [hleft] using hleft'
    obtain ⟨hbuilt, hsub⟩ := ih hright
    rw [consumed_pair hleft]
    exact ⟨hbuilt, List.subset_append_of_subset_right _ hsub⟩
  | build _ ih =>
    obtain ⟨found, hfound, -⟩ := run_build_iff.mp hrun
    exact ih hfound

theorem within (h : Reaches cx p at_ q place) (hrun : (p.run cx at_).1 = .ok (some parsed))
    {built : Parsed} (hbuilt : (q.run cx place).1 = .ok (some built)) :
    built.range.Within parsed.range :=
  (run_hull hbuilt).within (run_hull hrun) (List.map_subset _ (h.exists_run hrun).2)

theorem handsOn (h : Reaches cx p at_ q place) (hp : p.HandsOn) : q.HandsOn := by
  induction h with
  | refl => exact hp
  | discard _ ih => exact ih hp
  | first _ ih => exact ih hp.1
  | second _ _ ih => exact ih hp.2
  | build _ ih => exact ih hp.2

end Reaches

theorem OfKind.builds (h : p.OfKind k) (hrun : (p.run cx at_).1 = .ok (some parsed)) :
    k.Builds parsed.range parsed.value := by
  obtain ⟨book, callee, rfl⟩ := h
  obtain ⟨found, hfound, hvalue, hrange⟩ := run_build_iff.mp hrun
  rw [hrange]
  simp only [Book.opened, Book.inner, Book.conversion] at hfound hvalue
  cases hform : k.form with
  | bare =>
    simp only [hform] at hfound
    cases hfound
  | marker =>
    simp only [hform] at hfound hvalue
    obtain ⟨t, -, rfl⟩ := run_token_iff.mp hfound
    rw [← Except.ok.inj hvalue]
    exact .marker hform
  | ending =>
    simp only [hform] at hvalue
    rw [← Except.ok.inj hvalue]
    exact .ending hform
  | payload =>
    simp only [hform] at hfound hvalue
    split at hfound
    · next inner hinner =>
      split at hinner
      · cases hinner
      · obtain ⟨t, -, hinner⟩ := bind_eq_ok_iff.mp hinner
        cases hinner
        obtain ⟨left, right, -, -, rfl⟩ := run_pair_iff.mp hfound
        rw [← Except.ok.inj hvalue]
        exact .payload right.value hform
    · cases hfound

/-- The markers and payloads in what is read are values of kinds that were reached. -/
theorem exists_reaches_of_mem_parts (hp : p.HandsOn)
    (hrun : (p.run cx at_).1 = .ok (some parsed)) {part : Tree} (hpart : part ∈ parsed.value.parts)
    {r : Range} (hr : part.kindRange? = some r) :
    ∃ k q place, Reaches cx p at_ q place ∧ q.OfKind k ∧
      (q.run cx place).1 = .ok (some ⟨part, r⟩) := by
  induction p generalizing at_ parsed with
  | token k =>
    obtain ⟨t, -, rfl⟩ := run_token_iff.mp hrun
    obtain rfl := List.mem_singleton.mp hpart
    cases hr
  | discard inner =>
    obtain ⟨found, -, rfl⟩ := run_discard_iff.mp hrun
    obtain rfl := List.mem_singleton.mp hpart
    cases hr
  | pair first second ihfirst ihsecond =>
    obtain ⟨left, right, hleft, hright, rfl⟩ := run_pair_iff.mp hrun
    rcases List.mem_cons.mp hpart with rfl | hpart
    · cases hr
    · rcases List.mem_append.mp hpart with hpart | hpart
      · obtain ⟨k, q, place, hreaches, hbuilt⟩ := ihfirst hp.1 hleft hpart
        exact ⟨k, q, place, .first hreaches, hbuilt⟩
      · obtain ⟨k, q, place, hreaches, hbuilt⟩ := ihsecond hp.2 hright hpart
        exact ⟨k, q, place, .second hleft hreaches, hbuilt⟩
  | build convert inner ih =>
    obtain ⟨found, hfound, hvalue, hrange⟩ := run_build_iff.mp hrun
    have hinside (hpart : part ∈ found.value.parts) := ih () hp.2 hfound hpart
    have hbelow : part = parsed.value ∧ (∃ k, (build convert inner).OfKind k) ∨
        part ∈ found.value.parts := by
      rcases hp.1 with ⟨k, hk⟩ | hconvert
      · obtain ⟨book, callee, heq⟩ := hk
        obtain rfl : convert = Book.conversion (.kind k) := (Production.build.inj heq).1
        rcases Book.mem_parts_conversion hvalue hpart with rfl | hpart
        · exact .inl ⟨rfl, k, book, callee, heq⟩
        · exact .inr hpart
      · exact .inr (hconvert _ _ _ hvalue part hpart (by rw [hr]; rfl))
    rcases hbelow with ⟨rfl, k, hk⟩ | hpart
    · obtain rfl := (hk.builds hrun).range_eq hr
      exact ⟨k, _, at_, .refl _ _, hk, hrun⟩
    · obtain ⟨k, q, place, hreaches, hbuilt⟩ := hinside hpart
      exact ⟨k, q, place, .build hreaches, hbuilt⟩
  | refuse cause => cases hrun

theorem payload_within (hp : p.HandsOn) (hrun : (p.run cx at_).1 = .ok (some parsed))
    {r s : Range} {value part : Tree} (hpayload : .payload k r value ∈ parsed.value.parts)
    (hpart : part ∈ value.parts) (hs : part.kindRange? = some s) : s.Within r := by
  obtain ⟨_, q, place, hreaches, -, hbuilt⟩ := exists_reaches_of_mem_parts hp hrun hpayload rfl
  -- what is in the payload was reached from the production of its kind
  obtain ⟨_, q', place', hreaches', -, hbuilt'⟩ :=
    exists_reaches_of_mem_parts (hreaches.handsOn hp) hbuilt (.tail _ hpart) hs
  exact hreaches'.within hbuilt hbuilt'

end Production

namespace Book

variable {book : Book}

theorem handsOn_term {callee : Callee → Production} (h : ∀ c, (callee c).HandsOn) (t : Term) :
    (t.unfold callee).HandsOn := by
  induction t with
  | token k => trivial
  | discard inner ih => exact ih
  | pair first second ihfirst ihsecond => exact ⟨ihfirst, ihsecond⟩
  | call c => exact h c

theorem handsOn_opened {callee : Callee → Production} (h : ∀ c, (callee c).HandsOn) (c : Callee) :
    (book.opened callee c).HandsOn := by
  unfold opened
  split
  · next p hp =>
    cases c with
    | kind k =>
      simp only [inner] at hp
      split at hp
      · cases hp
      · cases hp
        trivial
      · cases hp
        trivial
      · split at hp
        · cases hp
        · obtain ⟨t, -, hp⟩ := bind_eq_ok_iff.mp hp
          cases hp
          exact ⟨trivial, handsOn_term h t⟩
    | rule definition =>
      simp only [inner] at hp
      split at hp
      · cases hp
      · obtain ⟨rule, -, hp⟩ := bind_eq_ok_iff.mp hp
        obtain ⟨t, -, hp⟩ := bind_eq_ok_iff.mp hp
        cases hp
        exact handsOn_term h t
  · trivial

theorem handsOn_unfold (book : Book) (depth : Nat) (c : Callee) :
    (book.unfold depth c).HandsOn := by
  induction depth generalizing c with
  | zero => trivial
  | succ depth ih =>
    refine ⟨?_, handsOn_opened ih c⟩
    cases c with
    | kind k => exact .inl ⟨k, book, book.unfold depth, rfl⟩
    | rule definition => exact .inr (conversion_rule_handsOn definition)

theorem handsOn_production {src : Source} {rule : RuleLike} {p : Production}
    (h : book.production src rule = .ok p) : p.HandsOn := by
  obtain ⟨t, -, h⟩ := bind_eq_ok_iff.mp h
  cases h
  exact handsOn_term (book.handsOn_unfold _) t

end Book

namespace Production

/-- When a production is read, its range is the smallest one that covers the tokens which it
consumed. The same holds of all that is reached on the way; a kind that is reached builds a value of
that range, and whatever is reached in turn lies within. Where only kinds make markers and payloads,
as in the rules of a book, those in the result were built so, and a payload lies around those in
it. -/
theorem run_extent (p : Production) (cx : Context) (at_ : Location) (parsed : Parsed)
    (h : (p.run cx at_).1 = .ok (some parsed)) :
    parsed.range.Hull ((p.consumed cx at_).map (·.range)) ∧
    (∀ q place, Reaches cx p at_ q place → ∃ built, (q.run cx place).1 = .ok (some built) ∧
      built.range.Hull ((q.consumed cx place).map (·.range)) ∧
      (∀ k, q.OfKind k → k.Builds built.range built.value) ∧
      ∀ q' place', Reaches cx q place q' place' → ∃ nested,
        (q'.run cx place').1 = .ok (some nested) ∧ nested.range.Within built.range) ∧
    (p.HandsOn → ∀ part ∈ parsed.value.parts, ∀ r, part.kindRange? = some r →
      (∃ k q place, Reaches cx p at_ q place ∧ q.OfKind k ∧
        (q.run cx place).1 = .ok (some ⟨part, r⟩) ∧
        r.Hull ((q.consumed cx place).map (·.range))) ∧
      ∀ k value, part = .payload k r value → ∀ inner ∈ value.parts, ∀ s,
        inner.kindRange? = some s → s.Within r) ∧
    ∀ (book : Book) (src : Source) (rule : RuleLike), book.production src rule = .ok p →
      p.HandsOn := by
  refine ⟨run_hull h, ?_, ?_, ?_⟩
  · intro q place hreaches
    obtain ⟨built, hbuilt⟩ := (hreaches.exists_run h).1
    refine ⟨built, hbuilt, run_hull hbuilt, fun k hk ↦ hk.builds hbuilt, ?_⟩
    intro q' place' hreaches'
    obtain ⟨nested, hnested⟩ := (hreaches'.exists_run hbuilt).1
    exact ⟨nested, hnested, hreaches'.within hbuilt hnested⟩
  · intro hp part hpart r hr
    refine ⟨?_, ?_⟩
    · obtain ⟨k, q, place, hreaches, hq, hbuilt⟩ := exists_reaches_of_mem_parts hp h hpart hr
      exact ⟨k, q, place, hreaches, hq, hbuilt, run_hull hbuilt⟩
    · rintro k value rfl inner hinner s hs
      exact payload_within hp h hpart hinner hs
  · intro book src rule hproduction
    exact Book.handsOn_production hproduction

end Production

namespace Book

def mark : Kind :=
  (Session.declare { nextKind := 4 }
    { name := "Mark", strategy := .exact, pattern := "+", carriesPayload := true } {}).1

def markBook : Book := { payloads := [(4, .kind sign), (2, .kind digits)] }

theorem run_extent_mark :
    ∃ p, markBook.production #['+', ' ', '-', '7'] (.kind mark) = .ok p ∧
      (p.run { src := #['+', ' ', '-', '7'], skip := some blank } 0).1 =
        .ok (some ⟨.payload mark ⟨0, 4, by decide⟩ (.payload sign ⟨2, 4, by decide⟩
          (.marker digits ⟨3, 4, by decide⟩)), ⟨0, 4, by decide⟩⟩) ∧
      Range.Hull ⟨0, 4, by decide⟩
        ((p.consumed { src := #['+', ' ', '-', '7'], skip := some blank } 0).map (·.range)) ∧
      Range.Within ⟨3, 4, by decide⟩ ⟨2, 4, by decide⟩ := by
  obtain ⟨p, hproduction⟩ : ∃ p, markBook.production #['+', ' ', '-', '7'] (.kind mark) = .ok p :=
    ⟨_, rfl⟩
  have hrun : (p.run { src := #['+', ' ', '-', '7'], skip := some blank } 0).1 =
      .ok (some ⟨.payload mark ⟨0, 4, by decide⟩ (.payload sign ⟨2, 4, by decide⟩
        (.marker digits ⟨3, 4, by decide⟩)), ⟨0, 4, by decide⟩⟩) := by
    obtain rfl := Except.ok.inj hproduction
    cbv
  obtain ⟨hhull, -, hparts, hbook⟩ := p.run_extent _ 0 _ hrun
  have hinner := (hparts (hbook _ _ _ hproduction) _ (.tail _ (.head _)) _ rfl).2 _ _ rfl
  exact ⟨p, hproduction, hrun, hhull, hinner _ (.head _) _ rfl⟩

end Book

end Tokenry
