import Mathlib
import Tokenry.Proofs.Kind
import Tokenry.Rule.Context

namespace Tokenry

namespace Kind

/-- The ranges of the matches that are passed over, each tried where the one before it ended, down
to a place where the kind does not match or stays where it is. -/
inductive Passes (k : Kind) (src : Source) : Location → List Range → Location → Prop
  | rest {at_ : Location} {found : Option Range} : k.tryMatch src at_ = .ok found →
      (∀ r ∈ found, r.stop = at_) → Passes k src at_ [] at_
  | hop {at_ behind : Location} {r : Range} {ranges : List Range} :
      k.tryMatch src at_ = .ok (some r) → r.stop ≠ at_ → Passes k src r.stop ranges behind →
      Passes k src at_ (r :: ranges) behind

variable {k : Kind} {src : Source} {at_ behind : Location} {ranges : List Range}

namespace Passes

theorem false_of_round {places : Location → Prop} (hround : ∀ place, places place →
      ∃ r, k.tryMatch src place = .ok (some r) ∧ r.stop ≠ place ∧ places r.stop)
    (hat : places at_) (h : k.Passes src at_ ranges behind) : False := by
  induction h with
  | rest hfound hstay =>
    obtain ⟨r, hr, hne, -⟩ := hround _ hat
    cases hfound.symm.trans hr
    exact hne (hstay r rfl)
  | hop hr _ _ ih =>
    obtain ⟨_, hr', -, hnext⟩ := hround _ hat
    cases hr.symm.trans hr'
    exact ih hnext

end Passes

theorem passOver_of_rest {found : Option Range} (h : k.tryMatch src at_ = .ok found)
    (hstay : ∀ r ∈ found, r.stop = at_) : k.passOver src at_ = some (.ok at_) := by
  rw [passOver, tokenAt_of_ok h]
  cases found with
  | none => rfl
  | some r => simp only [Option.map_some, if_pos (hstay r rfl)]

theorem passOver_of_hop {r : Range} (h : k.tryMatch src at_ = .ok (some r)) (hne : r.stop ≠ at_) :
    k.passOver src at_ = k.passOver src r.stop := by
  rw [passOver, tokenAt_of_ok h]
  simp only [Option.map_some, if_neg hne]

/-- What the passing comes to when it comes to an end: an error of the kind, or the end of the
way. -/
theorem passOver_spec {result : Except RuleError Location} (h : k.passOver src at_ = some result) :
    (∃ place e, k.tryMatch src place = .error e ∧ result = .error (.failed e)) ∨
      ∃ ranges behind, k.Passes src at_ ranges behind ∧ result = .ok behind := by
  refine passOver.partial_correctness k src
    (fun at_ result ↦ (∃ place e, k.tryMatch src place = .error e ∧ result = .error (.failed e)) ∨
      ∃ ranges behind, k.Passes src at_ ranges behind ∧ result = .ok behind) ?_ at_ result h
  intro passOver ih at_ result h
  cases hmatch : k.tryMatch src at_ with
  | error e =>
    simp only [tokenAt, hmatch, Except.map, Option.some.injEq] at h
    exact .inl ⟨at_, e, hmatch, h.symm⟩
  | ok found =>
    rw [tokenAt_of_ok hmatch] at h
    cases found with
    | none =>
      exact .inr ⟨[], at_, .rest hmatch (by simp), (Option.some.inj h).symm⟩
    | some r =>
      simp only [Option.map_some] at h
      split at h
      · next hstay =>
        exact .inr ⟨[], at_, .rest hmatch (by simpa using hstay), (Option.some.inj h).symm⟩
      · next hne =>
        refine (ih _ _ h).imp_right ?_
        rintro ⟨ranges, behind, hpasses, hresult⟩
        exact ⟨r :: ranges, behind, .hop hmatch hne hpasses, hresult⟩

theorem passOver_eq_ok_iff :
    k.passOver src at_ = some (.ok behind) ↔ ∃ ranges, k.Passes src at_ ranges behind := by
  constructor
  · intro h
    rcases passOver_spec h with ⟨_, _, -, habsurd⟩ | ⟨ranges, _, hpasses, ⟨⟩⟩
    · cases habsurd
    · exact ⟨ranges, hpasses⟩
  · rintro ⟨ranges, h⟩
    induction h with
    | rest hfound hstay => exact passOver_of_rest hfound hstay
    | hop hr hne _ ih => exact (passOver_of_hop hr hne).trans ih

/-- From a place on, no match leads to a place before the one where it was tried. -/
def Forward (k : Kind) (src : Source) (at_ : Location) : Prop :=
  ∀ place r, at_ ≤ place → place ≤ src.size → k.tryMatch src place = .ok (some r) → place ≤ r.stop

theorem Forward.exists_passes (h : k.Forward src at_) (ha : k.Answers src) (hb : k.Bounded src)
    (hat : at_ ≤ src.size) :
    ∃ ranges behind, k.Passes src at_ ranges behind ∧ at_ ≤ behind ∧ behind ≤ src.size := by
  -- each match that is passed over leaves fewer places in front of the end
  induction hleft : src.size - at_ using Nat.strongRecOn generalizing at_ with
  | ind left ih =>
    obtain ⟨found, hfound⟩ := ha at_
    by_cases hstay : ∀ r ∈ found, r.stop = at_
    · exact ⟨[], at_, .rest hfound hstay, Nat.le_refl _, hat⟩
    · obtain ⟨r, rfl, hne⟩ : ∃ r, found = some r ∧ r.stop ≠ at_ := by simpa using hstay
      have hle : at_ ≤ r.stop := h at_ r (Nat.le_refl _) hat hfound
      have hmost : r.stop ≤ src.size := by
        have hbound := hb at_ r hfound
        lia
      have hnext : k.Forward src r.stop :=
        fun place r' hplace hsize hr' ↦ h place r' (Nat.le_trans hle hplace) hsize hr'
      obtain ⟨ranges, behind, hpasses, hbehind, hsize⟩ :=
        ih (src.size - r.stop) (by lia) hnext hmost rfl
      exact ⟨r :: ranges, behind, .hop hfound hne hpasses, Nat.le_trans hle hbehind, hsize⟩

end Kind

namespace Context

variable {cx : Context} {k : Kind} {at_ behind : Location}

theorem skipTrivia_eq_ok_iff (hskip : cx.skip = some k) :
    cx.skipTrivia at_ = .ok behind ↔ ∃ ranges, k.Passes cx.src at_ ranges behind := by
  rw [← Kind.passOver_eq_ok_iff]
  simp only [skipTrivia, hskip]
  cases k.passOver cx.src at_ <;> simp

theorem skipTrivia_endless (hskip : cx.skip = some k) (ha : k.Answers cx.src) {e : RuleError}
    (h : cx.skipTrivia at_ = .error e) :
    e = .endless ∧ ∀ ranges behind, ¬ k.Passes cx.src at_ ranges behind := by
  refine ⟨?_, ?_⟩
  · simp only [skipTrivia, hskip] at h
    cases hpass : k.passOver cx.src at_ with
    | none =>
      rw [hpass] at h
      cases h
      rfl
    | some result =>
      rw [hpass, Option.getD_some] at h
      rcases Kind.passOver_spec hpass with ⟨place, cause, hcause, -⟩ | ⟨_, _, -, hresult⟩
      · obtain ⟨found, hfound⟩ := ha place
        cases hcause.symm.trans hfound
      · cases h.symm.trans hresult
  · intro ranges behind hpasses
    cases h.symm.trans ((skipTrivia_eq_ok_iff hskip).mpr ⟨ranges, hpasses⟩)

/-- Passing over trivia with a declared kind, from a place of the source. The place behind them is
where the matches lead that are tried one behind the other; the passing has no end just if these
matches have none. As long as no match leads backward there is such a place, and it is not before
the first one. This is so for a literal and for a pattern whose whole match counts. -/
theorem skipTrivia_forward [Pattern.CharacterNames] (cx : Context) (s : Session) (d : Declaration)
    (changes : Overrides) (at_ : Location) (hskip : cx.skip = some (s.declare d changes).1)
    (husable : d.Usable) (hchanges : changes.Narrows) (hat : at_ ≤ cx.src.size) :
    (∀ behind, cx.skipTrivia at_ = .ok behind ↔
      ∃ ranges, (s.declare d changes).1.Passes cx.src at_ ranges behind) ∧
    (∀ e, cx.skipTrivia at_ = .error e → e = .endless ∧
      ∀ ranges behind, ¬ (s.declare d changes).1.Passes cx.src at_ ranges behind) ∧
    ((s.declare d changes).1.Forward cx.src at_ →
      ∃ behind, cx.skipTrivia at_ = .ok behind ∧ at_ ≤ behind ∧ behind ≤ cx.src.size) ∧
    (d.strategy = .exact ∨ d.capture = 0 → (s.declare d changes).1.Forward cx.src at_) := by
  have hanswers := Kind.declare_answers husable s hchanges cx.src
  have hbounded := Kind.declare_bounded s d hchanges cx.src
  refine ⟨fun behind ↦ skipTrivia_eq_ok_iff hskip,
    fun e h ↦ skipTrivia_endless hskip hanswers h, ?_, ?_⟩
  · intro hforward
    obtain ⟨ranges, behind, hpasses, hle, hsize⟩ :=
      hforward.exists_passes hanswers hbounded hat
    exact ⟨behind, (skipTrivia_eq_ok_iff hskip).mpr ⟨ranges, hpasses⟩, hle, hsize⟩
  · intro hwhole place r _ _ hr
    exact (Kind.declare_anchored s hchanges cx.src hwhole).wellBehaved.le_stop hr

def blanksAhead : Declaration :=
  { name := "Blanks", strategy := .regex, pattern := "(?=( +))", capture := 1 }

def blanksAheadPattern : Pattern.Compiled where
  node := .cat (.ahead true (.cat (.group 1
    (.cat (.repetition .greedy 1 none (.test (.one 0x20 .exact))) .empty)) .empty)) .empty
  groups := 1

theorem compile_blanksAhead : Pattern.compile blanksAhead.pattern = .ok blanksAheadPattern := by
  have hread :
      (Pattern.Reader.alternatives (3 * blanksAhead.pattern.toList.length + 8) true true {}).run
      (.ofText blanksAhead.pattern.toList) = .ok (blanksAheadPattern.node,
        { rest := [], length := 8, dangling := false,
          widths := #[none, some ⟨1, Pattern.Width.limit⟩] }) := by cbv
  exact Pattern.compile_of_read hread (by decide) rfl rfl rfl rfl

theorem skipTrivia_forward_blanks :
    blanksAhead.Usable ∧
    (Session.declare {} blanksAhead {}).1.Forward #['a', ' ', ' ', 'b'] 1 ∧
    ∃ behind, skipTrivia
        { src := #['a', ' ', ' ', 'b'], skip := some (Session.declare {} blanksAhead {}).1 } 1 =
      .ok behind ∧ 1 ≤ behind ∧ behind ≤ 4 := by
  have husable : blanksAhead.Usable := fun _ ↦ ⟨_, compile_blanksAhead, by decide⟩
  have hforward : (Session.declare {} blanksAhead {}).1.Forward #['a', ' ', ' ', 'b'] 1 := by
    intro place r hfirst hlast hr
    rw [Kind.declare_tryMatch_eq _ rfl compile_blanksAhead (by decide) hlast] at hr
    have hall : ∀ place ≤ 4,
        ∀ r ∈ blanksAheadPattern.find 1 #['a', ' ', ' ', 'b'] place, place ≤ r.stop := by
      decide
    exact hall place hlast r (Except.ok.inj hr)
  exact ⟨husable, hforward, (skipTrivia_forward
    { src := #['a', ' ', ' ', 'b'], skip := some (Session.declare {} blanksAhead {}).1 }
    {} blanksAhead {} 1 rfl husable Overrides.narrows_empty (by decide)).2.2.1 hforward⟩

def stepBack : Declaration :=
  { name := "Back", strategy := .regex, pattern := "(?<=().)", capture := 1 }

def stepBackPattern : Pattern.Compiled where
  node := .cat (.behind true ⟨1, 1⟩
    (.cat (.group 1 .empty) (.cat (.test (.any false)) .empty))) .empty
  groups := 1

theorem compile_stepBack : Pattern.compile stepBack.pattern = .ok stepBackPattern := by
  have hread :
      (Pattern.Reader.alternatives (3 * stepBack.pattern.toList.length + 8) true true {}).run
      (.ofText stepBack.pattern.toList) = .ok (stepBackPattern.node,
        { rest := [], length := 8, dangling := false, widths := #[none, some ⟨0, 0⟩] }) := by cbv
  exact Pattern.compile_of_read hread (by decide) rfl rfl rfl rfl

def turnRound : Declaration :=
  { name := "Round", strategy := .regex, pattern := "(?<=(?=(..|)).)", capture := 1 }

def turnRoundPattern : Pattern.Compiled where
  node := .cat (.behind true ⟨1, 1⟩ (.cat (.ahead true (.cat (.group 1 (.alt
    (.cat (.test (.any false)) (.cat (.test (.any false)) .empty)) .empty)) .empty))
    (.cat (.test (.any false)) .empty))) .empty
  groups := 1

theorem compile_turnRound : Pattern.compile turnRound.pattern = .ok turnRoundPattern := by
  have hread :
      (Pattern.Reader.alternatives (3 * turnRound.pattern.toList.length + 8) true true {}).run
      (.ofText turnRound.pattern.toList) = .ok (turnRoundPattern.node,
        { rest := [], length := 15, dangling := false, widths := #[none, some ⟨0, 2⟩] }) := by cbv
  exact Pattern.compile_of_read hread (by decide) rfl rfl rfl rfl

/-- Trivia may lead back to the beginning of the source, and they may never end. -/
theorem skipTrivia_backward :
    Declaration.ofOptions "Back" { regex := some "(?<=().)", capture := some 1 } = .ok stepBack ∧
    Declaration.ofOptions "Round" { regex := some "(?<=(?=(..|)).)", capture := some 1 } =
      .ok turnRound ∧
    stepBack.Usable ∧ turnRound.Usable ∧
    skipTrivia { src := #['a', 'b'], skip := some (Session.declare {} stepBack {}).1 } 2 = .ok 0 ∧
    skipTrivia { src := #['a', 'b'], skip := some (Session.declare {} turnRound {}).1 } 1 =
      .error .endless := by
  have hback {at_ : Location} (hat : at_ ≤ 2) :
      (Session.declare {} stepBack {}).1.tryMatch #['a', 'b'] at_ =
        .ok (stepBackPattern.find 1 #['a', 'b'] at_) :=
    Kind.declare_tryMatch_eq {} rfl compile_stepBack (by decide) hat
  have hround {at_ : Location} (hat : at_ ≤ 2) :
      (Session.declare {} turnRound {}).1.tryMatch #['a', 'b'] at_ =
        .ok (turnRoundPattern.find 1 #['a', 'b'] at_) :=
    Kind.declare_tryMatch_eq {} rfl compile_turnRound (by decide) hat
  have husable : turnRound.Usable := fun _ ↦ ⟨_, compile_turnRound, by decide⟩
  refine ⟨by decide, by decide, fun _ ↦ ⟨_, compile_stepBack, by decide⟩, husable, ?_, ?_⟩
  · refine (skipTrivia_eq_ok_iff rfl).mpr ⟨[.empty 1, .empty 0], ?_⟩
    refine .hop ((hback (by decide)).trans rfl) (by decide) ?_
    refine .hop ((hback (by decide)).trans rfl) (by decide) ?_
    have hfirst : (Session.declare {} stepBack {}).1.tryMatch #['a', 'b'] 0 = .ok none :=
      (hback (by decide)).trans rfl
    exact .rest hfirst (by simp)
  · have hone : (Session.declare {} turnRound {}).1.tryMatch #['a', 'b'] 1 =
        .ok (some ⟨0, 2, by decide⟩) := (hround (by decide)).trans rfl
    have htwo : (Session.declare {} turnRound {}).1.tryMatch #['a', 'b'] 2 =
        .ok (some ⟨1, 1, by decide⟩) := (hround (by decide)).trans rfl
    have hgoesOn : ∀ place, place = 1 ∨ place = 2 →
        ∃ r, (Session.declare {} turnRound {}).1.tryMatch #['a', 'b'] place = .ok (some r) ∧
          r.stop ≠ place ∧ (r.stop = 1 ∨ r.stop = 2) := by
      rintro place (rfl | rfl)
      · exact ⟨_, hone, by decide, .inr rfl⟩
      · exact ⟨_, htwo, by decide, .inl rfl⟩
    cases hskip : skipTrivia
        { src := #['a', 'b'], skip := some (Session.declare {} turnRound {}).1 } 1 with
    | error e =>
      have hanswers := Kind.declare_answers husable {} Overrides.narrows_empty #['a', 'b']
      rw [(skipTrivia_endless rfl hanswers hskip).1]
    | ok behind =>
      obtain ⟨ranges, hpasses⟩ := (skipTrivia_eq_ok_iff rfl).mp hskip
      exact (hpasses.false_of_round hgoesOn (.inl rfl)).elim

end Context

end Tokenry
