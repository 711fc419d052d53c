import Tokenry.Proofs.Trivia
import Tokenry.Rule.Production

namespace Tokenry

namespace Kind

variable {k : Kind} {src : Source} {at_ behind : Location} {ranges : List Range}

theorem WellBehaved.le_of_passes (hk : k.WellBehaved src) (h : k.Passes src at_ ranges behind) :
    at_ ≤ behind ∧ behind ≤ max at_ src.size := by
  induction h with
  | rest => exact ⟨Nat.le_refl _, Nat.le_max_left _ _⟩
  | hop hr _ _ ih =>
    have hstop := hk.le_stop hr
    have hmost := (hk _ _ hr).2
    lia

/-- Trivia come to an end: a match that does not stay where it is leads forward, and none leads out
of the source. -/
theorem WellBehaved.passOver_ends (hk : k.WellBehaved src) (at_ : Location) :
    k.passOver src at_ ≠ none := by
  induction hleft : src.size - at_ using Nat.strongRecOn generalizing at_ with
  | ind left ih =>
    rw [passOver]
    split
    · simp
    · simp
    · next token htoken =>
      obtain ⟨hmatch, -⟩ := tryMatch_of_tokenAt htoken
      have hstop := hk.le_stop hmatch
      have hmost := (hk _ _ hmatch).2
      split
      · simp
      · exact ih _ (by lia) token.range.stop rfl

end Kind

namespace Context

variable {cx : Context} {at_ behind : Location}

theorem skipTrivia_le (hs : ∀ k ∈ cx.skip, k.WellBehaved cx.src)
    (h : cx.skipTrivia at_ = .ok behind) : at_ ≤ behind ∧ behind ≤ max at_ cx.src.size := by
  cases hskip : cx.skip with
  | none =>
    simp only [skipTrivia, hskip] at h
    cases h
    exact ⟨Nat.le_refl _, Nat.le_max_left _ _⟩
  | some k =>
    obtain ⟨ranges, hpasses⟩ := (skipTrivia_eq_ok_iff hskip).mp h
    exact (hs k hskip).le_of_passes hpasses

theorem skipTrivia_ends (hs : ∀ k ∈ cx.skip, k.WellBehaved cx.src) (at_ : Location) :
    cx.skipTrivia at_ ≠ .error .endless := by
  unfold skipTrivia
  split
  · simp
  · next k hk =>
    obtain ⟨result, hresult⟩ := Option.ne_none_iff_exists'.mp ((hs k hk).passOver_ends at_)
    rw [hresult, Option.getD_some]
    rcases Kind.passOver_spec hresult with ⟨_, _, -, rfl⟩ | ⟨_, _, -, rfl⟩ <;> simp

end Context

/-- Flat reading: the kinds of a list one behind the other, each behind the trivia that are there.
It gives the tokens and the place behind the last of them. -/
def march (skip : Option Kind) (src : Source) :
    Location → List Kind → Except ParseError (List Token × Location)
  | at_, [] => .ok ([], at_)
  | at_, k :: rest =>
    match ({ src, skip } : Context).skipTrivia at_ with
    | .error e => .error (.failed e)
    | .ok behind =>
      match k.tokenAt src behind with
      | .error e => .error (.failed (.failed e))
      | .ok none => .error (.unexpected behind [k])
      | .ok (some token) =>
        (march skip src token.range.stop rest).map fun (tokens, stop) ↦ (token :: tokens, stop)

section March

variable {skip : Option Kind} {src : Source} {at_ stop : Location} {kinds rest : List Kind}
  {tokens : List Token}

theorem march_append : march skip src at_ (kinds ++ rest) =
    (march skip src at_ kinds).bind fun (tokens, stop) ↦
      (march skip src stop rest).map fun (more, stop) ↦ (tokens ++ more, stop) := by
  induction kinds generalizing at_ with
  | nil =>
    simp only [List.nil_append, march, Except.bind]
    cases march skip src at_ rest <;> rfl
  | cons k kinds ih =>
    simp only [List.cons_append, march]
    split
    · rfl
    · split
      · rfl
      · rfl
      · next token _ =>
        rw [ih]
        cases march skip src token.range.stop kinds with
        | error e => rfl
        | ok first =>
          simp only [Except.bind, Except.map]
          cases march skip src first.2 rest <;> rfl

theorem march_append_ok (h : march skip src at_ (kinds ++ rest) = .ok (tokens, stop)) :
    ∃ first more place, march skip src at_ kinds = .ok (first, place) ∧
      march skip src place rest = .ok (more, stop) ∧ tokens = first ++ more := by
  rw [march_append] at h
  cases hfirst : march skip src at_ kinds with
  | error e =>
    rw [hfirst] at h
    cases h
  | ok read =>
    obtain ⟨first, place⟩ := read
    rw [hfirst] at h
    simp only [Except.bind] at h
    cases hmore : march skip src place rest with
    | error e =>
      rw [hmore] at h
      cases h
    | ok read =>
      obtain ⟨more, last⟩ := read
      rw [hmore] at h
      cases h
      exact ⟨first, more, place, rfl, hmore, rfl⟩

theorem march_cons_eq_ok_iff {k : Kind} : march skip src at_ (k :: kinds) = .ok (tokens, stop) ↔
    ∃ behind token more, ({ src, skip } : Context).skipTrivia at_ = .ok behind ∧
      k.tokenAt src behind = .ok (some token) ∧
      march skip src token.range.stop kinds = .ok (more, stop) ∧ tokens = token :: more := by
  constructor
  · intro h
    rw [march] at h
    split at h
    · cases h
    · next behind hbehind =>
      split at h
      · cases h
      · cases h
      · next token htoken =>
        cases hmore : march skip src token.range.stop kinds with
        | error e =>
          rw [hmore] at h
          cases h
        | ok more =>
          rw [hmore] at h
          cases h
          exact ⟨behind, token, more.1, hbehind, htoken, hmore, rfl⟩
  · rintro ⟨behind, token, more, hbehind, htoken, hmore, rfl⟩
    simp only [march, hbehind, htoken, hmore, Except.map]

theorem march_le (hs : ∀ k ∈ skip, k.WellBehaved src) (hk : ∀ k ∈ kinds, k.WellBehaved src)
    (h : march skip src at_ kinds = .ok (tokens, stop)) : at_ ≤ stop := by
  induction kinds generalizing at_ tokens with
  | nil =>
    cases h
    exact Nat.le_refl _
  | cons k kinds ih =>
    obtain ⟨behind, token, more, hbehind, htoken, hmore, -⟩ := march_cons_eq_ok_iff.mp h
    obtain ⟨hmatch, -⟩ := Kind.tryMatch_of_tokenAt htoken
    calc at_ ≤ behind := (Context.skipTrivia_le hs hbehind).1
      _ ≤ token.range.stop := (hk k (.head _)).le_stop hmatch
      _ ≤ stop := ih (fun l hl ↦ hk l (.tail _ hl)) hmore

theorem march_error {e : ParseError} (h : march skip src at_ kinds = .error e) :
    (∃ place cause, ({ src, skip } : Context).skipTrivia place = .error cause ∧ e = .failed cause) ∨
    ∃ place, ∃ k ∈ kinds,
      (∃ cause, k.tokenAt src place = .error cause ∧ e = .failed (.failed cause)) ∨
      (k.tokenAt src place = .ok none ∧ e = .unexpected place [k]) := by
  induction kinds generalizing at_ with
  | nil => cases h
  | cons k kinds ih =>
    rw [march] at h
    split at h
    · next cause hcause =>
      cases h
      exact .inl ⟨at_, cause, hcause, rfl⟩
    · next behind _ =>
      split at h
      · next cause hcause =>
        cases h
        exact .inr ⟨behind, k, .head _, .inl ⟨cause, hcause, rfl⟩⟩
      · next hnone =>
        cases h
        exact .inr ⟨behind, k, .head _, .inr ⟨hnone, rfl⟩⟩
      · next token _ =>
        cases hmore : march skip src token.range.stop kinds with
        | ok more =>
          rw [hmore] at h
          cases h
        | error e' =>
          rw [hmore] at h
          cases h
          rcases ih hmore with hskip | ⟨place, l, hl, hlast⟩
          · exact .inl hskip
          · exact .inr ⟨place, l, .tail _ hl, hlast⟩

theorem march_ne_endless (hs : ∀ k ∈ skip, k.WellBehaved src) :
    march skip src at_ kinds ≠ .error (.failed .endless) := by
  intro h
  rcases march_error h with ⟨place, cause, hcause, he⟩ | ⟨_, _, _, ⟨_, _, he⟩ | ⟨_, he⟩⟩
  · cases he
    exact Context.skipTrivia_ends hs place hcause
  · cases he
  · cases he

theorem march_unexpected {place : Location} {expected : List Kind}
    (h : march skip src at_ kinds = .error (.unexpected place expected)) :
    ∃ k ∈ kinds, expected = [k] ∧ k.tryMatch src place = .ok none := by
  rcases march_error h with ⟨_, _, _, he⟩ | ⟨_, k, hk, ⟨_, _, he⟩ | ⟨hnone, he⟩⟩
  · cases he
  · cases he
  · cases he
    exact ⟨k, hk, rfl, (Kind.tryMatch_of_tokenAt hnone).1⟩

end March

namespace Context

def Alike (cx cx' : Context) : Prop := ∃ consulted, cx' = { cx with consulted }

variable {cx cx' cx'' : Context}

theorem Alike.trans (h : cx.Alike cx') (h' : cx'.Alike cx'') : cx.Alike cx'' := by
  obtain ⟨_, rfl⟩ := h
  obtain ⟨consulted, rfl⟩ := h'
  exact ⟨consulted, rfl⟩

theorem Alike.miss (h : cx.Alike cx') (k : Kind) (at_ : Location) :
    (cx.miss k at_).Alike (cx'.miss k at_) := by
  obtain ⟨consulted, rfl⟩ := h
  refine ⟨consulted, ?_⟩
  unfold Context.miss
  split
  · rfl
  · split <;> rfl

theorem alike_consult (cx : Context) (at_ : Location) (k : Kind) (behind : Location) :
    cx.Alike ((cx.consultSkip at_).consult k behind) := by
  unfold consultSkip
  split <;> exact ⟨_, rfl⟩

/-- How reading from a context ends, told by flat reading: with something made of the tokens, with
the one failure more that is recorded, or with an error. -/
inductive Follows {α : Type} (reads : List Token → α → Prop) (stop : α → Location) (cx : Context) :
    Except ParseError (List Token × Location) → Except RuleError (Option α) × Context → Prop
  | read {tokens : List Token} {a : α} {cx' : Context} : reads tokens a → cx.Alike cx' →
      Follows reads stop cx (.ok (tokens, stop a)) (.ok (some a), cx')
  | missed {place : Location} {k : Kind} {cx' : Context} : (cx.miss k place).Alike cx' →
      Follows reads stop cx (.error (.unexpected place [k])) (.ok none, cx')
  | failed {cause : RuleError} {cx' : Context} :
      Follows reads stop cx (.error (.failed cause)) (.error cause, cx')

theorem lex_follows (cx : Context) (k : Kind) (at_ : Location) :
    Follows (fun tokens t ↦ tokens = [t] ∧ t.kind = k ∧
        ∃ place, k.tryMatch cx.src place = .ok (some t.range))
      (·.range.stop) cx (march cx.skip cx.src at_ [k]) (cx.lex k at_) := by
  have hskip : ({ src := cx.src, skip := cx.skip } : Context).skipTrivia at_ =
      cx.skipTrivia at_ := rfl
  simp only [march, lex, hskip]
  cases cx.skipTrivia at_ with
  | error e => exact .failed
  | ok behind =>
    obtain ⟨consulted, hcx⟩ := cx.alike_consult at_ k behind
    simp only [hcx]
    cases htoken : k.tokenAt cx.src behind with
    | error e => exact .failed
    | ok found =>
      cases found with
      | none => exact .missed (Alike.miss ⟨consulted, rfl⟩ k behind)
      | some token =>
        obtain ⟨hmatch, hkind⟩ := Kind.tryMatch_of_tokenAt htoken
        exact .read ⟨rfl, hkind token rfl, behind, hmatch⟩ ⟨consulted, rfl⟩

theorem error_of_miss {skip : Option Kind} {src : Source} {k : Kind} {place : Location}
    {cx : Context} (h : (miss { src, skip } k place).Alike cx) :
    cx.error = .unexpected place [k] := by
  obtain ⟨consulted, rfl⟩ := h
  unfold miss
  split
  · rfl
  · next hplace =>
    obtain rfl : place = 0 := Nat.eq_zero_of_not_pos hplace
    rfl

end Context

namespace Production

/-- The kinds of the tokens that a production reads, from left to right. -/
def leaves : Production → List Kind
  | .token k => [k]
  | .discard inner => inner.leaves
  | .pair first second => first.leaves ++ second.leaves
  | .build _ inner => (inner ()).leaves
  | .refuse _ => []

/-- A production that can be used and whose conversions always succeed. -/
def Total : Production → Prop
  | .token _ => True
  | .discard inner => inner.Total
  | .pair first second => first.Total ∧ second.Total
  | .build convert inner =>
    (∀ value range, ∃ tree, convert value range = .ok tree) ∧ (inner ()).Total
  | .refuse _ => False

/-- What a production makes of the tokens at its leaves. -/
inductive Builds : Production → List Token → Parsed → Prop
  | token {k : Kind} {t : Token} : t.kind = k → Builds (.token k) [t] ⟨.token t, t.range⟩
  | discard {inner : Production} {tokens : List Token} {p : Parsed} : Builds inner tokens p →
      Builds (.discard inner) tokens ⟨.nothing, p.range⟩
  | pair {first second : Production} {tokens more : List Token} {p q : Parsed} :
      Builds first tokens p → Builds second more q →
      Builds (.pair first second) (tokens ++ more) ⟨.pair p.value q.value, p.range.join q.range⟩
  | build {convert : Conversion} {inner : Unit → Production} {tokens : List Token} {p : Parsed}
      {tree : Tree} : Builds (inner ()) tokens p → convert p.value p.range = .ok tree →
      Builds (.build convert inner) tokens ⟨tree, p.range⟩

theorem Builds.map_kind {p : Production} {tokens : List Token} {q : Parsed}
    (h : p.Builds tokens q) : tokens.map (·.kind) = p.leaves := by
  induction h with
  | token ht => exact congrArg (fun k ↦ [k]) ht
  | discard _ ih => exact ih
  | pair _ _ ih ih' => rw [List.map_append, ih, ih', leaves]
  | build _ _ ih => exact ih

theorem Builds.unique {p : Production} {tokens tokens' : List Token} {q q' : Parsed}
    (h : p.Builds tokens q) (h' : p.Builds tokens' q') (he : tokens = tokens') : q = q' := by
  induction h generalizing tokens' q' with
  | token _ =>
    cases h' with
    | token _ =>
      cases he
      rfl
  | discard _ ih =>
    cases h' with
    | discard h' => rw [ih h' he]
  | pair h₁ h₂ ih₁ ih₂ =>
    cases h' with
    | pair h₁' h₂' =>
      have hlength := congrArg List.length (h₁.map_kind.trans h₁'.map_kind.symm)
      simp only [List.length_map] at hlength
      obtain ⟨he₁, he₂⟩ := List.append_inj he hlength
      rw [ih₁ h₁' he₁, ih₂ h₂' he₂]
  | build _ htree ih =>
    cases h' with
    | build h' htree' =>
      obtain rfl := ih h' he
      cases htree.symm.trans htree'
      rfl

theorem run_follows (p : Production) (hp : p.Total) (cx : Context) (at_ : Location)
    (hs : ∀ k ∈ cx.skip, k.WellBehaved cx.src) (hk : ∀ k ∈ p.leaves, k.WellBehaved cx.src) :
    cx.Follows p.Builds (·.range.stop) (march cx.skip cx.src at_ p.leaves) (p.run cx at_) := by
  induction p generalizing cx at_ with
  | token k =>
    have h := cx.lex_follows k at_
    simp only [leaves, run]
    generalize march cx.skip cx.src at_ [k] = flat at h
    generalize cx.lex k at_ = result at h
    cases h with
    | read hread hcx =>
      obtain ⟨rfl, hkind, -⟩ := hread
      exact .read (Builds.token hkind) hcx
    | missed hcx => exact .missed hcx
    | failed => exact .failed
  | discard inner ih =>
    have h := ih hp cx at_ hs hk
    simp only [leaves, run]
    generalize march cx.skip cx.src at_ inner.leaves = flat at h
    generalize inner.run cx at_ = result at h
    cases h with
    | read hbuilds hcx => exact .read hbuilds.discard hcx
    | missed hcx => exact .missed hcx
    | failed => exact .failed
  | pair first second ihfirst ihsecond =>
    have hfirst := ihfirst hp.1 cx at_ hs (fun k hl ↦ hk k (List.mem_append_left _ hl))
    have hk' : ∀ k ∈ second.leaves, k.WellBehaved cx.src :=
      fun k hl ↦ hk k (List.mem_append_right _ hl)
    simp only [leaves, run, march_append]
    generalize march cx.skip cx.src at_ first.leaves = flat at hfirst
    generalize first.run cx at_ = result at hfirst
    cases hfirst with
    | @read tokens left _ hbuilds hcx =>
      obtain ⟨consulted, rfl⟩ := hcx
      have hsecond := ihsecond hp.2 { cx with consulted } left.range.stop hs hk'
      simp only [Except.bind]
      generalize hflat : march cx.skip cx.src left.range.stop second.leaves = flat at hsecond
      generalize second.run { cx with consulted } left.range.stop = result at hsecond
      cases hsecond with
      | @read more right cx' hbuilds' hcx =>
        -- the second production ends last, so the joined range ends where it does
        have hstop : (left.range.join right.range).stop = right.range.stop :=
          Nat.max_eq_right (march_le hs hk' hflat)
        simp only [Except.map]
        rw [← hstop]
        exact .read (hbuilds.pair hbuilds') (Context.Alike.trans ⟨consulted, rfl⟩ hcx)
      | @missed place k _ hcx =>
        exact .missed ((Context.Alike.miss ⟨consulted, rfl⟩ k place).trans hcx)
      | failed => exact .failed
    | missed hcx => exact .missed hcx
    | failed => exact .failed
  | build convert inner ih =>
    have h := ih () hp.2 cx at_ hs hk
    simp only [leaves, run]
    generalize march cx.skip cx.src at_ (inner ()).leaves = flat at h
    generalize (inner ()).run cx at_ = result at h
    cases h with
    | @read _ parsed _ hbuilds hcx =>
      obtain ⟨tree, htree⟩ := hp.1 parsed.value parsed.range
      simp only [htree]
      exact .read (hbuilds.build htree) hcx
    | missed hcx => exact .missed hcx
    | failed => exact .failed
  | refuse cause => exact hp.elim

/-- The outcome of a parse, told by the flat reading of its leaves and of the end of the source. -/
structure ParsesFlat (p : Production) (skip : Option Kind) (src : Source) : Prop where
  value_iff : ∀ tree, (p.parse skip src).1 = .ok tree ↔ ∃ tokens place range,
    march skip src 0 (p.leaves ++ [.eof]) = .ok (tokens ++ [⟨.eof, .empty place⟩], place) ∧
    p.Builds tokens ⟨tree, range⟩
  error_iff : ∀ e, (p.parse skip src).1 = .error e ↔
    march skip src 0 (p.leaves ++ [.eof]) = .error e
  expected_single : ∀ place expected, (p.parse skip src).1 = .error (.unexpected place expected) →
    ∃ k ∈ p.leaves ++ [.eof], expected = [k] ∧ k.tryMatch src place = .ok none
  ends : (p.parse skip src).1 ≠ .error (.failed .endless)

theorem parse_outcome {p : Production} (hp : p.Total) {skip : Option Kind} {src : Source}
    (hs : ∀ k ∈ skip, k.WellBehaved src) (hk : ∀ k ∈ p.leaves, k.WellBehaved src) :
    (∃ tree tokens place range, (p.parse skip src).1 = .ok tree ∧
      march skip src 0 (p.leaves ++ [.eof]) = .ok (tokens ++ [⟨.eof, .empty place⟩], place) ∧
      p.Builds tokens ⟨tree, range⟩) ∨
    ∃ e, (p.parse skip src).1 = .error e ∧ march skip src 0 (p.leaves ++ [.eof]) = .error e := by
  have h := run_follows p hp { src, skip } 0 hs hk
  simp only [march_append, parse]
  generalize march skip src 0 p.leaves = flat at h
  generalize p.run { src, skip } 0 = result at h
  cases h with
  | @read tokens parsed cx' hbuilds hcx =>
    obtain ⟨consulted, rfl⟩ := hcx
    have hend := Context.lex_follows { src, skip, consulted } .eof parsed.range.stop
    simp only [Except.bind] at hend ⊢
    generalize march skip src parsed.range.stop [.eof] = flat at hend
    generalize Context.lex { src, skip, consulted } .eof parsed.range.stop = result at hend
    cases hend with
    | @read _ token cx' hread hcx =>
      obtain ⟨rfl, hkind, place, hmatch⟩ := hread
      obtain ⟨-, hrange⟩ := Kind.eof_tryMatch.mp hmatch
      obtain ⟨k, range⟩ := token
      obtain rfl : k = .eof := hkind
      obtain rfl : range = .empty place := hrange
      exact .inl ⟨parsed.value, tokens, place, parsed.range, rfl, rfl, hbuilds⟩
    | @missed place k cx' hcx =>
      have halike : (Context.miss { src, skip } k place).Alike cx' :=
        (Context.Alike.miss ⟨consulted, rfl⟩ k place).trans hcx
      exact .inr ⟨_, rfl, congrArg Except.error (Context.error_of_miss halike).symm⟩
    | failed => exact .inr ⟨_, rfl, rfl⟩
  | @missed place k cx' hcx =>
    exact .inr ⟨_, rfl, congrArg Except.error (Context.error_of_miss hcx).symm⟩
  | failed => exact .inr ⟨_, rfl, rfl⟩

theorem parses_flat {p : Production} (hp : p.Total) {skip : Option Kind} {src : Source}
    (hs : ∀ k ∈ skip, k.WellBehaved src) (hk : ∀ k ∈ p.leaves, k.WellBehaved src) :
    p.ParsesFlat skip src := by
  have herror (e : ParseError) : (p.parse skip src).1 = .error e ↔
      march skip src 0 (p.leaves ++ [.eof]) = .error e := by
    rcases parse_outcome hp hs hk with ⟨tree, tokens, place, range, hparse, hmarch, -⟩ |
      ⟨e', hparse, hmarch⟩
    · simp [hparse, hmarch]
    · simp [hparse, hmarch]
  refine ⟨fun tree ↦ ?_, herror, fun place expected h ↦ march_unexpected ((herror _).mp h),
    fun h ↦ march_ne_endless hs ((herror _).mp h)⟩
  rcases parse_outcome hp hs hk with ⟨tree', tokens', place', range', hparse, hmarch, hbuilds'⟩ |
    ⟨e, hparse, hmarch⟩
  · constructor
    · intro h
      cases hparse.symm.trans h
      exact ⟨tokens', place', range', hmarch, hbuilds'⟩
    · rintro ⟨tokens, place, range, hmarch', hbuilds⟩
      rw [hmarch, Except.ok.injEq, Prod.mk.injEq] at hmarch'
      have htokens := (List.append_inj' hmarch'.1 rfl).1
      cases hbuilds'.unique hbuilds htokens
      exact hparse
  · simp [hparse, hmarch]

end Production

end Tokenry
