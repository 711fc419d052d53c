import Tokenry.Proofs.Location
import Tokenry.Proofs.Rule.Unfolding
import Tokenry.Proofs.Trivia

namespace Tokenry

variable {skip : Option Kind} {src : Source} {at_ behind stop : Location}

/-- The matches of the skip kind that are passed over from one place to another; without a skip kind
there are none. -/
def Skipped (skip : Option Kind) (src : Source) (at_ : Location) (trivia : List Range)
    (behind : Location) : Prop :=
  match skip with
  | none => trivia = [] ∧ behind = at_
  | some k => k.Passes src at_ trivia behind

theorem Context.skipped_of_skipTrivia {cx : Context} (h : cx.skipTrivia at_ = .ok behind) :
    ∃ trivia, Skipped cx.skip cx.src at_ trivia behind := by
  cases hskip : cx.skip with
  | none =>
    simp only [Context.skipTrivia, hskip] at h
    cases h
    exact ⟨[], rfl, rfl⟩
  | some k => exact (Context.skipTrivia_eq_ok_iff hskip).mp h

/-- A token and the trivia in front of it. -/
structure Stretch where
  trivia : List Range
  token : Token

def Stretch.ranges (s : Stretch) : List Range := s.trivia ++ [s.token.range]

/-- Tokens in a row, each read behind the trivia that are passed over from where the one before it
ended. -/
inductive Walk (skip : Option Kind) (src : Source) : Location → List Stretch → Location → Prop
  | here (at_ : Location) : Walk skip src at_ [] at_
  | step {at_ behind stop : Location} {s : Stretch} {rest : List Stretch} :
      Skipped skip src at_ s.trivia behind →
      s.token.kind.tryMatch src behind = .ok (some s.token.range) →
      Walk skip src s.token.range.stop rest stop → Walk skip src at_ (s :: rest) stop

theorem walk_of_march {kinds : List Kind} {tokens : List Token}
    (h : march skip src at_ kinds = .ok (tokens, stop)) :
    ∃ stretches, Walk skip src at_ stretches stop ∧ stretches.map (·.token) = tokens := by
  induction kinds generalizing at_ tokens with
  | nil =>
    cases h
    exact ⟨[], .here _, rfl⟩
  | cons k kinds ih =>
    obtain ⟨behind, token, more, hbehind, htoken, hmore, rfl⟩ := march_cons_eq_ok_iff.mp h
    obtain ⟨trivia, hskipped⟩ := Context.skipped_of_skipTrivia hbehind
    obtain ⟨hmatch, hkind⟩ := Kind.tryMatch_of_tokenAt htoken
    obtain rfl := hkind token rfl
    obtain ⟨stretches, hwalk, rfl⟩ := ih hmore
    exact ⟨⟨trivia, token⟩ :: stretches, .step hskipped hmatch hwalk, rfl⟩

/-- What a successful parse has read: the tokens that its value is made of, each behind its trivia,
and the trivia in front of the end. Their ranges stand one right behind the other from the first
place to the end of the source, and each character belongs to one of them only. -/
def Production.ReadsAll (p : Production) (skip : Option Kind) (src : Source) : Prop :=
  ∀ tree, (p.parse skip src).1 = .ok tree → ∃ stretches trailing place range,
    p.Builds (stretches.map (·.token)) ⟨tree, range⟩ ∧
    Walk skip src 0 stretches place ∧ Skipped skip src place trailing src.size ∧
    Range.Tiles 0 (stretches.flatMap (·.ranges) ++ trailing) src.size ∧
    ∀ i < src.size, ∃! index : Nat, ∃ r : Range,
      (stretches.flatMap (·.ranges) ++ trailing)[index]? = some r ∧ r.start ≤ i ∧ i < r.stop

theorem march_eof {tokens : List Token} (h : march skip src at_ [.eof] = .ok (tokens, stop)) :
    src.size ≤ stop ∧ tokens.length = 1 ∧ ∃ trivia, Skipped skip src at_ trivia stop := by
  obtain ⟨behind, token, more, hbehind, htoken, hmore, rfl⟩ := march_cons_eq_ok_iff.mp h
  obtain ⟨hend, hrange⟩ := Kind.eof_tryMatch.mp (Kind.tryMatch_of_tokenAt htoken).1
  have hstop : token.range.stop = behind := congrArg Range.stop hrange
  rw [hstop] at hmore
  cases hmore
  exact ⟨hend, rfl, Context.skipped_of_skipTrivia hbehind⟩

section Whole

variable [Pattern.CharacterNames]

namespace Kind

/-- A kind of whole matches: a literal, a pattern without a capture group, or the end of the
source. -/
def Whole (k : Kind) : Prop := k.DeclaredWhole ∨ k = .eof

variable {k : Kind}

theorem Whole.match_spec (h : k.Whole) (hat : at_ ≤ src.size) {r : Range}
    (hr : k.tryMatch src at_ = .ok (some r)) : r.start = at_ ∧ r.stop ≤ src.size := by
  rcases h with h | rfl
  · exact h.anchored src at_ r hr
  · obtain ⟨-, rfl⟩ := eof_tryMatch.mp hr
    exact ⟨rfl, hat⟩

theorem Whole.wellBehaved (h : k.Whole) (src : Source) : k.WellBehaved src := by
  rcases h with h | rfl
  · exact (h.anchored src).wellBehaved
  · intro at_ r hr
    obtain ⟨-, rfl⟩ := eof_tryMatch.mp hr
    exact ⟨Nat.le_refl _, Nat.le_max_left _ _⟩

theorem Passes.tiles {ranges : List Range} (h : k.Passes src at_ ranges behind) (hk : k.Whole)
    (hat : at_ ≤ src.size) : Range.Tiles at_ ranges behind ∧ behind ≤ src.size := by
  induction h with
  | rest => exact ⟨rfl, hat⟩
  | hop hr _ _ ih =>
    obtain ⟨hstart, hstop⟩ := hk.match_spec hat hr
    obtain ⟨htiles, hbehind⟩ := ih hstop
    exact ⟨⟨hstart, htiles⟩, hbehind⟩

end Kind

theorem Skipped.tiles {trivia : List Range} (h : Skipped skip src at_ trivia behind)
    (hs : ∀ k ∈ skip, k.Whole) (hat : at_ ≤ src.size) :
    Range.Tiles at_ trivia behind ∧ behind ≤ src.size := by
  cases skip with
  | none =>
    obtain ⟨rfl, rfl⟩ := h
    exact ⟨rfl, hat⟩
  | some k => exact Kind.Passes.tiles h (hs k rfl) hat

theorem Walk.tiles {stretches : List Stretch} (h : Walk skip src at_ stretches stop)
    (hs : ∀ k ∈ skip, k.Whole) (hk : ∀ s ∈ stretches, s.token.kind.Whole) (hat : at_ ≤ src.size) :
    Range.Tiles at_ (stretches.flatMap (·.ranges)) stop ∧ stop ≤ src.size := by
  induction h with
  | here => exact ⟨rfl, hat⟩
  | step hskipped hmatch _ ih =>
    obtain ⟨htrivia, hbehind⟩ := hskipped.tiles hs hat
    obtain ⟨hstart, hstop⟩ := (hk _ (.head _)).match_spec hbehind hmatch
    obtain ⟨hrest, hsize⟩ := ih (fun s hmem ↦ hk s (.tail _ hmem)) hstop
    refine ⟨?_, hsize⟩
    have htoken : Range.Tiles _ [_] _ := ⟨hstart, rfl⟩
    rw [List.flatMap_cons]
    exact (htrivia.append htoken).append hrest

theorem Production.readsAll {p : Production} (hp : p.Total) (hk : ∀ k ∈ p.leaves, k.Whole)
    (hs : ∀ k ∈ skip, k.Whole) : p.ReadsAll skip src := by
  intro tree hparse
  have hflat := parses_flat hp (fun k hmem ↦ (hs k hmem).wellBehaved src)
    (fun k hmem ↦ (hk k hmem).wellBehaved src)
  obtain ⟨tokens, stop, range, hmarch, hbuilds⟩ := (hflat.value_iff tree).mp hparse
  obtain ⟨first, more, place, hfirst, hmore, happend⟩ := march_append_ok hmarch
  obtain ⟨hend, hlength, trailing, hskipped⟩ := march_eof hmore
  obtain ⟨rfl, -⟩ := List.append_inj' happend hlength.symm
  obtain ⟨stretches, hwalk, rfl⟩ := walk_of_march hfirst
  have hwhole : ∀ s ∈ stretches, s.token.kind.Whole := by
    intro s hmem
    have hleaf : s.token.kind ∈ p.leaves := by
      rw [← hbuilds.map_kind, List.map_map]
      exact List.mem_map_of_mem hmem
    exact hk _ hleaf
  obtain ⟨htiles, hplace⟩ := hwalk.tiles hs hwhole (Nat.zero_le _)
  obtain ⟨htrailing, hsize⟩ := hskipped.tiles hs hplace
  obtain rfl : stop = src.size := Nat.le_antisymm hsize hend
  have hall := htiles.append htrailing
  exact ⟨stretches, trailing, place, range, hbuilds, hwalk, hskipped, hall,
    fun i hi ↦ hall.existsUnique_covering (Nat.zero_le i) hi⟩

namespace Book

/-- A parse over kinds of whole matches, with a skip kind of that sort or none, never ignores a part
of the source. This is so for every production whose conversions succeed, and for the rules of a
book that come to an end. -/
theorem rule_reads_all (kinds : List Kind) (skip : Option Kind) (src : Source)
    (hk : ∀ k ∈ kinds, k.Whole) (hs : ∀ k ∈ skip, k.Whole) :
    (∀ p : Production, p.Total → p.leaves = kinds → p.ReadsAll skip src) ∧
    ∀ (book : Book) (rule : RuleLike) (t : Term), rule.toTerm = .ok t → book.Reads t kinds →
      ∃ p, book.production src rule = .ok p ∧ p.leaves = kinds ∧ p.ReadsAll skip src := by
  refine ⟨?_, ?_⟩
  · rintro p hp rfl
    exact Production.readsAll hp hk hs
  · intro book rule t ht hreads
    obtain ⟨p, hproduction, hp, rfl⟩ := production_spec ht hreads src
    exact ⟨p, hproduction, rfl, Production.readsAll hp hk hs⟩

end Book

end Whole

namespace Book

def blank : Kind :=
  (Session.declare { nextKind := 3 } { name := "Blank", strategy := .exact, pattern := " " } {}).1

theorem rule_reads_all_sign :
    (∀ k ∈ [sign, digits], k.Whole) ∧ blank.Whole ∧
    ∃ p, signBook.production #['-', ' ', '7', ' '] (.kind sign) = .ok p ∧
      (p.parse (some blank) #['-', ' ', '7', ' ']).1 =
        .ok (.payload sign ⟨0, 3, by decide⟩ (.marker digits ⟨2, 3, by decide⟩)) ∧
      p.ReadsAll (some blank) #['-', ' ', '7', ' '] := by
  have hdigits : digits.DeclaredWhole :=
    ⟨_, "Digits", { regex := some "[0-9]+" }, _, {}, Overrides.narrows_empty, by decide, rfl, rfl⟩
  have hsign : sign.DeclaredWhole :=
    ⟨_, "Sign", { exact := some "-", carriesPayload := true }, _, {}, Overrides.narrows_empty,
      by decide, rfl, rfl⟩
  have hblank : blank.DeclaredWhole :=
    ⟨_, "Blank", { exact := some " " }, _, {}, Overrides.narrows_empty, by decide, rfl, rfl⟩
  have hk : ∀ k ∈ [sign, digits], k.Whole := by
    intro k hk
    rcases List.mem_pair.mp hk with rfl | rfl
    · exact .inl hsign
    · exact .inl hdigits
  have hs : ∀ k ∈ some blank, k.Whole := by
    rintro k ⟨⟩
    exact .inl hblank
  have hreads : signBook.Reads (.call (.kind sign)) [sign, digits] :=
    .call (.payload rfl rfl rfl)
      (.pair (.discard (.token sign)) (.call (.marker rfl) (.token digits)))
  obtain ⟨p, hproduction, -, hall⟩ :=
    (rule_reads_all _ (some blank) #['-', ' ', '7', ' '] hk hs).2 signBook (.kind sign) _ rfl hreads
  refine ⟨hk, .inl hblank, p, hproduction, ?_, hall⟩
  obtain rfl := Except.ok.inj hproduction
  cbv

end Book

end Tokenry
