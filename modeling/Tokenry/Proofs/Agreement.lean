import Tokenry.Proofs.Rule.March
import Tokenry.Proofs.Scan.Steps

namespace Tokenry

variable {k : Kind} {skip : Option Kind} {src : Source} {at_ : Location}

namespace Context

theorem skipTrivia_of_match {r : Range} (hr : k.tryMatch src at_ = .ok (some r))
    (hadv : at_ < r.stop) :
    ({ src, skip := some k } : Context).skipTrivia at_ =
      ({ src, skip := some k } : Context).skipTrivia r.stop := by
  simp only [skipTrivia, Kind.passOver_of_hop hr (Nat.ne_of_gt hadv)]

theorem skipTrivia_of_rests (hs : ∀ s ∈ skip, s.WellBehaved src)
    (hrests : ∀ s ∈ skip, s.Rests src at_) :
    ({ src, skip } : Context).skipTrivia at_ = .ok at_ := by
  cases skip with
  | none => rfl
  | some s =>
    obtain ⟨found, hfound, hmost⟩ := hrests s rfl
    have hstay : ∀ r ∈ found, r.stop = at_ := by
      rintro r rfl
      exact Nat.le_antisymm (hmost r rfl) ((hs s rfl).le_stop hfound)
    simp only [skipTrivia, Kind.passOver_of_rest hfound hstay, Option.getD_some]

end Context

theorem march_congr {at_' : Location} {kinds : List Kind} (hkinds : kinds ≠ [])
    (h : ({ src, skip } : Context).skipTrivia at_ = ({ src, skip } : Context).skipTrivia at_') :
    march skip src at_ kinds = march skip src at_' kinds := by
  cases kinds with
  | nil => exact absurd rfl hkinds
  | cons k kinds => simp only [march, h]

def Tree.tokens : Tree → List Token
  | .token t => [t]
  | .pair first second => first.tokens ++ second.tokens
  | .payload _ _ value => value.tokens
  | .node _ _ value => value.tokens
  | _ => []

namespace Production

/-- A production that reads tokens of some kinds in their order, paired in any shape. -/
inductive Nests : Production → List Kind → Prop
  | token (k : Kind) : Nests (.token k) [k]
  | pair {first second : Production} {kinds rest : List Kind} : Nests first kinds →
      Nests second rest → Nests (.pair first second) (kinds ++ rest)

variable {p : Production} {kinds : List Kind}

theorem Nests.total (h : p.Nests kinds) : p.Total := by
  induction h with
  | token => trivial
  | pair _ _ ih ih' => exact ⟨ih, ih'⟩

theorem Nests.leaves_eq (h : p.Nests kinds) : p.leaves = kinds := by
  induction h with
  | token => rfl
  | pair _ _ ih ih' => rw [leaves, ih, ih']

theorem Nests.tokens_eq (h : p.Nests kinds) {tokens : List Token} {q : Parsed}
    (hbuilds : p.Builds tokens q) : q.value.tokens = tokens := by
  induction h generalizing tokens q with
  | token =>
    cases hbuilds
    rfl
  | pair _ _ ih ih' =>
    cases hbuilds with
    | pair hfirst hsecond => rw [Tree.tokens, ih hfirst, ih' hsecond]

end Production

namespace Table

variable {t : Table}

/-- Flat reading of the kinds of the kept matches finds these matches again. -/
theorem Trail.march_eq {pieces : List Piece} {stop : Location}
    (h : Trail t skip src at_ pieces stop) (ht : ∀ k ∈ t.kinds, k.WellBehaved src)
    (hs : ∀ k ∈ skip, k.WellBehaved src)
    (hend : ∀ k ∈ skip, ∃ found, k.tryMatch src src.size = .ok found) (hat : at_ ≤ src.size)
    (hstop : src.size ≤ stop) :
    march skip src at_ ((keptTokens pieces).map (·.kind) ++ [.eof]) =
      .ok (keptTokens pieces ++ [⟨.eof, .empty stop⟩], stop) := by
  induction h with
  | here at_ =>
    obtain rfl : at_ = src.size := Nat.le_antisymm hat hstop
    -- only here does a parse look for trivia where a scan does not
    have hrests : ∀ s ∈ skip, s.Rests src src.size := by
      intro s hskip
      obtain ⟨found, hfound⟩ := hend s hskip
      refine ⟨found, hfound, ?_⟩
      rintro r rfl
      exact Nat.le_trans (hs s hskip _ _ hfound).2 (Nat.le_of_eq (Nat.max_self _))
    have heof : Kind.eof.tryMatch src src.size = .ok (some (.empty src.size)) :=
      Kind.eof_tryMatch.mpr ⟨Nat.le_refl _, rfl⟩
    exact march_cons_eq_ok_iff.mpr ⟨src.size, _, [], Context.skipTrivia_of_rests hs hrests,
      Kind.tokenAt_of_ok heof, rfl, rfl⟩
  | step hmove _ ih =>
    have hrest := ih (hmove.stop_le ht hs) hstop
    have hmatch := hmove.tryMatch_eq
    rw [keptTokens_cons]
    cases hmove with
    | trivia _ hk _ hadv =>
      subst hk
      have hbehind := Context.skipTrivia_of_match hmatch hadv
      exact (march_congr (by simp) hbehind).trans hrest
    | token _ hrests _ _ =>
      exact march_cons_eq_ok_iff.mpr ⟨_, _, _, Context.skipTrivia_of_rests hs hrests,
        Kind.tokenAt_of_ok hmatch, hrest, rfl⟩

/-- What a scan cuts a source into, a parse reads: however the kinds of the tokens are paired, the
parse succeeds and its value holds the tokens of the scan. The skip kind must give an answer at the
end of the source, where only the parse tries it. -/
theorem parse_of_scan (t : Table) (skip : Option Kind) (src : Source) (body : List Token)
    (last : Token) (p : Production) (ht : ∀ k ∈ t.kinds, k.WellBehaved src)
    (hs : ∀ k ∈ skip, k.WellBehaved src)
    (hend : ∀ k ∈ skip, ∃ found, k.tryMatch src src.size = .ok found)
    (hscan : t.scan skip src = .ok (body ++ [last])) (hp : p.Nests (body.map (·.kind))) :
    ∃ tree, (p.parse skip src).1 = .ok tree ∧ tree.tokens = body := by
  obtain ⟨pieces, stop, htrail, hsize, htokens⟩ := scanFrom_eq_ok_iff.mp hscan
  obtain ⟨rfl, -⟩ := List.append_inj' htokens rfl
  have hk : ∀ k ∈ p.leaves, k.WellBehaved src := by
    intro k hk
    rw [hp.leaves_eq] at hk
    obtain ⟨token, htoken, rfl⟩ := List.mem_map.mp hk
    obtain ⟨_, _, _, _, hfirst⟩ := htrail.isFirst_of_kept htoken
    exact ht _ hfirst.mem
  have hmarch := htrail.march_eq ht hs hend (Nat.zero_le _) hsize
  rw [← hp.leaves_eq] at hmarch
  rcases Production.parse_outcome hp.total hs hk with
    ⟨tree, tokens, place, range, hparse, hflat, hbuilds⟩ | ⟨e, -, hflat⟩
  · refine ⟨tree, hparse, ?_⟩
    obtain ⟨hsame, -⟩ := Prod.mk.inj (Except.ok.inj (hflat.symm.trans hmarch))
    obtain ⟨rfl, -⟩ := List.append_inj' hsame rfl
    exact hp.tokens_eq hbuilds
  · cases hflat.symm.trans hmarch

theorem longestRun_wellBehaved (chars : List Char) (id : Nat) (className : String) :
    (Kind.ofMatching id className none (longestRun chars) (.ok ())).WellBehaved src := by
  intro at_ r hr
  simp only [Kind.ofMatching, longestRun, Except.ok.injEq] at hr
  split at hr
  · cases hr
  · cases hr
    have hlength := (List.takeWhile_sublist chars.contains
      (l := (src.extract at_ src.size).toList)).length_le
    simp only [Array.length_toList, Array.size_extract, Nat.min_self] at hlength
    refine ⟨Nat.le_refl _, ?_⟩
    lia

theorem parse_of_scan_letters :
    (∀ k ∈ letterTable.kinds, k.WellBehaved #['a', ' ', 'b', ' ', 'a', ' ']) ∧
    letterTable.scan (some blanks) #['a', ' ', 'b', ' ', 'a', ' '] =
      .ok ([⟨letters, ⟨0, 1, by decide⟩⟩, ⟨letters, ⟨2, 3, by decide⟩⟩,
        ⟨letters, ⟨4, 5, by decide⟩⟩] ++ [⟨.eof, .empty 6⟩]) ∧
    ∃ tree, (Production.parse (.pair (.pair (.token letters) (.token letters)) (.token letters))
        (some blanks) #['a', ' ', 'b', ' ', 'a', ' ']).1 = .ok tree ∧
      tree.tokens = [⟨letters, ⟨0, 1, by decide⟩⟩, ⟨letters, ⟨2, 3, by decide⟩⟩,
        ⟨letters, ⟨4, 5, by decide⟩⟩] := by
  have ht : ∀ k ∈ letterTable.kinds, k.WellBehaved #['a', ' ', 'b', ' ', 'a', ' '] := by
    intro k hk
    rcases List.mem_pair.mp hk with rfl | rfl
    · exact longestRun_wellBehaved _ _ _
    · exact longestRun_wellBehaved _ _ _
  have hs : ∀ k ∈ some blanks, k.WellBehaved #['a', ' ', 'b', ' ', 'a', ' '] := by
    rintro k ⟨⟩
    exact longestRun_wellBehaved _ _ _
  have hscan : letterTable.scan (some blanks) #['a', ' ', 'b', ' ', 'a', ' '] =
      .ok ([⟨letters, ⟨0, 1, by decide⟩⟩, ⟨letters, ⟨2, 3, by decide⟩⟩,
        ⟨letters, ⟨4, 5, by decide⟩⟩] ++ [⟨.eof, .empty 6⟩]) := by
    cbv
  refine ⟨ht, hscan, parse_of_scan _ _ _ _ _ _ ht hs ?_ hscan ?_⟩
  · rintro k ⟨⟩
    exact ⟨_, rfl⟩
  · exact .pair (.pair (.token letters) (.token letters)) (.token letters)

end Table

end Tokenry
