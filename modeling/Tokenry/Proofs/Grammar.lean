import Tokenry.Grammar
import Tokenry.Proofs.Scan.Steps
import Tokenry.Proofs.Session

namespace Tokenry

variable {made : List Kind} {s : Session}

theorem Declaration.capture_nonneg {name : String} {o : Options} {d : Declaration}
    (h : ofOptions name o = .ok d) : 0 ≤ d.capture := by
  have hcheck {d' : Declaration} (hd : d'.check = .ok d) : 0 ≤ d.capture := by
    unfold check at hd
    split at hd
    · cases hd
    · next hnone =>
      cases hd
      unfold mistake? at hnone
      split at hnone
      · cases hnone
      · split at hnone
        · cases hnone
        · split at hnone
          · cases hnone
          · split at hnone
            · cases hnone
            · next hcapture => exact Int.not_lt.mp hcapture
  unfold ofOptions at h
  split at h
  · split at h
    · cases h
    · exact hcheck h
  · exact hcheck h
  · cases h

section Built

variable [Pattern.CharacterNames]

/-- A kind as a session makes it of a declaration that has been checked. -/
def Kind.DeclaredAs (k : Kind) (d : Declaration) : Prop :=
  ∃ (s : Session) (name : String) (o : Declaration.Options),
    Declaration.ofOptions name o = .ok d ∧ k = (s.declare d {}).1

def Kind.Ready (k : Kind) : Prop :=
  k.changes.prepare = none → ∀ d, k.declaration = some d → d.Usable

namespace Table

theorem extend_spec {t table : Table} {repeated again : List Kind} {kinds : List Kind}
    (hs : s.Sound made) (hkinds : ∀ k ∈ kinds, k ∈ made) (ht : ∀ k ∈ t.kinds, k ∈ made)
    (h : (extend s t repeated (kinds.map .kind)).1 = .ok (table, again)) :
    (∀ k ∈ table.kinds, k ∈ t.kinds ∨ k ∈ kinds ∧ k.Ready) ∧
      (∀ k, k ∈ t.kinds ∨ k ∈ kinds → k ∈ table.kinds) := by
  induction kinds generalizing s t repeated with
  | nil =>
    cases h
    exact ⟨fun k hk ↦ .inl hk, by simp⟩
  | cons k rest ih =>
    have hk : k ∈ made := hkinds k (.head _)
    have hrest : ∀ l ∈ rest, l ∈ made := fun l hl ↦ hkinds l (.tail _ hl)
    have hkind := hs.handleOf_kind hk
    have hs' := hs.handleOf hk
    rw [List.map_cons, extend] at h
    simp only [Session.resolve, Prod.map, id_eq, hkind] at h
    split at h
    · next hpresent =>
      -- the table compares identities, which tell the kinds of one session apart
      have hmem : k ∈ t.kinds := by
        obtain ⟨l, hl, hid⟩ := List.any_eq_true.mp hpresent
        obtain rfl := hs.eq_of_id (ht l hl) hk (beq_iff_eq.mp hid)
        exact hl
      obtain ⟨hnew, hall⟩ := ih hs' hrest ht h
      refine ⟨?_, ?_⟩
      · intro l hl
        exact (hnew l hl).imp_right fun ⟨hlisted, hready⟩ ↦ ⟨.tail _ hlisted, hready⟩
      · rintro l (hl | hl)
        · exact hall l (.inl hl)
        · rcases List.mem_cons.mp hl with rfl | hl
          · exact hall l (.inl hmem)
          · exact hall l (.inr hl)
    · split at h
      · cases h
      · next s'' hprepare =>
        have hready : k.Ready := by
          have hresult : ((s.handleOf k).2.prepare k).1 = .ok () := by rw [hprepare]
          exact fun hplain d hd ↦ hs'.usable_of_prepare hk hplain hresult hd
        have hs'' : s''.Sound made := by
          have hafter := hs'.prepare k
          rwa [hprepare] at hafter
        have hpushed {l : Kind} : l ∈ t.kinds ++ [k] ↔ l ∈ t.kinds ∨ l = k := by simp
        have ht' : ∀ l ∈ t.kinds ++ [k], l ∈ made := by
          intro l hl
          rcases hpushed.mp hl with hl | rfl
          · exact ht l hl
          · exact hk
        obtain ⟨hnew, hall⟩ := ih hs'' hrest ht' h
        refine ⟨?_, ?_⟩
        · intro l hl
          rcases hnew l hl with hl | ⟨hlisted, hlready⟩
          · rcases hpushed.mp hl with hl | rfl
            · exact .inl hl
            · exact .inr ⟨.head _, hready⟩
          · exact .inr ⟨.tail _ hlisted, hlready⟩
        · rintro l (hl | hl)
          · exact hall l (.inl (hpushed.mpr (.inl hl)))
          · rcases List.mem_cons.mp hl with rfl | hl
            · exact hall l (.inl (hpushed.mpr (.inr rfl)))
            · exact hall l (.inr hl)

end Table

namespace Grammar

theorem defineAll_spec {tokens : List TokenConfig} {kinds : List (String × Kind)}
    (hs : s.History made) (h : (defineAll s tokens).1 = .ok kinds) :
    ∃ made', (defineAll s tokens).2.History made' ∧ (∀ k ∈ made, k ∈ made') ∧
      ∀ entry ∈ kinds, entry.2 ∈ made' ∧ ∃ d, entry.2.DeclaredAs d := by
  induction tokens generalizing s made kinds with
  | nil =>
    cases h
    exact ⟨made, hs, fun k hk ↦ hk, by simp⟩
  | cons t rest ih =>
    cases hd : t.declaration with
    | error e =>
      simp only [defineAll, hd] at h
      cases h
    | ok d =>
      simp only [defineAll, hd] at h ⊢
      cases hlater : (defineAll (s.declare d {}).2 rest).1 with
      | error e =>
        rw [hlater] at h
        cases h
      | ok later =>
        rw [hlater] at h
        cases h
        obtain ⟨made', hs', hkept, hdeclared⟩ := ih (hs.declare d {}) hlater
        refine ⟨made', hs', fun k hk ↦ hkept k (.tail _ hk), ?_⟩
        intro entry hentry
        rcases List.mem_cons.mp hentry with rfl | hentry
        · exact ⟨hkept _ (.head _), d, s, t.name, _, hd, rfl⟩
        · exact hdeclared entry hentry

omit [Pattern.CharacterNames] in
theorem skip_mem {kinds : List (String × Kind)} {name : Option String} {skip : Option Kind}
    (h : skipKind kinds name = .ok skip) : ∀ k ∈ skip, k ∈ kinds.map (·.2) := by
  rintro k hk
  cases name with
  | none =>
    cases h
    cases hk
  | some name =>
    unfold skipKind at h
    simp only at h
    split at h
    · next found hlookup =>
      cases h
      cases hk
      obtain ⟨before, after, rfl, -⟩ := List.lookup_eq_some_iff.mp hlookup
      simp
    · cases h

/-- The kinds that a grammar tries have been declared, and their declarations can be used. -/
theorem build_spec {c : Config} {g : Grammar} (hs : s.History made)
    (hg : (build s c).1 = .ok g) :
    ∀ k, k ∈ g.table.kinds ∨ k ∈ g.skip → ∃ d, k.DeclaredAs d ∧ d.Usable := by
  unfold build at hg
  split at hg
  · cases hg
  · next kinds s₁ hdefine =>
    obtain ⟨made', hs₁, -, hdeclared⟩ := defineAll_spec hs (congrArg Prod.fst hdefine)
    rw [hdefine] at hs₁
    split at hg
    · cases hg
    · next table again s₂ hbuild =>
      have hlist : kinds.map (fun entry ↦ Candidate.kind entry.2) =
          (kinds.map (·.2)).map .kind := by simp
      rw [hlist] at hbuild
      have hmade : ∀ k ∈ kinds.map (·.2), k ∈ made' := by
        intro k hk
        obtain ⟨entry, hentry, rfl⟩ := List.mem_map.mp hk
        exact (hdeclared entry hentry).1
      obtain ⟨hnew, hall⟩ := Table.extend_spec hs₁.sound hmade (by simp [Table.empty])
        (congrArg Prod.fst hbuild)
      cases hskip : skipKind kinds c.skip with
      | error e =>
        rw [hskip] at hg
        cases hg
      | ok skip =>
        rw [hskip] at hg
        cases hg
        intro k hk
        -- the skip kind was listed like the others, so the table has it
        have hmem : k ∈ table.kinds := hk.elim id fun hk ↦ hall k (.inr (skip_mem hskip k hk))
        rcases hnew k hmem with habsurd | ⟨hlisted, hready⟩
        · cases habsurd
        · obtain ⟨entry, hentry, rfl⟩ := List.mem_map.mp hlisted
          obtain ⟨-, d, hd⟩ := hdeclared entry hentry
          refine ⟨d, hd, ?_⟩
          obtain ⟨s₀, name, o, -, hkind⟩ := hd
          refine hready ?_ d ?_
          · rw [hkind, Kind.declare_changes]
          · rw [hkind, Kind.declare_declaration]

/-- A grammar that has been built, in whatever session, scans every source or reports a place where
nothing matches; nothing else goes wrong. Each kind that it tries gives an answer everywhere, which
stays inside the source, and asks its pattern for a group that the pattern has; and where the scan
leaves the source, the end of the source matches. -/
theorem scan_of_build (made : List Kind) (s : Session) (c : Config) (g : Grammar)
    (hs : s.History made) (hg : (build s c).1 = .ok g) (src : Source) :
    ((∃ body last, g.scan src = .ok (body ++ [last]) ∧
        Kind.eof.tokenAt src src.size = .ok (some last)) ∨
      ∃ at_ expected, g.scan src = .error (.unexpected at_ expected)) ∧
    ∀ k, k ∈ g.table.kinds ∨ k ∈ g.skip →
      (∀ at_, ∃ found, k.tryMatch src at_ = .ok found ∧ ∀ r ∈ found, r.stop ≤ src.size) ∧
      ∃ d, k.declaration = some d ∧ 0 ≤ d.capture ∧ d.Usable := by
  have hspec := build_spec hs hg
  have hanswers (k : Kind) (hk : k ∈ g.table.kinds ∨ k ∈ g.skip) : k.Answers src := by
    obtain ⟨d, ⟨s₀, name, o, -, rfl⟩, husable⟩ := hspec k hk
    exact Kind.declare_answers husable s₀ Overrides.narrows_empty src
  have hbounded (k : Kind) (hk : k ∈ g.table.kinds ∨ k ∈ g.skip) : k.Bounded src := by
    obtain ⟨d, ⟨s₀, name, o, -, rfl⟩, -⟩ := hspec k hk
    exact Kind.declare_bounded s₀ d Overrides.narrows_empty src
  constructor
  · cases hscan : g.scan src with
    | ok tokens =>
      obtain ⟨pieces, stop, htrail, hsize, rfl⟩ := Table.scanFrom_eq_ok_iff.mp hscan
      have hstop := htrail.stop_le_of_bounded (fun k hk ↦ hbounded k (.inl hk))
        (fun k hk ↦ hbounded k (.inr hk)) (Nat.zero_le _)
      obtain rfl : stop = src.size := Nat.le_antisymm hstop hsize
      have heof := Kind.eof_tryMatch.mpr ⟨Nat.le_refl src.size, rfl⟩
      exact .inl ⟨_, _, rfl, Kind.tokenAt_of_ok heof⟩
    | error e =>
      obtain ⟨pieces, place, -, -, rfl⟩ := Table.scanFrom_error (fun k hk ↦ hanswers k (.inl hk))
        (fun k hk ↦ hanswers k (.inr hk)) hscan
      exact .inr ⟨place, _, rfl⟩
  · intro k hk
    obtain ⟨d, ⟨s₀, name, o, hd, rfl⟩, husable⟩ := hspec k hk
    refine ⟨?_, d, Kind.declare_declaration s₀ d {}, Declaration.capture_nonneg hd, husable⟩
    intro at_
    obtain ⟨found, hfound⟩ := hanswers _ hk at_
    refine ⟨found, hfound, ?_⟩
    rintro r rfl
    exact Kind.declare_stop_le Overrides.narrows_empty hfound

end Grammar

end Built

namespace Grammar

def wordConfig : Config where
  tokens := [{ name := "Space", regex := some "( +)", capture := some 1 },
    { name := "Word", exact := some "let" }]
  skip := some "Space"

theorem scan_of_build_words : ∃ g, Session.History [.eof] {} ∧
    (build {} wordConfig).1 = .ok g ∧ g.skip.isSome = true ∧ g.table.size = 2 ∧
    ((∃ body last, g.scan #['l', 'e', 't', ' ', '?'] = .ok (body ++ [last]) ∧
        Kind.eof.tokenAt #['l', 'e', 't', ' ', '?'] 5 = .ok (some last)) ∨
      ∃ at_ expected, g.scan #['l', 'e', 't', ' ', '?'] = .error (.unexpected at_ expected)) := by
  have hbuilt : ((build {} wordConfig).1.map fun g ↦ (g.skip.isSome, g.table.size)) =
      .ok (true, 2) := by cbv
  cases hg : (build {} wordConfig).1 with
  | error e =>
    rw [hg] at hbuilt
    cases hbuilt
  | ok g =>
    rw [hg] at hbuilt
    obtain ⟨hskip, hsize⟩ := Prod.mk.inj (Except.ok.inj hbuilt)
    exact ⟨g, .start, rfl, hskip, hsize, (scan_of_build _ _ _ g .start hg _).1⟩

end Grammar

end Tokenry
