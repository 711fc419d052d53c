import Mathlib.Data.List.Basic
import Mathlib.Data.Nat.Find
import Tokenry.Proofs.Attempt
import Tokenry.Proofs.Rule.March
import Tokenry.Rule.Book

namespace Tokenry.Book

/-- The term that a kind or a rule stands for: a marker is its token, the end of the source drops
it, a payload comes behind a token that is dropped, and a rule is what its definition says. -/
inductive Opens (book : Book) : Callee → Term → Prop
  | marker {k : Kind} : k.form = .marker → Opens book (.kind k) (.token k)
  | ending {k : Kind} : k.form = .ending → Opens book (.kind k) (.discard (.token k))
  | payload {k : Kind} {payload : RuleLike} {t : Term} : k.form = .payload →
      book.payload? k = some payload → payload.toTerm = .ok t →
      Opens book (.kind k) (.pair (.discard (.token k)) t)
  | rule {definition : RuleDefinition} {expr : RuleExpr} {rule : RuleLike} {t : Term} :
      definition.inner = some expr → definition.converts = true → book.resolve expr = .ok rule →
      rule.toTerm = .ok t → Opens book (.rule definition) t

/-- The kinds that a term reads, from left to right. Only a term whose callees come to an end has
them. -/
inductive Reads (book : Book) : Term → List Kind → Prop
  | token (k : Kind) : Reads book (.token k) [k]
  | discard {inner : Term} {kinds : List Kind} : Reads book inner kinds →
      Reads book (.discard inner) kinds
  | pair {first second : Term} {kinds rest : List Kind} : Reads book first kinds →
      Reads book second rest → Reads book (.pair first second) (kinds ++ rest)
  | call {c : Callee} {t : Term} {kinds : List Kind} : Opens book c t → Reads book t kinds →
      Reads book (.call c) kinds

inductive ReadsIn (book : Book) : Nat → Term → List Kind → Prop
  | token (n : Nat) (k : Kind) : ReadsIn book n (.token k) [k]
  | discard {n : Nat} {inner : Term} {kinds : List Kind} : ReadsIn book n inner kinds →
      ReadsIn book n (.discard inner) kinds
  | pair {n : Nat} {first second : Term} {kinds rest : List Kind} : ReadsIn book n first kinds →
      ReadsIn book n second rest → ReadsIn book n (.pair first second) (kinds ++ rest)
  | call {n : Nat} {c : Callee} {t : Term} {kinds : List Kind} : Opens book c t →
      ReadsIn book n t kinds → ReadsIn book (n + 1) (.call c) kinds

variable {book : Book} {c : Callee} {t t' : Term} {kinds kinds' : List Kind} {n m : Nat}

theorem Opens.unique (h : book.Opens c t) (h' : book.Opens c t') : t = t' := by
  cases h <;> cases h' <;> simp_all

theorem Reads.unique (h : book.Reads t kinds) (h' : book.Reads t kinds') : kinds = kinds' := by
  induction h generalizing kinds' with
  | token k =>
    cases h'
    rfl
  | discard _ ih =>
    cases h' with
    | discard h' => exact ih h'
  | pair _ _ ih₁ ih₂ =>
    cases h' with
    | pair h₁ h₂ => rw [ih₁ h₁, ih₂ h₂]
  | call hopens _ ih =>
    cases h' with
    | call hopens' h' =>
      obtain rfl := hopens.unique hopens'
      exact ih h'

theorem ReadsIn.reads (h : book.ReadsIn n t kinds) : book.Reads t kinds := by
  induction h with
  | token n k => exact .token k
  | discard _ ih => exact .discard ih
  | pair _ _ ih₁ ih₂ => exact .pair ih₁ ih₂
  | call hopens _ ih => exact .call hopens ih

theorem ReadsIn.mono (h : book.ReadsIn n t kinds) (hn : n ≤ m) : book.ReadsIn m t kinds := by
  induction h generalizing m with
  | token n k => exact .token m k
  | discard _ ih => exact .discard (ih hn)
  | pair _ _ ih₁ ih₂ => exact .pair (ih₁ hn) (ih₂ hn)
  | call hopens _ ih =>
    cases m with
    | zero => omega
    | succ m => exact .call hopens (ih (by omega))

theorem Reads.exists_readsIn (h : book.Reads t kinds) : ∃ n, book.ReadsIn n t kinds := by
  induction h with
  | token k => exact ⟨0, .token 0 k⟩
  | discard _ ih =>
    obtain ⟨n, h⟩ := ih
    exact ⟨n, .discard h⟩
  | pair _ _ ih₁ ih₂ =>
    obtain ⟨n, h₁⟩ := ih₁
    obtain ⟨m, h₂⟩ := ih₂
    exact ⟨max n m, .pair (h₁.mono (Nat.le_max_left n m)) (h₂.mono (Nat.le_max_right n m))⟩
  | call hopens _ ih =>
    obtain ⟨n, h⟩ := ih
    exact ⟨n + 1, .call hopens h⟩

/-- A term whose callees come to an end within one call more than `n`, and not within `n`. -/
def Tall (book : Book) (n : Nat) (t : Term) : Prop :=
  (∃ kinds, book.ReadsIn (n + 1) t kinds) ∧ ∀ kinds, ¬ book.ReadsIn n t kinds

theorem Tall.unique (h : book.Tall n t) (h' : book.Tall m t) : n = m := by
  obtain ⟨⟨kinds, hn⟩, hnot⟩ := h
  obtain ⟨⟨kinds', hm⟩, hnot'⟩ := h'
  rcases Nat.lt_trichotomy n m with hlt | heq | hlt
  · exact absurd (hn.mono hlt) (hnot' kinds)
  · exact heq
  · exact absurd (hm.mono hlt) (hnot kinds')

theorem Tall.exists_callee (h : book.Tall n t) : ∃ c ∈ t.callees, book.Tall n (.call c) := by
  induction t with
  | token k => exact absurd (.token n k) (h.2 [k])
  | discard inner ih =>
    obtain ⟨⟨kinds, hin⟩, hnot⟩ := h
    cases hin with
    | discard hin => exact ih ⟨⟨kinds, hin⟩, fun kinds hinner ↦ hnot kinds hinner.discard⟩
  | pair first second ihfirst ihsecond =>
    obtain ⟨⟨_, hin⟩, hnot⟩ := h
    cases hin with
    | @pair _ _ _ kinds rest hfirst hsecond =>
      by_cases hshort : ∃ kinds, book.ReadsIn n first kinds
      · obtain ⟨kinds, hshort⟩ := hshort
        have htall : book.Tall n second := ⟨⟨rest, hsecond⟩, fun _ h ↦ hnot _ (hshort.pair h)⟩
        obtain ⟨c, hc, hcall⟩ := ihsecond htall
        exact ⟨c, List.mem_append_right _ hc, hcall⟩
      · have htall : book.Tall n first := ⟨⟨kinds, hfirst⟩, fun kinds h ↦ hshort ⟨kinds, h⟩⟩
        obtain ⟨c, hc, hcall⟩ := ihfirst htall
        exact ⟨c, List.mem_append_left _ hc, hcall⟩
  | call c => exact ⟨c, .head _, h⟩

theorem callee_mem_of_subject {name : String} {subject : Subject}
    (h : book.subject name = .ok subject) : subject.callee ∈ book.bindings.map (·.2.callee) := by
  unfold Book.subject at h
  split at h
  · next found hfound =>
    cases h
    obtain ⟨before, after, hbindings, -⟩ := List.lookup_eq_some_iff.mp hfound
    rw [hbindings]
    simp
  · cases h

/-- What a reference means where a rule is wanted: something bound that can be called, a handle, or
something foreign. -/
theorem ruleLike_cases {reference : Reference} {rule : RuleLike}
    (h : book.ruleLike reference = .ok rule) :
    (∃ k, rule = .kind k ∧ .kind k ∈ book.bindings.map (·.2.callee)) ∨
    (∃ definition, rule = .rule definition ∧ .rule definition ∈ book.bindings.map (·.2.callee)) ∨
    (∃ handle, rule = .handle handle) ∨ ∃ thing, rule = .foreign thing := by
  cases reference with
  | named name =>
    obtain ⟨subject, hsubject, h⟩ := bind_eq_ok_iff.mp h
    have hmem := callee_mem_of_subject hsubject
    cases subject with
    | kind k =>
      cases h
      exact .inl ⟨k, rfl, hmem⟩
    | rule definition =>
      cases h
      exact .inr (.inl ⟨definition, rfl, hmem⟩)
  | handle name | fresh name =>
    obtain ⟨subject, -, h⟩ := bind_eq_ok_iff.mp h
    cases subject with
    | kind k =>
      cases h
      exact .inr (.inr (.inl ⟨_, rfl⟩))
    | rule definition => cases h
  | «foreign» thing =>
    cases h
    exact .inr (.inr (.inr ⟨thing, rfl⟩))

theorem resolve_callees {expr : RuleExpr} {rule : RuleLike} (h : book.resolve expr = .ok rule)
    (ht : rule.toTerm = .ok t) : ∀ c ∈ t.callees, c ∈ book.bindings.map (·.2.callee) := by
  induction expr generalizing rule t with
  | reference reference =>
    rcases ruleLike_cases h with ⟨k, rfl, hmem⟩ | ⟨definition, rfl, hmem⟩ | ⟨handle, rfl⟩ |
      ⟨thing, rfl⟩
    · cases ht
      split
      · simp [Term.callees]
      · exact List.forall_mem_singleton.mpr hmem
    · cases ht
      exact List.forall_mem_singleton.mpr hmem
    · cases ht
      simp [Term.callees]
    · cases ht
  | token reference =>
    obtain ⟨k, -, h⟩ := bind_eq_ok_iff.mp h
    cases h
    cases ht
    simp [Term.callees]
  | discard inner ih =>
    obtain ⟨rule', hrule, h⟩ := bind_eq_ok_iff.mp h
    obtain ⟨t', ht', h⟩ := bind_eq_ok_iff.mp h
    cases h
    cases ht
    intro c hc
    exact ih hrule ht' c hc
  | pair first second ihfirst ihsecond =>
    obtain ⟨rule₁, hrule₁, h⟩ := bind_eq_ok_iff.mp h
    obtain ⟨t₁, ht₁, h⟩ := bind_eq_ok_iff.mp h
    obtain ⟨rule₂, hrule₂, h⟩ := bind_eq_ok_iff.mp h
    obtain ⟨t₂, ht₂, h⟩ := bind_eq_ok_iff.mp h
    cases h
    cases ht
    intro c hc
    rcases List.mem_append.mp hc with hc | hc
    · exact ihfirst hrule₁ ht₁ c hc
    · exact ihsecond hrule₂ ht₂ c hc
  | call reference =>
    obtain ⟨named, hnamed, h⟩ := bind_eq_ok_iff.mp h
    rcases ruleLike_cases hnamed with ⟨k, rfl, hmem⟩ | ⟨definition, rfl, hmem⟩ | ⟨handle, rfl⟩ |
      ⟨thing, rfl⟩
    · cases h
      cases ht
      exact List.forall_mem_singleton.mpr hmem
    · cases h
      cases ht
      exact List.forall_mem_singleton.mpr hmem
    · obtain ⟨t', ht', h⟩ := bind_eq_ok_iff.mp h
      cases ht'
      cases h
      cases ht
      simp [Term.callees]
    · obtain ⟨t', ht', h⟩ := bind_eq_ok_iff.mp h
      cases ht'

theorem Opens.callees_mem (h : book.Opens c t) : ∀ d ∈ t.callees, d ∈ book.callees := by
  cases h with
  | marker => simp [Term.callees]
  | ending => simp [Term.callees]
  | @payload k payload t _ hpayload ht =>
    obtain ⟨before, after, hpayloads, -⟩ := List.lookup_eq_some_iff.mp hpayload
    intro d hd
    have hd : d ∈ payload.callees := by simpa [RuleLike.callees, ht, Term.callees] using hd
    refine List.mem_append_right _ (List.mem_flatMap.mpr ⟨(k.id, payload), ?_, hd⟩)
    rw [hpayloads]
    simp
  | rule _ _ hresolve ht =>
    intro d hd
    exact List.mem_append_left _ (resolve_callees hresolve ht d hd)

theorem Tall.exists_callee_below (h : book.Tall n t) :
    ∀ m < n, ∃ c ∈ book.callees, book.Tall m (.call c) := by
  induction n generalizing t with
  | zero => simp
  | succ n ih =>
    obtain ⟨c, -, ⟨kinds, hin⟩, hnot⟩ := h.exists_callee
    cases hin with
    | @call _ _ inner _ hopens hin =>
      have htall : book.Tall n inner :=
        ⟨⟨kinds, hin⟩, fun kinds hshort ↦ hnot kinds (.call hopens hshort)⟩
      obtain ⟨d, hd, hcall⟩ := htall.exists_callee
      intro m hm
      rcases Nat.lt_or_eq_of_le (Nat.le_of_lt_succ hm) with hlt | rfl
      · exact ih htall m hlt
      · exact ⟨d, hopens.callees_mem d hd, hcall⟩

/-- Each height below that of a term is the height of a callee of the book, and different heights
need different callees. -/
theorem Tall.le_length (h : book.Tall n t) : n ≤ book.callees.length := by
  classical
  let height (c : Callee) : Nat := if hc : ∃ m, book.Tall m (.call c) then hc.choose else 0
  have hsub : List.range n ⊆ book.callees.map height := by
    intro m hm
    obtain ⟨c, hc, htall⟩ := h.exists_callee_below m (List.mem_range.mp hm)
    have hex : ∃ m, book.Tall m (.call c) := ⟨m, htall⟩
    refine List.mem_map.mpr ⟨c, hc, ?_⟩
    simp only [height, dif_pos hex]
    exact hex.choose_spec.unique htall
  simpa using List.nodup_range.length_le_of_subset hsub

theorem Reads.readsIn_length (h : book.Reads t kinds) :
    book.ReadsIn (book.callees.length + 1) t kinds := by
  classical
  have hex : ∃ n, ∃ kinds, book.ReadsIn n t kinds := by
    obtain ⟨n, hn⟩ := h.exists_readsIn
    exact ⟨n, kinds, hn⟩
  obtain ⟨kinds', hleast⟩ := Nat.find_spec hex
  obtain rfl := h.unique hleast.reads
  refine hleast.mono ?_
  cases hn : Nat.find hex with
  | zero => exact Nat.zero_le _
  | succ n =>
    have htall : book.Tall n t :=
      ⟨⟨kinds, hn ▸ hleast⟩, fun kinds' h' ↦ Nat.find_min hex (by omega) ⟨kinds', h'⟩⟩
    exact Nat.succ_le_succ htall.le_length

theorem Opens.inner_eq (h : book.Opens c t) (callee : Callee → Production) :
    book.inner callee c = .ok (t.unfold callee) := by
  cases h with
  | marker hform => simp only [inner, hform, Term.unfold]
  | ending hform => simp only [inner, hform, Term.unfold]
  | payload hform hpayload ht =>
    simp only [inner, hform, hpayload, ht, Term.unfold]
    rfl
  | rule hinner _ hresolve ht =>
    simp only [inner, hinner, hresolve]
    change (do return (← RuleLike.toTerm _).unfold callee) = _
    rw [ht]
    rfl

theorem Opens.conversion_total (h : book.Opens c t) (value : Tree) (range : Range) :
    ∃ tree, conversion c value range = .ok tree := by
  cases h with
  | marker | ending | payload =>
    simp only [conversion]
    split <;> exact ⟨_, rfl⟩
  | rule _ hconverts _ _ =>
    simp only [conversion, hconverts, if_true]
    exact ⟨_, rfl⟩

theorem ReadsIn.unfold_spec (h : book.ReadsIn n t kinds) :
    (t.unfold (book.unfold n)).Total ∧ (t.unfold (book.unfold n)).leaves = kinds := by
  induction h with
  | token => exact ⟨trivial, rfl⟩
  | discard _ ih => exact ih
  | pair _ _ ih₁ ih₂ =>
    refine ⟨⟨ih₁.1, ih₂.1⟩, ?_⟩
    rw [Term.unfold, Production.leaves, ih₁.2, ih₂.2]
  | call hopens _ ih =>
    simp only [Term.unfold, Book.unfold, Production.Total, Production.leaves, hopens.inner_eq]
    exact ⟨⟨hopens.conversion_total, ih.1⟩, ih.2⟩

theorem production_spec {rule : RuleLike} (ht : rule.toTerm = .ok t) (h : book.Reads t kinds)
    (src : Source) : ∃ p, book.production src rule = .ok p ∧ p.Total ∧ p.leaves = kinds := by
  have hdepth : book.callees.length + 1 ≤ (book.callees.length + 1) * (src.size + 2) :=
    Nat.le_mul_of_pos_right _ (by omega)
  refine ⟨_, ?_, (h.readsIn_length.mono hdepth).unfold_spec⟩
  unfold production
  rw [ht]
  rfl

/-- However a rule is nested, parsing with it is the flat reading of the kinds at its leaves and of
the end of the source. This is so for every production whose conversions succeed, and the rules of a
book that come to an end have such productions. -/
theorem rule_parses_flat (kinds : List Kind) (skip : Option Kind) (src : Source)
    (hk : ∀ k ∈ kinds, k.WellBehaved src) (hs : ∀ k ∈ skip, k.WellBehaved src) :
    (∀ p : Production, p.Total → p.leaves = kinds → p.ParsesFlat skip src) ∧
    ∀ (book : Book) (rule : RuleLike) (t : Term), rule.toTerm = .ok t → book.Reads t kinds →
      ∃ p, book.production src rule = .ok p ∧ p.Total ∧ p.leaves = kinds ∧
        p.ParsesFlat skip src := by
  have hflat : ∀ p : Production, p.Total → p.leaves = kinds → p.ParsesFlat skip src := by
    rintro p hp rfl
    exact Production.parses_flat hp hs hk
  refine ⟨hflat, ?_⟩
  intro book rule t ht hreads
  obtain ⟨p, hproduction, hp, hleaves⟩ := production_spec ht hreads src
  exact ⟨p, hproduction, hp, hleaves, hflat p hp hleaves⟩

def digits : Kind :=
  (Session.declare {} { name := "Digits", strategy := .regex, pattern := "[0-9]+" } {}).1

def sign : Kind :=
  (Session.declare { nextKind := 2 }
    { name := "Sign", strategy := .exact, pattern := "-", carriesPayload := true } {}).1

def signBook : Book := { payloads := [(2, .kind digits)] }

theorem rule_parses_flat_sign :
    (∀ k ∈ [sign, digits], k.WellBehaved #['-', '7']) ∧
    signBook.Reads (.call (.kind sign)) [sign, digits] ∧
    ∃ p, signBook.production #['-', '7'] (.kind sign) = .ok p ∧ p.leaves = [sign, digits] ∧
      p.ParsesFlat none #['-', '7'] := by
  have hdigits : digits.DeclaredWhole :=
    ⟨_, "Digits", { regex := some "[0-9]+" }, _, {}, Overrides.narrows_empty, by decide, rfl, rfl⟩
  have hsign : sign.DeclaredWhole :=
    ⟨_, "Sign", { exact := some "-", carriesPayload := true }, _, {}, Overrides.narrows_empty,
      by decide, rfl, rfl⟩
  have hk : ∀ k ∈ [sign, digits], k.WellBehaved #['-', '7'] := by
    intro k hk
    rcases List.mem_pair.mp hk with rfl | rfl
    · exact (hsign.anchored _).wellBehaved
    · exact (hdigits.anchored _).wellBehaved
  have hreads : signBook.Reads (.call (.kind sign)) [sign, digits] :=
    .call (.payload rfl rfl rfl)
      (.pair (.discard (.token sign)) (.call (.marker rfl) (.token digits)))
  obtain ⟨p, hproduction, -, hleaves, hflat⟩ :=
    (rule_parses_flat _ none _ hk (by simp)).2 signBook (.kind sign) _ rfl hreads
  exact ⟨hk, hreads, p, hproduction, hleaves, hflat⟩

end Tokenry.Book
