import Mathlib
import Tokenry.Proofs.Grammar
import Tokenry.Proofs.Session.Patterns

namespace Tokenry

inductive Agree {ε α β : Type} (E : ε → ε → Prop) (R : α → β → Prop) :
    Except ε α → Except ε β → Prop
  | ok {a : α} {b : β} : R a b → Agree E R (.ok a) (.ok b)
  | error {e e' : ε} : E e e' → Agree E R (.error e) (.error e')

section Counterparts

variable [Pattern.CharacterNames]

namespace Kind

/-- Two kinds that come from one declaration, the one as long after a first kind as the other. -/
def Counterpart (first first' : Nat) (k k' : Kind) : Prop :=
  ∃ (d : Declaration) (s s' : Session), k = (s.declare d {}).1 ∧ k' = (s'.declare d {}).1 ∧
    s.nextKind + first' = s'.nextKind + first

variable {first first' : Nat} {k k' l l' : Kind}

theorem Counterpart.looks_eq (h : Counterpart first first' k k') :
    k.displayName = k'.displayName ∧ k.tryMatch = k'.tryMatch ∧ k.debug = k'.debug ∧
      k.display = k'.display := by
  obtain ⟨d, s, s', rfl, rfl, -⟩ := h
  cases hd : d.strategy <;> simp [Session.declare, hd, override, ofDeclaration]

theorem Counterpart.beq_eq (h : Counterpart first first' k k')
    (h' : Counterpart first first' l l') : (k == l) = (k' == l') := by
  obtain ⟨d, s, s', rfl, rfl, hnext⟩ := h
  obtain ⟨e, t, t', rfl, rfl, hnext'⟩ := h'
  rw [Bool.eq_iff_iff, beq_iff_id_eq, beq_iff_id_eq, (s.declare_makes d {}).id_eq,
    (s'.declare_makes d {}).id_eq, (t.declare_makes e {}).id_eq, (t'.declare_makes e {}).id_eq]
  omega

end Kind

namespace Session

variable {kinds kinds' : List Kind} {s s' : Session} {k : Kind}

theorem declare_tryMatch_of_regex {d : Declaration} (hd : d.strategy = .regex) (s : Session) :
    (s.declare d {}).1.tryMatch =
      Pattern.matchWith (Pattern.compileFor d.pattern d.capture.toNat) d.capture.toNat := by
  simp [Session.declare, hd, Kind.override, Kind.ofDeclaration]

theorem Reliable.prepare_eq (h : Reliable kinds s) {d : Declaration} {s₀ : Session}
    (hk : (s₀.declare d {}).1 ∈ kinds) :
    (s.prepare (s₀.declare d {}).1).1 =
      match d.strategy with
      | .exact => .ok ()
      | .regex => (Pattern.compileFor d.pattern d.capture.toNat).map fun _ ↦ () := by
  cases hd : d.strategy with
  | exact =>
    simp [Session.prepare, Session.declare, hd, Kind.override, Kind.ofDeclaration, Session.catchUp]
  | regex =>
    obtain ⟨index, waiting, hindex, hwaiting, htext, hcapture⟩ :=
      h.sound.waits _ (List.mem_reverse.mpr hk) d (Kind.declare_declaration s₀ d {}) hd
    have hplain : (s₀.declare d {}).1.changes.prepare = none := by rw [Kind.declare_changes]
    rw [h.prepare_of_waiting hplain hindex hwaiting, htext, hcapture]

/-- A kind that has been declared matches as the pattern does that waits for it. -/
theorem Reliable.matchAt_eq (h : Reliable kinds s) {d : Declaration} {s₀ : Session}
    (hk : (s₀.declare d {}).1 ∈ kinds) {index : Nat}
    (hindex : (s₀.declare d {}).1.deferred = some index) :
    ∃ waiting, s.deferred[index]? = some waiting ∧
      ∀ src at_, (waiting.matchAt s.cache src at_).1 = (s₀.declare d {}).1.tryMatch src at_ := by
  cases hd : d.strategy with
  | exact => simp [Session.declare, hd, Kind.override, Kind.ofDeclaration] at hindex
  | regex =>
    obtain ⟨place, waiting, hplace, hwaiting, htext, hcapture⟩ :=
      h.sound.waits _ (List.mem_reverse.mpr hk) d (Kind.declare_declaration s₀ d {}) hd
    obtain rfl := Option.some.inj (hindex.symm.trans hplace)
    refine ⟨waiting, hwaiting, ?_⟩
    intro src at_
    rw [Pattern.Deferred.matchAt_eq h.sound.cache_sound
      (h.remembers waiting (Array.mem_of_getElem? hwaiting)), declare_tryMatch_of_regex hd, htext,
      hcapture]

end Session

namespace Table

variable {first first' : Nat} {kinds kinds' : List Kind} {s s' : Session} {t t' : Table}

theorem contains_eq {k k' : Kind} (h : Kind.Counterpart first first' k k')
    (ht : List.Forall₂ (Kind.Counterpart first first') t.kinds t'.kinds) :
    t.contains k = t'.contains k' := by
  unfold contains
  generalize t.kinds = ks at ht ⊢
  generalize t'.kinds = ks' at ht ⊢
  induction ht with
  | nil => rfl
  | cons hl _ ih =>
    rw [List.any_cons, List.any_cons, ih]
    exact congrArg (· || _) (hl.beq_eq h)

theorem extend_agree (hs : s.Reliable kinds) (hs' : s'.Reliable kinds') {listed listed' : List Kind}
    (ht : List.Forall₂ (Kind.Counterpart first first') t.kinds t'.kinds)
    (hlisted : List.Forall₂ (Kind.Counterpart first first') listed listed')
    (hmade : ∀ k ∈ listed, k ∈ kinds) (hmade' : ∀ k ∈ listed', k ∈ kinds')
    (repeated repeated' : List Kind) :
    Agree Eq (fun r r' ↦ List.Forall₂ (Kind.Counterpart first first') r.1.kinds r'.1.kinds)
      (extend s t repeated (listed.map .kind)).1 (extend s' t' repeated' (listed'.map .kind)).1 := by
  induction hlisted generalizing s s' t t' repeated repeated' with
  | nil => exact .ok ht
  | @cons k k' rest rest' hk _ ih =>
    have hkmade : k ∈ kinds := hmade k (.head _)
    have hkmade' : k' ∈ kinds' := hmade' k' (.head _)
    have hrest : ∀ l ∈ rest, l ∈ kinds := fun l hl ↦ hmade l (.tail _ hl)
    have hrest' : ∀ l ∈ rest', l ∈ kinds' := fun l hl ↦ hmade' l (.tail _ hl)
    have hnext := hs.leads (Session.Leads.refl.handleOf hkmade)
    have hnext' := hs'.leads (Session.Leads.refl.handleOf hkmade')
    simp only [List.map_cons, extend, Session.resolve, Prod.map, id_eq,
      hs.orderly.handleOf_kind hkmade, hs'.orderly.handleOf_kind hkmade']
    have hcontains := contains_eq hk ht
    split
    · next hpresent =>
      rw [hcontains] at hpresent
      rw [dif_pos hpresent]
      exact ih hnext hnext' ht hrest hrest' _ _
    · next habsent =>
      rw [hcontains] at habsent
      rw [dif_neg habsent]
      -- whether a kind can be prepared depends on its declaration alone
      have hprepare : ((s.handleOf k).2.prepare k).1 = ((s'.handleOf k').2.prepare k').1 := by
        obtain ⟨d, s₀, s₀', rfl, rfl, -⟩ := hk
        rw [hnext.prepare_eq hkmade, hnext'.prepare_eq hkmade']
      have hafter := hnext.leads (Session.Leads.refl.prepare k)
      have hafter' := hnext'.leads (Session.Leads.refl.prepare k')
      cases hresult : (s.handleOf k).2.prepare k with
      | mk result s₁ =>
        cases hresult' : (s'.handleOf k').2.prepare k' with
        | mk result' s₁' =>
          rw [hresult] at hafter
          rw [hresult'] at hafter'
          rw [hresult, hresult'] at hprepare
          obtain rfl : result = result' := hprepare
          cases result with
          | error e => exact .error rfl
          | ok =>
            refine ih hafter hafter' ?_ hrest hrest' _ _
            exact List.rel_append ht (.cons hk .nil)

def Twins (first first' : Nat) (token token' : Token) : Prop :=
  token.kind.Counterpart first first' token'.kind ∧ token.range = token'.range

theorem tokenAt_agree {k k' : Kind} (h : k.Counterpart first first' k') (src : Source)
    (at_ : Location) :
    Agree Eq (Option.Rel (Twins first first')) (k.tokenAt src at_) (k'.tokenAt src at_) := by
  obtain ⟨-, hmatch, -⟩ := h.looks_eq
  unfold Kind.tokenAt
  rw [hmatch]
  cases k'.tryMatch src at_ with
  | error e => exact .error rfl
  | ok found =>
    cases found with
    | none => exact .ok .none
    | some r => exact .ok (.some ⟨h, rfl⟩)

theorem isSkip_eq {skip skip' : Option Kind} {k k' : Kind}
    (hskip : Option.Rel (Kind.Counterpart first first') skip skip')
    (h : k.Counterpart first first' k') : isSkip skip k = isSkip skip' k' := by
  cases hskip with
  | none => rfl
  | some hs => exact hs.beq_eq h

theorem firstMatch_agree {skip skip' : Option Kind} {ks ks' : List Kind}
    (hskip : Option.Rel (Kind.Counterpart first first') skip skip')
    (hks : List.Forall₂ (Kind.Counterpart first first') ks ks') (src : Source) (at_ : Location) :
    Agree Eq (Option.Rel (Twins first first')) (firstMatch skip src at_ ks)
      (firstMatch skip' src at_ ks') := by
  induction hks with
  | nil => exact .ok .none
  | @cons k k' rest rest' hk _ ih =>
    simp only [firstMatch, isSkip_eq hskip hk]
    split
    · exact ih
    · have hagree := tokenAt_agree hk src at_
      generalize k.tokenAt src at_ = found at hagree ⊢
      generalize k'.tokenAt src at_ = found' at hagree ⊢
      cases hagree with
      | error h =>
        cases h
        exact .error rfl
      | ok h =>
        cases h with
        | none => exact ih
        | some htoken => exact .ok (.some htoken)

/-- Two scans that stop alike: at one place, where kinds that are counterparts were wanted, or for
one reason. -/
def StopAlike (first first' : Nat) : ScanError → ScanError → Prop
  | .unexpected at_ expected, .unexpected at_' expected' =>
    at_ = at_' ∧ List.Forall₂ (Kind.Counterpart first first') expected expected'
  | .failed cause, .failed cause' => cause = cause'
  | _, _ => False

theorem wanted_agree {skip skip' : Option Kind}
    (hskip : Option.Rel (Kind.Counterpart first first') skip skip')
    (ht : List.Forall₂ (Kind.Counterpart first first') t.kinds t'.kinds) :
    List.Forall₂ (Kind.Counterpart first first') (t.wanted skip) (t'.wanted skip') := by
  refine List.rel_filter ?_ ht
  intro k k' hk
  simp only [isSkip_eq hskip hk]

theorem skipStep_agree {skip skip' : Option Kind}
    (hskip : Option.Rel (Kind.Counterpart first first') skip skip') (src : Source)
    (at_ : Location) : skipStep skip src at_ = skipStep skip' src at_ := by
  cases hskip with
  | none => rfl
  | @some k k' hk =>
    obtain ⟨-, hmatch, -⟩ := hk.looks_eq
    simp only [skipStep, Kind.tokenAt, hmatch]
    cases k'.tryMatch src at_ with
    | error e => rfl
    | ok found => cases found <;> rfl

theorem step_agree {skip skip' : Option Kind}
    (hskip : Option.Rel (Kind.Counterpart first first') skip skip')
    (ht : List.Forall₂ (Kind.Counterpart first first') t.kinds t'.kinds) (src : Source)
    (at_ : Location) :
    Agree (StopAlike first first')
      (fun m m' ↦ Option.Rel (Twins first first') m.emitted m'.emitted ∧ m.stop = m'.stop)
      (t.step skip src at_) (t'.step skip' src at_) := by
  unfold step
  rw [skipStep_agree hskip]
  have hwanted := wanted_agree hskip ht
  split
  · exact .error rfl
  · next m hm =>
    obtain ⟨-, -, -, -, hemitted, -⟩ := match_of_skipStep hm
    have hnothing : Option.Rel (Twins first first') m.emitted m.emitted := by
      rw [hemitted]
      exact .none
    exact .ok ⟨hnothing, rfl⟩
  · have hagree := firstMatch_agree hskip ht src at_
    unfold matchFirst
    generalize firstMatch skip src at_ t.kinds = found at hagree ⊢
    generalize firstMatch skip' src at_ t'.kinds = found' at hagree ⊢
    cases hagree with
    | error h =>
      cases h
      exact .error rfl
    | ok h =>
      cases h with
      | none => exact .error ⟨rfl, hwanted⟩
      | @some token token' htoken =>
        obtain ⟨hkind, hrange⟩ := htoken
        dsimp only
        split
        · next hadvances =>
          rw [hrange] at hadvances
          rw [dif_pos hadvances]
          exact .ok ⟨.some ⟨hkind, hrange⟩, congrArg Range.stop hrange⟩
        · next hstays =>
          rw [hrange] at hstays
          rw [dif_neg hstays]
          exact .error ⟨rfl, hwanted⟩

def sight (src : Source) (token : Token) : String × Location × Location × String × String :=
  (token.kind.displayName, token.range.start, token.range.stop, token.debug src, token.display src)

def ScanError.sight : ScanError → Option (Location × List String) × String
  | .unexpected at_ expected =>
    (some (at_, expected.map (·.displayName)), ScanError.message (.unexpected at_ expected))
  | .failed cause => (none, ScanError.message (.failed cause))

theorem Twins.sight_eq {token token' : Token} (h : Twins first first' token token') (src : Source) :
    sight src token = sight src token' := by
  obtain ⟨hkind, hrange⟩ := h
  obtain ⟨hname, -, hdebug, hdisplay⟩ := hkind.looks_eq
  simp only [sight, Token.debug, Token.display, hname, hrange, hdebug, hdisplay]

theorem displayNames_eq {ks ks' : List Kind}
    (h : List.Forall₂ (Kind.Counterpart first first') ks ks') :
    ks.map (·.displayName) = ks'.map (·.displayName) := by
  induction h with
  | nil => rfl
  | cons hk _ ih => rw [List.map_cons, List.map_cons, hk.looks_eq.1, ih]

theorem StopAlike.sight_eq {e e' : ScanError} (h : StopAlike first first' e e') :
    e.sight = e'.sight := by
  cases e with
  | failed cause =>
    cases e' with
    | failed cause' => rw [show cause = cause' from h]
    | unexpected => cases h
  | unexpected at_ expected =>
    cases e' with
    | failed => cases h
    | unexpected at_' expected' =>
      obtain ⟨rfl, hexpected⟩ := h
      have hnames := displayNames_eq hexpected
      have hwelcome : Kind.welcome expected = Kind.welcome expected' := by
        unfold Kind.welcome
        rw [hnames]
      have hmessage : ScanError.message (.unexpected at_ expected) =
          ScanError.message (.unexpected at_ expected') := congrArg (_ ++ ·) hwelcome
      simp only [ScanError.sight, hnames, hmessage]

/-- What can be seen of a scan. -/
def seen (src : Source) (outcome : Except ScanError (List Token)) :
    Except (Option (Location × List String) × String)
      (List (String × Location × Location × String × String)) :=
  match outcome with
  | .ok tokens => .ok (tokens.map (sight src))
  | .error e => .error e.sight

theorem scanFrom_seen {skip skip' : Option Kind}
    (hskip : Option.Rel (Kind.Counterpart first first') skip skip')
    (ht : List.Forall₂ (Kind.Counterpart first first') t.kinds t'.kinds) (src : Source)
    (at_ : Location) :
    seen src (t.scanFrom skip src at_) = seen src (t'.scanFrom skip' src at_) := by
  -- every step goes forward, so there is less and less source ahead
  induction hleft : src.size - at_ using Nat.strongRecOn generalizing at_ with
  | ind left ih =>
    rw [scanFrom.eq_def t, scanFrom.eq_def t']
    split
    · next hat =>
      have hagree := step_agree hskip ht src at_
      generalize t.step skip src at_ = m at hagree ⊢
      generalize t'.step skip' src at_ = m' at hagree ⊢
      cases hagree with
      | error h => exact congrArg Except.error h.sight_eq
      | @ok m m' h =>
        obtain ⟨hemitted, hstop⟩ := h
        have hadvances := m.advances
        have hrest := ih (src.size - m.stop) (by lia) m.stop rfl
        have hhead : m.emitted.toList.map (sight src) = m'.emitted.toList.map (sight src) := by
          generalize m.emitted = token at hemitted ⊢
          generalize m'.emitted = token' at hemitted ⊢
          cases hemitted with
          | none => rfl
          | some htoken => simp [htoken.sight_eq src]
        dsimp only
        rw [← hstop]
        generalize t.scanFrom skip src m.stop = later at hrest ⊢
        generalize t'.scanFrom skip' src m.stop = later' at hrest ⊢
        cases later with
        | error e =>
          cases later' with
          | error e' => exact hrest
          | ok tokens' => cases hrest
        | ok tokens =>
          cases later' with
          | error e' => cases hrest
          | ok tokens' =>
            have htail : tokens.map (sight src) = tokens'.map (sight src) := Except.ok.inj hrest
            simp only [Except.map, seen, List.map_append, hhead, htail]
    · rfl

end Table

namespace Grammar

open Session (Act Log)

variable {first first' : Nat} {kinds kinds' : List Kind} {s s' : Session}

theorem defineAll_agree (h : s.nextKind + first' = s'.nextKind + first)
    (tokens : List TokenConfig) :
    Agree Eq (List.Forall₂ fun entry entry' ↦
        entry.1 = entry'.1 ∧ Kind.Counterpart first first' entry.2 entry'.2)
      (defineAll s tokens).1 (defineAll s' tokens).1 := by
  induction tokens generalizing s s' with
  | nil => exact .ok .nil
  | cons t rest ih =>
    cases hd : t.declaration with
    | error e =>
      simp only [defineAll, hd]
      exact .error rfl
    | ok d =>
      simp only [defineAll, hd]
      have hnext := (s.declare_makes d {}).next_eq
      have hnext' := (s'.declare_makes d {}).next_eq
      have hlater :
          (s.declare d {}).2.nextKind + first' = (s'.declare d {}).2.nextKind + first := by
        omega
      have hrest := ih hlater
      generalize (defineAll (s.declare d {}).2 rest).1 = later at hrest ⊢
      generalize (defineAll (s'.declare d {}).2 rest).1 = later' at hrest ⊢
      cases hrest with
      | error h => exact .error h
      | ok hlater => exact .ok (.cons ⟨rfl, d, s, s', rfl, rfl, h⟩ hlater)

theorem lookup_agree {entries entries' : List (String × Kind)}
    (h : List.Forall₂ (fun entry entry' ↦
      entry.1 = entry'.1 ∧ Kind.Counterpart first first' entry.2 entry'.2) entries entries')
    (name : String) :
    Option.Rel (Kind.Counterpart first first') (entries.lookup name) (entries'.lookup name) := by
  induction h with
  | nil => exact .none
  | @cons entry entry' _ _ hentry _ ih =>
    obtain ⟨own, k⟩ := entry
    obtain ⟨own', k'⟩ := entry'
    obtain ⟨rfl, hk⟩ := hentry
    simp only [List.lookup_cons]
    split
    · exact .some hk
    · exact ih

theorem skipKind_agree {entries entries' : List (String × Kind)}
    (h : List.Forall₂ (fun entry entry' ↦
      entry.1 = entry'.1 ∧ Kind.Counterpart first first' entry.2 entry'.2) entries entries')
    (name : Option String) :
    Agree Eq (Option.Rel (Kind.Counterpart first first')) (skipKind entries name)
      (skipKind entries' name) := by
  cases name with
  | none => exact .ok .none
  | some name =>
    have hlookup := lookup_agree h name
    unfold skipKind
    dsimp only
    generalize entries.lookup name = found at hlookup ⊢
    generalize entries'.lookup name = found' at hlookup ⊢
    cases hlookup with
    | none => exact .error rfl
    | some hk => exact .ok (.some hk)

/-- A configuration fares alike in two sessions, and its kinds are counterparts. -/
theorem build_agree (hs : s.Reliable kinds) (hs' : s'.Reliable kinds') (c : Config) :
    Agree Eq
      (fun g g' ↦ List.Forall₂ (Kind.Counterpart s.nextKind s'.nextKind) g.table.kinds g'.table.kinds ∧
        Option.Rel (Kind.Counterpart s.nextKind s'.nextKind) g.skip g'.skip)
      (build s c).1 (build s' c).1 := by
  have hdefine := defineAll_agree (Nat.add_comm s.nextKind s'.nextKind) c.tokens
  have hafter := hs.leads (Session.Leads.refl.defineAll c.tokens)
  have hafter' := hs'.leads (Session.Leads.refl.defineAll c.tokens)
  have hdefined (entries : List (String × Kind)) (h : (defineAll s c.tokens).1 = .ok entries) :=
    defined_of_defineAll h
  have hdefined' (entries : List (String × Kind)) (h : (defineAll s' c.tokens).1 = .ok entries) :=
    defined_of_defineAll h
  unfold build
  generalize defineAll s c.tokens = outcome at hdefine hafter hdefined ⊢
  generalize defineAll s' c.tokens = outcome' at hdefine hafter' hdefined' ⊢
  obtain ⟨result, s₁⟩ := outcome
  obtain ⟨result', s₁'⟩ := outcome'
  cases hdefine with
  | error h => exact .error (congrArg BuildError.definition h)
  | @ok entries entries' hentries =>
    have hkinds : List.Forall₂ (Kind.Counterpart s.nextKind s'.nextKind) (entries.map (·.2))
        (entries'.map (·.2)) := by
      rw [List.forall₂_map_left_iff, List.forall₂_map_right_iff]
      exact hentries.imp fun _ _ h ↦ h.2
    have hlist (entries : List (String × Kind)) :
        entries.map (fun entry ↦ Candidate.kind entry.2) = (entries.map (·.2)).map .kind := by simp
    have hempty : List.Forall₂ (Kind.Counterpart s.nextKind s'.nextKind) Table.empty.kinds
        Table.empty.kinds := .nil
    have hextend := Table.extend_agree hafter hafter' hempty hkinds
      (fun k hk ↦ List.mem_append_right _ (hdefined entries rfl ▸ hk))
      (fun k hk ↦ List.mem_append_right _ (hdefined' entries' rfl ▸ hk)) [] []
    dsimp only [Table.build]
    rw [hlist entries, hlist entries']
    generalize Table.extend s₁ .empty [] ((entries.map (·.2)).map .kind) = table at hextend ⊢
    generalize Table.extend s₁' .empty [] ((entries'.map (·.2)).map .kind) = table' at hextend ⊢
    obtain ⟨table, s₂⟩ := table
    obtain ⟨table', s₂'⟩ := table'
    cases hextend with
    | error h => exact .error (congrArg BuildError.table h)
    | ok htable =>
      have hskip := skipKind_agree hentries c.skip
      dsimp only
      generalize skipKind entries c.skip = skip at hskip ⊢
      generalize skipKind entries' c.skip = skip' at hskip ⊢
      cases hskip with
      | error h => exact .error h
      | ok hskip => exact .ok ⟨htable, hskip⟩

theorem mem_defined {k : Kind} {tokens : List TokenConfig} (h : k ∈ defined s tokens) :
    s.nextKind ≤ k.id ∧ ∃ (d : Declaration) (s₀ : Session), k = (s₀.declare d {}).1 := by
  induction tokens generalizing s with
  | nil => cases h
  | cons t rest ih =>
    cases hd : t.declaration with
    | error e => simp [defined, hd] at h
    | ok d =>
      have hmakes := s.declare_makes d {}
      simp only [defined, hd] at h
      rcases List.mem_cons.mp h with rfl | h
      · exact ⟨Nat.le_of_eq hmakes.id_eq.symm, d, s, rfl⟩
      · obtain ⟨hle, hdeclared⟩ := ih h
        rw [hmakes.next_eq] at hle
        exact ⟨Nat.le_of_succ_le hle, hdeclared⟩

def members (g : Grammar) : List Kind := g.kinds.map (·.2) ++ g.table.kinds ++ g.skip.toList

theorem members_of_build {c : Config} {g : Grammar} (hs : s.Reliable kinds)
    (hg : (build s c).1 = .ok g) : ∀ k ∈ g.members, k ∈ defined s c.tokens := by
  have hafter := hs.leads (Session.Leads.refl.defineAll c.tokens)
  unfold build at hg
  split at hg
  · cases hg
  · next entries s₁ hdefine =>
    have hdefined := defined_of_defineAll (congrArg Prod.fst hdefine)
    rw [hdefine] at hafter
    split at hg
    · cases hg
    · next table again s₂ hbuild =>
      have hlist : entries.map (fun entry ↦ Candidate.kind entry.2) =
          (entries.map (·.2)).map .kind := by simp
      rw [hlist] at hbuild
      have hmade : ∀ k ∈ entries.map (·.2), k ∈ (kinds ++ defined s c.tokens).reverse := by
        intro k hk
        exact List.mem_reverse.mpr (List.mem_append_right _ (hdefined ▸ hk))
      obtain ⟨hnew, -⟩ := Table.extend_spec hafter.sound hmade (by simp [Table.empty])
        (congrArg Prod.fst hbuild)
      cases hskip : skipKind entries c.skip with
      | error e =>
        rw [hskip] at hg
        cases hg
      | ok skip =>
        rw [hskip] at hg
        cases hg
        rw [← hdefined]
        intro k hk
        rcases List.mem_append.mp hk with hk | hk
        · rcases List.mem_append.mp hk with hk | hk
          · exact hk
          · exact (hnew k hk).elim (fun h ↦ by cases h) fun h ↦ h.1
        · exact skip_mem hskip k (Option.mem_toList.mp hk)

/-- What a session has done before does not show in a grammar. A configuration is refused in all
sessions for one reason, or gives grammars whose scans cannot be told apart. And whatever follows, a
grammar keeps its kinds to itself, and its patterns match as they would if they were compiled on the
spot. -/
theorem build_independent (acts acts' : List Act) (c : Config) :
    (∀ srcs : List Source,
      (build (Log.performAll {} acts).session c).1.map
          (fun g ↦ srcs.map fun src ↦ Table.seen src (g.scan src)) =
        (build (Log.performAll {} acts').session c).1.map
          (fun g ↦ srcs.map fun src ↦ Table.seen src (g.scan src))) ∧
    ∀ g, (build (Log.performAll {} acts).session c).1 = .ok g → ∀ later,
      (∀ c' g', (build (Log.performAll {} (acts ++ .build c :: later)).session c').1 = .ok g' →
        ∀ a b : Handle, a.kind ∈ g.members → b.kind ∈ g'.members → (a == b) = false) ∧
      ∀ k ∈ g.members, ∀ index, k.deferred = some index →
        ∃ waiting,
          (Log.performAll {} (acts ++ .build c :: later)).session.deferred[index]? = some waiting ∧
          ∀ src at_, (waiting.matchAt
            (Log.performAll {} (acts ++ .build c :: later)).session.cache src at_).1 =
              k.tryMatch src at_ := by
  have hs := Session.Reliable.performAll acts
  refine ⟨?_, ?_⟩
  · intro srcs
    have hagree := build_agree hs (Session.Reliable.performAll acts') c
    generalize (build (Log.performAll {} acts).session c).1 = outcome at hagree ⊢
    generalize (build (Log.performAll {} acts').session c).1 = outcome' at hagree ⊢
    cases hagree with
    | error h => exact congrArg Except.error h
    | ok h =>
      obtain ⟨htable, hskip⟩ := h
      have hscan (src : Source) := Table.scanFrom_seen hskip htable src 0
      exact congrArg Except.ok (List.map_congr_left fun src _ ↦ hscan src)
  · intro g hg later
    have hmembers := members_of_build hs hg
    have hs' := Session.Reliable.performAll (acts ++ .build c :: later)
    have hkept : ∀ k ∈ g.members, k ∈ (Log.performAll {} (acts ++ .build c :: later)).kinds := by
      intro k hk
      have hmade : k ∈ ((Log.performAll {} acts).perform (.build c)).kinds :=
        List.mem_append_right _ (hmembers k hk)
      have hprefix :=
        (Log.performAll_leads ((Log.performAll {} acts).perform (.build c)) later).isPrefix
      simp only [Log.performAll, List.foldl_append, List.foldl_cons] at hprefix hmade ⊢
      exact hprefix.subset hmade
    refine ⟨?_, ?_⟩
    · intro c' g' hg' a b ha hb
      have hlt := hs'.sound.id_lt _ (List.mem_reverse.mpr (hkept _ ha))
      have hle := (mem_defined (members_of_build hs' hg' _ hb)).1
      rw [Bool.eq_false_iff]
      intro hsame
      have hid : a.kind.id = b.kind.id := Kind.beq_iff_id_eq.mp hsame
      omega
    · intro k hk index hindex
      obtain ⟨-, d, s₀, rfl⟩ := mem_defined (hmembers k hk)
      exact hs'.matchAt_eq (hkept _ hk) hindex

end Grammar

end Counterparts

namespace Grammar

open Session (Log)

theorem build_independent_words : ∃ g g',
    (build {} wordConfig).1 = .ok g ∧
    (build (Log.performAll {} [.build wordConfig]).session wordConfig).1 = .ok g' ∧
    g.table.size = 2 ∧
    Table.seen #['l', 'e', 't', ' ', '?'] (g.scan #['l', 'e', 't', ' ', '?']) =
      Table.seen #['l', 'e', 't', ' ', '?'] (g'.scan #['l', 'e', 't', ' ', '?']) ∧
    ∀ a b : Handle, a.kind ∈ g.members → b.kind ∈ g'.members → (a == b) = false := by
  obtain ⟨halike, hown⟩ := build_independent [] [.build wordConfig] wordConfig
  have hbuilt : (build {} wordConfig).1.map (·.table.size) = .ok 2 := by cbv
  have hseen := halike [#['l', 'e', 't', ' ', '?']]
  cases hg : (build {} wordConfig).1 with
  | error e =>
    rw [hg] at hbuilt
    cases hbuilt
  | ok g =>
    rw [hg] at hbuilt
    rw [show (build (Log.performAll {} []).session wordConfig).1 = .ok g from hg] at hseen
    cases hg' : (build (Log.performAll {} [.build wordConfig]).session wordConfig).1 with
    | error e =>
      rw [hg'] at hseen
      cases hseen
    | ok g' =>
      rw [hg'] at hseen
      have hscan := List.head_eq_of_cons_eq (Except.ok.inj hseen)
      exact ⟨g, g', rfl, rfl, Except.ok.inj hbuilt, hscan, (hown g hg []).1 wordConfig g' hg'⟩

end Grammar

end Tokenry
