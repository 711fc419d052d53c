import Tokenry.Command
import Tokenry.Proofs.Attempt
import Tokenry.Proofs.Json.RoundTrip

namespace Tokenry

theorem Range.text_eq_ofList (r : Range) (text : String) :
    r.text text.toList.toArray = String.ofList ((text.toList.take r.stop).drop r.start) := by
  rw [Range.text, Range.slice, Array.toList_extract, List.extract_eq_take_drop, List.drop_take]

namespace Command

def tokenSeen (text : String) (t : Token) : Value :=
  .mapping [(.text "kind", .text t.kind.displayName),
    (.text "range", .list [.int t.range.start, .int t.range.stop]),
    (.text "text", .text (String.ofList ((text.toList.take t.range.stop).drop t.range.start))),
    (.text "debug", .text (t.debug text.toList.toArray))]

theorem plain_tokenEntry (text : String) (t : Token) :
    (tokenEntry text.toList.toArray t).plain = tokenSeen text t := by
  rw [tokenEntry, Token.text, Range.text_eq_ofList]
  rfl

theorem portable_tokenEntry (src : Source) (t : Token) : (tokenEntry src t).Portable := by
  have hfields : ∀ field ∈ [("kind", Value.kind t.kind.displayName), ("range", .range t.range),
      ("text", .text (t.text src)), ("debug", .text (t.debug src))], Value.Portable field.2 := by
    simp [Value.Portable.kind, Value.Portable.range, Value.Portable.text]
  exact .mapping _ (by simp) hfields

theorem portable_tokensValue (src : Source) (tokens : List Token) :
    (tokensValue src tokens).Portable := by
  have hentries : ∀ entry ∈ tokens.map (tokenEntry src), entry.Portable := by
    intro entry hentry
    obtain ⟨t, -, rfl⟩ := List.mem_map.mp hentry
    exact portable_tokenEntry src t
  exact .mapping [("tokens", .list _)] (by simp) (by simpa using .list hentries)

theorem plain_tokensValue (text : String) (tokens : List Token) :
    (tokensValue text.toList.toArray tokens).plain =
      .mapping [(.text "tokens", .list (tokens.map (tokenSeen text)))] := by
  have hentries : (tokens.map (tokenEntry text.toList.toArray)).map Value.plain =
      tokens.map (tokenSeen text) := by
    rw [List.map_map]
    exact List.map_congr_left fun t _ ↦ plain_tokenEntry text t
  rw [← hentries, ← Value.plainItems_eq_map]
  rfl

theorem read?_tokensValue (text : String) (tokens : List Token) :
    ∃ written, (tokensValue text.toList.toArray tokens).toJson = .ok written ∧
      Json.read? written =
        some (.mapping [(.text "tokens", .list (tokens.map (tokenSeen text)))]) := by
  have hread := (portable_tokensValue text.toList.toArray tokens).read?_toJson
  rwa [plain_tokensValue] at hread

section Answers

variable [Pattern.CharacterNames] {around : Surroundings} {r : Request} {outcome : Outcome}

/-- The ways in which a request is answered. -/
theorem answer_eq_ok (h : answer around r = .ok outcome) :
    (∃ text, answerText around r = .ok text ∧ outcome = { exit := 0, output := text }) ∨
      ∃ complaint, outcome = { exit := 2, complaint := complaint } := by
  unfold answer at h
  split at h
  · next text htext => exact .inl ⟨text, htext, (Except.ok.inj h).symm⟩
  · split at h
    · exact .inr ⟨_, (Except.ok.inj h).symm⟩
    · cases h

theorem answerText_scan_eq_ok_iff {grammar source written : String} :
    answerText around (.scan grammar source) = .ok written ↔
      ∃ g text tokens, loadGrammar around (.ofText grammar) = .ok g ∧
        readSource around (.ofText source) = .ok text ∧
        g.scan text.toList.toArray = .ok tokens ∧
        (tokensValue text.toList.toArray tokens).toJson = .ok written := by
  simp only [answerText, answerValue, bind_eq_ok_iff, pure_eq_ok_iff, mapError_eq_ok_iff]
  constructor
  · intro h
    obtain ⟨v, ⟨g, hg, text, htext, tokens, htokens, rfl⟩, hwritten⟩ := h
    exact ⟨g, text, tokens, hg, htext, htokens, hwritten⟩
  · intro h
    obtain ⟨g, text, tokens, hg, htext, htokens, hwritten⟩ := h
    exact ⟨_, ⟨g, hg, text, htext, tokens, htokens, rfl⟩, hwritten⟩

theorem exists_of_exit {n : Nat} (h : (answer around r).toOption.map (·.exit) = some n) :
    ∃ outcome, answer around r = .ok outcome ∧ outcome.exit = n := by
  cases hanswer : answer around r with
  | error e =>
    rw [hanswer] at h
    cases h
  | ok outcome =>
    rw [hanswer] at h
    exact ⟨outcome, rfl, Option.some.inj h⟩

/-- What is written of a value is read as that value, with offsets and names in the place of
locations, ranges and kinds. What a scan writes is read as its tokens in their order, each with its
part of the text; it is written whenever the source can be cut into tokens. Nothing is written
beside the exit status two. -/
theorem answer_read :
    (∀ v : Value, v.Portable → ∃ text, v.toJson = .ok text ∧ Json.read? text = some v.plain) ∧
    (∀ around grammar source outcome, answer around (.scan grammar source) = .ok outcome →
      outcome.exit = 0 →
        ∃ g text tokens, loadGrammar around (.ofText grammar) = .ok g ∧
          readSource around (.ofText source) = .ok text ∧
          g.scan text.toList.toArray = .ok tokens ∧
          Json.read? outcome.output =
            some (.mapping [(.text "tokens", .list (tokens.map (tokenSeen text)))])) ∧
    (∀ around grammar source g text tokens, loadGrammar around (.ofText grammar) = .ok g →
      readSource around (.ofText source) = .ok text → g.scan text.toList.toArray = .ok tokens →
        ∃ outcome, answer around (.scan grammar source) = .ok outcome ∧ outcome.exit = 0) ∧
    ∀ around r outcome, answer around r = .ok outcome → outcome.exit = 2 → outcome.output = "" := by
  refine ⟨fun v ↦ Value.Portable.read?_toJson, ?_, ?_, ?_⟩
  · intro around grammar source outcome h hexit
    rcases answer_eq_ok h with ⟨written, hwritten, rfl⟩ | ⟨complaint, rfl⟩
    · obtain ⟨g, text, tokens, hg, htext, htokens, hjson⟩ := answerText_scan_eq_ok_iff.mp hwritten
      obtain ⟨other, hother, hread⟩ := read?_tokensValue text tokens
      rw [hjson] at hother
      cases hother
      exact ⟨g, text, tokens, hg, htext, htokens, hread⟩
    · cases hexit
  · intro around grammar source g text tokens hg htext htokens
    obtain ⟨written, hjson, -⟩ := read?_tokensValue text tokens
    have hwritten := answerText_scan_eq_ok_iff.mpr ⟨g, text, tokens, hg, htext, htokens, hjson⟩
    exact ⟨{ exit := 0, output := written }, by rw [answer, hwritten], rfl⟩
  · intro around r outcome h hexit
    rcases answer_eq_ok h with ⟨written, -, rfl⟩ | ⟨complaint, rfl⟩
    · cases hexit
    · rfl

end Answers

def characters : Surroundings where
  read? _ :=
    some "\x7b\"tokens\": [\x7b\"name\": \"Any\", \"regex\": \"[^a]\"\x7d]\x7d".toUTF8.toList
  input := .ok ""

def escaped : String := "\"\\\n\x00é"

theorem answer_read_characters :
    (∃ text, (Value.mapping [(.text "\"", .list [.range ⟨1, 2, by decide⟩, .kind "'\\''"]),
        (.text "", .mapping [(.text escaped, .location 3)])]).toJson = .ok text ∧
      Json.read? text = some (.mapping [(.text "\"", .list [.list [.int 1, .int 2], .text "'\\''"]),
        (.text "", .mapping [(.text escaped, .int 3)])])) ∧
    (∃ outcome, answer characters (.scan "any" escaped) = .ok outcome ∧ outcome.exit = 0 ∧
      ∃ g tokens, loadGrammar characters (.ofText "any") = .ok g ∧
        g.scan escaped.toList.toArray = .ok tokens ∧
        Json.read? outcome.output = some (.mapping
          [(.text "tokens", .list (tokens.map (tokenSeen escaped)))])) ∧
    ∃ outcome, answer characters (.scan "any" "a") = .ok outcome ∧ outcome.exit = 2 ∧
      outcome.output = "" := by
  obtain ⟨hvalue, hscan, -, hfailure⟩ := answer_read
  refine ⟨hvalue _ ?_, ?_, ?_⟩
  · have hlist : Value.Portable (.list [.range ⟨1, 2, by decide⟩, .kind "'\\''"]) :=
      .list (by simp [Value.Portable.range, Value.Portable.kind])
    have hinner : Value.Portable (.mapping [(.text escaped, .location 3)]) :=
      .mapping [(_, _)] (by simp) (by simp [Value.Portable.location])
    exact .mapping [(_, _), (_, _)] (by simp) (by simp [hlist, hinner])
  · obtain ⟨outcome, hanswer, hexit⟩ : ∃ outcome,
        answer characters (.scan "any" escaped) = .ok outcome ∧ outcome.exit = 0 :=
      exists_of_exit (by decide +kernel)
    obtain ⟨g, text, tokens, hg, htext, htokens, hread⟩ := hscan _ _ _ _ hanswer hexit
    cases htext
    exact ⟨outcome, hanswer, hexit, g, tokens, hg, htokens, hread⟩
  · obtain ⟨outcome, hanswer, hexit⟩ : ∃ outcome,
        answer characters (.scan "any" "a") = .ok outcome ∧ outcome.exit = 2 :=
      exists_of_exit (by decide +kernel)
    exact ⟨outcome, hanswer, hexit, hfailure _ _ _ hanswer hexit⟩

end Command

end Tokenry
