import Tokenry.Proofs.Schema.Report

namespace Tokenry

/-- The path that goes on from another one by some segments. -/
def Path.along (p : Path) (trail : List Segment) : Path := { p with trail := p.trail ++ trail }

@[simp] theorem Path.along_nil (p : Path) : p.along [] = p := by
  simp [Path.along]

theorem Path.along_cons (p : Path) (s : Segment) (trail : List Segment) :
    p.along (s :: trail) = (p.push s).along trail := by
  simp [Path.along, Path.push]

theorem Path.render_along (p : Path) (trail : List Segment) :
    (p.along trail).render = p.render ++ String.join (trail.map (·.render)) := by
  rw [render, render, along, List.map_append, String.join_append, String.append_assoc]

namespace Schema

/-- The schema of the items of a sequence, for a tuple of a fixed length that of the first one. -/
def item? : Schema → Option Schema
  | .list item | .tupleOf item | .tuple (item :: _) => some item
  | _ => none

/-- A segment leads from a value to a part of it, and from its schema to that of the part. The items
before an item and the fields before a field can be loaded. -/
inductive Opens (path : Path) : Schema → Value → Segment → Schema → Value → Prop
  | item {schema item : Schema} {raw w : Value} {before after vs : List Value} :
    schema.item? = some item → raw.items? = some (before ++ w :: after) →
    loadItems (fun p v ↦ item.load p v) path 0 before = .ok vs →
    Opens path schema raw (.item before.length) item w
  | key {key value : Schema} {entries : List (Value × Value)} {k w : Value} :
    (k, w) ∈ entries → Opens path (.mapping key value) (.mapping entries) .key key k
  | entry {key value : Schema} {entries : List (Value × Value)} {k w : Value} :
    (k, w) ∈ entries → Opens path (.mapping key value) (.mapping entries) (.entry k) value w
  | field {name label : String} {rule : FieldRule} {schema : Schema}
    {before after : List (String × FieldRule × Schema)}
    {check : List (String × Value) → Option String} {entries : List (Value × Value)} {w : Value}
    {loaded : List (String × Value)} :
    rule.loadable = true → Value.lookup entries (.text name) = some w →
    loadFields path entries before = .ok loaded →
    Opens path (.record label (before ++ (name, rule, schema) :: after) check) (.mapping entries)
      (.field name) schema w

inductive Descends : Path → Schema → Value → List Segment → Schema → Value → Prop
  | refl (path : Path) (schema : Schema) (raw : Value) : Descends path schema raw [] schema raw
  | step {path : Path} {schema inner part : Schema} {raw w v : Value} {s : Segment}
    {trail : List Segment} : Opens path schema raw s inner w →
    Descends (path.push s) inner w trail part v → Descends path schema raw (s :: trail) part v

/-- What an error is about: a value that fails by itself with that error, or a field that has to be
given and is not. -/
inductive Blames (path : Path) (schema : Schema) (raw : Value) (e : LoadError) :
    List Segment → Prop
  | value {trail : List Segment} {part : Schema} {w : Value} :
    Descends path schema raw trail part w → part.load (path.along trail) w = .error e →
    Blames path schema raw e trail
  | missing {trail : List Segment} {name label : String} {rule : FieldRule} {part : Schema}
    {before after : List (String × FieldRule × Schema)}
    {check : List (String × Value) → Option String} {entries : List (Value × Value)}
    {loaded : List (String × Value)} :
    Descends path schema raw trail (.record label (before ++ (name, rule, part) :: after) check)
      (.mapping entries) →
    loadFields (path.along trail) entries before = .ok loaded →
    rule.loadable = true → Value.lookup entries (.text name) = none → rule.default = none →
    part.isOptional = false → e = .mismatch (path.along (trail ++ [.field name])) .missing →
    Blames path schema raw e (trail ++ [.field name])

variable {path : Path} {schema inner : Schema} {raw w : Value} {e : LoadError} {s : Segment}

theorem Blames.own (hload : schema.load path raw = .error e) : Blames path schema raw e [] :=
  .value (.refl path schema raw) (by rwa [Path.along_nil])

theorem Blames.step {trail : List Segment} (hopens : Opens path schema raw s inner w)
    (h : Blames (path.push s) inner w e trail) : Blames path schema raw e (s :: trail) := by
  cases h with
  | value hdescends hload =>
    rw [← Path.along_cons] at hload
    exact .value (.step hopens hdescends) hload
  | missing hdescends hbefore hloadable habsent hdefault hrequired he =>
    rw [← Path.along_cons] at hbefore he
    exact .missing (.step hopens hdescends) hbefore hloadable habsent hdefault hrequired he

def Located (path : Path) (schema : Schema) (raw : Value) (e : LoadError) : Prop :=
  ∀ place, e.path? = some place → ∃ trail, place = path.along trail ∧ Blames path schema raw e trail

theorem Located.own (hload : schema.load path raw = .error e)
    (hown : ∀ place, e.path? = some place → place = path) : Located path schema raw e := by
  intro place hplace
  obtain rfl := hown place hplace
  exact ⟨[], place.along_nil.symm, .own hload⟩

theorem Located.step (hopens : Opens path schema raw s inner w)
    (h : Located (path.push s) inner w e) : Located path schema raw e := by
  intro place hplace
  obtain ⟨trail, rfl, hblames⟩ := h place hplace
  exact ⟨s :: trail, (path.along_cons s trail).symm, hblames.step hopens⟩

theorem located_mismatch {cause : Mismatch}
    (hload : schema.load path raw = .error (.mismatch path cause)) :
    Located path schema raw (.mismatch path cause) :=
  .own hload fun _ hplace ↦ (Option.some.inj hplace).symm

theorem located_of_loadSequence (hitem : schema.item? = some inner)
    (ih : ∀ {path raw}, inner.load path raw = .error e → Located path inner raw e)
    (hload : schema.load path raw = .error e)
    (h : loadSequence (fun p v ↦ inner.load p v) path raw = .error e) :
    Located path schema raw e := by
  rcases loadSequence_eq_error h with ⟨before, w, after, hraws, ⟨vs, hvs⟩, herror⟩ | ⟨cause, rfl⟩
  · exact (ih herror).step (.item hitem hraws hvs)
  · exact located_mismatch hload

theorem located_of_load (hload : schema.load path raw = .error e) : Located path schema raw e := by
  induction schema using Schema.induction generalizing path raw e with
  | any => cases hload
  | text | int | float | bool =>
    cases raw <;> cases hload
    all_goals exact located_mismatch rfl
  | nothing | unsupported =>
    cases hload
    exact located_mismatch rfl
  | literal choices =>
    refine .own hload ?_
    rw [load, loadLiteral] at hload
    split at hload
    · cases hload
    · cases hload
      rintro place ⟨⟩
      rfl
  | enumeration own =>
    refine .own hload ?_
    unfold load loadMember at hload
    dsimp only at hload
    split at hload
    · cases hload
    · cases hload
      rintro place ⟨⟩
      rfl
  | list item ih =>
    rcases bind_eq_error_iff.mp (by rw [← hload, load]) with h | ⟨vs, -, h⟩
    · exact located_of_loadSequence rfl ih hload h
    · cases h
  | tupleOf item ih =>
    rcases bind_eq_error_iff.mp (by rw [← hload, load]) with h | ⟨vs, -, h⟩
    · exact located_of_loadSequence rfl ih hload h
    · cases h
  | tuple items ih =>
    rcases bind_eq_error_iff.mp (by rw [← hload, load]) with h | ⟨vs, -, h⟩
    · cases items with
      | nil =>
        rcases loadSequence_eq_error h with ⟨_, _, _, -, -, herror⟩ | ⟨cause, rfl⟩
        · cases herror
        · exact located_mismatch hload
      | cons first rest => exact located_of_loadSequence rfl (ih first (.head _)) hload h
    · cases h
  | mapping key value ihkey ihvalue =>
    cases raw with
    | mapping entries =>
      rcases bind_eq_error_iff.mp (by rw [← hload, load]) with h | ⟨loaded, -, h⟩
      · obtain ⟨⟨k, w⟩, hmem, hkey | hvalue | ⟨_, t, -, -, rfl⟩⟩ := loadEntries_eq_error h
        · exact (ihkey hkey).step (.key hmem)
        · exact (ihvalue hvalue).step (.entry hmem)
        · rintro place ⟨⟩
      · cases h
    | _ =>
      cases hload
      exact located_mismatch rfl
  | union options ih =>
    -- a union that tells a path tells its own, whatever its alternatives had to say
    have halternative (h : loadAlternative path raw [] options = .error e) :
        ∀ place, e.path? = some place → place = path := by
      intro place hplace
      rcases loadAlternative_eq_error h with hown | ⟨hsilent, -⟩
      · exact Option.some.inj (hplace.symm.trans hown)
      · cases hsilent.symm.trans hplace
    cases raw with
    | null =>
      refine .own hload ?_
      rw [load] at hload
      split at hload
      · cases hload
      · cases hload
        rintro place ⟨⟩
        rfl
    | _ => exact .own hload (halternative (by simpa only [load] using hload))
  | record name fields check ih =>
    cases raw with
    | mapping entries =>
      have hown := hload
      rw [load] at hload
      split at hload
      · rcases bind_eq_error_iff.mp hload with h | ⟨loaded, -, h⟩
        · obtain ⟨before, field, rule, inner, after, rfl, ⟨loaded, hbefore⟩, hfails⟩ :=
            loadFields_eq_error h
          cases hfails with
          | missing hloadable habsent hdefault hrequired =>
            rintro place ⟨⟩
            refine ⟨[] ++ [.field field], rfl, ?_⟩
            rw [← path.along_nil] at hbefore
            exact .missing (.refl path _ _) hbefore hloadable habsent hdefault hrequired rfl
          | given hloadable hgiven herror =>
            exact (ih (field, rule, inner) (by simp) herror).step (.field hloadable hgiven hbefore)
        · split at h
          · cases h
            exact located_mismatch hown
          · cases h
      · cases hload
        exact located_mismatch hown
    | _ =>
      cases hload
      exact located_mismatch rfl

/-- An error that tells a path starts with the path of the whole and the segments that lead to what
the error is about. -/
theorem load_blames (schema : Schema) (path : Path) (raw : Value) (e : LoadError)
    (hload : schema.load path raw = .error e) (htold : e.path?.isSome = true) :
    ∃ trail reason, e.path? = some (path.along trail) ∧
      e.message = path.render ++ String.join (trail.map (·.render)) ++ ": " ++ reason ∧
      Blames path schema raw e trail := by
  obtain ⟨place, hplace⟩ := Option.isSome_iff_exists.mp htold
  obtain ⟨trail, rfl, hblames⟩ := located_of_load hload place hplace
  obtain ⟨reason, hreason⟩ := message_eq_of_path? hplace
  rw [Path.render_along] at hreason
  exact ⟨trail, reason, hplace, hreason, hblames⟩

def barePage : Value := .mapping [(.text "mode", .text "LOOSE")]

theorem load_blames_pages :
    (∃ e, (list pageSchema).load ⟨"$", []⟩ (.list [pageRaw, barePage]) = .error e ∧
      e.message = "$[1].sizes: required field missing" ∧
      ∃ trail, e.path? = some ((Path.mk "$" []).along trail) ∧
        Blames ⟨"$", []⟩ (list pageSchema) (.list [pageRaw, barePage]) e trail) ∧
    ∃ e, (list pageSchema).load ⟨"$", []⟩ (.list [pageRaw, widePage]) = .error e ∧
      ∃ trail, e.path? = some ((Path.mk "$" []).along trail) ∧
        Blames ⟨"$", []⟩ (list pageSchema) (.list [pageRaw, widePage]) e trail := by
  have hbare : (list pageSchema).load ⟨"$", []⟩ (.list [pageRaw, barePage]) =
      .error (.mismatch ⟨"$", [.item 1, .field "sizes"]⟩ .missing) := by
    cbv
  have hwide : (list pageSchema).load ⟨"$", []⟩ (.list [pageRaw, widePage]) =
      .error (.noAlternative ⟨"$", [.item 1, .field "sizes", .entry (.text "a")]⟩
        [.mismatch ⟨"$", [.item 1, .field "sizes", .entry (.text "a")]⟩ (.expected "int" "str"),
          .mismatch ⟨"$", [.item 1, .field "sizes", .entry (.text "a")]⟩
            (.expected "list" "str")]) := by
    cbv
  obtain ⟨trail, -, hpath, -, hblames⟩ := load_blames _ _ _ _ hbare rfl
  obtain ⟨trail', -, hpath', -, hblames'⟩ := load_blames _ _ _ _ hwide rfl
  exact ⟨⟨_, hbare, by decide, trail, hpath, hblames⟩, _, hwide, trail', hpath', hblames'⟩

end Schema

end Tokenry
