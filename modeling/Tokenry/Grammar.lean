import Tokenry.Document.Read
import Tokenry.Grammar.Config
import Tokenry.Table

namespace Tokenry

structure Grammar where
  table : Table
  kinds : List (String × Kind)
  skip : Option Kind

namespace Grammar

variable [Pattern.CharacterNames]

inductive BuildError where
  | definition (cause : DefinitionError)
  | table (cause : Table.Error)
  | unknownSkip (name : String)
  deriving DecidableEq, Repr

def TokenConfig.declaration (t : TokenConfig) : Except DefinitionError Declaration :=
  Declaration.ofOptions t.name
    { exact := t.exact, regex := t.regex, capture := t.capture, doc := t.doc }

def defineAll (s : Session) :
    List TokenConfig → Except DefinitionError (List (String × Kind)) × Session
  | [] => (.ok [], s)
  | t :: rest =>
    match t.declaration with
    | .error e => (.error e, s)
    | .ok d =>
      let (k, s) := s.declare d {}
      let (later, s) := defineAll s rest
      (later.map ((t.name, k) :: ·), s)

/-- The kind that a configuration skips. -/
def skipKind (kinds : List (String × Kind)) : Option String → Except BuildError (Option Kind)
  | none => .ok none
  | some name =>
    match kinds.lookup name with
    | some k => .ok (some k)
    | none => .error (.unknownSkip name)

/-- Defines every kind of a configuration and builds the table. -/
def build (s : Session) (c : Config) : Except BuildError Grammar × Session :=
  match defineAll s c.tokens with
  | (.error e, s) => (.error (.definition e), s)
  | (.ok kinds, s) =>
    match Table.build s (kinds.map fun entry ↦ .kind entry.2) with
    | (.error e, s) => (.error (.table e), s)
    | (.ok (table, _), s) =>
      ((skipKind kinds c.skip).map fun skip ↦ { table, kinds, skip }, s)

def scan (g : Grammar) (src : Source) : Except Table.ScanError (List Token) :=
  g.table.scan g.skip src

def find? (g : Grammar) (name : String) : Option Kind := g.kinds.lookup name

inductive LoadFailure where
  | malformed (source report : String)
  | breakdown (cause : Breakdown)
  | notMapping (source : String)
  | load (cause : LoadError)
  | build (cause : BuildError)

def BuildError.message : BuildError → String
  | .definition cause => cause.message
  | .table (.preparation cause) => cause.message
  | .table (.notKind thing) => thing.lookupRefusal
  | .unknownSkip name => Text.Literal.encode name

def LoadFailure.message : LoadFailure → String
  | .malformed source report => source ++ ": invalid YAML: " ++ report
  | .breakdown cause => cause.message
  | .notMapping source => source ++ ": YAML must be a mapping"
  | .load cause => cause.message
  | .build cause => cause.message

/-- The mapping that a text holds. Nothing counts as the empty mapping. -/
def readMapping (read : Document.Reader) (source text : String) : Except LoadFailure Value :=
  match read text with
  | .error (.malformed report) => .error (.malformed source report)
  | .error (.breakdown cause) => .error (.breakdown cause)
  | .ok v =>
    if v.isFalse then .ok (.mapping [])
    else
      match v with
      | .mapping entries => .ok (.mapping entries)
      | _ => .error (.notMapping source)

def ofValue (s : Session) (source : String) (raw : Value) : Except LoadFailure Grammar × Session :=
  match Config.load source raw with
  | .error e => (.error (.load e), s)
  | .ok config =>
    match build s config with
    | (.error e, s) => (.error (.build e), s)
    | (.ok g, s) => (.ok g, s)

def ofText (read : Document.Reader) (s : Session) (source text : String) :
    Except LoadFailure Grammar × Session :=
  match readMapping read source text with
  | .error e => (.error e, s)
  | .ok raw => ofValue s source raw

end Grammar

end Tokenry
