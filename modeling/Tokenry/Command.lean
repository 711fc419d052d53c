import Tokenry.Command.Arguments
import Tokenry.Command.Path
import Tokenry.Grammar
import Tokenry.Text.Utf8
import Tokenry.Value.Json

namespace Tokenry.Command

variable [Pattern.CharacterNames]

structure Outcome where
  exit : Nat
  output : String := ""
  complaint : String := ""
  deriving DecidableEq, Repr

inductive Failure where
  | noGrammar (path : Path)
  | noSource (path : Path)
  | encoding (cause : Text.Utf8.DecodeError)
  | grammar (cause : Grammar.LoadFailure)
  | scan (cause : Table.ScanError)
  | unwritable (cause : Value.JsonError)

def Failure.message : Failure → String
  | .noGrammar path => "Grammar file not found: " ++ path.render
  | .noSource path => "Source file not found: " ++ path.render
  | .encoding cause => cause.message
  | .grammar cause => cause.message
  | .scan cause => cause.message
  | .unwritable cause => cause.message

/-- Whether the user can mend what keeps a pattern from being used. -/
def mendableMatch : MatchError → Bool
  | .repetitionTooLarge => false
  | .location _ | .definition _ | .alphabetsClash => true
  | .breakdown cause => cause.mendable

def mendableLoad : Grammar.LoadFailure → Bool
  | .malformed _ _ | .notMapping _ => true
  | .breakdown cause => cause.mendable
  | .load cause => cause.path?.isSome
  | .build (.definition _) => true
  | .build (.table (.preparation cause)) => mendableMatch cause
  | .build (.table (.notKind _)) | .build (.unknownSkip _) => false

def Failure.mendable : Failure → Bool
  | .noGrammar _ | .noSource _ | .encoding _ => true
  | .grammar cause => mendableLoad cause
  | .scan (.unexpected _ _) => true
  | .scan (.failed cause) => mendableMatch cause
  | .unwritable _ => false

/-- Where a program gets its data: the files, the text that it is fed, and what reads documents for
it. -/
structure Surroundings where
  read? : Path → Option (List UInt8)
  input : Except Text.Utf8.DecodeError String
  document : Document.Reader := Document.reader

inductive SourceOrigin where
  | input
  | file (path : Path)
  | literal (text : String)
  deriving DecidableEq, Repr

def SourceOrigin.ofText (text : String) : SourceOrigin :=
  match text.toList with
  | ['-'] => .input
  | '@' :: path => .file (.ofText (String.ofList path))
  | _ => .literal text

namespace Request

def grammarPath : Request → Path
  | .kinds grammar | .scan grammar _ => .ofText grammar

def origin? : Request → Option SourceOrigin
  | .kinds _ => none
  | .scan _ source => some (.ofText source)

def paths (r : Request) : List Path :=
  match r.origin? with
  | some (.file path) => [r.grammarPath, path]
  | _ => [r.grammarPath]

def needsInput (r : Request) : Bool := r.origin? == some .input

end Request

def loadGrammar (around : Surroundings) (path : Path) : Except Failure Grammar :=
  match around.read? path with
  | none => .error (.noGrammar path)
  | some bytes => do
    let text ← (Text.Utf8.decodeFile bytes).mapError .encoding
    (Grammar.ofText around.document {} path.render text).1.mapError .grammar

def readSource (around : Surroundings) : SourceOrigin → Except Failure String
  | .input => around.input.mapError .encoding
  | .literal text => .ok text
  | .file path =>
    match around.read? path with
    | none => .error (.noSource path)
    | some bytes => (Text.Utf8.decodeFile bytes).mapError .encoding

def kindEntry (g : Grammar) (priority : Nat) (k : Kind) : Value :=
  .mapping [(.text "name", .text k.name), (.text "display_name", .text k.displayName),
    (.text "priority", .int priority), (.text "skip", .bool (Table.isSkip g.skip k))]

def kindsValue (g : Grammar) : Value :=
  .mapping [(.text "kinds", .list (g.table.kinds.mapIdx (kindEntry g)))]

def tokenEntry (src : Source) (t : Token) : Value :=
  .mapping [(.text "kind", .kind t.kind.displayName), (.text "range", .range t.range),
    (.text "text", .text (t.text src)), (.text "debug", .text (t.debug src))]

def tokensValue (src : Source) (tokens : List Token) : Value :=
  .mapping [(.text "tokens", .list (tokens.map (tokenEntry src)))]

def answerValue (around : Surroundings) : Request → Except Failure Value
  | .kinds grammar => do
    let g ← loadGrammar around (.ofText grammar)
    return kindsValue g
  | .scan grammar source => do
    let g ← loadGrammar around (.ofText grammar)
    let text ← readSource around (.ofText source)
    let src := text.toList.toArray
    let tokens ← (g.scan src).mapError .scan
    return tokensValue src tokens

def answerText (around : Surroundings) (r : Request) : Except Failure String := do
  let v ← answerValue around r
  v.toJson.mapError .unwritable

/-- What becomes of a request: its answer, or what is told of a failure that the user can mend. -/
def answer (around : Surroundings) (r : Request) : Except Failure Outcome :=
  match answerText around r with
  | .ok text => .ok { exit := 0, output := text }
  | .error e =>
    if e.mendable then .ok { exit := 2, complaint := Text.trimEnd e.message ++ "\n" } else .error e

def banner : String := "lexkit 0.1.0"

end Tokenry.Command
