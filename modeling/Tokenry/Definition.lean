import Tokenry.Breakdown
import Tokenry.Location
import Tokenry.Pattern.Fault
import Tokenry.Text.Identifier
import Tokenry.Text.Literal

namespace Tokenry

inductive Strategy where
  | exact
  | regex
  deriving DecidableEq, Repr

def Strategy.name : Strategy → String
  | .exact => "exact"
  | .regex => "regex"

inductive DefinitionError where
  | malformedPattern (pattern : String) (reason : Pattern.Reason) (position : Option Nat)
  | missingGroup (pattern : String) (capture groups : Nat)
  | negativeIndex (pattern : String) (capture : Int)
  | notIdentifier (name : String)
  | emptyLiteral (name : String)
  | captureOnLiteral (name literal : String)
  | negativeCapture (name pattern : String) (capture : Int)
  | notOneStrategy (name : String)
  deriving DecidableEq, Repr

namespace DefinitionError

def message : DefinitionError → String
  | .malformedPattern pattern reason position =>
    "Invalid regular expression " ++ Text.Literal.encode pattern ++ ": "
      ++ reason.describe position pattern.toList
  | .missingGroup pattern capture groups =>
    "Capture group " ++ toString capture ++ " does not exist in " ++ Text.Literal.encode pattern
      ++ " (" ++ toString groups ++ " groups)"
  | .negativeIndex _ capture => s!"Capture group index must be non-negative, got {capture}"
  | .notIdentifier name => "Token name must be an identifier, got " ++ Text.Literal.encode name
  | .emptyLiteral name => s!"Token '{name}' declares an empty literal"
  | .captureOnLiteral name _ => s!"Token '{name}' declares a capture group on an exact literal"
  | .negativeCapture name _ capture =>
    s!"Token '{name}' declares a negative capture group {capture}"
  | .notOneStrategy name => s!"Token '{name}' must declare exactly one of exact= or regex="

def pattern? : DefinitionError → Option String
  | .malformedPattern pattern _ _ | .missingGroup pattern _ _ | .negativeIndex pattern _ => pattern
  | .captureOnLiteral _ literal => literal
  | .negativeCapture _ pattern _ => pattern
  | .notIdentifier _ | .emptyLiteral _ | .notOneStrategy _ => none

end DefinitionError

inductive MatchError where
  | location (cause : LocationError)
  | definition (cause : DefinitionError)
  | repetitionTooLarge
  | alphabetsClash
  | breakdown (cause : Breakdown)
  deriving DecidableEq, Repr

def MatchError.message : MatchError → String
  | .location cause => cause.message
  | .definition cause => cause.message
  | .repetitionTooLarge => "the repetition number is too large"
  | .alphabetsClash => "ASCII and UNICODE flags are incompatible"
  | .breakdown cause => cause.message

def MatchError.ofFault (pattern : String) : Pattern.Fault → MatchError
  | .malformed reason position => .definition (.malformedPattern pattern reason position)
  | .repetitionTooLarge => .repetitionTooLarge
  | .alphabetsClash => .alphabetsClash

/-- A kind as it is declared: a literal or a pattern, and for a pattern the group that forms the
token. -/
structure Declaration where
  name : String
  strategy : Strategy
  pattern : String
  capture : Int := 0
  carriesPayload : Bool := false
  doc : Option String := none
  home : Option String := none
  deriving DecidableEq, Repr

namespace Declaration

def mistake? (d : Declaration) : Option DefinitionError :=
  if !Text.isIdentifier d.name.toList then some (.notIdentifier d.name)
  else if d.strategy = .exact ∧ d.pattern.isEmpty then some (.emptyLiteral d.name)
  else if d.strategy = .exact ∧ d.capture ≠ 0 then some (.captureOnLiteral d.name d.pattern)
  else if d.capture < 0 then some (.negativeCapture d.name d.pattern d.capture)
  else none

def check (d : Declaration) : Except DefinitionError Declaration :=
  match d.mistake? with
  | some mistake => .error mistake
  | none => .ok d

def defaultHome : String := "lexkit.define"

def homeModule (d : Declaration) : String :=
  match d.home with
  | some home => if home.isEmpty then defaultHome else home
  | none => defaultHome

structure Options where
  exact : Option String := none
  regex : Option String := none
  capture : Option Int := none
  carriesPayload : Bool := false
  doc : Option String := none
  home : Option String := none

/-- Makes a declaration from a literal or a pattern; exactly one of them must be given. -/
def ofOptions (name : String) (o : Options) : Except DefinitionError Declaration :=
  match o.exact, o.regex with
  | some literal, none =>
    if o.capture.isSome then .error (.captureOnLiteral name literal)
    else check { name, strategy := .exact, pattern := literal,
                 carriesPayload := o.carriesPayload, doc := o.doc, home := o.home }
  | none, some pattern =>
    check { name, strategy := .regex, pattern, capture := o.capture.getD 0,
            carriesPayload := o.carriesPayload, doc := o.doc, home := o.home }
  | _, _ => .error (.notOneStrategy name)

end Declaration

end Tokenry
