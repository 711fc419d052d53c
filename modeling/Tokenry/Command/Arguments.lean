import Tokenry.Text.Classes

namespace Tokenry.Command

inductive Request where
  | kinds (grammar : String)
  | scan (grammar source : String)
  deriving DecidableEq, Repr

inductive Flag where
  | help
  | version
  deriving DecidableEq, Repr

inductive Invocation where
  | run (request : Request)
  | inform (flag : Flag)
  | misuse
  deriving DecidableEq, Repr

namespace Flag

def letter : Flag → Char
  | .help => 'h'
  | .version => 'v'

def word : Flag → List Char
  | .help => "help".toList
  | .version => "version".toList

end Flag

inductive Role where
  | operand
  | flag (flag : Flag)
  | overloaded
  | ambiguous
  | unknown
  deriving DecidableEq, Repr

namespace Role

def isNumber (chars : List Char) : Bool :=
  let chars := if chars.getLast? = some '\n' then chars.dropLast else chars
  let (whole, rest) := chars.span Text.isDigit
  match rest with
  | [] => !whole.isEmpty
  | '.' :: places => !places.isEmpty && places.all Text.isDigit
  | _ => false

/-- A word with dashes that is no known flag is an operand only if it has a blank in it. -/
def ofStranger (chars : List Char) : Role := if chars.contains ' ' then .operand else .unknown

def ofLong (known : List Flag) (chars : List Char) : Role :=
  let (word, attached) := chars.span (· != '=')
  match known.filter fun f ↦ word.isPrefixOf f.word with
  | [] => ofStranger chars
  | [f] => if attached.isEmpty then .flag f else .overloaded
  | _ => .ambiguous

def isCluster (known : List Flag) : List Char → Bool
  | [] => true
  | c :: rest =>
    if c = '=' || c = '-' then false
    else if known.any (·.letter == c) then isCluster known rest
    else true

def ofShort (known : List Flag) (chars : List Char) : Role :=
  match chars with
  | [] => .operand
  | c :: rest =>
    match known.find? (·.letter == c) with
    | some f => if isCluster known rest then .flag f else .overloaded
    | none => if isNumber chars then .operand else ofStranger chars

def ofWord (known : List Flag) (word : String) : Role :=
  match word.toList with
  | '-' :: '-' :: rest => ofLong known rest
  | '-' :: rest => ofShort known rest
  | _ => .operand

def verdict? : Role → Option Invocation
  | .flag f => some (.inform f)
  | .overloaded | .ambiguous => some .misuse
  | .operand | .unknown => none

end Role

def beforeDashes (words : List String) : List String := words.takeWhile (· != "--")

inductive Task where
  | kinds
  | scan
  deriving DecidableEq, Repr

namespace Task

def ofName? : String → Option Task
  | "kinds" => some .kinds
  | "scan" => some .scan
  | _ => none

def usualSource : String := "-"

/-- The request that operands make. -/
def request? : Task → List String → Option Request
  | .kinds, [grammar] => some (.kinds grammar)
  | .scan, [grammar] => some (.scan grammar usualSource)
  | .scan, [grammar, source] =>
    some (.scan grammar (if source = "--" then usualSource else source))
  | _, _ => none

def invocation (t : Task) (words : List String) : Invocation :=
  let roles := (beforeDashes words).map (Role.ofWord [.help])
  match roles.findSome? Role.verdict? with
  | some verdict => verdict
  | none =>
    if roles.contains .unknown then .misuse
    else
      match t.request? (words.erase "--") with
      | some r => .run r
      | none => .misuse

end Task

namespace Invocation

def flags : List Flag := [.help, .version]

/-- What the words of a command line come to. A word that is short for more than one flag is
refused wherever it stands; flags that are not known are refused when nothing else has settled the
matter. -/
def ofWords (words : List String) : Invocation :=
  let candidates := beforeDashes words
  if candidates.any (Role.ofWord flags · == .ambiguous) then .misuse
  else
    let leading := (candidates.map (Role.ofWord flags)).takeWhile (· != .operand)
    match leading.findSome? Role.verdict? with
    | some verdict => verdict
    | none =>
      match words.drop leading.length with
      | [] => .misuse
      | name :: rest =>
        match Task.ofName? name with
        | none => .misuse
        | some t =>
          match t.invocation rest with
          | .run r => if leading.isEmpty then .run r else .misuse
          | other => other

end Invocation

end Tokenry.Command
