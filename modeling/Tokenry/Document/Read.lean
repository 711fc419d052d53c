import Tokenry.Breakdown
import Tokenry.Document.Node
import Tokenry.Document.Plain

namespace Tokenry.Document

def standardTag (name : String) : String := "tag:yaml.org,2002:" ++ name

def liftFault {α : Type} : Except ScalarFault α → Except Problem α
  | .ok a => .ok a
  | .error e => .error (.fault e)

/-- The value of a scalar of a form. The marks of merging and of a default value stand for
nothing. -/
def ofForm (text : String) : PlainForm → Except Problem Value
  | .null => .ok .null
  | .bool => return .bool (← liftFault (Plain.bool text))
  | .int => return .int (← liftFault (Plain.int text))
  | .float => return .float (← liftFault (Plain.float text))
  | .timestamp =>
    match Plain.stamp? text.toList with
    | some s => liftFault s.value
    | none => .error (.malformed (.wrongShape (standardTag "timestamp")))
  | .merge => .error (.malformed (.unknownTag (standardTag "merge")))
  | .default => .error (.malformed (.unknownTag (standardTag "value")))
  | .text => .ok (.text text)

def scalarTags : List (String × PlainForm) :=
  [("null", .null), ("bool", .bool), ("int", .int), ("float", .float), ("timestamp", .timestamp),
    ("str", .text)].map fun (name, form) ↦ (standardTag name, form)

/-- The form of a scalar. -/
def scalarForm (tag : NodeTag) (plain : Bool) (text : String) : Except Problem PlainForm :=
  match tag with
  | .none => .ok (if plain then Plain.form text else .text)
  | .written uri =>
    match scalarTags.lookup uri with
    | some form => .ok form
    | none => .error (.malformed (.unknownTag uri))

def checkTag (name : String) : NodeTag → Except Problem Unit
  | .none => .ok ()
  | .written uri =>
    if uri == standardTag name then .ok () else .error (.malformed (.unknownTag uri))

def isMergeKey : Node → Bool
  | .scalar .none true text => Plain.form text == .merge
  | .scalar (.written uri) _ _ => uri == standardTag "merge"
  | _ => false

/-- A key that is made fit to be one: a sequence becomes a tuple. -/
def toKey : Value → Except Problem Value
  | .list items =>
    match Value.unkeyableItem? items with
    | some typeName => .error (.fault (.unkeyable typeName))
    | none => .ok (.tuple items)
  | key => if key.unkeyable?.isSome then .error (.malformed .badKey) else .ok key

structure Entries where
  merged : List (Value × Value) := []
  own : List (Value × Value) := []

def Entries.all (e : Entries) : List (Value × Value) := e.merged ++ e.own

def hasRepeatedKey : List (Value × Value) → Bool
  | [] => false
  | (k, _) :: rest => rest.any (fun entry ↦ k.equal entry.1) || hasRepeatedKey rest

/-- The mapping of some entries. Equal keys are a mistake, unless others have been merged in. -/
def Entries.mapping (e : Entries) : Except Problem Value :=
  if e.merged.isEmpty then
    if hasRepeatedKey e.own then .error (.malformed .repeatedKey) else .ok (.mapping e.own)
  else .ok (.mapping (Value.entriesOf e.all))

mutual

def value : Node → Except Problem Value
  | .scalar tag plain text => do ofForm text (← scalarForm tag plain text)
  | .sequence tag items => do
    checkTag "seq" tag
    return .list (← values items)
  | .mapping tag nodes => do
    checkTag "map" tag
    (← entries {} nodes).mapping

def values : List Node → Except Problem (List Value)
  | [] => .ok []
  | n :: rest => do
    let first ← value n
    return first :: (← values rest)

def entries (e : Entries) : List (Node × Node) → Except Problem Entries
  | [] => .ok e
  | (k, v) :: rest => do
    if isMergeKey k then
      if !e.merged.isEmpty then throw (.malformed .repeatedKey)
      let merged ← merging v
      entries { e with merged } rest
    else
      let key ← match k with
        | .scalar .none true "=" => pure (.text "=")
        | k => value k
      let key ← toKey key
      let entry ← value v
      entries { e with own := e.own ++ [(key, entry)] } rest

/-- The entries that are merged from a mapping or from a sequence of them; of a sequence the first
mapping counts most. -/
def merging : Node → Except Problem (List (Value × Value))
  | .mapping _ nodes => do return (← entries {} nodes).all
  | .sequence _ items => mergingAll items
  | .scalar _ _ _ => .error (.malformed .badMerge)

def mergingAll : List Node → Except Problem (List (Value × Value))
  | [] => .ok []
  | .mapping _ nodes :: rest => do
    let first ← entries {} nodes
    return (← mergingAll rest) ++ first.all
  | _ :: _ => .error (.malformed .badMerge)

end

def read (text : String) : Except Problem Value := do
  match ← parse text.toList with
  | some node => value node
  | none => return .null

def Malformed.report : Malformed → String
  | .forbiddenCharacter => "a character that no document may hold"
  | .unexpectedCharacter char => "nothing begins with " ++ Text.Literal.encode char.toString
  | .missingColon => "a key without a colon"
  | .misplacedEntry => "an entry where none can stand"
  | .misplacedKey => "a key where none can stand"
  | .misplacedValue => "a value where none can stand"
  | .badDirective => "a directive that is none"
  | .badName => "a name that is none"
  | .badTag => "a tag that is none"
  | .badBlockHeader => "a block that begins with something else than its indicators"
  | .badEscape => "an escape that is none"
  | .unclosedText => "a text whose quote is not closed"
  | .markerInText => "the end of the document inside quotes"
  | .missingNode => "nothing where a value should stand"
  | .missingMarker => "something behind the end of the document"
  | .unclosedCollection => "a collection that is not closed"
  | .unknownHandle handle => "the handle " ++ Text.Literal.encode handle ++ " stands for nothing"
  | .unknownAlias name => "the alias " ++ Text.Literal.encode name ++ " stands for nothing"
  | .severalDocuments => "more than one document"
  | .unknownTag tag => "the tag " ++ Text.Literal.encode tag ++ " means nothing here"
  | .wrongShape tag => "a scalar that is not as the tag " ++ Text.Literal.encode tag ++ " asks"
  | .repeatedKey => "a key that stands twice"
  | .badKey => "a key that can be none"
  | .badMerge => "something to merge that is no mapping"

def ScalarFault.message : ScalarFault → String
  | .codePoint => "chr() arg not in range(0x110000)"
  | .year y => "year " ++ toString y ++ " is out of range"
  | .month => "month must be in 1..12"
  | .day => "day is out of range for month"
  | .hour => "hour must be in 0..23"
  | .minute => "minute must be in 0..59"
  | .second => "second must be in 0..59"
  | .integer base text =>
    "invalid literal for int() with base " ++ toString base ++ ": " ++ Text.Literal.encode text
  | .decimal text => "could not convert string to float: " ++ Text.Literal.encode text
  | .truth text => Text.Literal.encode text
  | .unkeyable typeName => "unhashable type: '" ++ typeName ++ "'"

def ScalarFault.breakdown (e : ScalarFault) : Breakdown :=
  match e with
  | .truth _ => { sort := "KeyError", message := e.message }
  | .unkeyable _ => { sort := "TypeError", message := e.message }
  | _ => { sort := "ValueError", message := e.message, mendable := true }

inductive ReadFailure where
  | malformed (report : String)
  | breakdown (cause : Breakdown)
  deriving DecidableEq, Repr

abbrev Reader := String → Except ReadFailure Value

def Problem.failure : Problem → ReadFailure
  | .malformed cause => .malformed cause.report
  | .fault cause => .breakdown cause.breakdown

/-- The reader of this library. Nothing that is said of grammars relies on it: any other one may
stand in its place. -/
def reader : Reader := fun text ↦ (read text).mapError Problem.failure

end Tokenry.Document
