import Tokenry.Schema

namespace Tokenry

inductive Segment where
  | field (name : String)
  | item (index : Nat)
  | key
  | entry (key : Value)

def Segment.render : Segment → String
  | .field name => "." ++ name
  | .item index => "[" ++ toString index ++ "]"
  | .key => ".<key>"
  | .entry k => "." ++ k.plainText

structure Path where
  root : String
  trail : List Segment := []

namespace Path

def push (p : Path) (s : Segment) : Path := { p with trail := p.trail ++ [s] }

def render (p : Path) : String := p.root ++ String.join (p.trail.map (·.render))

end Path

inductive Mismatch where
  | expected (label got : String)
  | notChoice (choices : List String) (got : Value)
  | notMember (enumeration : String) (got : Value)
  | required
  | unknownKeys (keys : List String)
  | missing
  | unsupported (label : String)
  | rejected (message : String)

def Mismatch.message : Mismatch → String
  | .expected label got => "expected " ++ label ++ ", got " ++ got
  | .notChoice choices got =>
    "expected one of " ++ Text.Literal.encodeList choices ++ ", got " ++ got.render
  | .notMember enumeration got => "expected " ++ enumeration ++ " member, got " ++ got.render
  | .required => "value is required"
  | .unknownKeys keys => "unknown key(s): " ++ Text.Literal.encodeList keys
  | .missing => "required field missing"
  | .unsupported label => "unsupported type " ++ label
  | .rejected message => message

inductive LoadError where
  | mismatch (path : Path) (cause : Mismatch)
  | noAlternative (path : Path) (causes : List LoadError)
  | unkeyable (typeName : String)

namespace LoadError

/-- The path to what does not fit, if the error tells one. -/
def path? : LoadError → Option Path
  | .mismatch path _ | .noAlternative path _ => some path
  | .unkeyable _ => none

mutual

def message : LoadError → String
  | .mismatch path cause => path.render ++ ": " ++ cause.message
  | .noAlternative path causes => path.render ++ ": " ++ String.intercalate " | " (messages causes)
  | .unkeyable typeName => "unhashable type: '" ++ typeName ++ "'"

def messages : List LoadError → List String
  | [] => []
  | e :: rest => e.message :: messages rest

end

end LoadError

def sortTexts (texts : List String) : List String := texts.mergeSort fun a b ↦ decide (a ≤ b)

namespace Schema

def mismatch (path : Path) (cause : Mismatch) : Except LoadError Value :=
  .error (.mismatch path cause)

def loadItems (load : Path → Value → Except LoadError Value) (path : Path) :
    Nat → List Value → Except LoadError (List Value)
  | _, [] => .ok []
  | index, v :: rest => do
    let item ← load (path.push (.item index)) v
    return item :: (← loadItems load path (index + 1) rest)

def loadSequence (load : Path → Value → Except LoadError Value) (path : Path) :
    Value → Except LoadError (List Value)
  | .list items | .tuple items => loadItems load path 0 items
  | v => .error (.mismatch path (.expected "list" v.typeName))

/-- Loads entries one after the other; entries whose loaded keys are equal fall together. -/
def loadEntries (loadKey loadValue : Path → Value → Except LoadError Value) (path : Path)
    (loaded : List (Value × Value)) :
    List (Value × Value) → Except LoadError (List (Value × Value))
  | [] => .ok loaded
  | (k, v) :: rest => do
    let key ← loadKey (path.push .key) k
    let value ← loadValue (path.push (.entry k)) v
    match key.unkeyable? with
    | some typeName => .error (.unkeyable typeName)
    | none => loadEntries loadKey loadValue path (Value.insert key value loaded) rest

def loadLiteral (choices : List Value) (path : Path) (v : Value) : Except LoadError Value :=
  if choices.any (·.equal v) then .ok v
  else mismatch path (.notChoice (sortTexts (choices.map (·.plainText))) v)

/-- A member stands for itself, a text for the member of that name, anything else for the member of
that value; a text that is no name is tried as a value too. -/
def loadMember (e : Enumeration) (path : Path) (v : Value) : Except LoadError Value :=
  let byName : Option Value :=
    match v with
    | .member owner name _ => if owner = e.name then e.ofName? name else none
    | .text s => e.ofName? s
    | _ => none
  match byName <|> e.ofValue? v with
  | some m => .ok m
  | none => mismatch path (.notMember e.name v)

/-- The keys of a mapping that are none of the given names, as sorted texts. -/
def unknownKeys (names : List String) (entries : List (Value × Value)) : List String :=
  let isKnown (key : Value) : Bool := names.any fun name ↦ key.equal (.text name)
  sortTexts ((entries.filter fun entry ↦ !isKnown entry.1).map (·.1.plainText))

mutual

def load : Schema → Path → Value → Except LoadError Value
  | .any, _, v => .ok v
  | .text, path, v =>
    match v with
    | .text s => .ok (.text s)
    | v => mismatch path (.expected "str" v.typeName)
  | .int, path, v =>
    match v with
    | .int n => .ok (.int n)
    | v => mismatch path (.expected "int" v.typeName)
  | .float, path, v =>
    match v with
    | .float x => .ok (.float x)
    | v => mismatch path (.expected "float" v.typeName)
  | .bool, path, v =>
    match v with
    | .bool b => .ok (.bool b)
    | v => mismatch path (.expected "bool" v.typeName)
  | .nothing, path, _ => mismatch path (.unsupported "NoneType")
  | .unsupported label, path, _ => mismatch path (.unsupported label)
  | .list item, path, v => return .list (← loadSequence (fun p v ↦ item.load p v) path v)
  | .tupleOf item, path, v => return .tuple (← loadSequence (fun p v ↦ item.load p v) path v)
  | .tuple items, path, v => return .tuple (← loadSequence (fun p v ↦ loadFirst items p v) path v)
  | .mapping key value, path, v =>
    match v with
    | .mapping entries =>
      return .mapping (← loadEntries (fun p v ↦ key.load p v) (fun p v ↦ value.load p v) path []
        entries)
    | v => mismatch path (.expected "mapping" v.typeName)
  | .union options, path, v =>
    match v with
    | .null => if options.any isNothing then .ok .null else mismatch path .required
    | v => loadAlternative path v [] options
  | .literal choices, path, v => loadLiteral choices path v
  | .enumeration e, path, v => loadMember e path v
  | .record name fields check, path, v =>
    match v with
    | .mapping entries =>
      let names := (fields.filter (·.2.1.loadable)).map (·.1)
      match unknownKeys names entries with
      | [] => do
        let loaded ← loadFields path entries fields
        match check loaded with
        | some message => mismatch path (.rejected message)
        | none => return .record name loaded
      | keys => mismatch path (.unknownKeys keys)
    | v => mismatch path (.expected ("mapping for " ++ name) v.typeName)

/-- The first schema decides about every item. -/
def loadFirst : List Schema → Path → Value → Except LoadError Value
  | [], _, v => .ok v
  | item :: _, path, v => item.load path v

/-- The first alternative that fits; `causes` tells, the latest first, why earlier ones do not. An
error without a path ends the search. -/
def loadAlternative (path : Path) (v : Value) (causes : List LoadError) :
    List Schema → Except LoadError Value
  | [] => .error (.noAlternative path causes.reverse)
  | option :: rest =>
    if option.isNothing then loadAlternative path v causes rest
    else
      match option.load path v with
      | .ok loaded => .ok loaded
      | .error e =>
        if e.path?.isSome then loadAlternative path v (e :: causes) rest else .error e

def loadFields (path : Path) (entries : List (Value × Value)) :
    List (String × FieldRule × Schema) → Except LoadError (List (String × Value))
  | [] => .ok []
  | (name, rule, schema) :: rest =>
    match rule.loadable, Value.lookup entries (.text name), rule.default with
    | true, some v, _ => do
      let value ← schema.load (path.push (.field name)) v
      return (name, value) :: (← loadFields path entries rest)
    | _, _, some v => return (name, v) :: (← loadFields path entries rest)
    | false, _, none => loadFields path entries rest
    | true, none, none =>
      if schema.isOptional then return (name, .null) :: (← loadFields path entries rest)
      else .error (.mismatch (path.push (.field name)) .missing)

end

end Schema

end Tokenry
