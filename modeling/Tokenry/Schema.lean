import Tokenry.Value

namespace Tokenry

/-- The members of an enumeration by name. A member whose value an earlier one has is another name
for that one. -/
structure Enumeration where
  name : String
  members : List (String × Value)

namespace Enumeration

def ofValue? (e : Enumeration) (value : Value) : Option Value :=
  (e.members.find? fun m ↦ m.2.equal value).map fun m ↦ .member e.name m.1 m.2

/-- The member with a name: the first of the earlier ones that has its value, or else itself. -/
def ofName? (e : Enumeration) (name : String) : Option Value :=
  (e.members.lookup name).map fun value ↦
    let earlier := e.members.takeWhile (·.1 != name)
    let m := (earlier.find? fun m ↦ m.2.equal value).getD (name, value)
    .member e.name m.1 m.2

end Enumeration

/-- What is known of a field besides its schema. -/
structure FieldRule where
  default : Option Value := none
  loadable : Bool := true

inductive Schema where
  | any
  | text
  | int
  | float
  | bool
  | nothing
  | list (item : Schema)
  | tupleOf (item : Schema)
  | tuple (items : List Schema)
  | mapping (key value : Schema)
  | union (options : List Schema)
  | literal (choices : List Value)
  | enumeration (enumeration : Enumeration)
  | record (name : String) (fields : List (String × FieldRule × Schema))
      (check : List (String × Value) → Option String)
  | unsupported (label : String)

namespace Schema

def options : Schema → List Schema
  | .union options => options
  | s => [s]

/-- Whether two values are the same choice: a choice is told from an equal one of another type. -/
def sameChoice (a b : Value) : Bool := a.typeName == b.typeName && a.equal b

mutual

def same : Schema → Schema → Bool
  | .any, .any | .text, .text | .int, .int | .float, .float | .bool, .bool
  | .nothing, .nothing => true
  | .list a, .list b => a.same b
  | .tupleOf a, .tupleOf b => a.same b
  | .tuple as, .tuple bs => sameAll as bs
  | .mapping k v, .mapping k' v' => k.same k' && v.same v'
  | .union as, .union bs => as.length == bs.length && sameSome as bs
  | .literal as, .literal bs => as.length == bs.length && as.all fun a ↦ bs.any (sameChoice a)
  | .enumeration e, .enumeration e' => e.name == e'.name
  | .unsupported a, .unsupported b => a == b
  | _, _ => false

def sameAll : List Schema → List Schema → Bool
  | [], [] => true
  | a :: as, b :: bs => a.same b && sameAll as bs
  | _, _ => false

def sameSome : List Schema → List Schema → Bool
  | [], _ => true
  | a :: as, bs => bs.any (fun b ↦ a.same b) && sameSome as bs

end

def distinct (schemas : List Schema) : List Schema :=
  (schemas.foldl (fun kept s ↦ if kept.any (·.same s) then kept else s :: kept) []).reverse

/-- The union of schemas: unions among them are flattened, repetitions dropped, and a single schema
is left alone. -/
def ofAlternatives (schemas : List Schema) : Schema :=
  match distinct (schemas.flatMap options) with
  | [s] => s
  | options => .union options

def optional (s : Schema) : Schema := ofAlternatives [s, .nothing]

def ofChoices (choices : List Value) : Schema :=
  .literal (choices.foldl
    (fun kept v ↦ if kept.any (sameChoice v) then kept else v :: kept) []).reverse

def isNothing : Schema → Bool
  | .nothing => true
  | _ => false

def isOptional : Schema → Bool
  | .union options => options.any isNothing
  | _ => false

def label : Schema → String
  | .text => "str"
  | .int => "int"
  | .float => "float"
  | .bool => "bool"
  | .nothing => "NoneType"
  | .unsupported label => label
  | .enumeration e => e.name
  | .record name _ _ => name
  | .any => "Any"
  | .list _ => "List"
  | .tupleOf _ | .tuple _ => "Tuple"
  | .mapping _ _ => "Dict"
  | .union _ => "Union"
  | .literal _ => "Literal"

end Schema

end Tokenry
