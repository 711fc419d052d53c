import Tokenry.Location
import Tokenry.Number.Shortest
import Tokenry.Text.Literal

namespace Tokenry

open Number (Binary64)

inductive Value where
  | null
  | bool (value : Bool)
  | int (value : Int)
  | float (value : Binary64)
  | text (value : String)
  | list (items : List Value)
  | tuple (items : List Value)
  | mapping (entries : List (Value × Value))
  /-- A member of an enumeration, by its first name. -/
  | member (enumeration : String) (name : String) (value : Value)
  | record (name : String) (fields : List (String × Value))
  | set (items : List Value)
  | bytes (value : List UInt8)
  | date (year month day : Nat)
  | moment (shown : String)
  | location (value : Location)
  | range (value : Range)
  | kind (displayName : String)
  deriving Repr

namespace Value

def typeName : Value → String
  | .null => "NoneType"
  | .bool _ => "bool"
  | .int _ => "int"
  | .float _ => "float"
  | .text _ => "str"
  | .list _ => "list"
  | .tuple _ => "tuple"
  | .mapping _ => "dict"
  | .member enumeration _ _ => enumeration
  | .record name _ => name
  | .set _ => "set"
  | .bytes _ => "bytes"
  | .date _ _ _ => "date"
  | .moment _ => "datetime"
  | .location _ => "Location"
  | .range _ => "LocationRange"
  | .kind _ => "TokenType"

def ofBool (b : Bool) : Int := if b then 1 else 0

mutual

def equal : Value → Value → Bool
  | .null, .null => true
  | .bool a, .bool b => a == b
  | .bool a, .int b => ofBool a == b
  | .int a, .bool b => a == ofBool b
  | .bool a, .float b => b.equalInt (ofBool a)
  | .float a, .bool b => a.equalInt (ofBool b)
  | .int a, .int b => a == b
  | .int a, .float b => b.equalInt a
  | .float a, .int b => a.equalInt b
  | .float a, .float b => a.equal b
  | .text a, .text b => a == b
  | .list as, .list bs => equalItems as bs
  | .tuple as, .tuple bs => equalItems as bs
  | .mapping as, .mapping bs => as.length == bs.length && entriesIn as bs
  | .member e n _, .member e' n' _ => e == e' && n == n'
  | .record n as, .record n' bs => n == n' && equalFields as bs
  | .set as, .set bs => as.length == bs.length && itemsIn as bs
  | .bytes a, .bytes b => a == b
  | .date y m d, .date y' m' d' => y == y' && m == m' && d == d'
  | .moment a, .moment b => a == b
  | .location a, .location b => a == b
  | .range a, .range b => a == b
  | .kind a, .kind b => a == b
  | _, _ => false

def equalItems : List Value → List Value → Bool
  | [], [] => true
  | a :: as, b :: bs => a.equal b && equalItems as bs
  | _, _ => false

def equalFields : List (String × Value) → List (String × Value) → Bool
  | [], [] => true
  | (n, a) :: as, (n', b) :: bs => n == n' && a.equal b && equalFields as bs
  | _, _ => false

def entriesIn : List (Value × Value) → List (Value × Value) → Bool
  | [], _ => true
  | (k, v) :: as, bs => (bs.any fun b ↦ k.equal b.1 && v.equal b.2) && entriesIn as bs

def itemsIn : List Value → List Value → Bool
  | [], _ => true
  | a :: as, bs => (bs.any fun b ↦ a.equal b) && itemsIn as bs

end

instance : BEq Value := ⟨equal⟩

def two (n : Nat) : String := if n < 10 then s!"0{n}" else toString n

def four (n : Nat) : String :=
  String.ofList (List.replicate (4 - (toString n).length) '0') ++ toString n

def dateText (year month day : Nat) : String := four year ++ "-" ++ two month ++ "-" ++ two day

mutual

/-- A value as it is shown in messages. -/
def render : Value → String
  | .null => "None"
  | .bool b => if b then "True" else "False"
  -- a limit that the runtime may set on the digits of an integer's text is taken to be off
  | .int n => toString n
  | .float x => Number.plain.write x
  | .text s => Text.Literal.encode s
  | .list items => "[" ++ String.intercalate ", " (renderItems items) ++ "]"
  | .tuple [item] => "(" ++ item.render ++ ",)"
  | .tuple items => "(" ++ String.intercalate ", " (renderItems items) ++ ")"
  | .mapping entries => "\x7b" ++ String.intercalate ", " (renderEntries entries) ++ "\x7d"
  | .member enumeration name value =>
    "<" ++ enumeration ++ "." ++ name ++ ": " ++ value.render ++ ">"
  | .record name fields => name ++ "(" ++ String.intercalate ", " (renderFields fields) ++ ")"
  | .set [] => "set()"
  | .set items => "\x7b" ++ String.intercalate ", " (renderItems items) ++ "\x7d"
  | .bytes b => Text.Literal.encodeBytes b
  | .date year month day => s!"datetime.date({year}, {month}, {day})"
  | .moment shown => shown
  | .location at_ => s!"Location(position={at_})"
  | .range r => r.render
  | .kind displayName => displayName

def renderItems : List Value → List String
  | [] => []
  | v :: rest => v.render :: renderItems rest

def renderEntries : List (Value × Value) → List String
  | [] => []
  | (k, v) :: rest => (k.render ++ ": " ++ v.render) :: renderEntries rest

def renderFields : List (String × Value) → List String
  | [] => []
  | (name, v) :: rest => (name ++ "=" ++ v.render) :: renderFields rest

end

def plainText : Value → String
  | .text s => s
  | .member enumeration name _ => enumeration ++ "." ++ name
  | .date year month day => dateText year month day
  | v => v.render

def isFalse : Value → Bool
  | .null => true
  | .bool b => !b
  | .int n => n == 0
  | .float x => !x.isNonzero
  | .text s => s.isEmpty
  | .list items | .tuple items | .set items => items.isEmpty
  | .mapping entries => entries.isEmpty
  | .bytes b => b.isEmpty
  | .range r => r.length == 0
  | _ => false

mutual

def unkeyable? : Value → Option String
  | .list _ => some "list"
  | .mapping _ => some "dict"
  | .set _ => some "set"
  | .record name _ => some name
  | .tuple items => unkeyableItem? items
  | _ => none

def unkeyableItem? : List Value → Option String
  | [] => none
  | v :: rest => v.unkeyable? <|> unkeyableItem? rest

end

def lookup (entries : List (Value × Value)) (key : Value) : Option Value :=
  (entries.find? fun entry ↦ entry.1.equal key).map (·.2)

/-- Puts a value under a key. A key that is there keeps its place, and the value under it is
replaced. -/
def insert (key value : Value) : List (Value × Value) → List (Value × Value)
  | [] => [(key, value)]
  | (k, v) :: rest => if k.equal key then (k, value) :: rest else (k, v) :: insert key value rest

def entriesOf (entries : List (Value × Value)) : List (Value × Value) :=
  entries.foldl (fun filled entry ↦ insert entry.1 entry.2 filled) []

end Value

end Tokenry
