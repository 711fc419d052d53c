import Tokenry.Text.Quoted
import Tokenry.Value

namespace Tokenry.Value

inductive JsonError where
  | badKey (typeName : String)
  | unsupported (typeName : String)
  deriving DecidableEq, Repr

def JsonError.message : JsonError → String
  | .badKey typeName => "keys must be str, int, float, bool or None, not " ++ typeName
  | .unsupported typeName => "Object of type " ++ typeName ++ " is not JSON serializable"

def keyText : Value → Except JsonError String
  | .text s => .ok s
  | .null => .ok "null"
  | .bool b => .ok (if b then "true" else "false")
  -- as in `render`, with no limit on the digits
  | .int n => .ok (toString n)
  | .float x => .ok (Number.interchange.write x)
  | key => .error (.badKey key.typeName)

mutual

def toJson : Value → Except JsonError String
  | .null => .ok "null"
  | .bool b => .ok (if b then "true" else "false")
  -- as in `render`, with no limit on the digits
  | .int n => .ok (toString n)
  | .float x => .ok (Number.interchange.write x)
  | .text s => .ok (Text.Quoted.encode s)
  | .list items | .tuple items => do
    return "[" ++ String.intercalate ", " (← itemsToJson items) ++ "]"
  | .mapping entries => do
    return "\x7b" ++ String.intercalate ", " (← entriesToJson entries) ++ "\x7d"
  | .location at_ => .ok (toString at_)
  | .range r => .ok s!"[{r.start}, {r.stop}]"
  | .kind displayName => .ok (Text.Quoted.encode displayName)
  | other => .error (.unsupported other.typeName)

def itemsToJson : List Value → Except JsonError (List String)
  | [] => .ok []
  | v :: rest => do
    let first ← v.toJson
    return first :: (← itemsToJson rest)

def entriesToJson : List (Value × Value) → Except JsonError (List String)
  | [] => .ok []
  | (k, v) :: rest => do
    let key ← keyText k
    let value ← v.toJson
    return (Text.Quoted.encode key ++ ": " ++ value) :: (← entriesToJson rest)

end

end Tokenry.Value
