import Tokenry.Session

namespace Tokenry

/-- The identity and the name of a rule. -/
structure RuleTag where
  serial : Nat
  name : String
  deriving DecidableEq, Repr

inductive Tree where
  | nothing
  | token (token : Token)
  | pair (first second : Tree)
  | marker (kind : Kind) (range : Range)
  | payload (kind : Kind) (range : Range) (value : Tree)
  | node (rule : RuleTag) (range : Range) (value : Tree)
  | ending (kind : Kind)

namespace Tree

def equal : Tree → Tree → Bool
  | .nothing, .nothing => true
  | .token s, .token t => s == t
  | .pair a b, .pair c d => a.equal c && b.equal d
  | .marker k r, .marker l s => k == l && r = s
  | .payload k r a, .payload l s b => k == l && r = s && a.equal b
  | .node p r a, .node q s b => p = q && r = s && a.equal b
  | .ending k, .ending l => k == l
  | _, _ => false

instance : BEq Tree := ⟨equal⟩

def render : Tree → String
  | .nothing => "None"
  | .token t => t.render
  | .pair a b => "(" ++ a.render ++ ", " ++ b.render ++ ")"
  | .marker k r => k.className ++ "(range=" ++ r.render ++ ")"
  | .payload k r value =>
    k.className ++ "(range=" ++ r.render ++ ", value=" ++ value.render ++ ")"
  | .node rule _ value => rule.name ++ "<" ++ value.render ++ ">"
  | .ending k => k.className ++ "()"

def declaredName (k : Kind) : String := (k.declaration.map (·.name)).getD k.className

def debug? (src : Source) : Tree → Option String
  | .marker k r => k.debug src r
  | .payload k _ value => some (declaredName k ++ "(" ++ value.render ++ ")")
  | _ => none

def display? (src : Source) : Tree → Option String
  | .marker k r | .payload k r _ => k.display src r
  | _ => none

end Tree

end Tokenry
