import Tokenry.Matching
import Tokenry.Text.Quoted

namespace Tokenry

inductive Form where
  | bare
  | marker
  | payload
  | ending
  deriving DecidableEq, Repr

abbrev Matching := Source → Location → Except MatchError (Option Range)

/-- A method that stands in place of another one. It gives its reply, or asks the other one and goes
on with what that replies. -/
inductive Method (Query Reply : Type) where
  | settle (reply : Reply)
  | ask (query : Query) (next : Reply → Method Query Reply)

namespace Method

variable {Query Reply : Type}

def run (base : Query → Reply) : Method Query Reply → Reply
  | settle reply => reply
  | ask query next => (next (base query)).run base

/-- What the other method is asked on the way to the reply. -/
def asked (base : Query → Reply) : Method Query Reply → List Query
  | settle _ => []
  | ask query next => query :: (next (base query)).asked base

end Method

/-- A text written in place of, or around, the one that a kind would write. -/
structure Wrapping where
  before : String := ""
  keep : Bool := false
  after : String := ""
  deriving DecidableEq, Repr

def Wrapping.apply (w : Wrapping) (inner : String) : String :=
  w.before ++ (if w.keep then inner else "") ++ w.after

structure Overrides where
  debug : Option Wrapping := none
  display : Option Wrapping := none
  name : Option String := none
  displayName : Option String := none
  tryMatch : Option (Source → Location →
    Method (Source × Location) (Except MatchError (Option Range))) := none
  prepare : Option (Method Unit (Except MatchError Unit)) := none

structure Kind where
  id : Nat
  className : String
  name : String
  displayName : String
  /-- Whether the name follows the name of the values when a kind is derived. -/
  namedByClass : Bool
  tryMatch : Matching
  /-- The patterns of a session that a match at a place looks at. -/
  consults : Source → Location → List Nat
  debug : Source → Range → String
  display : Source → Range → String
  /-- The pattern of a session that the kind waits for. -/
  deferred : Option Nat
  declaration : Option Declaration
  form : Form
  changes : Overrides := {}

namespace Kind

instance : BEq Kind := ⟨fun k l ↦ k.id == l.id⟩

instance : Ord Kind := ⟨fun k l ↦ compare k.id l.id⟩

def called (name : String) (src : Source) (r : Range) : String :=
  name ++ "(" ++ Text.Quoted.encode (r.text src) ++ ")"

def bracketed (name : String) (src : Source) (r : Range) : String :=
  "<" ++ name ++ " " ++ Text.Quoted.encode (r.text src) ++ ">"

/-- The kind of the end of the source, which matches the empty range there and further on. -/
def eof : Kind where
  id := 0
  className := "Eof"
  name := "end-of-file"
  displayName := "end-of-file"
  namedByClass := false
  tryMatch src at_ := .ok (if src.size ≤ at_ then some (.empty at_) else none)
  consults _ _ := []
  debug := called "end-of-file"
  display := called "end-of-file"
  deferred := none
  declaration := none
  form := .ending

/-- The kind of a checked declaration. `deferred` is where a session keeps its pattern. -/
def ofDeclaration [Pattern.CharacterNames] (id : Nat) (deferred : Option Nat)
    (d : Declaration) : Kind where
  id
  className := d.name
  name := match d.strategy with | .exact => Text.Literal.encode d.pattern | .regex => d.name
  displayName := d.name
  namedByClass := false
  tryMatch :=
    match d.strategy with
    | .exact =>
      let literal := d.pattern.toList
      fun src at_ ↦ .ok (matchLiteral literal src at_)
    | .regex =>
      let pattern := Pattern.compileFor d.pattern d.capture.toNat
      Pattern.matchWith pattern d.capture.toNat
  -- past the end of the source the pattern is not looked at
  consults src at_ := if at_ ≤ src.size then deferred.toList else []
  debug := match d.strategy with | .exact => called d.name | .regex => bracketed d.name
  display := match d.strategy with | .exact => fun _ _ ↦ d.pattern | .regex => bracketed d.name
  deferred
  declaration := some d
  form := if d.carriesPayload then .payload else .marker

/-- A kind written by hand, which may go by another name than its values. Preparing it does what its
author has written. -/
def ofMatching (id : Nat) (className : String) (rename : Option String) (matching : Matching)
    (prepared : Except MatchError Unit) : Kind :=
  let name := rename.getD className
  { id, className, name, displayName := name, namedByClass := rename.isNone,
    tryMatch := matching, consults := fun _ _ ↦ [], debug := called name, display := called name,
    deferred := none, declaration := none, form := .bare,
    changes := { prepare := some (.settle prepared) } }

def derive (parent : Kind) (id : Nat) (className : String) : Kind :=
  if parent.namedByClass then
    { parent with id, className, name := className, displayName := className,
                  debug := called className, display := called className }
  else { parent with id, className }

/-- Applies the author's changes. A kind with a pattern displays a token as it debugs it, so a
change of the one shows in the other. -/
def override (k : Kind) (o : Overrides) : Kind :=
  let debug := match o.debug with
    | some w => fun src r ↦ w.apply (k.debug src r)
    | none => k.debug
  let shown := match (k.declaration).map (·.strategy) with
    | some .exact => k.display
    | _ => debug
  { k with
    name := o.name.getD k.name
    displayName := o.displayName.getD k.displayName
    debug
    display := match o.display with
      | some w => fun src r ↦ w.apply (shown src r)
      | none => shown
    tryMatch := match o.tryMatch with
      | some method => fun src at_ ↦ (method src at_).run fun place ↦ k.tryMatch place.1 place.2
      | none => k.tryMatch
    consults := match o.tryMatch with
      | some method => fun src at_ ↦
        ((method src at_).asked fun place ↦ k.tryMatch place.1 place.2).flatMap
          fun place ↦ k.consults place.1 place.2
      | none => k.consults
    changes := o }

def welcome (kinds : List Kind) : String :=
  match kinds.map (·.displayName) with
  | [] => "nothing"
  | [name] => name
  | names => "one of " ++ String.intercalate ", " names

end Kind

structure Token where
  kind : Kind
  range : Range

namespace Token

instance : BEq Token := ⟨fun s t ↦ s.kind == t.kind && s.range = t.range⟩

def compare (s t : Token) : Ordering :=
  (Ord.compare s.kind t.kind).then (s.range.compare t.range)

instance : Ord Token := ⟨compare⟩

def text (t : Token) (src : Source) : String := t.range.text src

def debug (t : Token) (src : Source) : String := t.kind.debug src t.range

def display (t : Token) (src : Source) : String := t.kind.display src t.range

def render (t : Token) : String :=
  "AnyToken(token_type=" ++ t.kind.name ++ ", range=" ++ t.range.render ++ ")"

end Token

def Kind.tokenAt (k : Kind) (src : Source) (at_ : Location) : Except MatchError (Option Token) :=
  (k.tryMatch src at_).map fun found ↦ found.map (⟨k, ·⟩)

end Tokenry
