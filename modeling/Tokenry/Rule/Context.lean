import Tokenry.Rule.Tree

namespace Tokenry

inductive RuleError where
  | failed (cause : MatchError)
  | notRule (thing : Foreign)
  | notKind (thing : Foreign)
  | unbound (name : String)
  | noInner (name : String)
  | noConversion (name : String)
  | noRule (name : String)
  /-- Trivia or rules that never come to an end. -/
  | endless
  deriving DecidableEq, Repr

def RuleError.message : RuleError → String
  | .failed cause => cause.message
  | .notRule thing => "Not a grammar rule: " ++ thing.shown
  | .notKind thing => thing.lookupRefusal
  | .unbound name => "unbound id " ++ name
  | .noInner name => name ++ " does not define an inner production"
  | .noConversion name => name ++ " does not define from_inner"
  | .noRule name => "type object '" ++ name ++ "' has no attribute 'parse'"
  | .endless => "maximum recursion depth exceeded"

structure Context where
  src : Source
  skip : Option Kind
  furthest : Location := 0
  /-- The kinds that were missed at the furthest place, in the order of their identities. -/
  expected : List Kind := []
  consulted : List Nat := []

namespace Context

def insertKind (k : Kind) : List Kind → List Kind
  | [] => [k]
  | l :: rest =>
    if k.id < l.id then k :: l :: rest
    else if k.id = l.id then l :: rest
    else l :: insertKind k rest

/-- Records that a kind was missed at a place. -/
def miss (cx : Context) (k : Kind) (at_ : Location) : Context :=
  if cx.furthest < at_ then { cx with furthest := at_, expected := [k] }
  else if at_ = cx.furthest then { cx with expected := insertKind k cx.expected }
  else cx

def consult (cx : Context) (k : Kind) (at_ : Location) : Context :=
  { cx with consulted := k.consults cx.src at_ ++ cx.consulted }

end Context

namespace Kind

section PassOver

variable (k : Kind) (src : Source)

/-- Moves over matches of a kind until there is none or it stays where it is. Matches that lead
backward, or on and on past the end of the source, may never come to an end. -/
def passOver (at_ : Location) : Option (Except RuleError Location) :=
  match k.tokenAt src at_ with
  | .error e => some (.error (.failed e))
  | .ok none => some (.ok at_)
  | .ok (some token) =>
    if token.range.stop = at_ then some (.ok at_)
    -- a plain call would leave its position in this file in the definition
    else unop% passOver token.range.stop
partial_fixpoint

end PassOver

end Kind

namespace Context

def skipTrivia (cx : Context) (at_ : Location) : Except RuleError Location :=
  match cx.skip with
  | none => .ok at_
  | some k => (k.passOver cx.src at_).getD (.error .endless)

def consultSkip (cx : Context) (at_ : Location) : Context :=
  match cx.skip with
  | none => cx
  | some k => cx.consult k at_

def lex (cx : Context) (k : Kind) (at_ : Location) : Except RuleError (Option Token) × Context :=
  match cx.skipTrivia at_ with
  | .error e => (.error e, cx)
  | .ok behind =>
    let cx := (cx.consultSkip at_).consult k behind
    match k.tokenAt cx.src behind with
    | .error e => (.error (.failed e), cx)
    | .ok none => (.ok none, cx.miss k behind)
    | .ok (some token) => (.ok (some token), cx)

end Context

/-- What a parse reports when it fails. -/
inductive ParseError where
  | unexpected (at_ : Location) (expected : List Kind)
  | failed (cause : RuleError)

def ParseError.message : ParseError → String
  | .unexpected at_ expected =>
    "Parse error at offset " ++ toString at_ ++ ": expected " ++ Kind.welcome expected
  | .failed cause => cause.message

def Context.error (cx : Context) : ParseError := .unexpected cx.furthest cx.expected

end Tokenry
