import Tokenry.Rule.Production

namespace Tokenry

inductive Reference where
  | named (name : String)
  | handle (name : String)
  | fresh (name : String)
  | foreign (thing : Foreign)
  deriving DecidableEq, Repr

inductive RuleExpr where
  | reference (reference : Reference)
  | token (reference : Reference)
  | discard (inner : RuleExpr)
  | pair (first second : RuleExpr)
  | call (reference : Reference)
  deriving DecidableEq, Repr

/-- The definition of a named rule. -/
structure RuleDefinition where
  tag : RuleTag
  inner : Option RuleExpr
  converts : Bool
  deriving DecidableEq, Repr

inductive Callee where
  | kind (kind : Kind)
  | rule (definition : RuleDefinition)

inductive Term where
  | token (kind : Kind)
  | discard (inner : Term)
  | pair (first second : Term)
  | call (callee : Callee)

inductive RuleLike where
  | kind (kind : Kind)
  | handle (handle : Handle)
  | rule (definition : RuleDefinition)
  | term (term : Term)
  | foreign (thing : Foreign)

/-- Turns what was given as a rule into a production. A kind that builds nothing stands for its
token. -/
def RuleLike.toTerm : RuleLike → Except RuleError Term
  | .kind k => .ok (match k.form with | .bare => .token k | _ => .call (.kind k))
  | .handle h => .ok (.token h.kind)
  | .rule definition => .ok (.call (.rule definition))
  | .term t => .ok t
  | .foreign thing => .error (if thing.isBase then .notKind thing else .notRule thing)

def Term.callees : Term → List Callee
  | .token _ => []
  | .discard inner => inner.callees
  | .pair first second => first.callees ++ second.callees
  | .call c => [c]

def RuleLike.callees (rule : RuleLike) : List Callee :=
  match rule.toTerm with
  | .ok t => t.callees
  | .error _ => []

inductive Subject where
  | kind (kind : Kind)
  | rule (definition : RuleDefinition)

def Subject.callee : Subject → Callee
  | .kind k => .kind k
  | .rule definition => .rule definition

/-- The names that are bound, the latest first, and what is read after kinds that carry a payload.
-/
structure Book where
  bindings : List (String × Subject) := [("Eof", .kind .eof)]
  payloads : List (Nat × RuleLike) := []

namespace Book

def bind (book : Book) (name : String) (subject : Subject) : Book :=
  { book with bindings := (name, subject) :: book.bindings }

def attach (book : Book) (k : Kind) (payload : RuleLike) : Book :=
  { book with payloads := (k.id, payload) :: book.payloads }

def inherit (book : Book) (parent child : Kind) : Book :=
  match book.payloads.lookup parent.id with
  | some payload => book.attach child payload
  | none => book

def payload? (book : Book) (k : Kind) : Option RuleLike := book.payloads.lookup k.id

def subject (book : Book) (name : String) : Except RuleError Subject :=
  match book.bindings.lookup name with
  | some subject => .ok subject
  | none => .error (.unbound name)

def shownRule (tag : RuleTag) : Foreign :=
  { shown := "<class '" ++ tag.name ++ "'>", typeName := "type" }

def candidate (book : Book) (s : Session) : Reference → Except RuleError Candidate × Session
  | .named name =>
    match book.subject name with
    | .ok (.kind k) => (.ok (.kind k), s)
    | .ok (.rule definition) => (.ok (.foreign (shownRule definition.tag)), s)
    | .error e => (.error e, s)
  | .handle name =>
    match book.subject name with
    | .ok (.kind k) => ((s.handleOf k).map (.ok ∘ .handle) id)
    | .ok (.rule definition) => (.error (.notKind (shownRule definition.tag)), s)
    | .error e => (.error e, s)
  | .fresh name =>
    match book.subject name with
    | .ok (.kind k) => ((s.freshHandle k).map (.ok ∘ .handle) id)
    | .ok (.rule definition) => (.error (.notKind (shownRule definition.tag)), s)
    | .error e => (.error e, s)
  | .foreign thing => (.ok (.foreign thing), s)

def ruleLike (book : Book) : Reference → Except RuleError RuleLike
  | .named name => do
    match ← book.subject name with
    | .kind k => return .kind k
    | .rule definition => return .rule definition
  | .handle name | .fresh name => do
    match ← book.subject name with
    | .kind k => return .handle ⟨k, 0⟩
    | .rule definition => throw (.notKind (shownRule definition.tag))
  | .foreign thing => return .foreign thing

def kindOf (book : Book) (reference : Reference) : Except RuleError Kind := do
  match ← book.ruleLike reference with
  | .kind k => return k
  | .handle h => return h.kind
  | .rule definition => throw (.notKind (shownRule definition.tag))
  | .foreign thing => throw (.notKind thing)
  | .term _ => throw .endless

/-- Looks up the names of a rule. The parts of a compound rule must be rules themselves. -/
def resolve (book : Book) : RuleExpr → Except RuleError RuleLike
  | .reference reference => book.ruleLike reference
  | .token reference => return .term (.token (← book.kindOf reference))
  | .discard inner => return .term (.discard (← (← book.resolve inner).toTerm))
  | .pair first second => do
    let first ← (← book.resolve first).toTerm
    let second ← (← book.resolve second).toTerm
    return .term (.pair first second)
  | .call reference => do
    match ← book.ruleLike reference with
    | .kind k => return .term (.call (.kind k))
    | .rule definition => return .term (.call (.rule definition))
    | other => return .term (← other.toTerm)

def conversion : Callee → Conversion
  | .kind k => fun inner range ↦
    match k.form, inner with
    | .ending, _ => .ok (.ending k)
    | .payload, .pair _ value => .ok (.payload k range value)
    | _, .token t => .ok (.marker k t.range)
    | _, _ => .ok (.marker k range)
  | .rule definition => fun inner range ↦
    if definition.converts then .ok (.node definition.tag range inner)
    else .error (.noConversion definition.tag.name)

end Book

/-- Unfolds a term by what its callees unfold to. -/
def Term.unfold (callee : Callee → Production) : Term → Production
  | .token k => .token k
  | .discard inner => .discard (inner.unfold callee)
  | .pair first second => .pair (first.unfold callee) (second.unfold callee)
  | .call c => callee c

namespace Book

def inner (book : Book) (callee : Callee → Production) : Callee → Except RuleError Production
  | .kind k =>
    match k.form with
    | .bare => .error (.noRule k.className)
    | .marker => .ok (.token k)
    | .ending => .ok (.discard (.token k))
    | .payload =>
      match book.payload? k with
      | none => .error (.noInner k.className)
      | some payload => do
        return .pair (.discard (.token k)) ((← payload.toTerm).unfold callee)
  | .rule definition =>
    match definition.inner with
    | none => .error (.noInner definition.tag.name)
    | some expr => do return (← (← book.resolve expr).toTerm).unfold callee

/-- The production of a kind or a rule, unfolded down to a depth. -/
def unfold (book : Book) : (depth : Nat) → Callee → Production
  | 0, _ => .refuse .endless
  | depth + 1, c =>
    .build (conversion c) fun _ ↦
      match book.inner (book.unfold depth) c with
      | .ok production => production
      | .error e => .refuse e

/-- The callees that the rules of a book can come to. -/
def callees (book : Book) : List Callee :=
  book.bindings.map (·.2.callee) ++ book.payloads.flatMap (·.2.callees)

/-- The production of what was given as a rule, deep enough for a source: a rule that comes back to
itself without having read a character never ends. -/
def production (book : Book) (src : Source) (rule : RuleLike) : Except RuleError Production := do
  let depth := (book.callees.length + 1) * (src.size + 2)
  return (← rule.toTerm).unfold (book.unfold depth)

end Book

end Tokenry
