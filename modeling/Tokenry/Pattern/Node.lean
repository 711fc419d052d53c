import Tokenry.Text.Classes
import Tokenry.Text.Folding

namespace Tokenry.Pattern

/-- How letter case is compared: not ignored, ignored for the first 128 code points, or ignored for
all letters. -/
inductive Fold where
  | exact
  | narrow
  | full
  deriving DecidableEq, Repr

inductive Category where
  | digit
  | space
  | word
  deriving DecidableEq, Repr

def Category.holds : Category → (narrow : Bool) → Char → Bool
  | .digit, false, c => Text.isDigit c
  | .digit, true, c => Text.isNarrowDigit c
  | .space, false, c => Text.isSpace c
  | .space, true, c => Text.isNarrowSpace c
  | .word, false, c => Text.isWord c
  | .word, true, c => Text.isNarrowWord c

/-- A member of a character set. Code points are numbers, so that a set may name ones that no text
holds. -/
inductive SetItem where
  | code (point : Nat)
  | span (low high : Nat)
  | category (kind : Category) (negated narrow : Bool)
  deriving DecidableEq, Repr

inductive CharTest where
  | any (newline : Bool)
  | one (point : Nat) (fold : Fold)
  | set (negated : Bool) (items : List SetItem) (fold : Fold)
  deriving DecidableEq, Repr

def Fold.variants : Fold → Nat → List Nat
  | .exact, code => [code]
  | .narrow, code => Text.Folding.narrowVariants code
  | .full, code => Text.Folding.variants code

/-- The form under which two code points that agree under the fold are equal, up to shared upper
case. -/
def Fold.lower : Fold → Nat → Nat
  | .exact, code => code
  | .narrow, code => Text.Folding.narrowLower code
  | .full, code => Text.Folding.lower code

def SetItem.holds (c : Char) (variants : List Nat) : SetItem → Bool
  | .code point => variants.contains point
  | .span low high => variants.any fun v ↦ low ≤ v && v ≤ high
  | .category kind negated narrow => kind.holds narrow c != negated

def CharTest.holds (c : Char) : CharTest → Bool
  | .any newline => newline || c != '\n'
  | .one point .exact => c.toNat == point
  | .one point fold => (fold.variants c.toNat).contains point
  | .set negated items fold =>
    let variants := fold.variants c.toNat
    items.any (SetItem.holds c variants) != negated

inductive Anchor where
  | start
  | lineStart
  | stop
  | lineStop
  | veryEnd
  | boundary (inside narrow : Bool)
  deriving DecidableEq, Repr

inductive Preference where
  | greedy
  | reluctant
  | possessive
  deriving DecidableEq, Repr

/-- The least and the greatest number of characters that a pattern can match. -/
structure Width where
  least : Nat
  most : Nat
  deriving DecidableEq, Repr

def Width.limit : Nat := 0x10000000000000000

namespace Width

def zero : Width := ⟨0, 0⟩

def single : Width := ⟨1, 1⟩

def add (a b : Width) : Width := ⟨min (a.least + b.least) limit, min (a.most + b.most) limit⟩

def either (a b : Width) : Width := ⟨min a.least b.least, max a.most b.most⟩

def times (low : Nat) (high : Option Nat) (a : Width) : Width where
  least := min (a.least * low) limit
  most :=
    match high with
    | some n => min (a.most * n) limit
    | none => if a.most = 0 then 0 else limit

end Width

inductive Node where
  | empty
  | test (test : CharTest)
  | anchor (anchor : Anchor)
  | cat (first second : Node)
  | alt (first second : Node)
  | group (index : Nat) (body : Node)
  | again (index : Nat) (fold : Fold) (width : Width)
  | ahead (positive : Bool) (body : Node)
  | behind (positive : Bool) (width : Width) (body : Node)
  | repetition (preference : Preference) (low : Nat) (high : Option Nat) (body : Node)
  | atomic (body : Node)
  | ifGroup (index : Nat) (yes no : Node)
  deriving DecidableEq, Repr

namespace Node

def width : Node → Width
  | .empty | .anchor _ | .ahead _ _ | .behind _ _ _ => .zero
  | .test _ => .single
  | .cat first second => first.width.add second.width
  | .alt first second => first.width.either second.width
  | .group _ body | .atomic body => body.width
  | .again _ _ width => width
  | .repetition _ low high body => body.width.times low high
  | .ifGroup _ yes no => yes.width.either no.width

def ofList (nodes : List Node) : Node := nodes.foldr .cat .empty

end Node

structure Compiled where
  node : Node
  groups : Nat
  deriving DecidableEq, Repr

end Tokenry.Pattern
