namespace Tokenry.Number

/-- A finite number is its mantissa times a power of two. The mantissa has 53 binary digits, or
fewer if the exponent is the least one. -/
inductive Binary64 where
  | finite (negative : Bool) (mantissa : Nat) (exponent : Int)
  | infinite (negative : Bool)
  | nan
  deriving DecidableEq, Repr

structure Ratio where
  num : Nat
  den : Nat
  deriving DecidableEq, Repr

namespace Ratio

/-- `mantissa` times a power of a base. -/
def scaled (base mantissa : Nat) (exponent : Int) : Ratio :=
  match exponent with
  | .ofNat e => ⟨mantissa * base.pow e, 1⟩
  | .negSucc e => ⟨mantissa, base.pow (e + 1)⟩

def le (a b : Ratio) : Bool := a.num * b.den ≤ b.num * a.den

def lt (a b : Ratio) : Bool := a.num * b.den < b.num * a.den

def shift (a : Ratio) (base : Nat) (exponent : Int) : Ratio :=
  match exponent with
  | .ofNat e => ⟨a.num, a.den * base.pow e⟩
  | .negSucc e => ⟨a.num * base.pow (e + 1), a.den⟩

def floor (a : Ratio) : Nat := a.num / a.den

/-- The nearest natural number; a half goes to the even one. -/
def round (a : Ratio) : Nat :=
  let q := a.num / a.den
  let r := a.num % a.den
  if 2 * r < a.den then q else if a.den < 2 * r then q + 1 else if q % 2 = 0 then q else q + 1

end Ratio

namespace Binary64

def precision : Nat := 53

def leastExponent : Int := -1074

def greatestExponent : Int := 971

def zero (negative : Bool) : Binary64 := .finite negative 0 leastExponent

def ofRatio (negative : Bool) (a : Ratio) : Binary64 :=
  if a.num = 0 then zero negative
  else
    let guess : Int := Int.ofNat a.num.log2 - Int.ofNat a.den.log2 - 52
    let fit := if (a.shift 2 guess).floor < Nat.pow 2 52 then guess - 1 else guess
    let exponent := max leastExponent fit
    let mantissa := (a.shift 2 exponent).round
    let (mantissa, exponent) :=
      if mantissa = Nat.pow 2 precision then (Nat.pow 2 52, exponent + 1) else (mantissa, exponent)
    if greatestExponent < exponent then .infinite negative
    else .finite negative mantissa exponent

/-- The number nearest to a decimal with the given digits and power of ten. Powers that no number of
this precision reaches are cut short. -/
def ofDecimal (negative : Bool) (digits : Nat) (exponent : Int) : Binary64 :=
  let size : Int := Int.ofNat (Nat.toDigits 10 digits).length
  if digits = 0 then zero negative
  else if exponent + size > 400 then .infinite negative
  else if exponent + size < -400 then zero negative
  else ofRatio negative (.scaled 10 digits exponent)

def ofInt (n : Int) : Binary64 := ofRatio (n < 0) ⟨n.natAbs, 1⟩

def magnitude (mantissa : Nat) (exponent : Int) : Ratio := .scaled 2 mantissa exponent

/-- Equality of values: the two zeros are equal, and what is no number is equal to nothing. -/
def equal : Binary64 → Binary64 → Bool
  | .finite n m e, .finite n' m' e' =>
    let a := magnitude m e
    let b := magnitude m' e'
    a.num * b.den = b.num * a.den && (m = 0 || n = n')
  | .infinite n, .infinite n' => n = n'
  | _, _ => false

def equalInt : Binary64 → Int → Bool
  | .finite negative mantissa exponent, n =>
    let a := magnitude mantissa exponent
    n.natAbs * a.den = a.num && (mantissa = 0 || negative = decide (n < 0))
  | _, _ => false

def isNonzero : Binary64 → Bool
  | .finite _ mantissa _ => mantissa != 0
  | _ => true

end Binary64

end Tokenry.Number
