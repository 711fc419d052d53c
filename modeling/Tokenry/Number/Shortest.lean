import Tokenry.Number.Binary64

namespace Tokenry.Number

structure Decimal where
  digits : Nat
  point : Int
  deriving DecidableEq, Repr

/-- The decimals that round to a number lie between two bounds, which belong to them if the mantissa
is even. -/
structure Neighbourhood where
  low : Ratio
  high : Ratio
  closed : Bool
  deriving DecidableEq, Repr

namespace Neighbourhood

/-- Half the distance to each neighbour; below a power of two the neighbours are closer. -/
def of (mantissa : Nat) (exponent : Int) : Neighbourhood :=
  let below := if mantissa = Nat.pow 2 52 ∧ Binary64.leastExponent < exponent then 1 else 2
  { low := .scaled 2 (4 * mantissa - below) (exponent - 2)
    high := .scaled 2 (4 * mantissa + 2) (exponent - 2)
    closed := mantissa % 2 = 0 }

def contains (n : Neighbourhood) (a : Ratio) : Bool :=
  if n.closed then n.low.le a && a.le n.high else n.low.lt a && a.lt n.high

end Neighbourhood

def digitCount (n : Nat) : Nat := (Nat.toDigits 10 n).length

def decimalPoint (a : Ratio) : Int :=
  if a.den ≤ a.num then Int.ofNat (digitCount a.floor)
  else 1 - Int.ofNat (digitCount ((a.den - 1) / a.num))

/-- The decimal of a number of digits that is nearest to a fraction and still in its
neighbourhood. -/
def nearest? (n : Neighbourhood) (a : Ratio) (point : Int) (count : Nat) : Option Nat :=
  let exponent := point - Int.ofNat count
  let nearest := (a.shift 10 exponent).round
  let below := (a.shift 10 exponent).floor
  let fits (digits : Nat) : Bool := n.contains (.scaled 10 digits exponent)
  if fits nearest then some nearest
  else if fits below then some below
  else if fits (below + 1) then some (below + 1)
  else none

/-- Tries more and more digits; with seventeen every number is told from its neighbours. -/
def search (n : Neighbourhood) (a : Ratio) (point : Int) : (left count : Nat) → Nat × Nat
  | 0, count => ((a.shift 10 (point - Int.ofNat count)).round, count)
  | left + 1, count =>
    match nearest? n a point count with
    | some digits => (digits, count)
    | none => search n a point left (count + 1)

def shortest (mantissa : Nat) (exponent : Int) : Decimal :=
  let a := Binary64.magnitude mantissa exponent
  let point := decimalPoint a
  let (digits, count) := search (.of mantissa exponent) a point 17 1
  if digits = Nat.pow 10 count then ⟨1, point + 1⟩ else ⟨digits, point⟩

/-- How numbers are spelled. Decimals whose point lies in a window are written out, others with a
power of ten. -/
structure Spelling where
  pointAbove : Int
  pointUpTo : Int
  nan : String
  infinity : String
  deriving DecidableEq, Repr

def plain : Spelling := ⟨-4, 16, "nan", "inf"⟩

def interchange : Spelling := ⟨-4, 16, "NaN", "Infinity"⟩

namespace Spelling

def power (exponent : Int) : String :=
  let digits := toString exponent.natAbs
  (if exponent < 0 then "e-" else "e+") ++ (if digits.length < 2 then "0" ++ digits else digits)

def decimal (s : Spelling) (d : Decimal) : String :=
  let digits := (Nat.toDigits 10 d.digits)
  let count := digits.length
  if s.pointAbove < d.point ∧ d.point ≤ s.pointUpTo then
    if d.point ≤ 0 then
      "0." ++ String.ofList (List.replicate d.point.natAbs '0' ++ digits)
    else
      let whole := d.point.toNat
      if count ≤ whole then String.ofList (digits ++ List.replicate (whole - count) '0') ++ ".0"
      else String.ofList (digits.take whole) ++ "." ++ String.ofList (digits.drop whole)
  else
    match digits with
    | [] => ""
    | [digit] => String.ofList [digit] ++ power (d.point - 1)
    | digit :: rest => String.ofList (digit :: '.' :: rest) ++ power (d.point - 1)

def write (s : Spelling) : Binary64 → String
  | .nan => s.nan
  | .infinite negative => (if negative then "-" else "") ++ s.infinity
  | .finite negative mantissa exponent =>
    (if negative then "-" else "") ++
      (if mantissa = 0 then "0.0" else s.decimal (shortest mantissa exponent))

end Spelling

end Tokenry.Number
