import Tokenry.Number.Binary64

namespace Tokenry.Number

def isDigit (c : Char) : Bool := '0' ≤ c && c ≤ '9'

def ofDigits (digits : List Char) : Nat :=
  digits.foldl (fun n c ↦ n * 10 + (c.toNat - 0x30)) 0

def takeSign : List Char → Bool × List Char
  | '-' :: rest => (true, rest)
  | '+' :: rest => (false, rest)
  | rest => (false, rest)

def readPower : List Char → Option Int
  | [] => some 0
  | mark :: rest =>
    if mark != 'e' && mark != 'E' then none
    else
      let (negative, digits) := takeSign rest
      if digits.isEmpty || !digits.all isDigit then none
      else
        let n := Int.ofNat (ofDigits digits)
        some (if negative then -n else n)

def read? (text : List Char) : Option Binary64 := do
  let (negative, rest) := takeSign text
  let whole := rest.takeWhile isDigit
  let rest := rest.dropWhile isDigit
  let (places, rest) := match rest with
    | '.' :: rest => (rest.takeWhile isDigit, rest.dropWhile isDigit)
    | rest => ([], rest)
  if whole.isEmpty && places.isEmpty then failure
  let power ← readPower rest
  return .ofDecimal negative (ofDigits (whole ++ places)) (power - Int.ofNat places.length)

end Tokenry.Number
