import Tokenry.Document.Token
import Tokenry.Number.Reading
import Tokenry.Value

namespace Tokenry.Document

inductive PlainForm where
  | null
  | bool
  | int
  | float
  | timestamp
  | merge
  | default
  | text
  deriving DecidableEq, Repr

namespace Plain

def isDigit (c : Char) : Bool := Number.isDigit c

def unsigned (text : List Char) : List Char := (Number.takeSign text).2

def isDigitOrGap (c : Char) : Bool := isDigit c || c == '_'

def isPower (signed : Bool) : List Char → Bool
  | [] => true
  | mark :: rest =>
    let digits := unsigned rest
    (mark == 'e' || mark == 'E') && !digits.isEmpty && digits.all isDigit
      && (!signed || digits.length < rest.length)

def isFloat (text : List Char) : Bool :=
  let body := unsigned text
  let whole := body.takeWhile isDigitOrGap
  let rest := body.dropWhile isDigitOrGap
  if [".nan", ".NaN", ".NAN"].contains (String.ofList text) then true
  else if [".inf", ".Inf", ".INF"].contains (String.ofList body) then true
  else
    match rest with
    | '.' :: rest =>
      let places := rest.takeWhile isDigitOrGap
      let rest := rest.dropWhile isDigitOrGap
      if whole.isEmpty then !places.isEmpty && isPower true rest
      else whole.head?.any isDigit && isPower false rest
    | _ => whole.head?.any isDigit && !rest.isEmpty && isPower false rest

def isInt (text : List Char) : Bool :=
  let digitsOf (test : Char → Bool) (digits : List Char) : Bool :=
    !digits.isEmpty && digits.all fun c ↦ test c || c == '_'
  match text with
  | '_' :: _ => false
  | _ =>
    match unsigned text with
    | '0' :: 'b' :: rest => digitsOf (fun c ↦ c == '0' || c == '1') rest
    | '0' :: 'o' :: rest => digitsOf (fun c ↦ '0' ≤ c && c ≤ '7') rest
    | '0' :: 'x' :: rest => digitsOf Text.Hex.isDigit rest
    | digits => digitsOf isDigit digits

def takeDigits (least most : Nat) (text : List Char) : Option (Nat × List Char) :=
  let digits := (text.takeWhile isDigit).take most
  if digits.length < least then none else some (Number.ofDigits digits, text.drop digits.length)

def takeChar (c : Char) : List Char → Option (List Char)
  | d :: rest => if c == d then some rest else none
  | [] => none

structure Clock where
  hour : Nat
  minute : Nat
  second : Nat
  fraction : List Char
  deriving DecidableEq, Repr

structure Stamp where
  year : Nat
  month : Nat
  day : Nat
  clock : Option Clock
  deriving DecidableEq, Repr

def isBlank (c : Char) : Bool := c == ' ' || c == '\t'

def isZone (text : List Char) : Bool :=
  match text.dropWhile isBlank with
  | [] => text.isEmpty
  | ['Z'] => true
  | sign :: rest =>
    (sign == '-' || sign == '+') &&
      match takeDigits 1 2 rest with
      | some (_, []) => true
      | some (_, ':' :: rest) => rest.length == 2 && rest.all isDigit
      | _ => false

def clock? (text : List Char) : Option Clock := do
  let (hour, rest) ← takeDigits 1 2 text
  let (minute, rest) ← takeDigits 2 2 (← takeChar ':' rest)
  let (second, rest) ← takeDigits 2 2 (← takeChar ':' rest)
  let (fraction, rest) := match rest with
    | '.' :: rest => (rest.takeWhile isDigit, rest.dropWhile isDigit)
    | rest => ([], rest)
  if isZone rest then some ⟨hour, minute, second, fraction⟩ else none

def dropSeparator : List Char → Option (List Char)
  | 'T' :: rest | 't' :: rest => some rest
  | c :: rest => if isBlank c then some (rest.dropWhile isBlank) else none
  | [] => none

/-- Reads a date, or a date and a time. A date alone has two digits for the month and the day. -/
def stamp? (text : List Char) : Option Stamp := do
  let (year, rest) ← takeDigits 4 4 text
  let (month, rest) ← takeDigits 1 2 (← takeChar '-' rest)
  let (day, rest) ← takeDigits 1 2 (← takeChar '-' rest)
  if rest.isEmpty then
    if text.length == 10 then some ⟨year, month, day, none⟩ else none
  else some ⟨year, month, day, some (← clock? (← dropSeparator rest))⟩

def isLeap (year : Nat) : Bool := year % 4 == 0 && (year % 100 != 0 || year % 400 == 0)

def daysIn (year month : Nat) : Nat :=
  if month == 2 then if isLeap year then 29 else 28
  else if [4, 6, 9, 11].contains month then 30
  else 31

def Stamp.value (s : Stamp) : Except ScalarFault Value := do
  if s.year == 0 then throw (.year s.year)
  if s.month == 0 || 12 < s.month then throw .month
  if s.day == 0 || daysIn s.year s.month < s.day then throw .day
  match s.clock with
  | none => return .date s.year s.month s.day
  | some c =>
    if 23 < c.hour then throw .hour
    if 59 < c.minute then throw .minute
    if 59 < c.second then throw .second
    let fraction := if c.fraction.all (· == '0') then ""
      else "." ++ String.ofList ((c.fraction ++ List.replicate 6 '0').take 6)
    return .moment (Value.dateText s.year s.month s.day ++ " " ++ Value.two c.hour ++ ":"
      ++ Value.two c.minute ++ ":" ++ Value.two c.second ++ fraction)

/-- The form of a plain scalar; the forms are tried in this order. -/
def form (text : String) : PlainForm :=
  let chars := text.toList
  if ["true", "True", "TRUE", "false", "False", "FALSE"].contains text then .bool
  else if isFloat chars then .float
  else if isInt chars then .int
  else if text == "<<" then .merge
  else if ["~", "null", "Null", "NULL", ""].contains text then .null
  else if (stamp? chars).isSome then .timestamp
  else if text == "=" then .default
  else .text

def ofBase (base : Nat) (digits : List Char) : Except ScalarFault Nat :=
  let isDigit (c : Char) : Bool := (Text.Hex.value? c).any (· < base)
  if digits.isEmpty || !digits.all isDigit then .error (.integer base (String.ofList digits))
  else .ok (digits.foldl (fun n c ↦ n * base + (Text.Hex.value? c).getD 0) 0)

def int (text : String) : Except ScalarFault Int := do
  let (negative, body) := Number.takeSign (text.toList.filter (· != '_'))
  let n ← match body with
    | '0' :: 'b' :: digits => ofBase 2 digits
    | '0' :: 'o' :: digits => ofBase 8 digits
    | '0' :: 'x' :: digits => ofBase 16 digits
    | digits => ofBase 10 digits
  return if negative then -Int.ofNat n else Int.ofNat n

def float (text : String) : Except ScalarFault Number.Binary64 :=
  let chars := (text.toList.filter (· != '_')).map Char.toLower
  let (negative, body) := Number.takeSign chars
  match String.ofList body with
  | ".inf" => .ok (.infinite negative)
  | ".nan" => .ok .nan
  | _ =>
    match Number.read? chars with
    | some x => .ok x
    | none => .error (.decimal (String.ofList body))

def truths : List (String × Bool) :=
  [("yes", true), ("no", false), ("y", true), ("n", false), ("true", true), ("false", false),
    ("on", true), ("off", false)]

def bool (text : String) : Except ScalarFault Bool :=
  let lower := String.ofList (text.toList.map Char.toLower)
  match truths.lookup lower with
  | some b => .ok b
  | none => .error (.truth lower)

end Plain

end Tokenry.Document
