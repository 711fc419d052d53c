import Tokenry.Text.Hex

namespace Tokenry.Text.Utf8

inductive Reason where
  | badStart
  | badContinuation
  | truncated
  deriving DecidableEq, Repr

/-- The bytes of a character that cannot be read, and where the first of them stands. -/
structure DecodeError where
  position : Nat
  taken : List UInt8
  reason : Reason
  deriving DecidableEq, Repr

def Reason.message : Reason → String
  | .badStart => "invalid start byte"
  | .badContinuation => "invalid continuation byte"
  | .truncated => "unexpected end of data"

def DecodeError.message (e : DecodeError) : String :=
  let place := match e.taken with
    | [b] => "byte 0x" ++ String.ofList (Hex.fixed 2 b.toNat) ++ " in position " ++ toString e.position
    | taken =>
      "bytes in position " ++ toString e.position ++ "-" ++ toString (e.position + taken.length - 1)
  "'utf-8' codec can't decode " ++ place ++ ": " ++ e.reason.message

/-- A character that has begun: the bits read so far, how many bytes follow, and the bounds of the
next one. -/
structure Begun where
  code : Nat
  owed : Nat
  low : Nat := 0x80
  high : Nat := 0xbf
  deriving DecidableEq, Repr

def begin? (b : Nat) : Option Begun :=
  if b < 0x80 then some { code := b, owed := 0 }
  else if b < 0xc2 then none
  else if b < 0xe0 then some { code := b - 0xc0, owed := 1 }
  else if b = 0xe0 then some { code := 0, owed := 2, low := 0xa0 }
  else if b = 0xed then some { code := 0xd, owed := 2, high := 0x9f }
  else if b < 0xf0 then some { code := b - 0xe0, owed := 2 }
  else if b = 0xf0 then some { code := 0, owed := 3, low := 0x90 }
  else if b < 0xf4 then some { code := b - 0xf0, owed := 3 }
  else if b = 0xf4 then some { code := 4, owed := 3, high := 0x8f }
  else none

def Begun.extend? (c : Begun) (b : Nat) : Option Begun :=
  if c.low ≤ b ∧ b ≤ c.high then some { code := c.code * 64 + (b - 0x80), owed := c.owed - 1 }
  else none

/-- Reads bytes from a position on. `taken` are the bytes of the character under way. -/
def decodeFrom (position : Nat) (taken : List UInt8) :
    Option Begun → List UInt8 → Except DecodeError (List Char)
  | none, [] => .ok []
  | some _, [] => .error ⟨position, taken, .truncated⟩
  | none, b :: rest =>
    match begin? b.toNat with
    | none => .error ⟨position, [b], .badStart⟩
    | some c =>
      if c.owed = 0 then (decodeFrom (position + 1) [] none rest).map (Char.ofNat c.code :: ·)
      else decodeFrom position [b] (some c) rest
  | some c, b :: rest =>
    match c.extend? b.toNat with
    | none => .error ⟨position, taken, .badContinuation⟩
    | some c =>
      if c.owed = 0 then
        (decodeFrom (position + taken.length + 1) [] none rest).map (Char.ofNat c.code :: ·)
      else decodeFrom position (taken ++ [b]) (some c) rest

def decode (bytes : List UInt8) : Except DecodeError (List Char) := decodeFrom 0 [] none bytes

def unifyLineEnds : List Char → List Char
  | [] => []
  | '\r' :: '\n' :: rest => '\n' :: unifyLineEnds rest
  | c :: rest => (if c = '\r' then '\n' else c) :: unifyLineEnds rest

def decodeFile (bytes : List UInt8) : Except DecodeError String :=
  (decode bytes).map fun chars ↦ String.ofList (unifyLineEnds chars)

end Tokenry.Text.Utf8
