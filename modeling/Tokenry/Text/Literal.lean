import Tokenry.Text.Hex
import Tokenry.Text.Printable

namespace Tokenry.Text.Literal

def quoteOf (text : List Char) : Char :=
  if text.contains '\'' && !text.contains '"' then '"' else '\''

def escape (quote c : Char) : List Char :=
  if c = quote || c = '\\' then ['\\', c]
  else if c = '\n' then ['\\', 'n']
  else if c = '\r' then ['\\', 'r']
  else if c = '\t' then ['\\', 't']
  else if isPrintable c then [c]
  else if c.toNat < 0x100 then '\\' :: 'x' :: Hex.fixed 2 c.toNat
  else if c.toNat < 0x10000 then '\\' :: 'u' :: Hex.fixed 4 c.toNat
  else '\\' :: 'U' :: Hex.fixed 8 c.toNat

def encodeChars (text : List Char) : List Char :=
  let quote := quoteOf text
  quote :: (text.flatMap (escape quote) ++ [quote])

def encode (text : String) : String := String.ofList (encodeChars text.toList)

def encodeList (texts : List String) : String :=
  "[" ++ String.intercalate ", " (texts.map encode) ++ "]"

/-- The literal of a row of bytes: as for text, with a mark in front and an escape of two digits for
everything that is not plain. -/
def encodeBytes (bytes : List UInt8) : String :=
  let chars := bytes.map fun b ↦ Char.ofNat b.toNat
  let quote := quoteOf chars
  let escapeByte (c : Char) : List Char :=
    if c.toNat < 0x80 then escape quote c else '\\' :: 'x' :: Hex.fixed 2 c.toNat
  String.ofList ('b' :: quote :: (chars.flatMap escapeByte ++ [quote]))

end Tokenry.Text.Literal
