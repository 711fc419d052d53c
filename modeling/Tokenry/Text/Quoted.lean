import Tokenry.Text.Hex

namespace Tokenry.Text.Quoted

def escape (c : Char) : List Char :=
  if c = '"' then ['\\', '"']
  else if c = '\\' then ['\\', '\\']
  else if c = '\n' then ['\\', 'n']
  else if c = '\r' then ['\\', 'r']
  else if c = '\t' then ['\\', 't']
  else if c = '\x08' then ['\\', 'b']
  else if c = '\x0c' then ['\\', 'f']
  else if c.toNat < 0x20 then '\\' :: 'u' :: Hex.fixed 4 c.toNat
  else [c]

def encodeChars (text : List Char) : List Char :=
  '"' :: (text.flatMap escape ++ ['"'])

def encode (text : String) : String := String.ofList (encodeChars text.toList)

end Tokenry.Text.Quoted
