/-
  KeyBundle.Text.Quoted — text and bytes between quotes, as they are shown inside values and in
  error messages. The quote is the single one unless the content has single quotes and no
  double ones; the quote in use and the backslash are escaped, and whatever is not printable is
  written by number.
-/

import KeyBundle.Text.Class
import KeyBundle.Text.Hex

namespace KeyBundle.Text.Quoted

def quoteFor (s : List Char) : Char :=
  if s.contains '\'' && !s.contains '"' then '"' else '\''

/-- A character by its number, in the shortest of the three forms. -/
def byNumber (c : Char) : List Char :=
  if c.toNat < 0x100 then '\\' :: 'x' :: hexFixed 2 c.toNat
  else if c.toNat < 0x10000 then '\\' :: 'u' :: hexFixed 4 c.toNat
  else '\\' :: 'U' :: hexFixed 8 c.toNat

/-- One character between the quotes `q`; `shown` says which ones stand for themselves. -/
def escapeChar (q : Char) (shown : Char → Bool) (c : Char) : List Char :=
  if c == q || c == '\\' then ['\\', c]
  else if c == '\t' then ['\\', 't']
  else if c == '\n' then ['\\', 'n']
  else if c == '\r' then ['\\', 'r']
  else if shown c then [c]
  else byNumber c

def encodeWith (shown : Char → Bool) (s : List Char) : List Char :=
  let q := quoteFor s
  q :: s.flatMap (escapeChar q shown) ++ [q]

/-- The quoted form of a text. -/
def encode (s : List Char) : List Char := encodeWith isPrintable s

def isPrintableAscii (c : Char) : Bool := isPrintable c && c.toNat < 0x80

/-- The characters whose numbers the bytes are. -/
def charsOf (b : List UInt8) : List Char := b.map fun x => Char.ofNat x.toNat

/-- The quoted form of bytes, each shown as the ASCII character of its value. -/
def encodeBytes (b : List UInt8) : List Char := 'b' :: encodeWith isPrintableAscii (charsOf b)

/-- The quoted form of bytes that can change, in which single quotes are always escaped. -/
def encodeBuffer (b : List UInt8) : List Char :=
  let q := quoteFor (charsOf b)
  'b' :: q :: (charsOf b).flatMap (escapeChar '\'' isPrintableAscii) ++ [q]

end KeyBundle.Text.Quoted

namespace KeyBundle.Text

/-- The quoted form of a text. -/
def quoted (s : String) : String := String.ofList (Quoted.encode s.toList)

def quotedBytes (b : List UInt8) : String := String.ofList (Quoted.encodeBytes b)

/-- The shown form of bytes that can change. -/
def bufferText (b : List UInt8) : String :=
  "bytearray(" ++ String.ofList (Quoted.encodeBuffer b) ++ ")"

end KeyBundle.Text
