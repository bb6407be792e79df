/-
  KeyBundle.Text.Class — the four classes of characters that the library asks about:
  blanks, word characters, printable characters and decimal digits, over all of Unicode 14.
-/

import KeyBundle.Text.DigitTable
import KeyBundle.Text.PrintableTable
import KeyBundle.Text.WordTable

namespace KeyBundle.Text

/-- Whitespace, the four information separators among it. -/
def blankRanges : Ranges := [
  (9, 13), (0x1C, 0x20), (0x85, 0x85), (0xA0, 0xA0), (0x1680, 0x1680), (0x2000, 0x200A),
  (0x2028, 0x2029), (0x202F, 0x202F), (0x205F, 0x205F), (0x3000, 0x3000)]

def isBlank (c : Char) : Bool := blankRanges.holds c.toNat

/-- A letter, a numeral or the underscore. -/
def isWord (c : Char) : Bool :=
  c.isAlphanum || c == '_' || wordRanges.holds c.toNat

/-- Shown as itself inside quotes. -/
def isPrintable (c : Char) : Bool :=
  if c.toNat < 0x80 then 0x20 ≤ c.toNat && c.toNat < 0x7F else !hiddenRanges.holds c.toNat

/-- The value of a decimal digit of any script. -/
def decimal? (c : Char) : Option Nat :=
  (decimalZeros.find? fun z => z ≤ c.toNat && c.toNat < z + 10).map (c.toNat - ·)

/-- Text without the blanks at its two ends. -/
def trim (s : List Char) : List Char :=
  ((s.dropWhile isBlank).reverse.dropWhile isBlank).reverse

end KeyBundle.Text
