/-
  KeyBundle.Text.CodePoint — text as the system hands it over. A byte that is part of no character
  comes as a surrogate, a number that no character has, so such text is a sequence of code points.
  It can be written in UTF-8 only as far as it holds characters; its quoted form always can.
-/

import KeyBundle.Text.Quoted

namespace KeyBundle.Text

/-- The number of a character or of a surrogate. -/
@[ext]
structure CodePoint where
  number : Nat
  inRange : number < 0x110000
  deriving DecidableEq

namespace CodePoint

theorem toNat_inRange (c : Char) : c.toNat < 0x110000 := by
  have valid : c.toNat.isValidChar := c.valid
  rw [Nat.isValidChar] at valid
  omega

def ofChar (c : Char) : CodePoint := ⟨c.toNat, toNat_inRange c⟩

/-- The character of this number; a surrogate has none. -/
def char? (p : CodePoint) : Option Char :=
  if h : p.number.isValidChar then some (Char.ofNatAux p.number h) else none

/-- Shown as itself inside quotes. -/
def isPrintable (p : CodePoint) : Bool :=
  if p.number < 0x80 then 0x20 ≤ p.number && p.number < 0x7F else !hiddenRanges.holds p.number

end CodePoint

/-- Text in which surrogates may stand. -/
abbrev RawText := List CodePoint

namespace RawText

def ofChars (s : List Char) : RawText := s.map .ofChar

def ofString (s : String) : RawText := ofChars s.toList

/-- The bytes of the text in UTF-8. A surrogate cannot be written. -/
def utf8? (t : RawText) : Option (List UInt8) :=
  (t.mapM CodePoint.char?).map fun s => (String.ofList s).toUTF8.toList

def quoteFor (t : RawText) : Char :=
  if t.contains (.ofChar '\'') && !t.contains (.ofChar '"') then '"' else '\''

/-- How a code point is escaped between the quotes `q`: by a sign behind the backslash, and so many
digits of its number. Nothing if it stands for itself. -/
def escape? (q : Char) (p : CodePoint) : Option (Char × Nat) :=
  if p = .ofChar q then some (q, 0)
  else if p = .ofChar '\\' then some ('\\', 0)
  else if p = .ofChar '\t' then some ('t', 0)
  else if p = .ofChar '\n' then some ('n', 0)
  else if p = .ofChar '\r' then some ('r', 0)
  else if p.isPrintable then none
  else if p.number < 0x100 then some ('x', 2)
  else if p.number < 0x10000 then some ('u', 4)
  else some ('U', 8)

def escapePoint (q : Char) (p : CodePoint) : RawText :=
  match escape? q p with
  | none => [p]
  | some (sign, width) => ofChars ('\\' :: sign :: hexFixed width p.number)

/-- The quoted form of raw text. -/
def quoted (t : RawText) : RawText :=
  let q := quoteFor t
  .ofChar q :: t.flatMap (escapePoint q) ++ [.ofChar q]

end RawText

end KeyBundle.Text
