/-
  KeyBundle.Number.Literal — reading a whole number in base ten: blanks around it, a sign, and
  digits with single underscores between them.

  In a text of ASCII characters only six of them are blanks. In any other text every blank and
  every decimal digit of Unicode counts as well.
-/

import KeyBundle.Text.Class
import KeyBundle.Text.Quoted

namespace KeyBundle.Number

/-- Why a text is no whole number. -/
inductive LiteralFault where
  /-- Not of the form of a number. -/
  | malformed (text : String)
  /-- More digits than are read. -/
  | tooLong (digits : Nat)

/-- The most digits that are read. -/
def maxDigits : Nat := 4300

namespace LiteralFault

def message : LiteralFault → String
  | malformed text =>
    "invalid literal for int() with base 10: " ++ String.ofList ((Text.quoted text).toList.take 200)
  | tooLong digits =>
    "Exceeds the limit (" ++ toString maxDigits
      ++ " digits) for integer string conversion: value has " ++ toString digits
      ++ " digits; use sys.set_int_max_str_digits() to increase the limit"

end LiteralFault

/-- The six blanks of ASCII text. -/
def isPlainBlank (c : Char) : Bool := c == ' ' || (9 ≤ c.toNat && c.toNat ≤ 13)

/-- A character of non-ASCII text as the ASCII character that it counts as. -/
def plainForm (c : Char) : Char :=
  if c.toNat < 0x7F then c
  else if Text.isBlank c then ' '
  else
    match Text.decimal? c with
    | some d => Text.digitChar d
    | none => '?'

def toPlain (s : List Char) : List Char :=
  if s.all (·.toNat < 0x80) then s else s.map plainForm

/-- The value of a run of digits, most significant first. -/
def digitsValue (ds : List Char) : Nat :=
  ds.foldl (fun n c => n * 10 + (c.toNat - '0'.toNat)) 0

/-- No underscore at the start or beside another, and none at the end. -/
def wellSpaced : (afterDigit : Bool) → List Char → Bool
  | afterDigit, [] => afterDigit
  | afterDigit, c :: cs =>
    if c == '_' then afterDigit && wellSpaced false cs else wellSpaced true cs

/-- Digits and underscores without a sign before them, then blanks. -/
def readDigits (text : String) (s : List Char) : Except LiteralFault Nat :=
  let isPart := fun c : Char => c.isDigit || c == '_'
  let run := s.takeWhile isPart
  let digits := run.filter (·.isDigit)
  if !wellSpaced false run then .error (.malformed text)
  else if maxDigits < digits.length then .error (.tooLong digits.length)
  else if !(s.dropWhile isPart).all isPlainBlank then .error (.malformed text)
  else .ok (digitsValue digits)

/-- The whole number that a text writes. -/
def readInt (text : String) : Except LiteralFault Int :=
  match (toPlain text.toList).dropWhile isPlainBlank with
  | '-' :: s => (readDigits text s).map fun n => -(n : Int)
  | '+' :: s => (readDigits text s).map Int.ofNat
  | s => (readDigits text s).map Int.ofNat

end KeyBundle.Number
