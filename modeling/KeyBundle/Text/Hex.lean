/-
  KeyBundle.Text.Hex — numbers in base sixteen with small letters.
-/

namespace KeyBundle.Text

/-- A digit of any base up to sixteen. -/
def digitChar (d : Nat) : Char := Nat.digitChar d

/-- The last `width` digits of `n` in base sixteen. -/
def hexFixed : Nat → Nat → List Char
  | 0, _ => []
  | width + 1, n => hexFixed width (n / 16) ++ [digitChar (n % 16)]

/-- All digits of `n` in base sixteen. -/
def hex (n : Nat) : List Char := Nat.toDigits 16 n

/-- Where a thing lies. -/
def address (n : Nat) : String := "0x" ++ String.ofList (hex n)

end KeyBundle.Text
