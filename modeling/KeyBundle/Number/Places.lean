/-
  KeyBundle.Number.Places — a fraction written with a given number of places, positionally or
  with an exponent. What is left over is rounded to the nearest, a half to the even neighbour.
-/

import KeyBundle.Number.Shortest

namespace KeyBundle.Number

/-- Digits with the last `places` of them behind a point. -/
def withPoint (places : Nat) (point : Bool) (digits : List Char) : List Char :=
  let all := List.replicate (places + 1 - digits.length) '0' ++ digits
  let whole := all.length - places
  all.take whole ++ (if places == 0 && !point then [] else '.' :: all.drop whole)

/-- Positional, with so many places; `point` keeps the point when there are none. -/
def fixedText (places : Nat) (point : Bool) (num den : Nat) : List Char :=
  withPoint places point (toString (roundHalfEven (num * Nat.pow 10 places) den)).toList

/-- The digits of a fraction, one before the point, and the power of ten that they go with. -/
def scaled (places : Nat) (num den : Nat) : Nat × Int :=
  if num == 0 then (0, 0)
  else
    let top := decimalExponent num den
    let q := top - places
    let n := roundHalfEven (num * Nat.pow 10 (-q).toNat) (den * Nat.pow 10 q.toNat)
    if n == Nat.pow 10 (places + 1) then (n / 10, top + 1) else (n, top)

def exponentText (mark : Char) (exponent : Int) : List Char :=
  let digits := (toString exponent.natAbs).toList
  mark :: (if exponent < 0 then '-' else '+') :: List.replicate (2 - digits.length) '0' ++ digits

/-- One digit, so many places, and an exponent. -/
def scientificText (places : Nat) (point : Bool) (mark : Char) (num den : Nat) : List Char :=
  let (n, exponent) := scaled places num den
  withPoint places point (toString n).toList ++ exponentText mark exponent

/-- Without the zeros at the end of the places, and without a point that stands last. -/
def dropPlaces (s : List Char) : List Char :=
  if s.contains '.' then
    let t := dropZeros s
    if t.getLast? == some '.' then t.dropLast else t
  else s

/-- No floating-point number has more digits before the zeros at its end, and none is as long as
that before the point. -/
def mostDigits : Nat := 1100

/-- So many digits in all, in whichever of the two forms suits the size. -/
def generalText (digits : Nat) (keepZeros : Bool) (mark : Char) (num den : Nat) : List Char :=
  let digits := max (if keepZeros then digits else min digits mostDigits) 1
  let (n, exponent) := scaled (digits - 1) num den
  let trimmed := fun s => if keepZeros then s else dropPlaces s
  if -4 ≤ exponent && exponent < digits then
    trimmed (fixedText (digits - 1 - exponent).toNat keepZeros num den)
  else
    trimmed (withPoint (digits - 1) keepZeros (toString n).toList) ++ exponentText mark exponent

end KeyBundle.Number
