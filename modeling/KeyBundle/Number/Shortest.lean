/-
  KeyBundle.Number.Shortest — the shortest decimal that reads back as a given binary
  floating-point number, and its text.

  The decimals that read back are those nearer to the number than to its neighbours. For 1, 2, …
  17 digits the two decimals around the number are tried: the first length with a hit wins, and
  of two hits the nearer one.
-/

import KeyBundle.Number.Binary

namespace KeyBundle.Number

/-- The greatest power of ten that is not above the positive fraction. -/
def decimalExponent (num den : Nat) : Int :=
  if den ≤ num then ((toString (num / den)).length : Int) - 1
  else -(((List.range 400).find? fun s => den ≤ num * Nat.pow 10 s).getD 0 : Int)

/-- The decimals with a given last place around a number: the interval that reads back as the
number, in quarters of its last binary place. -/
structure Around where
  low : Nat
  value : Nat
  high : Nat
  den : Nat
  /-- The ends of the interval belong to it. -/
  closed : Bool

/-- The interval around `m` times two to the power `e`; the neighbour below a power of two is
only half as far away. -/
def Around.of (m : Nat) (e : Int) : Around :=
  let below := if m == Nat.pow 2 52 && e != -1074 then 1 else 2
  { low := numerator (4 * m - below) (e - 2)
    value := numerator (4 * m) (e - 2)
    high := numerator (4 * m + 2) (e - 2)
    den := denominator (e - 2)
    closed := m % 2 == 0 }

/-- `k` times ten to the power `q` lies in the interval. -/
def Around.holds (a : Around) (k : Nat) (q : Int) : Bool :=
  let x := k * Nat.pow 10 q.toNat * a.den
  let scale := Nat.pow 10 (-q).toNat
  if a.closed then a.low * scale ≤ x && x ≤ a.high * scale
  else a.low * scale < x && x < a.high * scale

/-- The multiple of ten to the power `q` that reads back as the number, if one does. -/
def Around.decimal? (a : Around) (q : Int) : Option Nat :=
  let step := Nat.pow 10 q.toNat * a.den
  let value := a.value * Nat.pow 10 (-q).toNat
  let k := value / step
  let middle := (2 * k + 1) * step
  let aboveIsNearer := middle < 2 * value || (middle == 2 * value && k % 2 == 1)
  match a.holds k q, a.holds (k + 1) q with
  | true, true => some (if aboveIsNearer then k + 1 else k)
  | true, false => some k
  | false, true => some (k + 1)
  | false, false => none

/-- The shortest decimal as a whole number and the power of ten that it is multiplied with. -/
def shortest (m : Nat) (e : Int) : Nat × Int :=
  let a := Around.of m e
  let top := decimalExponent a.value a.den
  ((List.range 17).findSome? fun n : Nat =>
    (a.decimal? (top - n)).map fun k => (k, top - n)).getD (0, 0)

/-- Digits without the zeros at their end. -/
def dropZeros (ds : List Char) : List Char := (ds.reverse.dropWhile (· == '0')).reverse

/-- The sign, the digits and the position of the point, as text: positional while the point
stands between four places before the digits and sixteen behind their start, with an exponent of
two digits or more elsewhere. -/
def placePoint (digits : List Char) (point : Int) : List Char :=
  if -4 < point && point ≤ 16 then
    if point ≤ 0 then '0' :: '.' :: List.replicate (-point).toNat '0' ++ digits
    else
      let n := point.toNat
      if digits.length ≤ n then digits ++ List.replicate (n - digits.length) '0' ++ ['.', '0']
      else digits.take n ++ '.' :: digits.drop n
  else
    let exponent := point - 1
    let expDigits := (toString exponent.natAbs).toList
    digits.take 1 ++ (if digits.length ≤ 1 then [] else '.' :: digits.drop 1)
      ++ 'e' :: (if exponent < 0 then '-' else '+')
      :: List.replicate (2 - expDigits.length) '0' ++ expDigits

/-- The text of a floating-point number. -/
def floatText (x : Float) : String :=
  match Binary.ofFloat x with
  | .nan => "nan"
  | .infinite negative => if negative then "-inf" else "inf"
  | .finite negative m e =>
    let body :=
      if m == 0 then "0.0".toList
      else
        let (k, q) := shortest m e
        let all := (toString k).toList
        placePoint (dropZeros all) (q + all.length)
    String.ofList (if negative then '-' :: body else body)

end KeyBundle.Number
