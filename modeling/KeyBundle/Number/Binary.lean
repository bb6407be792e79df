/-
  KeyBundle.Number.Binary — what a 64-bit binary floating-point number stands for: a whole
  number times a power of two, an infinity, or no number.
-/

namespace KeyBundle

inductive Binary where
  | nan
  | infinite (negative : Bool)
  /-- The value is `m` times two to the power `e`. -/
  | finite (negative : Bool) (m : Nat) (e : Int)
  deriving DecidableEq

namespace Binary

def ofFloat (x : Float) : Binary :=
  let bits := x.toBits.toNat
  let negative := bits / Nat.pow 2 63 == 1
  let exponent : Nat := bits / Nat.pow 2 52 % 2048
  let fraction := bits % Nat.pow 2 52
  if exponent == 2047 then
    if fraction == 0 then infinite negative else nan
  else if exponent == 0 then finite negative fraction (-1074)
  else finite negative (fraction + Nat.pow 2 52) ((exponent : Int) - 1075)

end Binary

/-- The numerator of `m` times two to the power `e`. -/
def numerator (m : Nat) (e : Int) : Nat := m * Nat.pow 2 e.toNat

/-- The denominator that goes with `numerator`. -/
def denominator (e : Int) : Nat := Nat.pow 2 (-e).toNat

namespace Number

/-- The nearest whole number to `num / den`, the even one of two. -/
def roundHalfEven (num den : Nat) : Nat :=
  let q := num / den
  let r := num % den
  if den < 2 * r || (den == 2 * r && q % 2 == 1) then q + 1 else q

/-- The nearest whole number with at most 53 binary digits before its zeros. -/
def toBinaryPlaces (n : Nat) : Nat :=
  let extra := Nat.log2 n - 52
  roundHalfEven n (Nat.pow 2 extra) * Nat.pow 2 extra

end Number

end KeyBundle
