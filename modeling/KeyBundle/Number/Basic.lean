/-
  KeyBundle.Number.Basic — the numbers a caller may pass: truth values, whole numbers and
  floating-point numbers, with one order and one equality across the three kinds. Truth values
  count as 0 and 1; a float stands for its exact value.
-/

import KeyBundle.Number.Shortest

namespace KeyBundle

inductive Number where
  | bool (b : Bool)
  | int (n : Int)
  /-- The mark tells apart two results that are no number: such a result equals only itself. -/
  | float (x : Float) (mark : Nat)

namespace Number

/-- The exact value of a number. -/
inductive Exact where
  | nan
  | negInfinity
  | posInfinity
  /-- A fraction with a positive denominator. -/
  | ratio (num : Int) (den : Nat)

def exact : Number → Exact
  | bool b => .ratio (if b then 1 else 0) 1
  | int n => .ratio n 1
  | float x _ =>
    match Binary.ofFloat x with
    | .nan => .nan
    | .infinite true => .negInfinity
    | .infinite false => .posInfinity
    | .finite negative m e =>
      .ratio (if negative then -(numerator m e : Int) else numerator m e) (denominator e)

/-- Strictly less; nothing is less or greater than what is no number. -/
def less (a b : Number) : Bool :=
  match a.exact, b.exact with
  | .nan, _ | _, .nan => false
  | .negInfinity, .negInfinity => false
  | .negInfinity, _ => true
  | _, .negInfinity => false
  | .posInfinity, _ => false
  | .ratio .., .posInfinity => true
  | .ratio n d, .ratio m e => n * e < m * d

def equal (a b : Number) : Bool :=
  match a.exact, b.exact with
  | .negInfinity, .negInfinity | .posInfinity, .posInfinity => true
  | .ratio n d, .ratio m e => n * e == m * d
  | _, _ => false

/-- Equal, or the very same result that is no number. -/
def same (a b : Number) : Bool :=
  a.equal b ||
    match a, b with
    | float x m, float y n => x.isNaN && y.isNaN && m == n
    | _, _ => false

/-- Neither zero nor false. -/
def truthy (a : Number) : Bool := !a.equal (int 0)

/-- The name of the kind of number. -/
def typeName : Number → String
  | bool _ => "bool"
  | int _ => "int"
  | float .. => "float"

def text : Number → String
  | bool true => "True"
  | bool false => "False"
  | int n => toString n
  | float x _ => floatText x

/-- A number that equal numbers share. -/
def digest (a : Number) : UInt64 :=
  match a, a.exact with
  | float _ mark, .nan => hash mark
  | _, .nan => 0
  | _, .negInfinity => 1
  | _, .posInfinity => 2
  | _, .ratio n d => hash (n / d) + hash (n % d * 18446744073709551616 / d)

end Number

end KeyBundle
