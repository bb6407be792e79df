/-
  KeyBundle.Value.Rebuild — values with parts of them replaced.
-/

import KeyBundle.Value.Basic

namespace KeyBundle.Value

mutual

/-- The value with every part that `f` has something else for replaced by it, from the outside in.
What is put in is not looked into again. -/
def rebuild (f : Value → Option Value) (v : Value) : Value :=
  match f v with
  | some w => w
  | .none =>
    match v with
    | tuple xs => tuple (rebuildAll f xs)
    | list id xs => list id (rebuildAll f xs)
    | table id es => table id (rebuildEntries f es)
    | fixedSet xs => fixedSet (rebuildAll f xs)
    | stream id xs => stream id (rebuildAll f xs)
    | generator id name xs r => generator id name (rebuildAll f xs) r
    | error id className xs => error id className (rebuildAll f xs)
    | method owner receiver name => method owner (rebuild f receiver) name
    | record kind fs => record kind (rebuildAll f fs)
    | v => v

def rebuildAll (f : Value → Option Value) : List Value → List Value
  | [] => []
  | x :: xs => rebuild f x :: rebuildAll f xs

def rebuildEntries (f : Value → Option Value) : List (Value × Value) → List (Value × Value)
  | [] => []
  | (k, v) :: es => (rebuild f k, rebuild f v) :: rebuildEntries f es

end

/-- The value with another thing in the place of every thing of an identity. -/
def replace (v : Value) (id : Nat) (new : Value) : Value :=
  v.rebuild fun part => if part.identity? = some id then some new else .none

end KeyBundle.Value
