/-
  KeyBundle.Session.Term — descriptions of values, as the steps of a session give them: data
  written out, and names of things bound before. Evaluating a description makes new things,
  except for names, which stand for the very thing that was bound.
-/

import KeyBundle.Build.Basic
import KeyBundle.Value.Equality

namespace KeyBundle.Session

inductive Term where
  | none
  | bool (b : Bool)
  | int (n : Int)
  /-- A whole number by its text. -/
  | numeral (s : String)
  | float (x : Float)
  | text (s : String)
  | bytes (b : Blob)
  | buffer (b : Blob)
  | view (width : Nat) (b : Blob)
  | list (ts : List Term)
  /-- A list that holds one thing several times. -/
  | repeated (t : Term) (n : Nat)
  | tuple (ts : List Term)
  | table (es : List (Term × Term))
  | stream (ts : List Term)
  | fixedSet (ts : List Term)
  | path (p : Path)
  | direction (d : Direction)
  | object
  | name (s : String)

/-- What a name is bound to. The handle tells the thing apart from its equals where the value
carries no identity. -/
structure Bound where
  value : Value
  handle : Nat

abbrev Bindings := List (String × Bound)

/-- An entry of a mapping: in the place of one with an equal key, or at the end. -/
def putEntry (es : List (Value × Value)) (k v : Value) : List (Value × Value) :=
  if es.any fun e => e.1.same k then es.map fun e => if e.1.same k then (e.1, v) else e
  else es ++ [(k, v)]

/-- A value that is used as a key or kept in a set. -/
def checkHashable (v : Value) : Build Unit := do
  let _ ← ofExcept v.digest

mutual

/-- The value of a description. -/
def Term.eval (bs : Bindings) : Term → Build Value
  | .none => return .none
  | .bool b => return .bool b
  | .int n => return .int n
  | .numeral s => do return .int (← ofExcept ((Number.readInt s).mapError .literal))
  | .float x => return .number (.float x (← Build.newId))
  | .text s => return .text s
  | .bytes b => return .bytes b
  | .buffer b => return .buffer (← Build.newId) b
  | .view width b => return .view (← Build.newId) width b
  | .list ts => do
    let xs ← evalAll bs ts
    return .list (← Build.newId) xs
  | .repeated t n => do
    let x ← t.eval bs
    return .list (← Build.newId) (List.replicate n x)
  | .tuple ts => return .tuple (← evalAll bs ts)
  | .table es => do
    let xs ← evalEntries bs es
    return .table (← Build.newId) (xs.foldl (fun acc e => putEntry acc e.1 e.2) [])
  | .stream ts => do
    let xs ← evalAll bs ts
    return .stream (← Build.newId) xs
  | .fixedSet ts => do
    let xs ← evalAll bs ts
    xs.forM checkHashable
    return .fixedSet xs
  | .path p => return .path p
  | .direction d => return .direction d
  | .object => return .object (← Build.newId)
  | .name s =>
    match bs.lookup s with
    | some b => return b.value
    | none => throw (.unbound s)

def evalAll (bs : Bindings) : List Term → Build (List Value)
  | [] => return []
  | t :: ts => do
    let x ← t.eval bs
    let xs ← evalAll bs ts
    return x :: xs

/-- The entries of a mapping, each of them complete before the next is looked at. -/
def evalEntries (bs : Bindings) : List (Term × Term) → Build (List (Value × Value))
  | [] => return []
  | (k, v) :: es => do
    let x ← k.eval bs
    let y ← v.eval bs
    checkHashable x
    let xs ← evalEntries bs es
    return (x, y) :: xs

end

end KeyBundle.Session
