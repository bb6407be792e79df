/-
  KeyBundle.Build.Basic — what building works with: the environment and the settings read from it
  once, how far each stream has been read, the next free identity, and the notices given so far.
  A step of building ends with a result or a fault; what it has changed by then stays.
-/

import KeyBundle.Fault
import KeyBundle.Settings.Environment
import KeyBundle.Value.Refusal

namespace KeyBundle

/-- A message to the log about a bundle. -/
structure Notice where
  level : Nat
  template : String
  args : List Value
  /-- The kind of the scheme. -/
  scheme : String
  direction : Direction

structure Context where
  env : Environment
  /-- How the paths in the environment are read. -/
  readPath : PathReader
  /-- The settings shared by all, with their identity, once they have been asked for. -/
  shared : Option (Nat × Settings)
  /-- How often each stream has been asked for an item, up to the first time that it had none. -/
  drawn : List (Nat × Nat)
  /-- An identity that nothing has yet. -/
  fresh : Nat
  notices : List Notice

def Context.start (env : Environment) (readPath : PathReader) : Context :=
  ⟨env, readPath, none, [], 0, []⟩

/-- A step of building. -/
abbrev Build := ExceptT Fault (StateM Context)

namespace Build

/-- An identity for a new thing. -/
def newId : Build Nat := do
  let c ← get
  set { c with fresh := c.fresh + 1 }
  return c.fresh

def notify (n : Notice) : Build Unit := modify fun c => { c with notices := c.notices ++ [n] }

/-! ## Shared settings -/

/-- The shared settings: read from the environment at the first request, and kept. -/
def sharedSettings : Build (Nat × Settings) := do
  let c ← get
  match c.shared with
  | some s => return s
  | none =>
    match Settings.load c.readPath c.env standardPrefix with
    | .error f => throw (.setting f)
    | .ok s =>
      let id ← newId
      modify fun c => { c with shared := some (id, s) }
      return (id, s)

/-- The next request reads the environment anew. -/
def forgetSettings : Build Unit := modify fun c => { c with shared := none }

/-! ## Going through values -/

/-- What going through a value gives, streams apart. -/
def itemsOf? : Value → Option (List Value)
  | .tuple xs | .list _ xs | .fixedSet xs => some xs
  | .table _ es => some (es.map (·.1))
  | .text s => some (s.toList.map fun c => .text c.toString)
  | .bytes b | .buffer _ b | .sealed _ b _ => some (b.map fun x => .int x.toNat)
  | .view _ width b => some ((Value.windowItems width b).map fun n : Nat => .int n)
  | .parameters p => some (p.names.map .text)
  | _ => none

def drawnFrom (c : Context) (id : Nat) : Nat := (c.drawn.lookup id).getD 0

/-- The stream has been asked for an item `n` times in all. -/
def setDrawn (id n : Nat) : Build Unit :=
  modify fun c => { c with drawn := (id, n) :: c.drawn.filter (·.1 != id) }

/-- The items still to come, if the value can be gone through. -/
def peekItems? (v : Value) : Build (Option (List Value)) := do
  match v with
  | .stream id xs | .generator id _ xs _ => return some (xs.drop (drawnFrom (← get) id))
  | v => return itemsOf? v

/-- What the value raises after the items still to come: a function raises once. -/
def ending? (v : Value) : Build (Option Raised) := do
  match v with
  | .generator id _ xs r => return if drawnFrom (← get) id ≤ xs.length then some r else none
  | _ => return none

/-- What is raised after the items stands in the place of all of them. -/
def itemsOr (items : Option (List Value)) : Option Raised → Option (Except Raised (List Value))
  | some r => some (.error r)
  | none => items.map .ok

/-- All items of a value, or what it raises; a stream is found to have none left. -/
def takeItems? (v : Value) : Build (Option (Except Raised (List Value))) := do
  let items ← peekItems? v
  let fault? ← ending? v
  match v with
  | .stream id xs | .generator id _ xs _ => setDrawn id (xs.length + 1)
  | _ => pure ()
  return itemsOr items fault?

/-- The end of a value that is gone through item by item. -/
def endWith (fault? : Option Raised) : Build Unit :=
  match fault? with
  | some r => throw (.raised r)
  | none => return ()

/-- All items of a value that must have some way to go through it. -/
def takeItems (v : Value) : Build (List Value) := do
  match ← takeItems? v with
  | some (.ok xs) => return xs
  | some (.error r) => throw (.raised r)
  | none => throw (.type (.notIterable v.typeName))

end Build

end KeyBundle
