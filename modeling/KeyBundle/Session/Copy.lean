/-
  KeyBundle.Session.Copy — copies of values: equal, except that what is no number and what is only
  equal to itself is new, and that a copy shares nothing changeable with what it is a copy of. A
  thing that occurs twice occurs twice in the copy too, but every number is copied by itself.
  Windows on bytes and running functions cannot be written out for a copy, and settings cannot be made
  from what has been written out.
-/

import KeyBundle.Build.Blobs
import KeyBundle.Value.Equality
import KeyBundle.Value.Rebuild

namespace KeyBundle.Session

open Build

mutual

/-- The first thing within the value that cannot be written out. -/
def unwritable? : Value → Option Value
  | v@(.view ..) | v@(.generator ..) => some v
  | .tuple xs | .list _ xs | .fixedSet xs | .stream _ xs => unwritableIn? xs
  | .error _ _ xs | .record _ xs => unwritableIn? xs
  | .table _ es => unwritableAmong? es
  | .method _ receiver _ => unwritable? receiver
  | _ => none

def unwritableIn? : List Value → Option Value
  | [] => none
  | x :: xs => (unwritable? x).or (unwritableIn? xs)

def unwritableAmong? : List (Value × Value) → Option Value
  | [] => none
  | (k, v) :: es => ((unwritable? k).or (unwritable? v)).or (unwritableAmong? es)

end

/-! ## Sameness -/

def numberMarks : Number → List Nat
  | .float _ mark => [mark]
  | _ => []

mutual

/-- The identities within a value and the marks of its numbers, in order. -/
def marks : Value → List Nat
  | .number n => numberMarks n
  | .limits l => numberMarks l.maxModules
  | .buffer id _ | .view id .. | .object id | .settings id _ => [id]
  | .tuple xs | .fixedSet xs => marksIn xs
  | .list id xs | .stream id xs | .generator id _ xs _ | .error id _ xs => id :: marksIn xs
  | .table id es => id :: marksAmong es
  | .method owner receiver _ => owner :: marks receiver
  | .record _ fs => marksIn fs
  | _ => []

def marksIn : List Value → List Nat
  | [] => []
  | x :: xs => marks x ++ marksIn xs

def marksAmong : List (Value × Value) → List Nat
  | [] => []
  | (k, v) :: es => marks k ++ marks v ++ marksAmong es

end

/-- Two values that cannot be told apart. -/
def isSameThing (v w : Value) : Bool :=
  v.same w && marks v == marks w && v.shown == w.shown

/-! ## Bundles -/

/-- Parameters are made anew of their names and blobs, which are looked at again. -/
def copyParameters (p : ParameterSet) : Build ParameterSet := parameterSet (.parameters p)

/-- Of a scheme only parameters of its own are made anew. -/
def copyScheme : Scheme → Build Scheme
  | .custom kind d p => return .custom kind d (← copyParameters p)
  | s => return s

def copyDecrypt (c : DecryptConfig) : Build DecryptConfig := do
  let p ← copyParameters c.parameters
  return ⟨p, ← c.schemes.mapM copyScheme⟩

def copyEncrypt (c : EncryptConfig) : Build EncryptConfig := do
  let p ← copyParameters c.parameters
  let d ← copyDecrypt c.decryptConfig
  return ⟨p, d, ← c.schemes.mapM copyScheme⟩

def copyCrypto (c : CryptoConfig) : Build CryptoConfig := do
  let e ← copyEncrypt c.encryptConfig
  return ⟨e, ← copyDecrypt c.decryptConfig⟩

/-! ## Copying -/

/-- What has been copied already, and its copies. -/
abbrev Copied := List (Value × Value)

abbrev Copying := StateT Copied Build

def nextId : Copying Nat := (newId : Build Nat)

/-- The copy of a thing: one for all its occurrences. A value without any marks is a new one each
time, which nothing can tell. -/
def once (v : Value) (make : Copying Value) : Copying Value := do
  if (marks v).isEmpty then return ← make
  let known := (← get).find? fun c =>
    if v.identity?.isSome then c.1.identity? = v.identity? else isSameThing c.1 v
  match known with
  | some c => return c.2
  | none =>
    let w ← make
    modify fun done => (v, w) :: done
    return w

mutual

def copy (v : Value) : Copying Value :=
  match v with
  | .number (.float x _) => do return .number (.float x (← nextId))
  | .limits ⟨.float x _⟩ => once v do return .limits ⟨.float x (← nextId)⟩
  | .buffer _ b => once v do return .buffer (← nextId) b
  | .tuple xs => once v do return .tuple (← copyAll xs)
  | .list _ xs => once v do return .list (← nextId) (← copyAll xs)
  | .table _ es => once v do return .table (← nextId) (← copyEntries es)
  | .fixedSet xs => once v do return .fixedSet (← copyAll xs)
  | .stream id xs => once v do
    let n ← nextId
    let taken := drawnFrom (← (get : Build Context)) id
    (setDrawn n taken : Build Unit)
    return .stream n (← copyAll xs)
  | .object _ => once v do return .object (← nextId)
  | .error _ className xs => once v do return .error (← nextId) className (← copyAll xs)
  | .method _ receiver name => once v do
    let r ← copy receiver
    return .method (r.identity?.getD (← nextId)) r name
  | .parameters p => do return .parameters (← (copyParameters p : Build ParameterSet))
  | .scheme s => do return .scheme (← (copyScheme s : Build Scheme))
  | .decryptConfig c => do return .decryptConfig (← (copyDecrypt c : Build DecryptConfig))
  | .encryptConfig c => do return .encryptConfig (← (copyEncrypt c : Build EncryptConfig))
  | .cryptoConfig c => do return .cryptoConfig (← (copyCrypto c : Build CryptoConfig))
  | .settings .. | .record (.settings ..) _ => throw .frozenSettings
  | .record kind fs => once v do return .record kind (← copyAll fs)
  | v => return v

def copyAll : List Value → Copying (List Value)
  | [] => return []
  | x :: xs => do
    let y ← copy x
    return y :: (← copyAll xs)

def copyEntries : List (Value × Value) → Copying (List (Value × Value))
  | [] => return []
  | (k, v) :: es => do
    let l ← copy k
    let w ← copy v
    return (l, w) :: (← copyEntries es)

end

/-- The value without the items of streams that are known to have none left. Until its end has been
met, a stream keeps what it has given. -/
def withoutSpent (c : Context) (v : Value) : Value :=
  v.rebuild fun part =>
    match part with
    | .stream id xs => if xs.length < drawnFrom c id then some (.stream id []) else none
    | _ => none

/-- A copy of a whole value. -/
def copied (whole : Value) : Build Value := do
  let v := withoutSpent (← get) whole
  if let some part := unwritable? v then throw (.type (.cannotCopy part.typeName))
  (copy v).run' []

end KeyBundle.Session
