/-
  KeyBundle.Build.Bundles — the two sides and the bundle from arbitrary values, and merging
  them. Parameters are checked; the other fields are kept as they come, and a value that cannot
  be merged is noticed when it is merged.
-/

import KeyBundle.Build.Blobs

namespace KeyBundle.Build

/-! ## Making records -/

def decryptConfig (parameters schemes : Value) : Build Value := do
  let p ← asParameterSet parameters
  let ss ← takeItems schemes
  return .ofDecrypt p ss

/-- Nothing stands for empty decryption material. -/
def orEmptyDecrypt : Value → Value
  | .none => .decryptConfig .empty
  | v => v

def orEmptyEncrypt : Value → Value
  | .none => .encryptConfig .empty
  | v => v

def encryptConfig (parameters embedded schemes : Value) : Build Value := do
  let p ← asParameterSet parameters
  let ss ← takeItems schemes
  return .ofEncrypt p (orEmptyDecrypt embedded) ss

def cryptoConfig (e d : Value) : Value := .ofCrypto (orEmptyEncrypt e) (orEmptyDecrypt d)

/-- Every value is a scheme of the wanted direction. -/
def checkSchemes (wanted : Direction) (vs : List Value) : Except ArgumentFault (List Scheme) :=
  vs.mapM fun v =>
    match v with
    | .scheme s =>
      if s.direction = wanted then .ok s
      else .error (.wrongSide s.className s.direction wanted)
    | v => .error (.notScheme v.typeName)

def schemesFor (wanted : Direction) (vs : List Value) : Build (List Scheme) :=
  match checkSchemes wanted vs with
  | .ok ss => return ss
  | .error f => throw (.argument f)

def decryptFromSchemes (vs : List Value) : Build Value := do
  return .decryptConfig (.ofSchemes (← schemesFor .decrypt vs))

/-- Whatever counts as no stands for empty decryption material. -/
def encryptFromSchemes (vs : List Value) (embedded : Value) : Build Value := do
  let ss ← schemesFor .encrypt vs
  let d := if embedded.truthy then embedded else .decryptConfig .empty
  return .ofEncrypt (parametersOf ss) d (ss.map .scheme)

/-! ## Parts of records -/

/-- Parameters and schemes of a side. -/
def sideOf? : Value → Option (ParameterSet × List Value)
  | .decryptConfig c => some (c.parameters, c.schemes.map .scheme)
  | .encryptConfig c => some (c.parameters, c.schemes.map .scheme)
  | .record .decryptConfig [.parameters p, .tuple ss] => some (p, ss)
  | .record .encryptConfig [.parameters p, _, .tuple ss] => some (p, ss)
  | _ => none

/-- The decryption material in an encrypting side. -/
def embeddedOf? : Value → Option Value
  | .encryptConfig c => some (.decryptConfig c.decryptConfig)
  | .record .encryptConfig [_, d, _] => some d
  | _ => none

/-- The two sides of a bundle. -/
def bundleOf? : Value → Option (Value × Value)
  | .cryptoConfig c => some (.encryptConfig c.encryptConfig, .decryptConfig c.decryptConfig)
  | .record .cryptoConfig [e, d] => some (e, d)
  | _ => none

def hasMerged : Value → Bool
  | .parameters _ => true
  | v => (sideOf? v).isSome

/-! ## Merging -/

/-- A parameter set with the entries of a mapping; whatever is empty adds nothing. -/
def mergeParameters (p : ParameterSet) (other : Value) : Build ParameterSet := do
  if !other.truthy then return p
  return p.merged (← asParameterSet other)

/-- Parameters and schemes of a side with those of another value. -/
def mergeSide (p : ParameterSet) (schemes : List Value) (other : Value) :
    Build (ParameterSet × List Value) := do
  match sideOf? other with
  | some (q, more) => return (p.merged q, schemes ++ more)
  | none =>
    match other with
    | .scheme _ => throw (.noAttribute Value.operationType "items")
    | v => throw (v.noAttribute "parameters")

def mergeDecrypt (p : ParameterSet) (schemes : List Value) (other : Value) : Build Value := do
  let (q, ss) ← mergeSide p schemes other
  return .ofDecrypt q ss

/-- The material embedded in a value that is merged into an encrypting side. -/
def embeddedIn (other : Value) : Build Value :=
  match embeddedOf? other with
  | some d => return d
  | none => throw (other.noAttribute "decrypt_config")

/-- A parameter set or a side with another value. -/
def merged (self other : Value) : Build Value := do
  match self with
  | .parameters p => return .parameters (← mergeParameters p other)
  | .decryptConfig a =>
    match other with
    | .none => return self
    | .decryptConfig b => return .decryptConfig (a.merged b)
    | other => mergeDecrypt a.parameters (a.schemes.map .scheme) other
  | .record .decryptConfig [.parameters p, .tuple ss] =>
    match other with
    | .none => return self
    | other => mergeDecrypt p ss other
  | .encryptConfig a =>
    match other with
    | .none => return self
    | .encryptConfig b => return .encryptConfig (a.merged b)
    | other =>
      let (q, ss) ← mergeSide a.parameters (a.schemes.map .scheme) other
      let d ← embeddedIn other
      match d with
      | .none => return .ofEncrypt q (.decryptConfig a.decryptConfig) ss
      | d =>
        let all ← mergeDecrypt a.decryptConfig.parameters (a.decryptConfig.schemes.map .scheme) d
        return .ofEncrypt q all ss
  | .record .encryptConfig [.parameters p, embedded, .tuple schemes] =>
    match other with
    | .none => return self
    | other =>
      let (q, ss) ← mergeSide p schemes other
      if !hasMerged embedded then throw (embedded.noAttribute "merged")
      let d ← embeddedIn other
      let all ← merged embedded d
      return .ofEncrypt q (orEmptyDecrypt all) ss
  | v => throw (v.noAttribute "merged")
termination_by sizeOf self

/-- An encrypting side with more decryption material. -/
def withDecryptConfig (self more : Value) : Build Value := do
  match self, more with
  | .encryptConfig _, .none | .record .encryptConfig _, .none => return self
  | .encryptConfig a, .decryptConfig d => return .encryptConfig (a.withDecryptConfig d)
  | .encryptConfig a, more =>
    let d ← merged (.decryptConfig a.decryptConfig) more
    return .ofEncrypt a.parameters d (a.schemes.map .scheme)
  | .record .encryptConfig [.parameters p, embedded, .tuple ss], more =>
    if !hasMerged embedded then throw (embedded.noAttribute "merged")
    let d ← merged embedded more
    return .ofEncrypt p (orEmptyDecrypt d) ss
  | v, _ => throw (v.noAttribute "with_decrypt_config")

/-- One more bundle taken into the two sides. -/
def addBundle (sides : Value × Value) (bundle : Value) : Build (Value × Value) := do
  match bundleOf? bundle with
  | none => throw (.argument (.notBundle bundle.typeName))
  | some (e, d) =>
    let e' ← merged sides.1 e
    let d' ← merged sides.2 d
    return (e', d')

/-- Bundle after bundle; `seen` is told the number of each one before it is taken, and at last the
number of the one that there is not. -/
def addBundles (seen : Nat → Build Unit) :
    Nat → Value × Value → List Value → Build (Value × Value)
  | n, sides, [] => do
    seen (n + 1)
    return sides
  | n, sides, b :: bs => do
    seen (n + 1)
    addBundles seen (n + 1) (← addBundle sides b) bs

/-- All bundles of a sequence in one. A stream is read only up to a bundle that fails. -/
def combine (bundles : Value) : Build Value := do
  let some items ← peekItems? bundles | throw (.type (.notIterable bundles.typeName))
  let fault? ← ending? bundles
  let start := (.encryptConfig .empty, .decryptConfig .empty)
  let (e, d) ←
    match bundles with
    | .stream id xs | .generator id _ xs _ =>
      addBundles (setDrawn id) (xs.length - items.length) start items
    | _ => addBundles (fun _ => return ()) 0 start items
  endWith fault?
  return .ofCrypto e d

end KeyBundle.Build
