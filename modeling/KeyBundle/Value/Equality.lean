/-
  KeyBundle.Value.Equality — when two values are equal, and the digest that equal values share.

  Numbers are equal by value across their kinds, bytes by content across their forms, mappings
  whatever the order of their keys, records of one class field by field; streams, bare
  objects, errors and settings only to themselves; operations if they are the same one of the same
  thing. A window compares by its items, but with a buffer on
  its left by its bytes. Lists, mappings and byte buffers have no digest.
-/

import KeyBundle.Fault
import KeyBundle.Value.Basic

namespace KeyBundle.Value

/-- The items that bytes in any form compare by. -/
def byteItems? : Value → Option (List Nat)
  | bytes b | buffer _ b | sealed _ b _ => some (b.map (·.toNat))
  | view _ width b => some (windowItems width b)
  | _ => .none

/-- A sequence of exactly these blobs. -/
def isBlobs (v : Value) (bs : List Blob) : Bool :=
  match v with
  | tuple xs => xs.map byteItems? == bs.map fun b => some (b.map (·.toNat))
  | _ => false

/-- A mapping with the entries of a parameter set. -/
def holdsParameters (es : List (Value × Value)) (p : ParameterSet) : Bool :=
  es.length == p.size && es.all fun e =>
    match e.1 with
    | text name => (p.get? name).any fun bs => isBlobs e.2 bs
    | _ => false

mutual

/-- Equality of items and fields: what is no number equals itself here. -/
def same : Value → Value → Bool
  | none, none => true
  | number a, number b => a.same b
  | text a, text b => a == b
  | tuple a, tuple b => sameItems a b
  | list _ a, list _ b => sameItems a b
  | table _ a, table _ b => a.length == b.length && sameEntries a b
  | table _ es, parameters p => holdsParameters es p
  | parameters p, table _ es => holdsParameters es p
  | parameters p, parameters q => p.same q
  | fixedSet a, fixedSet b => sameItems a b
  | buffer _ a, view _ _ b => a == b
  | stream i _, stream j _ => i == j
  | generator i _ _ _, generator j _ _ _ => i == j
  | object i, object j => i == j
  | error i _ _, error j _ _ => i == j
  | path a, path b => a == b
  | direction a, direction b => a == b
  | scheme a, scheme b => a.same b
  | decryptConfig a, decryptConfig b => a.same b
  | encryptConfig a, encryptConfig b => a.same b
  | cryptoConfig a, cryptoConfig b => a.same b
  | limits a, limits b => a.maxModules.same b.maxModules
  | logging a, logging b => a == b
  | logging a, record .loggingConfig fs => sameFlags a fs
  | record .loggingConfig fs, logging a => sameFlags a fs
  | settings i _, settings j _ => i == j
  | logger a _, logger b _ => a == b
  | method i _ a, method j _ b => i == j && a == b
  | record (.settings i _) _, record (.settings j _) _ => i == j
  | record k a, record l b => k == l && sameItems a b
  | a, b =>
    match byteItems? a, byteItems? b with
    | some x, some y => x == y
    | _, _ => false

def sameItems : List Value → List Value → Bool
  | [], [] => true
  | a :: as, b :: bs => same a b && sameItems as bs
  | _, _ => false

/-- Every entry of the first mapping is in the second. -/
def sameEntries : List (Value × Value) → List (Value × Value) → Bool
  | [], _ => true
  | (k, v) :: es, fs => fs.any (fun f => same k f.1 && same v f.2) && sameEntries es fs

/-- Typed logging settings against fields of other types. -/
def sameFlags (c : LoggingConfig) : List Value → Bool
  | [level, console, dir, json] =>
    (match level with | text s => s == c.level | _ => false)
      && isFlag c.enableConsole console
      && (match dir, c.logDir with
          | none, .none => true
          | path p, some q => p == q
          | _, _ => false)
      && isFlag c.enableJson json
  | _ => false

/-- A value that equals a truth value. -/
def isFlag (b : Bool) : Value → Bool
  | number n => n.equal (.bool b)
  | _ => false

end

/-- Equality of two values; what is no number is not even equal to itself. -/
def equal (a b : Value) : Bool :=
  match a, b with
  | number x, number y => x.equal y
  | a, b => same a b

mutual

/-- The digest of a value, or the refusal of a value that has none. -/
def digest : Value → Except Fault UInt64
  | none => .ok 3
  | number n => .ok n.digest
  | text s => .ok (hash s)
  | bytes b | sealed _ b _ => .ok (hash b)
  | view _ 1 b => .ok (hash b)
  | view .. => .error .wideItems
  | tuple xs => (digestItems xs).map (mixHash 11)
  | fixedSet xs => (digestItems xs).map (mixHash 13)
  | stream i _ | generator i _ _ _ | object i | error i _ _ | settings i _ =>
    .ok (mixHash 17 (hash i))
  | path p => .ok (hash p.text)
  | direction d => .ok (hash d)
  | parameters p => .ok p.digest
  | scheme s => .ok s.digest
  | decryptConfig c => .ok c.digest
  | encryptConfig c => .ok c.digest
  | cryptoConfig c => .ok c.digest
  | limits l => .ok l.maxModules.digest
  | logging c =>
    .ok ([hash c.level, (Number.bool c.enableConsole).digest,
      c.logDir.elim 3 fun p => hash p.text, (Number.bool c.enableJson).digest].foldr mixHash 19)
  | logger name _ => .ok (hash name)
  | method i _ name => .ok (mixHash (hash i) (hash name))
  | record kind fs =>
    match kind with
    | .settings i _ => .ok (mixHash 17 (hash i))
    | _ => digestItems fs
  | v => .error (.type (.unhashable v.typeName))

def digestItems : List Value → Except Fault UInt64
  | [] => .ok 19
  | x :: xs => do
    let h ← digest x
    return mixHash h (← digestItems xs)

end

end KeyBundle.Value
