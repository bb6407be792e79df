/-
  KeyBundle.Session.Access — looking into values: their operations, items and keys, and the ways
  in which values of the wrong type refuse.
-/

import KeyBundle.Session.Attribute
import KeyBundle.Value.Equality

namespace KeyBundle.Session

open Build

/-! ## Operations -/

/-- A plain copy of a parameter set that can be changed. -/
def asTable (p : ParameterSet) : Build Value := do
  let entries ← p.entries.mapM fun e => do
    return (Value.text e.1, Value.list (← newId) (e.2.map .bytes))
  return .table (← newId) entries

/-- What looking for files raises at once, if the pattern is none. -/
def badPattern? (pattern : String) : Option Raised :=
  if pattern = "" then some (.other "ValueError" ("Unacceptable pattern: " ++ Text.quoted pattern))
  else if (Path.ofString pattern).isAbsolute then
    some (.other "NotImplementedError" "Non-relative patterns are unsupported")
  else none

/-- An operation applied to its arguments. Files are not looked for: only how that fails is told,
which is when the result is gone through. -/
def apply (v : Value) (name : String) (args : List Value) : Build Value :=
  match name, v, args with
  | "merged", v, [other] => merged v other
  | "with_decrypt_config", v, [more] => withDecryptConfig v more
  | "as_dict", .parameters p, _ => asTable p
  | "blob_count", .parameters p, _ => return .int p.blobCount
  | "parameters", .scheme s, _ => return .parameters s.parameters
  | "glob", .path p, [.text pattern] =>
    match badPattern? pattern with
    | some r => return .generator (← newId) "Path.glob" [] r
    | none => notCalled (.path p) "glob"
  | name, v, _ => notCalled v name
where
  notCalled (v : Value) (name : String) : Build Value := do
    let x ← ofExcept (attributeOf 0 v name)
    throw (.type (.notCallable x.typeName))

/-! ## Items -/

/-- A value that counts as a whole number. -/
def wholeOf : Value → Option Int
  | .number (.int n) => some n
  | .number (.bool b) => some (if b then 1 else 0)
  | _ => none

/-- Whether a number may be a position at all. -/
def isIndex (i : Int) : Bool := -(Nat.pow 2 63 : Int) ≤ i && i < (Nat.pow 2 63 : Int)

/-- The position that a value names. -/
def indexOf (kind : SequenceKind) (key : Value) : Except Fault Int :=
  match wholeOf key with
  | none => .error (.type (.badIndex kind key.typeName))
  | some i => if isIndex i then .ok i else .error .indexTooLarge

/-- A position among `length` items; negative ones count from the end. -/
def placeOf (length : Nat) (i : Int) : Option Nat :=
  let n := if i < 0 then i + length else i
  if 0 ≤ n && n < length then some n.toNat else none

/-- The kind of a sequence and its items. -/
def sequenceOf? : Value → Option (SequenceKind × List Value)
  | .list _ xs => some (.list, xs)
  | .tuple xs => some (.tuple, xs)
  | .text s => some (.text, s.toList.map fun c => .text c.toString)
  | .bytes b | .sealed _ b _ => some (.bytes, b.map fun x => .int x.toNat)
  | .buffer _ b => some (.buffer, b.map fun x => .int x.toNat)
  | .view _ width b => some (.view, (Value.windowItems width b).map fun n : Nat => .int n)
  | _ => none

/-- The item at a position. -/
def itemAt (kind : SequenceKind) (xs : List Value) (key : Value) : Except Fault Value := do
  let i ← indexOf kind key
  match (placeOf xs.length i).bind (xs[·]?) with
  | some x => return x
  | none => throw (.indexOutOfRange kind)

/-- The item of a view at a position, or at a tuple that holds a position for each dimension. A
view has one dimension. -/
def viewItemAt (xs : List Value) (key : Value) : Except Fault Value :=
  match key with
  | .tuple ks =>
    match ks, ks.all fun k => (wholeOf k).isSome with
    | [], _ => .error .noPosition
    | [k], true => itemAt .view xs k
    | ks, true => .error (.type (.tooManyPositions ks.length))
    | _, false => itemAt .view xs key
  | key => itemAt .view xs key

/-- The value under a key of entries. -/
def entryAt (entries : List (Value × Value)) (key : Value) : Except Fault Value := do
  let _ ← key.digest
  match entries.find? fun e => e.1.same key with
  | some e => return e.2
  | none => throw (.missingKey key.shown)

def parameterEntries (p : ParameterSet) : List (Value × Value) :=
  p.entries.map fun e => (.text e.1, .ofBlobs e.2)

def item (v key : Value) : Except Fault Value :=
  match v with
  | .parameters p => entryAt (parameterEntries p) key
  | .table _ es => entryAt es key
  | v =>
    match sequenceOf? v with
    | some (.view, xs) => viewItemAt xs key
    | some (kind, xs) => itemAt kind xs key
    | none => .error (.type (.notSubscriptable v.typeName))

/-- One sequence occurs in another without a gap. -/
def occursIn {α : Type} [BEq α] (needle : List α) : List α → Bool
  | [] => needle.isEmpty
  | c :: cs => needle.isPrefixOf (c :: cs) || occursIn needle cs

/-- A whole number as a byte. -/
def byteOf (i : Int) : Except Fault UInt8 :=
  if 0 ≤ i && i < 256 then .ok (UInt8.ofNat i.toNat) else .error .notByte

/-- A byte or a run of bytes occurs in bytes. -/
def containsBytes (b : Blob) (key : Value) : Except Fault Bool :=
  match wholeOf key, key.content? with
  | some i, _ => do return b.contains (← byteOf i)
  | none, some needle => .ok (occursIn needle b)
  | none, none => .error (.type (.needsBytes key.typeName))

/-- Whether a value is among the items or keys of another. -/
def contains (v key : Value) : Except Fault Bool :=
  match v with
  | .parameters _ | .table .. =>
    match item v key with
    | .ok _ => .ok true
    | .error (.missingKey _) => .ok false
    | .error f => .error f
  | .fixedSet xs => do
    let _ ← key.digest
    return xs.any fun x => x.same key
  | .text s =>
    match key with
    | .text t => .ok (occursIn t.toList s.toList)
    | key => .error (.type (.notTextOperand key.typeName))
  | .bytes b | .buffer _ b | .sealed _ b _ => containsBytes b key
  | v =>
    match sequenceOf? v with
    | some (_, xs) => .ok (xs.any fun x => x.same key)
    | none => .error (.type (.noContainment v.typeName))

/-- The items to come are read up to the value or past their end. -/
def findAhead (v : Value) (id : Nat) (xs : List Value) (key : Value) : Build Bool := do
  let taken := drawnFrom (← get) id
  let fault? ← ending? v
  match (xs.drop taken).findIdx? fun x => x.same key with
  | some n =>
    setDrawn id (taken + n + 1)
    return true
  | none =>
    setDrawn id (xs.length + 1)
    endWith fault?
    return false

/-- Whether a value is in another, which may give its items once only. -/
def findIn (v key : Value) : Build Bool :=
  match v with
  | .stream id xs | .generator id _ xs _ => findAhead v id xs key
  | v => ofExcept (contains v key)

def length (v : Value) : Except Fault Nat :=
  match v.length? with
  | some n => .ok n
  | none => .error (.type (.noLength v.typeName))

/-- The keys of a mapping, in a new list. -/
def keys (v : Value) : Build Value := do
  match v with
  | .parameters p => return .list (← newId) (p.names.map .text)
  | .table _ es => return .list (← newId) (es.map (·.1))
  | v => throw (v.noAttribute "keys")

end KeyBundle.Session
