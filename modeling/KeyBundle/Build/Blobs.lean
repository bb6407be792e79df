/-
  KeyBundle.Build.Blobs — blobs, blob sequences, parameter names and parameter sets from
  arbitrary values. Bytes are accepted in each of their forms and copied. A sequence may be given
  in any form that can be gone through, except as bare bytes or text: those are single values.
-/

import KeyBundle.Build.Basic

namespace KeyBundle.Build

/-- Why a value that gives no copy of its bytes is refused: it is no bytes, or raises what it
raises. -/
def noBlob (field : String) : Value → Fault
  | .sealed _ _ r => .raised r
  | v => .rejection (.notBytes field v.typeName)

/-- The bytes of one value. -/
def blob (field : String) (v : Value) : Except Fault Blob :=
  match v.blob? with
  | some b => .ok b
  | none => .error (noBlob field v)

/-- Text or bytes, which are never taken for a sequence of blobs. -/
def isSingleValue : Value → Bool
  | .text _ => true
  | v => v.content?.isSome

/-- Turns a refusal into the fault that the caller reports; so is one of the caller's own. Whatever
else is raised is passed on. -/
def reported (report : Rejection → Fault) : Fault → Fault
  | .rejection r => report r
  | .raised (.rejection message) => report (.raised message)
  | f => f

/-- The result of a check, with its refusal reported. -/
def refused {α : Type} (report : Rejection → Fault) (r : Except Fault α) : Build α :=
  ofExcept (r.mapError (reported report))

/-- The fault of a sequence that raises something while it is gone through. -/
def sequenceFault (field : String) : Raised → Fault
  | .typeError _ => .rejection (.notSequence field)
  | r => .raised r

/-- The items of a sequence. -/
def sequenceItems (field : String) :
    Option (Except Raised (List Value)) → Except Fault (List Value)
  | none => .error (.rejection (.notSequence field))
  | some xs => xs.mapError (sequenceFault field)

/-- The blobs of a sequence in their order. -/
def sequenceBlobs (report : Rejection → Fault) (field : String) (v : Value) : Build (List Blob) := do
  if isSingleValue v then throw (report (.singleValue field))
  let xs ← refused report (sequenceItems field (← takeItems? v))
  refused report (xs.mapM (blob field))

/-- The same; nothing stands for no blobs. -/
def blobs (report : Rejection → Fault) (field : String) (v : Value) : Build (List Blob) :=
  match v with
  | .none => return []
  | v => sequenceBlobs report field v

/-- Two lengths that have to agree. -/
def checkPaired (first second : String) (m n : Nat) : Except Fault Unit :=
  if m = n then .ok () else .error (.rejection (.lengthsDiffer first second m n))

/-- A parameter name. -/
def name (v : Value) : Except Fault { s : String // isName s = true } :=
  match v with
  | .text s =>
    if h : isName s = true then .ok ⟨s, h⟩
    else if s = "" then .error (.rejection .nameEmpty)
    else .error (.rejection .nameInvalid)
  | _ => .error (.rejection .nameNotText)

/-- A refusal reported as a bad argument. -/
def badArgument (r : Rejection) : Fault := .argument (.rejected r)

/-- The entries of a value that counts as a mapping; whatever is empty counts as one. -/
def entriesOf (v : Value) : Except Fault (List (Value × Value)) :=
  if v.truthy then
    match v with
    | .table _ es => .ok es
    | .parameters p => .ok (p.entries.map fun e => (.text e.1, .ofBlobs e.2))
    | v => .error (v.noAttribute "items")
  else .ok []

/-- One more entry of a parameter set. -/
def addEntry (p : ParameterSet) (e : Value × Value) : Build ParameterSet := do
  let n ← refused badArgument (name e.1)
  let bs ← blobs badArgument n.val e.2
  return p.put n.val n.property bs

/-- A parameter set from a mapping of names to blob sequences. -/
def parameterSet (v : Value) : Build ParameterSet := do
  (← ofExcept (entriesOf v)).foldlM addEntry .empty

/-- A parameter set as it is, or one made from a mapping. -/
def asParameterSet : Value → Build ParameterSet
  | .parameters p => return p
  | v => parameterSet v

end KeyBundle.Build
