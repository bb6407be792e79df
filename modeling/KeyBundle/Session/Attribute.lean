/-
  KeyBundle.Session.Attribute — the attributes of values: their fields, what is computed from them
  and their operations, and what assigning to an attribute says.
-/

import KeyBundle.Build.Bundles
import KeyBundle.Log.Logger
import KeyBundle.Value.Operations

namespace KeyBundle.Session

open Build

/-! ## Bundles -/

/-- Whether a side holds schemes or parameters. -/
def isConfigured (v : Value) : Except Fault Bool :=
  match v with
  | .decryptConfig c => .ok c.isConfigured
  | .encryptConfig c => .ok c.isConfigured
  | v =>
    match sideOf? v with
    | some (p, schemes) => .ok (!schemes.isEmpty || !p.isEmpty)
    | none => .error (v.noAttribute "is_configured")

/-- The side itself if it is configured. -/
def ifConfigured (v : Value) : Except Fault (Option Value) := do
  if ← isConfigured v then return some v else return none

/-- The attributes of bundles beside their fields. -/
def bundleAttribute (c : CryptoConfig) (name : String) : Except Fault Value :=
  match name with
  | "encryption" => .ok (.ofOption .encryptConfig c.encryption)
  | "decryption" => .ok (.ofOption .decryptConfig c.decryption)
  | "is_empty" => .ok (.bool c.isEmpty)
  | name => .error ((Value.cryptoConfig c).noAttribute name)

/-- The same for a bundle of any two values. The second one is looked at only if the first is
not configured. -/
def looseAttribute (e d : Value) (name : String) : Except Fault Value :=
  match name with
  | "encryption" => (ifConfigured e).map (.ofOption id)
  | "decryption" => (ifConfigured d).map (.ofOption id)
  | "is_empty" => do
    if (← ifConfigured e).isSome then return .bool false
    return .bool (← ifConfigured d).isNone
  | name => .error ((Value.record .cryptoConfig [e, d]).noAttribute name)

/-! ## Computed attributes -/

/-- The attributes of numbers. -/
def numberAttributes : Number → List (String × Value)
  | .float x mark => [("real", .number (.float x mark)), ("imag", .number (.float 0 0))]
  | n =>
    let whole : Value := .int (match n with
      | .int i => i
      | .bool b => b.toNat
      | .float .. => 0)
    [("real", whole), ("imag", .int 0), ("numerator", whole), ("denominator", .int 1)]

/-- The attributes of a window on bytes. -/
def viewAttributes (width : Nat) (b : Blob) : List (String × Value) :=
  let flag := Value.bool true
  [("c_contiguous", flag), ("contiguous", flag), ("f_contiguous", flag),
    ("format", .text (if width = 1 then "B" else "H")), ("itemsize", .int width),
    ("nbytes", .int b.length), ("ndim", .int 1), ("obj", .bytes b), ("readonly", flag),
    ("shape", .tuple [.int (Value.windowItems width b).length]), ("strides", .tuple [.int width]),
    ("suboffsets", .tuple [])]

/-- The last part of a path in two: from its last dot on, unless that stands first or last. -/
def suffixed (name : String) : String × String :=
  let back := name.toList.reverse
  let tail := back.takeWhile (· != '.')
  if tail.isEmpty || back.length ≤ tail.length + 1 then (name, "")
  else
    (String.ofList (back.drop (tail.length + 1)).reverse, String.ofList (tail ++ ['.']).reverse)

def pathAttributes (p : Path) : List (String × Value) :=
  let root := Value.text p.root.text
  let opening := if p.isAbsolute then [p.root.text] else []
  let (stem, suffix) := suffixed p.name
  [("name", .text p.name), ("stem", .text stem), ("suffix", .text suffix),
    ("parent", .path p.parent), ("parts", .tuple ((opening ++ p.parts).map .text)),
    ("root", root), ("anchor", root), ("drive", .text "")]

/-- What is computed from a value, apart from the sides of bundles. -/
def computed (v : Value) : List (String × Value) :=
  match v with
  | .number n => numberAttributes n
  | .view _ width b => viewAttributes width b
  | .path p => pathAttributes p
  | .scheme s => [("kind", .text s.kind), ("direction", .direction s.direction)]
  | .settings _ s => [("config_hash", .text s.hash)]
  | .record (.settings _ hash) _ => [("config_hash", .text hash)]
  | .direction d =>
    [("name", .text d.label), ("value", .text d.text),
      (Direction.encrypt.label, .direction .encrypt),
      (Direction.decrypt.label, .direction .decrypt)]
  | .logger name _ => [("name", .text name)]
  | .error _ _ args => [("args", .tuple args)]
  | _ => []

/-- The value of an attribute. An operation belongs to the thing of the given identity. -/
def attributeOf (owner : Nat) (v : Value) (name : String) : Except Fault Value :=
  match v.fields.lookup name, (computed v).lookup name with
  | some x, _ => .ok x
  | none, some x => .ok x
  | none, none =>
    if v.hasOperation name then .ok (.method owner v name)
    else
      match v with
      | .cryptoConfig c => bundleAttribute c name
      | .record .cryptoConfig [e, d] => looseAttribute e d name
      | v =>
        if name = "is_configured" then (isConfigured v).map .bool
        else .error (v.noAttribute name)

/-- The attributes of a logger that are its state. -/
def loggerAttributes (j : Log.Journal) (name : String) : List (String × Value) :=
  let l := j.logger name
  let above := (j.namesAbove name).head?.map fun n => Value.logger n (j.effectiveLevel n)
  [("level", .int l.level), ("propagate", .bool l.propagate), ("disabled", .bool false),
    ("parent", .ofOption id above)]

/-! ## Refused changes -/

/-- The type that gives a number its attributes. -/
def declaringType (v : Value) : String :=
  match v with
  | .number (.bool _) => "int"
  | v => v.typeName

/-- What assigning to an attribute says. -/
def refuseAssignment (v : Value) (name : String) : Fault :=
  let isComputed := ((computed v).lookup name).isSome
  match v with
  | .parameters _ => .frozenParameters
  | .settings .. | .record (.settings ..) _ => .frozenSettings
  | .direction _ =>
    if isComputed then .fixedAttribute (.ofDirection name) else v.noAttribute name
  | .path _ =>
    if isComputed then .fixedAttribute (.computed v.typeName name)
    else if v.hasOperation name then .fixedAttribute (.operation v.typeName name)
    else v.noAttribute name
  | v =>
    if v.fields.any (·.1 == name) then .frozenField name
    else if !v.fields.isEmpty then .type .foreignField
    else if isComputed then .fixedAttribute (.data (declaringType v) name)
    else if v.hasOperation name then .fixedAttribute (.operation v.typeName name)
    else .noAttribute v.typeName name

end KeyBundle.Session
