/-
  KeyBundle.Build.Settings — settings from arbitrary values. Only what has to be compared is
  checked: the limit must have an order with whole numbers, the level must be text, the
  directory must be a path. The two switches are kept as they come.
-/

import KeyBundle.Build.Basic

namespace KeyBundle.Build

def limits (v : Value) : Except Fault Value :=
  match v with
  | .number n => ((Limits.make n).map .limits).mapError .setting
  | v => .error (.type (.notOrdered "<" v.typeName "int"))

/-- A level as text that names one of the five levels. -/
def levelText (v : Value) : Except Fault String :=
  match v with
  | .text s => ((checkLevel s).map fun _ => s).mapError .setting
  | .bytes _ | .sealed .. => .error (.setting (.badLevel v.plain))
  | .buffer .. => .error (.type (.unhashable v.typeName))
  | v => .error (v.noAttribute "upper")

/-- An absolute directory, or none. -/
def logDirectory (v : Value) : Except Fault (Option Path) :=
  match v with
  | .none => .ok none
  | .path p => ((checkLogDir (some p)).map fun _ => some p).mapError .setting
  | v => .error (v.noAttribute "is_absolute")

def logging (level enableConsole logDir enableJson : Value) : Except Fault Value := do
  let level ← levelText level
  let dir ← logDirectory logDir
  return .ofLogging level enableConsole dir enableJson

/-- The first value unless it counts as no. -/
def orElse (v standard : Value) : Value := if v.truthy then v else standard

/-- The text that identifies settings with these fields. -/
def identityOf (l c : Value) : Except Fault String := do
  l.checkShown
  c.checkShown
  return l.plain ++ "|" ++ c.plain

/-- Settings as a new thing. -/
def settings (l c : Value) : Build Value := do
  let l := orElse l (.limits .default)
  let c := orElse c (.logging .default)
  let identity ← ofExcept (identityOf l c)
  return .ofSettings (← newId) (Settings.identify identity) l c

/-- What the names of variables start with under a prefix given as a value. -/
def openingFor (pre : Value) : Except Fault String :=
  match pre with
  | .text s => .ok (openingOf s)
  | .bytes b | .sealed _ b _ => .ok (Text.quotedBytes (b.map upperByte) ++ "_")
  | .buffer _ b => .ok (Text.bufferText (b.map upperByte) ++ "_")
  | v => .error (v.noAttribute "upper")
where
  upperByte (x : UInt8) : UInt8 := if 97 ≤ x && x ≤ 122 then x - 32 else x

/-- Settings read from the environment, as a new thing. -/
def loadSettings (pre : Value) : Build Value := do
  let opening ← ofExcept (openingFor pre)
  let context ← get
  match Settings.ofOverrides context.readPath (overrides context.env opening) with
  | .error f => throw (.setting f)
  | .ok s => return .settings (← newId) s

end KeyBundle.Build
