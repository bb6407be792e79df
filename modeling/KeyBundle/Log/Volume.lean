/-
  KeyBundle.Log.Volume — the files and folders that log lines go to. A file is a name for a
  numbered text; renaming moves the name, and a writer that has the number goes on writing the
  same text. A name is found from the top downwards, and the first step that fails counts. An
  operation that fails keeps what it has changed by then.
-/

import KeyBundle.Fault

namespace KeyBundle.Log

structure Volume where
  /-- The texts that the names stand for. -/
  files : List (Path × Nat)
  texts : List (Nat × String)
  folders : List Path
  /-- A number without a text. -/
  next : Nat

namespace Volume

def empty : Volume := ⟨[], [], [], 0⟩

def fileAt? (v : Volume) (p : Path) : Option Nat := v.files.lookup p

def isFile (v : Volume) (p : Path) : Bool := (v.fileAt? p).isSome

/-- The roots of all paths are folders. -/
def isFolder (v : Volume) (p : Path) : Bool := p.parts.isEmpty || v.folders.contains p

def textOf (v : Volume) (n : Nat) : String := (v.texts.lookup n).getD ""

/-! ## Names -/

/-- The most bytes of a single name. -/
def maxNameBytes : Nat := 255

/-- The most bytes of a whole path. -/
def maxPathBytes : Nat := 4095

def hasLongName (p : Path) : Bool := maxNameBytes < p.name.utf8ByteSize

/-- How the way to a path fails, above the path itself. -/
def blockedAbove (v : Volume) (p : Path) : Option FileRefusal :=
  p.above.findSome? fun q =>
    if hasLongName q then some .nameTooLong
    else if v.isFolder q then none
    else if v.isFile q then some .notFolder
    else some .missing

/-- Whether there is something of this name, if that can be told. -/
def find (v : Volume) (p : Path) : Except FileRefusal Bool :=
  if maxPathBytes < p.text.utf8ByteSize then .error .nameTooLong
  else
    match v.blockedAbove p with
    | some refusal => .error refusal
    | none => if hasLongName p then .error .nameTooLong else .ok (v.isFile p || v.isFolder p)

/-- Something of this name is there. -/
def holds (v : Volume) (p : Path) : Bool := (v.find p).toOption.getD false

/-- The files below the directory set aside for a run, by path. -/
def contents (v : Volume) : List (String × String) :=
  let shown := (v.files.filter (·.1.isScratch)).map fun e => (e.1.text, v.textOf e.2)
  shown.mergeSort fun a b => a.1 ≤ b.1

/-- Adds to the end of a text. -/
def append (v : Volume) (n : Nat) (s : String) : Volume :=
  { v with texts := v.texts.map fun t => if t.1 == n then (n, t.2 ++ s) else t }

end Volume

/-! ## Operations -/

/-- An operation on a volume. -/
abbrev Disk := ExceptT FileFault (StateM Volume)

namespace Disk

def refuse {α : Type} (p : Path) (refusal : FileRefusal) : Disk α := throw ⟨refusal, p⟩

/-- Whether there is something of this name; refused if that cannot be told. -/
def find (p : Path) : Disk Bool := do
  match (← get).find p with
  | .ok found => return found
  | .error refusal => refuse p refusal

/-- A folder, unless it is there already. -/
def ensureFolder (p : Path) : Disk Unit := do
  if ← find p then
    if !(← get).isFolder p then refuse p .exists
  else modify fun v => { v with folders := v.folders ++ [p] }

/-- A folder whose parts are given from the last to the first. The folder above it is made first
if something is missing on the way to it. -/
def ensureFrom (root : PathRoot) : List String → Disk Unit
  | [] => ensureFolder ⟨root, []⟩
  | part :: rest => do
    let p : Path := ⟨root, (part :: rest).reverse⟩
    if let .error .missing := (← get).find p then ensureFrom root rest
    ensureFolder p

/-- Makes a folder and the folders above it. -/
def makeFolder (p : Path) : Disk Unit := ensureFrom p.root p.parts.reverse

/-- The number of a file, which is made if there is none of this name. -/
def openFile (p : Path) : Disk Nat := do
  let found ← find p
  let v ← get
  match v.fileAt? p with
  | some n => return n
  | none =>
    if found then refuse p .isFolder
    set { v with
      files := v.files ++ [(p, v.next)]
      texts := v.texts ++ [(v.next, "")]
      next := v.next + 1 }
    return v.next

/-- Takes a file away; folders stay. -/
def remove (p : Path) : Disk Unit := do
  if !(← find p) then refuse p .missing
  if (← get).isFolder p then refuse p .isFolder
  modify fun v => { v with files := v.files.filter (·.1 != p) }

/-- Gives a file or a folder another name that nothing has. -/
def rename (source target : Path) : Disk Unit := do
  if !(← find source) then refuse source .missing
  if ← find target then refuse target .exists
  modify fun v => { v with
    files := v.files.map fun e => (e.1.moved source target, e.2)
    folders := v.folders.map fun q => q.moved source target }

/-! ## Rotation -/

/-- The name of a kept file: the name with a number behind it. -/
def keptName (p : Path) (n : Nat) : Path := p.addSuffix ("." ++ toString n)

/-- What is there under the first name gets the second, in the place of a file. -/
def shift (source target : Path) : Disk Unit := do
  if (← get).holds source then
    if (← get).holds target then remove target
    rename source target

/-- Every kept file takes the next number, from the highest down, and the file itself the first;
with `backups` kept, the oldest is lost. With none the file stays as it is. -/
def rotate (p : Path) (backups : Nat) : Disk Unit := do
  if backups = 0 then return
  (List.range (backups - 1)).reverse.forM fun n => shift (keptName p (n + 1)) (keptName p (n + 2))
  let first := keptName p 1
  if (← get).holds first then remove first
  if (← get).holds p then rename p first

end Disk

end KeyBundle.Log
