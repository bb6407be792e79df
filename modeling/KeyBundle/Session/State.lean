/-
  KeyBundle.Session.State — what a session keeps between its steps, and operations that may set
  up loggers.
-/

import KeyBundle.Session.Access
import KeyBundle.Session.Operation
import KeyBundle.Value.Rebuild

namespace KeyBundle

namespace Session

/-- What a session reports beside the results of its steps. -/
inductive Mode where
  /-- The notices of each step. -/
  | notices
  /-- The console and the files, which lie in a directory set aside for the session. Notices go to
  their logger. -/
  | writing
  deriving DecidableEq

end Session

structure Session where
  mode : Session.Mode
  context : Context
  journal : Log.Journal
  bindings : Session.Bindings
  /-- The files as they were reported last. -/
  reported : List (String × String)

namespace Session

/-- The logger of notices is there from the start. Where notices are reported it takes all. -/
def start (mode : Mode) (env : Environment) : Session :=
  let level := if mode = .notices then 10 else 0
  { mode
    context := .start env (if mode = .writing then Path.ofRunText else Path.ofString)
    journal := Log.Journal.empty.setLogger Log.noticeLogger { Log.Logger.fresh with level }
    bindings := []
    reported := [] }

/-- A step that may fail; what it has changed by then stays. -/
abbrev Act := ExceptT Fault (StateM Session)

def building {α : Type} (b : Build α) : Act α := do
  let s ← get
  let (r, c) := b.run.run s.context
  set { s with context := c }
  ofExcept r

def settingUp {α : Type} (b : Log.Setup α) : Act α := do
  let s ← get
  let (r, j) := b.run.run s.journal
  set { s with journal := j }
  ofExcept r

/-! ## Loggers -/

/-- A logger as it is now. -/
def loggerNow (j : Log.Journal) (name : String) : Value := .logger name (j.effectiveLevel name)

/-- A logger is asked for. -/
def askLogger (text : String) : Act Value := do
  let name := Log.loggerName text
  modify fun s => { s with journal := s.journal.know name }
  return loggerNow (← get).journal name

/-- A logger is set up. -/
def setUpLogger (wanted : Log.Wanted) : Act Value := do
  let name ← settingUp (Log.setUp wanted)
  return loggerNow (← get).journal name

/-- Logging settings, or those of the shared settings when none are given. -/
def loggingSettings (given : Value) : Act Value := do
  match given with
  | .none => return .logging (← building Build.sharedSettings).2.logging
  | v => return v

/-- A logger set up by logging settings. -/
def loggerFrom (name given : Value) : Act Value := do
  let settings ← loggingSettings given
  setUpLogger (← ofExcept (Log.wantedBy name settings))

/-- The logger of the library set up anew. -/
def configureLogging (given : Value) : Act Value := do
  settingUp Log.clearPackageLogger
  loggerFrom (.text Log.packageLogger) given

/-- What the arguments of a set-up want. -/
def secureWanted (args : Arguments) : Log.Wanted where
  name := args.get 0
  logDir := args.get 1
  level := args.get 2 (.text "WARNING")
  enableConsole := args.get 3 (.bool true)
  enableJson := args.get 4 (.bool false)
  maxFileSize := args.get 5 (.int Log.standardMaxBytes)
  backupCount := args.get 6 (.int Log.standardBackups)

def secureLogger (args : Arguments) : Act Value := setUpLogger (secureWanted args)

/-- An operation applied to its arguments. -/
def perform (op : Operation) (args : Arguments) : Act Value :=
  match op with
  | .secureLogger => secureLogger args
  | .configureLogging => configureLogging (args.get 0)
  | .logger => loggerFrom (args.get 0) .none
  | op => building (op.build args)

/-! ## Changes in place -/

/-- A thing changes, and with it every value that it is part of. -/
def change (id : Nat) (new : Value) : Act Value := do
  let changed := fun b : Bound => { b with value := b.value.replace id new }
  modify fun s => { s with bindings := s.bindings.map fun b => (b.1, changed b.2) }
  return new

/-- A value that counts as a byte. -/
def byteValue (x : Value) : Except Fault UInt8 :=
  match wholeOf x with
  | some i => byteOf i
  | none => .error (.type (.notWhole x.typeName))

/-- Something with an end that items can be added to. -/
inductive Appendable where
  | list (id : Nat) (xs : List Value)
  | buffer (id : Nat) (b : Blob)

def appendable (v : Value) : Except Fault Appendable :=
  match v with
  | .list id xs => .ok (.list id xs)
  | .buffer id b => .ok (.buffer id b)
  | v => .error (v.noAttribute "append")

def append (a : Appendable) (x : Value) : Act Value := do
  match a with
  | .list id xs => change id (.list id (xs ++ [x]))
  | .buffer id b =>
    let byte ← ofExcept (byteValue x)
    change id (.buffer id (b ++ [byte]))

/-- The place of an item that is replaced. -/
def placeFor (kind : SequenceKind) (length : Nat) (key : Value) (missing : Fault) :
    Except Fault Nat := do
  let i ← indexOf kind key
  match placeOf length i with
  | some n => return n
  | none => throw missing

/-- Whether the value looks at a position before it refuses to replace the item there. -/
def looksAtPosition : Value → Bool
  | .none | .number _ | .stream .. | .generator .. | .object _ | .method .. => false
  | _ => true

/-- What has items that cannot be replaced, or none, refuses. -/
def refuseItem (v key : Value) : Fault :=
  let refusal := .type (.noItemAssignment v.typeName)
  match wholeOf key with
  | some i => if looksAtPosition v && !isIndex i then .indexTooLarge else refusal
  | none => refusal

/-- An item or entry of a value is replaced, or an entry added. -/
def put (v key x : Value) : Act Value := do
  match v with
  | .table id es =>
    building (checkHashable key)
    change id (.table id (putEntry es key x))
  | .list id xs =>
    let n ← ofExcept (placeFor .list xs.length key .noPlace)
    change id (.list id (xs.set n x))
  | .buffer id b =>
    let _ ← ofExcept (indexOf .buffer key)
    let byte ← ofExcept (byteValue x)
    let n ← ofExcept (placeFor .buffer b.length key (.indexOutOfRange .buffer))
    change id (.buffer id (b.set n byte))
  | .view .. => throw (.type .readOnly)
  | v => throw (refuseItem v key)

/-- Other bytes in the place of all items. -/
def fill (v : Value) (b : Blob) : Act Value :=
  match v with
  | .buffer id _ => change id (.buffer id b)
  | .list id _ => change id (.list id (b.map fun x => .int x.toNat))
  | .table .. => throw (.type (.unhashable "slice"))
  | .view .. => throw (.type .readOnly)
  | v => throw (.type (.noItemAssignment v.typeName))

end Session

end KeyBundle
