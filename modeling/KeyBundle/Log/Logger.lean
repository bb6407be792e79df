/-
  KeyBundle.Log.Logger — loggers and their handlers, and the way of a record through them.

  Loggers form a tree by the dots in their names, with the root logger above all of them. A record
  is made when its level is enabled for its logger, and goes to the handlers of that logger and of
  the loggers above, up to one that does not pass records on. A record that meets no handler at
  all goes to the last resort: the bare message on the console, without any filter, from the level
  of warnings on.
-/

import KeyBundle.Log.Line
import KeyBundle.Log.Volume

namespace KeyBundle.Log

/-! ## Handlers -/

/-- A file that a handler writes to. -/
structure Target where
  path : Path
  /-- The number of the text that is open. None is after a rotation that failed. -/
  file? : Option Nat
  /-- A file that would reach this size is rotated; zero and less mean never. -/
  maxBytes : Number
  /-- How many old files are kept, as it was given. -/
  backups : Value

inductive Sink where
  | console
  | file (t : Target)

/-- What a handler does to a record before it is written. -/
inductive FilterKind where
  /-- Redaction of key material. -/
  | secure
  deriving DecidableEq

structure Handler where
  sink : Sink
  level : Int
  filters : List FilterKind
  format : LineFormat

structure Logger where
  level : Int
  handlers : List Handler
  /-- Records go on to the loggers above. -/
  propagate : Bool

/-- A logger that nothing has been done to. -/
def Logger.fresh : Logger := ⟨0, [], true⟩

/-- A record on its way: the record as filtered so far, the files and the console. -/
structure Passage where
  record : Record
  volume : Volume
  console : String

/-- What the report of a handler that has failed shows of the code that ran: the traceback of the
error and the call stack. -/
abbrev Trace := Passage → String

/-- The loggers, the files and the console of a run. -/
structure Journal where
  /-- The root logger, and the others in the order in which they were asked for first. -/
  loggers : List (String × Logger)
  volume : Volume
  /-- What has been written to the console. -/
  console : String
  clock : Moment
  /-- What reports of failures show of the code; none while reports are turned off. -/
  trace? : Option Trace

namespace Journal

/-- The moment at which a run starts. -/
def startOfRun : Moment := ⟨1700000000000000⟩

/-- The root logger is there from the start and lets warnings through. Reports are turned off. -/
def empty : Journal := ⟨[(Value.rootLogger, ⟨30, [], true⟩)], .empty, "", startOfRun, none⟩

def logger (j : Journal) (name : String) : Logger := (j.loggers.lookup name).getD .fresh

/-- The logger has been asked for before. -/
def isKnown (j : Journal) (name : String) : Bool := j.loggers.any (·.1 == name)

def setLogger (j : Journal) (name : String) (l : Logger) : Journal :=
  { j with loggers :=
      if j.isKnown name then
        j.loggers.map fun e => if e.1 == name then (name, l) else e
      else j.loggers ++ [(name, l)] }

/-- A logger is there from the moment at which it is asked for. -/
def know (j : Journal) (name : String) : Journal :=
  if j.isKnown name then j else j.setLogger name .fresh

end Journal

/-- The logger that a text names; no name at all means the root logger. -/
def loggerName (text : String) : String := if text == "" then Value.rootLogger else text

/-! ## The tree of loggers -/

/-- The first name was there before the second. -/
def Journal.isOlder (j : Journal) (a b : String) : Bool :=
  ((j.loggers.map (·.1)).takeWhile (· != b)).contains a

/-- A logger of the first name takes the one of the second below it. Those that are there already
when it comes are moved below it too, except from below a logger whose name starts with its own:
a logger right below the root logger stays there if the new name opens the word root. -/
def Journal.isAbove (j : Journal) (name child : String) : Bool :=
  name != Value.rootLogger && j.isKnown name
    && (!name.toList.isPrefixOf Value.rootLogger.toList || j.isOlder name child)

/-- The names that a text written backwards starts with before one of its dots and that are above
the logger found last, longest first. A dot is passed over together with the character before it,
so the first of two dots side by side counts only for a name that ends with it. -/
def namesBefore (isAbove : String → String → Bool) (child : String) : List Char → List String
  | [] => []
  | '.' :: c :: rest =>
    let name := String.ofList (c :: rest).reverse
    if isAbove name child then name :: namesBefore isAbove name (c :: rest)
    else namesBefore isAbove child rest
  | _ :: rest => namesBefore isAbove child rest

/-- The loggers above a logger, nearest first and the root logger last. -/
def Journal.namesAbove (j : Journal) (name : String) : List String :=
  if name = Value.rootLogger then []
  else namesBefore j.isAbove name name.toList.reverse ++ [Value.rootLogger]

/-- The level from which on a logger makes records: its own, or the nearest one above that is not
zero. -/
def Journal.effectiveLevel (j : Journal) (name : String) : Int :=
  (((name :: j.namesAbove name).map fun n => (j.logger n).level).find? (· != 0)).getD 0

/-- Level zero is never enabled. -/
def Journal.isEnabled (j : Journal) (name : String) (level : Int) : Bool :=
  0 < level && j.effectiveLevel name ≤ level

/-- The loggers that a record comes to, from its own upwards. -/
def Journal.chain (j : Journal) : List String → List String
  | [] => []
  | n :: above => if (j.logger n).propagate then n :: j.chain above else [n]

/-! ## Writing -/

def applyFilter (r : Record) : FilterKind → Record
  | .secure => r.filtered []

/-- Whether a file of this size has to be rotated before the line is written: the size in bytes
and the length in characters are counted together. -/
def Target.isFull (t : Target) (size length : Nat) : Bool :=
  (Number.int 0).less t.maxBytes && !(Number.int (size + length)).less t.maxBytes

/-- How many old files a value stands for: none if it is not above zero. What has no order with
numbers, and a number above zero that is not whole, stands for no count at all. -/
def backupCount : Value → Option Nat
  | .number (.float x mark) => if (Number.int 0).less (.float x mark) then none else some 0
  | .number (.int n) => some n.toNat
  | .number (.bool b) => some b.toNat
  | _ => none

/-- An attempt to write to a file. What has been done up to the point where it fails stays. -/
abbrev Attempt := OptionT (StateM (Target × Volume))

namespace Attempt

def onDisk {α : Type} (d : Disk α) : Attempt α := do
  let (t, v) ← get
  let (r, v) := d.run v
  set (t, v)
  match r with
  | .ok a => return a
  | .error _ => failure

/-- The number of the text, which is opened if it is not open. -/
def openText : Attempt Nat := do
  let (t, _) ← get
  match t.file? with
  | some n => return n
  | none =>
    let n ← onDisk (Disk.openFile t.path)
    modify fun s => ({ s.1 with file? := some n }, s.2)
    return n

/-- Closes the file, rotates it and opens it anew. -/
def turnOver : Attempt Unit := do
  modify fun s => ({ s.1 with file? := none }, s.2)
  let (t, _) ← get
  match backupCount t.backups with
  | none => failure
  | some count => onDisk (Disk.rotate t.path count)
  let _ ← openText

/-- Adds a text, if there is one, to the end of the file. -/
def addText (text? : Option String) : Attempt Unit := do
  let n ← openText
  let some text := text? | failure
  modify fun s => (s.1, s.2.append n text)

/-- Writes a text, if there is one, at the end of a file, which is rotated before if it is full. The
file is opened in any case. A folder in the place of the file is never rotated. -/
def write (text? : Option String) : Attempt Unit := do
  let (t, v) ← get
  if !v.holds t.path || v.isFile t.path then
    let n ← openText
    let some text := text? | failure
    if t.isFull ((← get).2.textOf n).utf8ByteSize text.length then turnOver
  addText text?

end Attempt

/-- A handler puts the record on a line and writes it: whether it could, and the handler and the
passage then. -/
def Handler.write (h : Handler) (p : Passage) : Bool × Handler × Passage :=
  let text? := (line h.format p.record).toOption.map (· ++ "\n")
  match h.sink with
  | .console => (text?.isSome, h, { p with console := p.console ++ text?.getD "" })
  | .file t =>
    let (done?, t, v) := (Attempt.write text?).run.run (t, p.volume)
    (done?.isSome, { h with sink := .file t }, { p with volume := v })

/-- The message and the arguments as a report shows them, if they have a shown form. -/
def Record.account (r : Record) : String :=
  let args := match r.args with
    | .sequence xs => .tuple xs
    | .mapping v => v
  if (Value.looseLimitsIn? [r.message, args]).isSome then
    "Unable to print the message and arguments - possible formatting error.\n" ++
      "Use the traceback above to help find the error.\n"
  else "Message: " ++ r.message.shown ++ "\nArguments: " ++ args.plain ++ "\n"

/-- The report of a failure. -/
def Passage.report (p : Passage) (trace : Trace) : String :=
  "--- Logging error ---\n" ++ trace p ++ p.record.account

/-- A failure is reported on the console, unless reports are turned off. -/
def Passage.failed (p : Passage) (trace? : Option Trace) : Passage :=
  { p with console := p.console ++ (trace?.map p.report).getD "" }

/-- A handler takes a record: filters it and writes it. -/
def Handler.take (trace? : Option Trace) (h : Handler) (p : Passage) : Handler × Passage :=
  if p.record.level < h.level then (h, p)
  else
    let (written, h, p) := h.write { p with record := h.filters.foldl applyFilter p.record }
    (h, if written then p else p.failed trace?)

/-- Handler after handler. -/
def takeAll (trace? : Option Trace) : List Handler → Passage → List Handler × Passage
  | [], p => ([], p)
  | h :: hs, p =>
    let (h, p) := h.take trace? p
    let (hs, p) := takeAll trace? hs p
    (h :: hs, p)

/-- The handlers of one logger take the record. -/
def passLogger (state : Journal × Passage) (name : String) : Journal × Passage :=
  let (j, p) := state
  let l := j.logger name
  if l.handlers.isEmpty then (j, p)
  else
    let (hs, p) := takeAll j.trace? l.handlers p
    (j.setLogger name { l with handlers := hs }, p)

/-- The level from which on the last resort writes. -/
def lastResortLevel : Int := 30

/-- The bare message on the console. -/
def lastResort : Handler := ⟨.console, lastResortLevel, [], .bare⟩

/-- A record goes its way. -/
def Journal.deliver (j : Journal) (r : Record) : Journal :=
  let names := j.chain (r.logger :: j.namesAbove r.logger)
  let start : Passage := ⟨r, j.volume, j.console⟩
  let (j, p) :=
    if names.all fun n => (j.logger n).handlers.isEmpty then (j, (lastResort.take j.trace? start).2)
    else names.foldl passLogger (j, start)
  { j with volume := p.volume, console := p.console }

/-! ## Making records -/

/-- The fields that every record has already. -/
def ownFields : List String := [
  "name", "msg", "args", "levelname", "levelno", "pathname", "filename", "module", "exc_info",
  "exc_text", "stack_info", "lineno", "funcName", "created", "msecs", "relativeCreated", "thread",
  "threadName", "processName", "process", "message", "asctime"]

/-- A message of a caller; fields of the caller's own may not have the name of another. -/
def Journal.log (j : Journal) (name : String) (level : Int) (message : Value) (args : List Value)
    (exception stack : Option String) (extras : List (String × Value)) : Except Fault Journal :=
  if j.isEnabled name level then
    match extras.find? fun e => ownFields.contains e.1 with
    | some e => .error (.log (.overwrites e.1))
    | none =>
      .ok (j.deliver {
        logger := name, level, message, args := argsOf args, created := j.clock, exception, stack
        extras })
  else .ok j

end KeyBundle.Log
