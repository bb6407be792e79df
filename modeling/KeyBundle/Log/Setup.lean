/-
  KeyBundle.Log.Setup — setting up loggers whose handlers redact what they write.

  A logger that has handlers already is left as it is. Otherwise it gets its level, a console
  handler and a file handler as wanted, and stops passing records on. What has been done before
  something fails stays done.
-/

import KeyBundle.Log.Logger
import KeyBundle.Value.Refusal

namespace KeyBundle.Log

/-- A step of setting up. -/
abbrev Setup := ExceptT Fault (StateM Journal)

/-- What a logger is set up with, as it is given. -/
structure Wanted where
  name : Value
  logDir : Value
  level : Value
  enableConsole : Value
  enableJson : Value
  maxFileSize : Value
  backupCount : Value

/-- The size from which on files are rotated unless it is given. -/
def standardMaxBytes : Nat := 10 * 1024 * 1024

/-- How many old files are kept unless it is given. -/
def standardBackups : Nat := 5

/-! ## Levels -/

/-- Names in capitals that are no levels, with the way they fail. -/
def foreignNames : List (String × LogFault) := [
  ("BASIC_FORMAT", .unknownLevel (Text.quoted "%(levelname)s:%(name)s:%(message)s")),
  ("_STYLES", .levelNotText
    ("\x7b'%': (<class 'logging.PercentStyle'>, '%(levelname)s:%(name)s:%(message)s'), "
      ++ "'\x7b': (<class 'logging.StrFormatStyle'>, "
      ++ "'\x7blevelname\x7d:\x7bname\x7d:\x7bmessage\x7d'), "
      ++ "'$': (<class 'logging.StringTemplateStyle'>, "
      ++ "'$\x7blevelname\x7d:$\x7bname\x7d:$\x7bmessage\x7d')\x7d"))]

/-- The level of this name. -/
def levelOfName (name : String) : Except LogFault Int :=
  match levels.lookup name, foreignNames.lookup name with
  | some n, _ => .ok n
  | none, some fault => .error fault
  | none, none => .error (.noSuchLevel name)

/-- The level that a value names, in whatever case. -/
def levelOf (v : Value) : Except Fault Int :=
  match v with
  | .text s => (levelOfName (Text.upper s)).mapError .log
  | .bytes _ | .buffer .. => .error (.type (.attributeName v.typeName))
  | .sealed .. => .error (.type (.attributeName "bytes"))
  | v => .error (v.noAttribute "upper")

/-! ## Files -/

/-- The path that a value gives. -/
def pathOf (v : Value) : Except Fault Path :=
  match v with
  | .path p => .ok p
  | .text s => .ok (.ofString s)
  | .bytes _ | .sealed .. => .error (.type (.notPathText v.typeName))
  | v => .error (.type (.notPath v.typeName))

/-- The name of the file of a logger: its own name with underscores for dots. -/
def fileName (logger : String) : String :=
  String.ofList (logger.toList.map fun c => if c == '.' then '_' else c) ++ ".log"

/-- The name of the file of a logger that is asked for by a value. -/
def fileNameFor (name : Value) : Except Fault String :=
  match name with
  | .text s => .ok (fileName s)
  | .bytes _ | .buffer .. | .sealed .. => .error (.type (.needsBytes "str"))
  | v => .error (v.noAttribute "replace")

/-- The file of a logger in a directory. -/
def logFile (dir name : Value) : Except Fault Path := do
  let dir ← pathOf dir
  return dir.join (.ofString (← fileNameFor name))

/-- Two leading slashes mean the same as one. -/
def resolved (p : Path) : Path := if p.root = .doubleSlash then { p with root := .slash } else p

/-- A size in bytes. -/
def sizeOf (v : Value) : Except Fault Number :=
  match v with
  | .number n => .ok n
  | v => .error (.type (.notOrdered ">" v.typeName "int"))

/-- An operation on the volume, which may be refused. -/
def onVolume {α : Type} (d : Disk α) : Setup α := do
  let j ← get
  let (r, volume) := d.run j.volume
  set { j with volume }
  ofExcept (r.mapError .file)

/-- The open file of a logger, with the folders above it made. A path may not step upwards. -/
def openTarget (path : Path) (maxFileSize backupCount : Value) : Setup Target := do
  if path.climbs then throw (.log .climbingPath)
  let path := resolved path
  if path.text.toList.contains '\x00' then throw (.log .nulInPath)
  onVolume (Disk.makeFolder path.parent)
  let maxBytes ← ofExcept (sizeOf maxFileSize)
  let file ← onVolume (Disk.openFile path)
  return { path, file? := some file, maxBytes, backups := backupCount }

/-! ## Loggers -/

def changeLogger (name : String) (f : Logger → Logger) : Setup Unit :=
  modify fun j => j.setLogger name (f (j.logger name))

/-- Handlers take everything from the level of debugging on, and redact it. -/
def handler (sink : Sink) (format : LineFormat) : Handler := ⟨sink, 10, [.secure], format⟩

def addHandler (name : String) (h : Handler) : Setup Unit :=
  changeLogger name fun l => { l with handlers := l.handlers ++ [h] }

/-- The logger that a value asks for. Whatever counts as no asks for the root logger. -/
def loggerFor (name : Value) : Except Fault String :=
  if !name.truthy then .ok Value.rootLogger
  else
    match name with
    | .text s => .ok s
    | _ => .error (.type .loggerName)

def addConsole (name : String) (w : Wanted) : Setup Unit :=
  if w.enableConsole.truthy then addHandler name (handler .console .console) else pure ()

def addFile (name : String) (w : Wanted) : Setup Unit :=
  if w.logDir.truthy then do
    let path ← ofExcept (logFile w.logDir w.name)
    let target ← openTarget path w.maxFileSize w.backupCount
    addHandler name (handler (.file target) (if w.enableJson.truthy then .json else .file))
  else pure ()

/-- Sets up a logger and gives its name. -/
def setUp (w : Wanted) : Setup String := do
  let name ← ofExcept (loggerFor w.name)
  modify fun j => j.know name
  if !((← get).logger name).handlers.isEmpty then return name
  let level ← ofExcept (levelOf w.level)
  changeLogger name fun l => { l with level }
  addConsole name w
  addFile name w
  changeLogger name fun l => { l with propagate := false }
  return name

/-- What logging settings want for a logger. -/
def wantedBy (name settings : Value) : Except Fault Wanted :=
  let size := .int standardMaxBytes
  let count := .int standardBackups
  match settings with
  | .logging c =>
    .ok ⟨name, .ofOption .path c.logDir, .text c.level, .bool c.enableConsole, .bool c.enableJson,
      size, count⟩
  | .record .loggingConfig [level, console, dir, json] =>
    .ok ⟨name, dir, level, console, json, size, count⟩
  | v => .error (v.noAttribute "log_dir")

/-- The logger that all loggers of the library are below. -/
def packageLogger : String := "layercrypt"

/-- The logger of the notices about bundles. -/
def noticeLogger : String := "layercrypt.cryptoconfig"

/-- Takes all handlers from the logger of the library. -/
def clearPackageLogger : Setup Unit := changeLogger packageLogger fun l => { l with handlers := [] }

end KeyBundle.Log
