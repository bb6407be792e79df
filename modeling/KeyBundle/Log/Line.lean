/-
  KeyBundle.Log.Line — the lines that records are written as: text for the console and for
  files, JSON for files, and the bare message.
-/

import KeyBundle.Log.Json
import KeyBundle.Log.Record

namespace KeyBundle.Log

/-- The form of a line. -/
inductive LineFormat where
  | console
  | file
  | json
  /-- The message alone. -/
  | bare
  deriving DecidableEq

namespace LineFormat

/-- The description of the form. -/
def pattern : LineFormat → String
  | console => "%(asctime)s | %(levelname)-8s | %(name)s | %(message)s"
  | file => "%(asctime)s | %(levelname)-8s | %(name)s | %(funcName)s:%(lineno)d | %(message)s"
  | json => "json"
  | bare => "%(message)s"

/-- The description of the time in the line, if the form has one. -/
def datePattern? : LineFormat → Option String
  | console => some "%H:%M:%S"
  | file => some "%Y-%m-%d %H:%M:%S"
  | json | bare => none

end LineFormat

/-! ## Text -/

/-- Blanks up to a width on the right. -/
def padRight (width : Nat) (s : String) : String :=
  s ++ String.ofList (List.replicate (width - s.length) ' ')

/-- The place in the code that every record names. -/
def origin : String := "fn:1"

/-- A line and a text below it, if there is one with anything in it. -/
def withBelow (line : String) : Option String → String
  | none | some "" => line
  | some text => if line.endsWith "\n" then line ++ text else line ++ "\n" ++ text

/-- What a text line says before the message. -/
def heading (f : LineFormat) (r : Record) : String :=
  let c := r.created.civil
  let named := padRight 8 (levelName r.level) ++ " | " ++ r.logger ++ " | "
  match f with
  | .console => c.timeText ++ " | " ++ named
  | .file => c.dateText ++ " " ++ c.timeText ++ " | " ++ named ++ origin ++ " | "
  | .json | .bare => ""

/-! ## JSON -/

/-- The fields of a caller's own that a JSON line shows. -/
def shownExtras : List String := ["scheme", "direction"]

/-- A field of the caller's own, unless it is absent or nothing. -/
def extra? (r : Record) (name : String) : Option Value :=
  match r.extras.lookup name with
  | none | some .none => none
  | some v => some v

/-- The time of a record; only the years of four digits can be written. -/
def timestamp (m : Moment) : Except Fault String :=
  let c := m.civil
  if 1 ≤ c.year && c.year ≤ 9999 then .ok c.isoText else .error (.log (.yearOutOfRange c.year))

/-- The members of a JSON line in their order. -/
def jsonFields (r : Record) : Except Fault (List (String × Value)) := do
  let time ← timestamp r.created
  let message ← r.text.mapError .template
  let extras := shownExtras.filterMap fun name => (extra? r name).map fun v => (name, v)
  let exception := r.exception.toList.map fun text => ("exception", .text text)
  return [("timestamp", .text time), ("level", .text (levelName r.level)),
    ("logger", .text r.logger), ("message", .text message)] ++ extras ++ exception

def jsonLine (r : Record) : Except Fault String := do
  let fields ← jsonFields r
  let written ← fields.mapM fun f => do return (Json.text f.1, ← Json.value f.2)
  return Json.object written

/-- The record as a line, without the line break at its end. -/
def line (f : LineFormat) (r : Record) : Except Fault String :=
  match f with
  | .json => jsonLine r
  | f => do
    let message ← r.text.mapError .template
    return withBelow (withBelow (heading f r ++ message) r.exception) r.stack

/-! ## Exceptions -/

/-- The kinds of errors of bundles. -/
def bundleErrors : List String :=
  ["CryptoConfigError", "InvalidArgumentError", "UnsupportedConfigurationError"]

/-- The full name of a kind of exception; those not of this library have a bare name. -/
def qualifiedName (kind : String) : String :=
  if kind == "ValidationError" then "layercrypt.utils.validators." ++ kind
  else if bundleErrors.contains kind then "layercrypt.cryptoconfig.errors." ++ kind
  else kind

/-- The text of an exception: its name, and its message if it has one. A missing key is shown
quoted. -/
def exceptionText (kind message : String) : String :=
  let shown := if kind == "KeyError" then Text.quoted message else message
  if shown == "" then qualifiedName kind else qualifiedName kind ++ ": " ++ shown

end KeyBundle.Log
