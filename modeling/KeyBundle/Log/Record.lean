/-
  KeyBundle.Log.Record — log records, and the filter that keeps key material out of them.

  A record carries a message with arguments that are put into it later. The filter redacts the
  message, when it is text, and each argument by itself; bytes in an argument give way to their
  number. It never drops a record, and it changes the record itself: every handler
  that a record comes to filters it once more.
-/

import KeyBundle.Calendar
import KeyBundle.Log.Level
import KeyBundle.Redaction.Rules
import KeyBundle.Template.Fill

namespace KeyBundle.Log

structure Record where
  logger : String
  level : Int
  message : Value
  args : Template.Args
  created : Moment
  /-- The text of the exception that the record reports. -/
  exception : Option String
  /-- The text of the call stack, where the caller asks for it. -/
  stack : Option String
  /-- Further fields of the caller's own. -/
  extras : List (String × Value)

/-! ## Arguments and message -/

/-- The arguments of a call: a mapping that has entries and stands alone is taken as such. -/
def argsOf : List Value → Template.Args
  | [v] =>
    match v with
    | .table _ (_ :: _) => .mapping v
    | .parameters p => if p.isEmpty then .sequence [v] else .mapping v
    | v => .sequence [v]
  | vs => .sequence vs

/-- The message with its arguments. -/
def Record.text (r : Record) : Except TemplateFault String :=
  if r.args.isEmpty then .ok r.message.plain else Template.fill r.message.plain r.args

/-! ## The filter -/

/-- The redaction of a value that has to be text. -/
def redactText (literals : List String) (v : Value) : Except Fault String :=
  match v with
  | .text s => .ok (Redaction.redact literals s)
  | v => .error (.type (if v.content?.isSome then .textPatternOnBytes else .notText v.typeName))

/-- An argument without key material. -/
def cleanArg (literals : List String) (v : Value) : Value :=
  match v with
  | .text s => .text (Redaction.redact literals s)
  | v =>
    if v.content?.isSome then .text ("<" ++ toString (v.length?.getD 0) ++ " bytes>") else v

def cleanArgs (literals : List String) : Template.Args → Template.Args
  | .sequence xs => .sequence (xs.map (cleanArg literals))
  | .mapping (.table id es) => .mapping (.table id (es.map fun e => (e.1, cleanArg literals e.2)))
  | .mapping v => .mapping v

def cleanMessage (literals : List String) : Value → Value
  | .text s => .text (Redaction.redact literals s)
  | v => v

/-- The record after one pass of the filter. -/
def Record.filtered (literals : List String) (r : Record) : Record :=
  { r with message := cleanMessage literals r.message, args := cleanArgs literals r.args }

end KeyBundle.Log
