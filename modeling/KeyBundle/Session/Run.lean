/-
  KeyBundle.Session.Run — sessions: one step after the other, each with its result and with what
  it has written.
-/

import KeyBundle.Session.Copy
import KeyBundle.Session.State

namespace KeyBundle.Session

inductive Step where
  | value (t : Term)
  | call (op : Operation) (args : List (Nat × Term))
  | apply (on : Term) (name : String) (args : List Term)
  | part (on : Term) (name : String)
  | shown (on : Term)
  | compare (a b : Term)
  | item (on key : Term)
  | contains (on key : Term)
  | length (on : Term)
  | keys (on : Term)
  | append (on value : Term)
  | put (on key value : Term)
  | fill (on : Term) (bytes : Blob)
  | assign (on : Term) (name : String) (value : Term)
  | copy (on : Term)
  | setVariable (name value : String)
  | unsetVariable (name : String)
  | setClock (micros : Int)
  | log (logger : String) (level : Int) (message : Term) (args : List Term)
      (exception stack : Option String) (extras : List (String × Term))
  | logger (name : String)
  /-- Reports of failed handlers are turned on or off. -/
  | setReports (trace? : Option Log.Trace)

/-- A step and the name that its result is bound to. -/
structure Entry where
  step : Step
  name? : Option String

/-! ## Steps -/

/-- The value of a description. Loggers in it are as they are now. -/
def eval (t : Term) : Act Value := do
  let v ← building (t.eval (← get).bindings)
  let j := (← get).journal
  return v.rebuild fun part =>
    match part with
    | .logger name _ => some (loggerNow j name)
    | _ => none

/-- Whether two values have one digest; nothing if one has none. -/
def digestsAgree (a b : Value) : Except Fault Value :=
  let both : Except Fault Value := do return .bool ((← a.digest) == (← b.digest))
  match both with
  | .error (.type (.unhashable _)) => .ok .none
  | both => both

/-- Equality, its opposite, and whether two equal values have one digest. -/
def comparison (a b : Value) : Act Value := do
  let eq := a.equal b
  let agree ← if eq then ofExcept (digestsAgree a b) else pure .none
  return .table (← building Build.newId)
    [(.text "eq", .bool eq), (.text "ne", .bool !eq), (.text "hash_eq", agree)]

/-- The identity that an attribute of a thing is bound to: its own, or that of the name which
stands for it. -/
def ownerOf (t : Term) (v : Value) : Act Nat := do
  match v.identity?, t with
  | some id, _ => return id
  | none, .name s =>
    match (← get).bindings.lookup s with
    | some b => return b.handle
    | none => building Build.newId
  | none, _ => building Build.newId

/-- The value of an attribute. -/
def partOf (t : Term) (v : Value) (name : String) : Act Value := do
  let j := (← get).journal
  let own := match v with
    | .logger logger _ => loggerAttributes j logger
    | _ => []
  match own.lookup name with
  | some x => return x
  | none => ofExcept (attributeOf (← ownerOf t v) v name)

def log (text : String) (level : Int) (message : Value) (args : List Value)
    (exception stack : Option String) (extras : List (String × Value)) : Act Value := do
  let _ ← askLogger text
  let s ← get
  match s.journal.log (Log.loggerName text) level message args exception stack extras with
  | .error f => throw f
  | .ok j =>
    set { s with journal := j }
    return .none

/-- What a step does. -/
def Step.act : Step → Act Value
  | value t => eval t
  | call op args => do
    let given ← args.mapM fun a => do return (a.1, ← eval a.2)
    perform op given
  | apply on name args => do
    let v ← eval on
    let _ ← partOf on v name
    let given ← args.mapM eval
    building (Session.apply v name given)
  | part on name => do partOf on (← eval on) name
  | shown on => do
    let v ← eval on
    ofExcept v.checkShown
    return .text v.shown
  | compare a b => do
    let x ← eval a
    let y ← eval b
    comparison x y
  | item on key => do
    let v ← eval on
    ofExcept (Session.item v (← eval key))
  | contains on key => do
    let k ← eval key
    let v ← eval on
    return .bool (← building (findIn v k))
  | length on => do return .int (← ofExcept (Session.length (← eval on)))
  | keys on => do building (Session.keys (← eval on))
  | append on x => do
    let a ← ofExcept (appendable (← eval on))
    Session.append a (← eval x)
  | put on key x => do
    let w ← eval x
    let v ← eval on
    Session.put v (← eval key) w
  | fill on bytes => do Session.fill (← eval on) bytes
  | assign on name x => do
    let v ← eval on
    let _ ← eval x
    throw (refuseAssignment v name)
  | copy on => do building (copied (← eval on))
  | setVariable name x => do
    modify fun s => { s with context := { s.context with env := s.context.env.set name x } }
    return .none
  | unsetVariable name => do
    modify fun s => { s with context := { s.context with env := s.context.env.unset name } }
    return .none
  | setClock micros => do
    modify fun s => { s with journal := { s.journal with clock := .shownAt micros } }
    return .none
  | log target level message args exception stack extras => do
    let m ← eval message
    let given ← args.mapM eval
    let more ← extras.mapM fun e => do return (e.1, ← eval e.2)
    Session.log target level m given exception stack more
  | logger name => askLogger name
  | setReports trace? => do
    modify fun s => { s with journal := { s.journal with trace? } }
    return .none

/-! ## Notices -/

/-- The fields that a notice adds to its record. -/
def noticeExtras (n : Notice) : List (String × Value) :=
  [("scheme", .text n.scheme), ("direction", .text n.direction.text)]

/-- A notice goes to the logger of notices. -/
def sendNotice (j : Log.Journal) (n : Notice) : Log.Journal :=
  match j.log Log.noticeLogger n.level (.text n.template) n.args none none (noticeExtras n) with
  | .ok j => j
  | .error _ => j

/-- The message of a notice, unfiltered. -/
def noticeText (n : Notice) : Except TemplateFault String :=
  Template.fill n.template (Log.argsOf n.args)

/-! ## Running -/

/-- What a step has brought about. -/
structure Report where
  outcome : Except Fault Value
  /-- The notices of the step, where they are collected. -/
  notices : List Notice
  /-- What the step has written to the console. -/
  console : String
  /-- All files, if they are not as they were reported last. -/
  files : Option (List (String × String))
  /-- The loggers after the step. -/
  journal : Log.Journal

/-- The thing that the result of a step is: the same one if the step only names it. -/
def handleOf (step : Step) (s : Session) : Nat :=
  match step with
  | .value (.name other) => ((s.bindings.lookup other).map (·.handle)).getD s.context.fresh
  | _ => s.context.fresh

/-- The result of a step under the name that it is to be bound to. -/
def bind (e : Entry) (v : Value) : Act Unit := do
  let handle := handleOf e.step (← get)
  let _ ← building Build.newId
  if let some name := e.name? then
    modify fun s => { s with
      bindings := (name, ⟨v, handle⟩) :: s.bindings.filter (·.1 != name) }

/-- A step whose result is bound. A result without a shown form cannot be reported. -/
def Entry.act (e : Entry) : Act Value := do
  let v ← e.step.act
  bind e v
  ofExcept v.checkShown
  return v

/-- One step and its report. -/
def runEntry (e : Entry) (s : Session) : Report × Session :=
  let (outcome, s) := e.act.run.run s
  let notices := s.context.notices
  let journal := if s.mode = .writing then notices.foldl sendNotice s.journal else s.journal
  let files := journal.volume.contents
  let report : Report := {
    outcome
    notices := if s.mode = .notices then notices else []
    console := if s.mode = .writing then journal.console else ""
    files := if s.mode = .notices || files == s.reported then none else some files
    journal }
  (report, { s with
    context := { s.context with notices := [] }
    journal := { journal with console := "" }
    reported := files })

/-- Step after step; with `stop`, up to the first that fails. -/
def run (stop : Bool) : List Entry → Session → List Report
  | [], _ => []
  | e :: es, s =>
    let (report, s) := runEntry e s
    if stop && !report.outcome.isOk then [report] else report :: run stop es s

end KeyBundle.Session
