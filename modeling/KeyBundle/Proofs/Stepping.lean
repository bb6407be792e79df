/-
  KeyBundle.Proofs.Stepping — what the steps of a session keep.

  A step evaluates what it is given, and then builds something, changes a binding, a variable, the clock or
  how failures are reported, asks for a logger, logs a record, or calls an operation. What is said of a session endures (`Enduring`) when
  all of these keep it, operations apart. Then every step keeps it whose operation does (`Enduring.step`), and so
  does all that comes after the step itself (`Enduring.runEntry`).
-/

import KeyBundle.Proofs.Lightness

namespace KeyBundle.Session

/-- What is said of a session is not changed by light steps, nor by what steps do beside operations. -/
structure Enduring (J : Session → Prop) : Prop where
  building {α : Type} {b : Build α} (light : Light b) : Keeps J (building b)
  bindings {s : Session} (h : J s) (bindings : Bindings) : J { s with bindings }
  environment {s : Session} (h : J s) (env : Environment) : J { s with context := { s.context with env } }
  know {s : Session} (h : J s) (name : String) : J { s with journal := s.journal.know name }
  log {s : Session} {journal : Log.Journal} {name : String} {level : Int} {message : Value} {args : List Value}
    {exception stack : Option String} {extras : List (String × Value)} (h : J s)
    (logged : s.journal.log name level message args exception stack extras = .ok journal) : J { s with journal }
  clock {s : Session} (h : J s) (clock : Moment) : J { s with journal := { s.journal with clock } }
  reports {s : Session} (h : J s) (trace? : Option Log.Trace) : J { s with journal := { s.journal with trace? } }
  reported {s : Session} (h : J s) (reported : List (String × String)) :
    J { s with context := { s.context with notices := [] }, journal := { s.journal with console := "" }, reported }

namespace Enduring

variable {J : Session → Prop} (hJ : Enduring J)

include hJ

/-! ## Values -/

theorem eval (t : Term) : Keeps J (eval t) :=
  .bind .get fun _ => .bind (hJ.building (light_eval _ t)) fun _ => .bind .get fun _ => .pure _

theorem evalSecond {κ : Type} (p : κ × Term) : Keeps J (do return (p.1, ← Session.eval p.2) : Act (κ × Value)) :=
  .bind (hJ.eval p.2) fun _ => .pure _

theorem comparison (a b : Value) : Keeps J (comparison a b) := by
  unfold Session.comparison
  dsimp only
  split
  · exact .bind (.ofExcept _) fun _ => .bind (hJ.building .newId) fun _ => .pure _
  · exact .bind (.pure _) fun _ => .bind (hJ.building .newId) fun _ => .pure _

theorem ownerOf (t : Term) (v : Value) : Keeps J (ownerOf t v) := by
  unfold Session.ownerOf
  split
  · exact .pure _
  · refine .bind .get fun _ => ?_
    split
    · exact .pure _
    · exact hJ.building .newId
  · exact hJ.building .newId

theorem partOf (t : Term) (v : Value) (name : String) : Keeps J (partOf t v name) := by
  refine .bind .get fun s => ?_
  dsimp only
  split
  · exact .pure _
  · exact .bind (hJ.ownerOf t v) fun _ => .ofExcept _

/-! ## Changes in place -/

theorem change (id : Nat) (new : Value) : Keeps J (change id new) :=
  .bind (.update fun _ hs => hJ.bindings hs _) fun _ => .pure _

theorem append (a : Appendable) (x : Value) : Keeps J (append a x) := by
  unfold Session.append
  split
  · exact hJ.change _ _
  · exact .bind (.ofExcept _) fun _ => hJ.change _ _

theorem put (v key x : Value) : Keeps J (put v key x) := by
  unfold Session.put
  split
  · exact .bind (hJ.building (light_checkHashable _)) fun _ => hJ.change _ _
  · exact .bind (.ofExcept _) fun _ => hJ.change _ _
  · exact .bind (.ofExcept _) fun _ => .bind (.ofExcept _) fun _ => .bind (.ofExcept _) fun _ => hJ.change _ _
  · exact .throw _
  · exact .throw _

theorem fill (v : Value) (b : Blob) : Keeps J (fill v b) := by
  unfold Session.fill
  split
  · exact hJ.change _ _
  · exact hJ.change _ _
  all_goals exact .throw _

/-! ## Loggers -/

theorem askLogger (text : String) : Keeps J (askLogger text) :=
  .bind (.update fun _ hs => hJ.know hs _) fun _ => .bind .get fun _ => .pure _

theorem logging (text : String) (level : Int) (message : Value) (args : List Value) (exception stack : Option String)
    (extras : List (String × Value)) : Keeps J (Session.log text level message args exception stack extras) := by
  refine .bind (hJ.askLogger text) fun _ => .get_bind fun s hs => ?_
  split
  · exact .throw _
  · next hj => exact .bind (.set (hJ.log hs hj)) fun _ => .pure _

/-! ## Steps -/

/-- Whatever a step does, and however far it comes, it keeps what endures if its operation does. -/
theorem step (e : Step) (h : ∀ op args, e = .call op args → ∀ given, Keeps J (perform op given)) : Keeps J e.act := by
  cases e with
  | value t => exact hJ.eval t
  | call op args => exact .bind (.mapM hJ.evalSecond args) fun given => h op args rfl given
  | apply on name args =>
    exact .bind (hJ.eval on) fun v => .bind (hJ.partOf on v name) fun _ => .bind (.mapM hJ.eval args)
      fun _ => hJ.building (light_apply _ _ _)
  | part on name => exact .bind (hJ.eval on) fun v => hJ.partOf on v name
  | shown on => exact .bind (hJ.eval on) fun _ => .bind (.ofExcept _) fun _ => .pure _
  | compare a b => exact .bind (hJ.eval a) fun x => .bind (hJ.eval b) fun y => hJ.comparison x y
  | item on key => exact .bind (hJ.eval on) fun _ => .bind (hJ.eval key) fun _ => .ofExcept _
  | contains on key =>
    exact .bind (hJ.eval key) fun _ => .bind (hJ.eval on) fun _ => .bind (hJ.building (light_findIn _ _)) fun _ => .pure _
  | length on => exact .bind (hJ.eval on) fun _ => .bind (.ofExcept _) fun _ => .pure _
  | keys on => exact .bind (hJ.eval on) fun _ => hJ.building (light_keys _)
  | append on x =>
    exact .bind (hJ.eval on) fun _ => .bind (.ofExcept _) fun a => .bind (hJ.eval x) fun y => hJ.append a y
  | put on key x =>
    exact .bind (hJ.eval x) fun w => .bind (hJ.eval on) fun v => .bind (hJ.eval key) fun k => hJ.put v k w
  | fill on bytes => exact .bind (hJ.eval on) fun v => hJ.fill v bytes
  | assign on name x => exact .bind (hJ.eval on) fun _ => .bind (hJ.eval x) fun _ => .throw _
  | copy on => exact .bind (hJ.eval on) fun _ => hJ.building (light_copied _)
  | setVariable name x => exact .bind (.update fun _ hs => hJ.environment hs _) fun _ => .pure _
  | unsetVariable name => exact .bind (.update fun _ hs => hJ.environment hs _) fun _ => .pure _
  | setClock micros => exact .bind (.update fun _ hs => hJ.clock hs _) fun _ => .pure _
  | log target level message args exception stack extras =>
    refine .bind (hJ.eval message) fun m => .bind (.mapM hJ.eval args) fun given => ?_
    refine .bind (.mapM hJ.evalSecond extras) fun more => ?_
    exact hJ.logging target level m given exception stack more
  | logger name => exact hJ.askLogger name
  | setReports trace? => exact .bind (.update fun _ hs => hJ.reports hs trace?) fun _ => .pure _

/-! ## What comes after a step -/

theorem bind (e : Entry) (v : Value) : Keeps J (Session.bind e v) := by
  refine .bind .get fun _ => .bind (hJ.building .newId) fun _ => ?_
  split
  · exact .update fun _ hs => hJ.bindings hs _
  · exact .pure _

theorem foldl_sendNotice (ns : List Notice) {s : Session} (h : J s) :
    J { s with journal := ns.foldl sendNotice s.journal } := by
  induction ns generalizing s with
  | nil => exact h
  | cons n ns ih =>
    have sent : J { s with journal := sendNotice s.journal n } := by
      unfold sendNotice
      split
      · next hn => exact hJ.log h hn
      · exact h
    exact ih sent

/-- What endures is kept by all that comes after the step itself. -/
theorem runEntry {e : Entry} {s : Session} (h : J (exec e.step.act s).2) : J (runEntry e s).2 := by
  have bound : J (exec e.act s).2 := by
    unfold Entry.act
    rw [exec_bind]
    rcases hx : exec e.step.act s with ⟨f | v, t⟩
    · rwa [hx] at h
    · rw [hx] at h
      exact Keeps.bind (hJ.bind e v) (fun _ => .bind (.ofExcept _) fun _ => .pure _) t h
  unfold exec at bound
  unfold Session.runEntry
  rcases hx : e.act.run.run s with ⟨r, t⟩
  rw [hx] at bound
  dsimp only
  split
  · exact hJ.reported (hJ.foldl_sendNotice t.context.notices bound) _
  · exact hJ.reported bound _

end Enduring

end KeyBundle.Session
