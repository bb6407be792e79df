/-
  KeyBundle.Proofs.LastResort — which records of a session are redacted.

  A logger that is set up stops passing records on, so that only its own handlers see them, and those
  filter. But it may be set up without any handler: with the console off and no directory for files.
  Its records then meet no handler at all, and those from the level of warnings on come to the last
  resort, which writes them as they are.

  (1) A logger set up anew has the handlers that are wanted and passes nothing on (`outlines_setUp`).
  (2) In every session a record is redacted exactly if no failure of a handler is reported, and a handler
      is on its way or the last resort has nothing to write for it (`redacts_iff_handled`). A logger keeps
      the handlers that it is set up with, but for the logger of the library when that is set up anew.
      What a step logs is delivered as such a record (`journal_log`).
  (3) So turning the console off lets a password through (`unhandled_password_shown`).
-/

import KeyBundle.Proofs.Sessions

namespace KeyBundle

namespace Log

/-! ## (1) Set up -/

section

variable {name : String} {w : Wanted} {j k : Journal}

/-- A logger that is set up anew has the handlers that are wanted and passes nothing on. Another one is left
    as it is. -/
theorem outlines_setUp (h : exec (setUp w) j = (.ok name, k)) :
    (j.outlines name = [] → k.outlines name = w.outlines ∧ (k.logger name).propagate = false) ∧
      (j.outlines name ≠ [] → k.logger name = j.logger name) := by
  obtain ⟨-, hold, hnew⟩ := of_setUp_ok h
  rw [ne_eq, outlines_eq_nil]
  refine ⟨fun none => ?_, fun some => congrFun (hold some) name⟩
  obtain ⟨level, files, -, opens, changed⟩ := hnew none
  rw [Journal.outlines, changed, Function.update_self]
  exact ⟨opens.outlines_append, rfl⟩

end

/-! ## (2) Sessions -/

/-- A logger that does not pass records on is the end of their way. -/
theorem way_of_not_propagate {j : Journal} {name : String} (h : (j.logger name).propagate = false) :
    j.way name = [name] := by
  simp [Journal.way, Journal.chain, h]

end Log

namespace Session

open Log

/-- A record that is logged is delivered where its logger is known, or not at all. -/
theorem journal_log (text : String) (level : Int) (message : Value) (args : List Value)
    (exception stack : Option String) (extras : List (String × Value)) (s : Session) :
    let j := s.journal.know (loggerName text)
    let t := (exec (log text level message args exception stack extras) s).2
    t.journal = j ∨
      t.journal = j.deliver ⟨loggerName text, level, message, argsOf args, j.clock, exception, stack, extras⟩ := by
  intro j t
  have ht : t = (exec (log text level message args exception stack extras) s).2 := rfl
  unfold log at ht
  have asked : exec (askLogger text) s = (.ok (loggerNow j (loggerName text)), { s with journal := j }) := rfl
  rw [exec_bind_ok asked, exec_bind_ok (exec_get _)] at ht
  rcases hl : j.log (loggerName text) level message args exception stack extras with f | k
  · simp only [hl, exec_throw] at ht
    exact .inl (by rw [ht])
  · have done : t.journal = k := by
      simp only [hl] at ht
      rw [ht]
      rfl
    rw [done]
    exact log_ok hl

/-- In every session a record is redacted exactly if no failure is reported for it, and a handler is on its way or
    the last resort has nothing to write for it. What is tried for it is what `writings` lists, and what comes of
    that is all that is written: a report shows the code that ran, with the message and the arguments as filtered by
    then.

    A logger that has handlers keeps them whatever comes later, but for the logger of the library when that is
    set up anew. A logger that passes nothing on never does again. Setting a logger up leaves it without handlers
    exactly if it had none, the console is off and no directory is given, and then too it passes nothing on. -/
theorem redacts_iff_handled (mode : Mode) (env : Environment) (before later : List Entry) (r : Record) :
    let s := after before (start mode env)
    let j := (after later s).journal.know r.logger
    Delivered j.trace? r (j.tries r) j.volume j.console (j.deliver r).volume (j.deliver r).console ∧
      (j.tries r).map (·.writing) = j.writings r ∧
      (j.Redacts r ↔ (j.trace? = none ∨ ∀ t ∈ j.tries r, t.failure? = none) ∧
        ((∃ name ∈ j.way r.logger, (j.logger name).handlers ≠ []) ∨ r.Quiet)) ∧
      (∀ name, (name = packageLogger → ∀ e ∈ later, ¬e.step.Configures) → (s.journal.logger name).handlers ≠ [] →
        (j.logger name).handlers ≠ []) ∧
      (∀ name, (s.journal.logger name).propagate = false → j.way name = [name]) ∧
      ∀ w i name k, exec (setUp w) i = (.ok name, k) →
        ((k.logger name).handlers = [] ↔
          (i.logger name).handlers = [] ∧ w.enableConsole.truthy = false ∧ w.logDir.truthy = false) ∧
        ((i.logger name).handlers = [] → (k.logger name).propagate = false) := by
  intro s j
  -- the logger of the library may have lost its handlers only if it has been set up anew
  have grown : s.journal.Later (∃ e ∈ later, e.step.Configures) j :=
    Journal.Later.know (later_after (s := s) (fun e he hc => ⟨e, he, hc⟩) .refl) r.logger
  have redacting : j.Redacting := by
    have all := redacting_after mode env (before ++ later)
    unfold after at all
    rw [List.foldl_append] at all
    exact redacting_know all r.logger
  obtain ⟨delivered, tried, -⟩ := deliver_delivered j r
  refine ⟨delivered, tried, redacts_iff redacting r, fun name safe handled => ?_, fun name silent => ?_,
    fun w i name k h => ?_⟩
  · have kept := (grown name).kept fun ⟨hp, e, he, hc⟩ => safe hp e he hc
    rw [ne_eq, ← outlines_eq_nil] at handled ⊢
    exact fun none => handled (List.prefix_nil.mp (none ▸ kept))
  · refine way_of_not_propagate (Bool.eq_false_iff.mpr fun h => ?_)
    rw [(grown name).propagate h] at silent
    cases silent
  · obtain ⟨hnew, hold⟩ := outlines_setUp h
    simp only [← outlines_eq_nil, ← outlines_wanted_eq_nil]
    by_cases none : i.outlines name = []
    · obtain ⟨ho, hp⟩ := hnew none
      exact ⟨by rw [ho, none]; simp, fun _ => hp⟩
    · have same : k.outlines name = i.outlines name := by
        rw [Journal.outlines, hold none]
        rfl
      exact ⟨by rw [same]; simp [none], fun h => absurd h none⟩

/-- The library's logger set up with the console off shows a password that its filter would have hidden. -/
theorem unhandled_password_shown :
    let s := after [⟨.call .logging [(1, .bool false)], some "s"⟩] (start .writing [])
    let (setUp, t) := runEntry ⟨.call .configureLogging [(0, .name "s")], none⟩ s
    let (logged, _) := runEntry ⟨.log packageLogger 30 (.text "password=hunter2") [] none none [], none⟩ t
    let r : Record := ⟨packageLogger, 30, .text "password=hunter2", argsOf [], t.journal.clock, none, none, []⟩
    setUp.outcome.isOk = true ∧ logged.console = "password=hunter2\n" ∧ ¬(t.journal.know packageLogger).Redacts r ∧
      (line .bare (r.filtered [])).toOption = some "password=[REDACTED]" := by
  decide +kernel

end Session

end KeyBundle
