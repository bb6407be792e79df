/-
  KeyBundle.Proofs.Interruption — what a set-up that fails leaves of the loggers.

  A set-up that fails leaves its logger with what is in place by then. The logger of the library even loses its
  handlers before its settings are read.

  (1) An operation that fails has taken handlers away, if it does so, and then found nothing to be wanted, or failed to
      set up what is (`of_perform_error`).
  (2) So it leaves its logger as it was exactly if it comes to no level and takes no handlers away, or comes to the
      level and the handlers that the logger has (`failed_keeps_iff`). The other loggers, and whether the logger passes
      records on, stay as they are in any case.
  (3) So the library's logger loses its console to a variable with a bad level, and a directory with `..` in
      it leaves a logger half set up (`failed_changes_loggers`).
-/

import KeyBundle.Proofs.Sessions

namespace KeyBundle

namespace Session

open Log

/-! ## (1) Operations -/

/-- The operation sets up a logger. -/
def Operation.SetsUp (op : Operation) : Prop := op = .secureLogger ∨ op = .configureLogging ∨ op = .logger

/-- The logger that is set up. -/
def loggerOf (op : Operation) (args : Arguments) : Except Fault String :=
  match op with
  | .configureLogging => .ok packageLogger
  | _ => loggerFor (args.get 0)

/-- What is wanted for it: given with the call, or by settings. -/
def wantedIn (s : Session) (op : Operation) (args : Arguments) : Except Fault Wanted :=
  match op with
  | .secureLogger => .ok (secureWanted args)
  | .configureLogging => (exec (loggingSettings (args.get 0)) s).1.bind (wantedBy (.text packageLogger))
  | _ => (exec (loggingSettings .none) s).1.bind (wantedBy (args.get 0))

/-- What is wanted and the level that this names, if the call gets that far. -/
def reached (s : Session) (op : Operation) (args : Arguments) : Option (Wanted × Int) :=
  match wantedIn s op args with
  | .error _ => none
  | .ok w => (levelOf w.level).toOption.map (w, ·)

/-- The logger without the handlers that the operation takes away. -/
def emptied (op : Operation) (l : Logger) : Logger :=
  match op with
  | .configureLogging => { l with handlers := [] }
  | _ => l

theorem level_emptied (op : Operation) (l : Logger) : (emptied op l).level = l.level := by
  cases op <;> rfl

theorem propagate_emptied (op : Operation) (l : Logger) : (emptied op l).propagate = l.propagate := by
  cases op <;> rfl

section

variable {s t : Session} {f : Fault}

theorem exec_settingUp {α : Type} (b : Log.Setup α) (s : Session) :
    exec (settingUp b) s = ((exec b s.journal).1, { s with journal := (exec b s.journal).2 }) := by
  unfold settingUp
  rw [exec_bind_ok (exec_get _)]
  change exec (ofExcept (exec b s.journal).1 : Act α) { s with journal := (exec b s.journal).2 } = _
  rw [exec_ofExcept]

/-- Loggers are set up without a look at the settings. -/
theorem exec_setUpLogger (w : Wanted) (s : Session) : exec (setUpLogger w) s =
    ((exec (setUp w) s.journal).1.map (loggerNow (exec (setUp w) s.journal).2),
      { s with journal := (exec (setUp w) s.journal).2 }) := by
  rw [setUpLogger, exec_bind, exec_settingUp]
  rcases exec (setUp w) s.journal with ⟨_ | _, _⟩ <;> rfl

theorem exec_building {α : Type} (b : Build α) (s : Session) :
    exec (building b) s = ((exec b s.context).1, { s with context := (exec b s.context).2 }) := by
  unfold building
  rw [exec_bind_ok (exec_get _)]
  change exec (ofExcept (exec b s.context).1 : Act α) { s with context := (exec b s.context).2 } = _
  rw [exec_ofExcept]

theorem of_setUpLogger_error {w : Wanted} (h : exec (setUpLogger w) s = (.error f, t)) :
    exec (setUp w) s.journal = (.error f, t.journal) := by
  rcases of_exec_bind_error h with h | ⟨_, _, -, h⟩
  · rw [exec_settingUp, Prod.mk.injEq] at h
    exact Prod.ext h.1 (congrArg (·.journal) h.2)
  · cases h

/-- Settings are read without a look at the loggers. -/
theorem exec_loggingSettings (given : Value) (s : Session) (j : Journal) :
    (exec (loggingSettings given) { s with journal := j }).1 = (exec (loggingSettings given) s).1 ∧
      (exec (loggingSettings given) { s with journal := j }).2.journal = j := by
  unfold loggingSettings
  split
  · rw [exec_bind, exec_bind, exec_building, exec_building]
    rcases exec Build.sharedSettings s.context with ⟨_ | _, _⟩ <;> exact ⟨rfl, rfl⟩
  · exact ⟨rfl, rfl⟩

theorem of_loggerFrom_error {name given : Value} (h : exec (loggerFrom name given) s = (.error f, t)) :
    match (exec (loggingSettings given) s).1.bind (wantedBy name) with
    | .error _ => t.journal = s.journal
    | .ok w => loggerFor w.name = loggerFor name ∧ exec (setUp w) s.journal = (.error f, t.journal) := by
  have untouched := (exec_loggingSettings given s s.journal).2
  change (exec (loggingSettings given) s).2.journal = s.journal at untouched
  unfold loggerFrom at h
  rcases hs : exec (loggingSettings given) s with ⟨e | settings, s₁⟩
  · rw [exec_bind_error hs] at h
    cases h
    rwa [hs] at untouched
  · rw [hs] at untouched
    rw [exec_bind_ok hs] at h
    change match wantedBy name settings with
      | .error _ => t.journal = s.journal
      | .ok w => loggerFor w.name = loggerFor name ∧ exec (setUp w) s.journal = (.error f, t.journal)
    cases hw : wantedBy name settings with
    | error e =>
      rw [exec_bind_error (by rw [exec_ofExcept, hw])] at h
      cases h
      exact untouched
    | ok w =>
      rw [exec_bind_ok (by rw [exec_ofExcept, hw])] at h
      rw [← untouched]
      exact ⟨congrArg loggerFor (name_wantedBy hw), of_setUpLogger_error h⟩

variable {op : Operation} {args : Arguments}

/-- An operation that fails has taken handlers away, if it does so, and has then found out that nothing can be
    wanted, or failed to set up what is. -/
theorem of_perform_error (hop : op.SetsUp) (h : exec (perform op args) s = (.error f, t)) :
    ∃ j : Journal,
      (∀ e, loggerOf op args = .error e → j = s.journal) ∧
      (∀ name, loggerOf op args = .ok name →
        j.logger = Function.update s.journal.logger name (emptied op (s.journal.logger name))) ∧
      match wantedIn s op args with
      | .error _ => t.journal = j
      | .ok w => loggerFor w.name = loggerOf op args ∧ exec (setUp w) j = (.error f, t.journal) := by
  rcases hop with rfl | rfl | rfl
  · exact ⟨s.journal, fun _ _ => rfl, fun name _ => (Function.update_eq_self name _).symm, rfl, of_setUpLogger_error h⟩
  · unfold perform configureLogging at h
    have cleared : exec (settingUp clearPackageLogger) s =
        (.ok (), { s with journal := (exec clearPackageLogger s.journal).2 }) := exec_settingUp _ s
    rw [exec_bind_ok cleared] at h
    have failed := of_loggerFrom_error h
    rw [(exec_loggingSettings (args.get 0) s _).1] at failed
    refine ⟨(exec clearPackageLogger s.journal).2, fun e he => (nomatch he), fun name hname => ?_, ?_⟩
    · cases hname
      exact logger_update _ _ _
    · exact failed
  · exact ⟨s.journal, fun _ _ => rfl, fun name _ => (Function.update_eq_self name _).symm, of_loggerFrom_error h⟩

/-! ## (2) What is left -/

/-- An operation that asks for no logger changes none. -/
theorem logger_perform_error_nameless {e : Fault} (hop : op.SetsUp) (h : exec (perform op args) s = (.error f, t))
    (he : loggerOf op args = .error e) : t.journal.logger = s.journal.logger := by
  obtain ⟨j, hnone, -, hw⟩ := of_perform_error hop h
  cases hwanted : wantedIn s op args with
  | error _ =>
    rw [hwanted] at hw
    rw [hw, hnone e he]
  | ok w =>
    rw [hwanted] at hw
    rw [of_setUp_nameless hw.2 (hw.1.trans he), hnone e he]

/-- Only the logger that is asked for changes: to the level and the console handler, if the call gets to a level, and
    otherwise to what is left of it without the handlers that are taken away. -/
theorem logger_perform_error {name : String} (hop : op.SetsUp) (h : exec (perform op args) s = (.error f, t))
    (hname : loggerOf op args = .ok name) :
    t.journal.logger = Function.update s.journal.logger name (match reached s op args with
      | none => emptied op (s.journal.logger name)
      | some (w, level) => ⟨level, w.consoleHandlers, (s.journal.logger name).propagate⟩) := by
  obtain ⟨j, -, hsome, hw⟩ := of_perform_error hop h
  have before := hsome name hname
  cases hwanted : wantedIn s op args with
  | error _ =>
    rw [hwanted] at hw
    rw [hw, before, show reached s op args = none by rw [reached, hwanted]]
  | ok w =>
    rw [hwanted] at hw
    obtain ⟨-, hk⟩ := of_setUp_error hw.2 (hw.1.trans hname)
    have hr : reached s op args = (levelOf w.level).toOption.map (w, ·) := by rw [reached, hwanted]
    rw [hk, before, Function.update_self, Function.update_idem, propagate_emptied, hr]
    cases levelOf w.level <;> rfl

/-- An operation that sets up a logger and fails touches no other logger. It leaves its own as it was exactly if
    it has come to no level and taken no handlers away, or has come to the level that the logger has and to the
    handlers that it has: the console handler, or none with the console off. -/
theorem failed_keeps_iff (hop : op.SetsUp) (h : exec (perform op args) s = (.error f, t)) :
    (∀ e, loggerOf op args = .error e → t.journal.logger = s.journal.logger) ∧
      ∀ name, loggerOf op args = .ok name →
        let l := s.journal.logger name
        t.journal.logger = Function.update s.journal.logger name (match reached s op args with
          | none => emptied op l
          | some (w, level) => ⟨level, w.consoleHandlers, l.propagate⟩) ∧
        (t.journal.logger name = l ↔ match reached s op args with
          | none => (emptied op l).handlers = l.handlers
          | some (w, level) => level = l.level ∧ w.consoleHandlers = l.handlers) := by
  refine ⟨fun e he => logger_perform_error_nameless hop h he, fun name hname => ?_⟩
  have left := logger_perform_error hop h hname
  refine ⟨left, ?_⟩
  rw [left, Function.update_self]
  cases reached s op args with
  | none =>
    refine ⟨fun same => congrArg (·.handlers) same, fun same => ?_⟩
    exact Logger.mk.injEq .. ▸ ⟨level_emptied _ _, same, propagate_emptied _ _⟩
  | some r =>
    refine ⟨fun same => ⟨congrArg (·.level) same, congrArg (·.handlers) same⟩, fun ⟨hl, hh⟩ => ?_⟩
    exact Logger.mk.injEq .. ▸ ⟨hl, hh, rfl⟩

/-- A directory that steps upwards is refused when the level and the console handler are in place. -/
theorem failed_keeps_iff_climbing :
    let s := start .writing []
    let args : Arguments := [(0, .text "app"), (1, .text "/var/../log")]
    let t := (exec (perform .secureLogger args) s).2
    (∃ f, exec (perform .secureLogger args) s = (.error f, t)) ∧
      t.journal.logger = Function.update s.journal.logger "app" ⟨30, [handler .console .console], true⟩ := by
  intro s args t
  have refused : (exec (perform .secureLogger args) s).1.isOk = false := by decide +kernel
  have fresh : (s.journal.logger "app").propagate = true := by decide +kernel
  have level : (levelOf (.text "WARNING")).toOption = some 30 := by decide +kernel
  have wanted : reached s .secureLogger args = some (secureWanted args, 30) :=
    congrArg (Option.map (secureWanted args, ·)) level
  obtain ⟨f, failed⟩ := exec_of_isOk_false refused
  have left := ((failed_keeps_iff (.inl rfl) failed).2 "app" rfl).1
  rw [wanted] at left
  refine ⟨⟨f, failed⟩, left.trans ?_⟩
  rw [← fresh]
  rfl

end

/-! ## (3) A logger half set up -/

/-- The library's logger loses its console handler to a variable with a bad level. Another logger keeps the level and
    the console handler of a set-up that was refused, and goes on passing its records upwards. -/
theorem failed_changes_loggers :
    let s := after [⟨.call .logging [], some "s"⟩, ⟨.call .configureLogging [(0, .name "s")], none⟩,
      ⟨.setVariable "LAYERCRYPT_LOGGING__LEVEL" "LOUD", none⟩] (start .writing [])
    let again := runEntry ⟨.call .configureLogging [], none⟩ s
    let climbing :=
      runEntry ⟨.call .secureLogger [(0, .text "app"), (1, .path (.ofString "/var/../log"))], none⟩ again.2
    let library := fun t : Session => (t.journal.logger packageLogger).handlers.length
    let app := fun t : Session => ((t.journal.logger "app").level, (t.journal.logger "app").handlers.length,
      (t.journal.logger "app").propagate)
    again.1.outcome.isOk = false ∧ library s = 1 ∧ library again.2 = 0 ∧
      climbing.1.outcome.isOk = false ∧ app again.2 = (0, 0, true) ∧ app climbing.2 = (30, 1, true) := by
  decide +kernel

end Session

end KeyBundle
