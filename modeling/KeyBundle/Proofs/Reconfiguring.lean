/-
  KeyBundle.Proofs.Reconfiguring — to configure the library's logger is to forget how it was configured before.

  (1) Settings say which level and which handlers the logger has (`Choice.configured`), up to the texts that its files
      have open: those depend on what was there before (`Handler.closed`).
  (2) A set-up by these settings of a logger without handlers comes to that (`closed_consoleHandlers`, `closed_files`).
  (3) The logger has no handlers once they have been taken away, whatever they were. So a call that succeeds leaves
      what its settings say, in every state, and the next call with the same settings leaves the same
      (`configure_forgets`). Its settings are any that can be made (`chooses_of_logging`), or the shared ones.
-/

import KeyBundle.Proofs.SharedSettings

namespace KeyBundle

namespace Log

/-! ## (1) What settings say -/

/-- The handler without the text that it has open. -/
def Handler.closed (h : Handler) : Handler :=
  match h.sink with
  | .console => h
  | .file t => { h with sink := .file { t with file? := none } }

def Logger.closed (l : Logger) : Logger := { l with handlers := l.handlers.map .closed }

theorem length_closed (l : Logger) : l.closed.handlers.length = l.handlers.length := List.length_map _

/-- The fields of logging settings. The two switches may be anything, and count as yes or no. -/
structure Choice where
  level : String
  console : Value
  logDir : Option Path
  json : Value

def Choice.value (c : Choice) : Value := .ofLogging c.level c.console c.logDir c.json

/-- The settings of an environment, whose switches are yes or no. -/
def Choice.ofConfig (c : LoggingConfig) : Choice := ⟨c.level, .bool c.enableConsole, c.logDir, .bool c.enableJson⟩

/-- The file in the directory for log files. -/
def packageFile (dir : Path) : Path := resolved ⟨dir.root, dir.parts ++ ["layercrypt.log"]⟩

def Choice.consoleHandler (c : Choice) : List Handler := if c.console.truthy then [handler .console .console] else []

def Choice.fileHandler (c : Choice) : List Handler :=
  c.logDir.toList.map fun dir =>
    handler (.file ⟨packageFile dir, none, .int standardMaxBytes, .int standardBackups⟩)
      (if c.json.truthy then .json else .file)

/-- The library's logger as settings say, at the number of their level. -/
def Choice.configured (c : Choice) (level : Int) : Logger := ⟨level, c.consoleHandler ++ c.fileHandler, false⟩

/-! ## (2) Setting up by settings -/

/-- What settings want for the library's logger. -/
def Choice.wanted (c : Choice) : Wanted :=
  ⟨.text packageLogger, .ofOption .path c.logDir, .text c.level, c.console, c.json, .int standardMaxBytes,
    .int standardBackups⟩

variable {c : Choice} {v : Volume} {files : List Handler}

theorem bool?_eq_some {x : Value} {b : Bool} (h : x.bool? = some b) : x = .bool b := by
  unfold Value.bool? at h
  split at h
  · cases h
    rfl
  · cases h

/-- Settings are of one of two kinds, with the same fields. -/
theorem Choice.value_cases (c : Choice) :
    (∃ l : LoggingConfig, c = .ofConfig l ∧ c.value = .logging l) ∨
      c.value = .record .loggingConfig [.text c.level, c.console, .ofOption .path c.logDir, c.json] := by
  obtain ⟨level, console, logDir, json⟩ := c
  unfold value Value.ofLogging
  dsimp only
  split
  · next b b' hb hb' =>
    cases bool?_eq_some hb
    cases bool?_eq_some hb'
    exact .inl ⟨⟨level, b, logDir, b'⟩, rfl, rfl⟩
  · exact .inr rfl

theorem wantedBy_value (c : Choice) : wantedBy (.text packageLogger) c.value = .ok c.wanted := by
  obtain ⟨l, rfl, value⟩ | value := c.value_cases <;> rw [value] <;> rfl

theorem levelOf_text {s : String} {n : Int} (h : levelOf (.text s) = .ok n) : levels.lookup (Text.upper s) = some n := by
  change (levelOfName (Text.upper s)).mapError Fault.log = .ok n at h
  unfold levelOfName at h
  split at h <;> cases h
  assumption

theorem of_logFile {dir path : Path} (h : logFile (.path dir) (.text packageLogger) = .ok path) :
    path = ⟨dir.root, dir.parts ++ ["layercrypt.log"]⟩ := by
  have file : Path.ofString (fileName packageLogger) = ⟨.relative, ["layercrypt.log"]⟩ := by decide +kernel
  change Except.ok (dir.join (.ofString (fileName packageLogger))) = .ok path at h
  rw [file] at h
  cases h
  rfl

/-- Whatever texts are open, the handlers of the set-up are those that the settings say. -/
theorem closed_files (h : c.wanted.Opens v files) : files.map .closed = c.fileHandler := by
  obtain ⟨level, console, logDir, json⟩ := c
  cases h with
  | none off =>
    cases logDir with
    | none => rfl
    | some dir => cases off
  | @some path t on named opened =>
    cases logDir with
    | none => cases on
    | some dir =>
      cases of_logFile named
      obtain ⟨path', file?, maxBytes, backups⟩ := t
      cases opened.place
      cases opened.size
      cases opened.backups
      rfl

theorem closed_consoleHandlers (c : Choice) : c.wanted.consoleHandlers.map .closed = c.consoleHandler := by
  unfold Wanted.consoleHandlers Choice.consoleHandler
  change List.map _ (if c.console.truthy then _ else _) = _
  split <;> rfl

end Log

namespace Session

open Log

/-! ## (3) Configuring -/

/-- The settings that a call goes by: those that it is given, or the shared ones if it is given none. -/
inductive Chooses (c : Context) : Value → Choice → Prop
  | given (choice : Choice) : Chooses c choice.value choice
  | shared {x : Settings} (settled : c.settled = .ok x) : Chooses c .none (.ofConfig x.logging)

/-- The journal without the handlers of the library's logger. -/
def cleared (j : Journal) : Journal := (exec clearPackageLogger j).2

theorem logger_cleared (j : Journal) : (cleared j).logger =
    Function.update j.logger packageLogger { j.logger packageLogger with handlers := [] } := logger_update _ _ _

theorem volume_cleared (j : Journal) : (cleared j).volume = j.volume := by
  change (j.setLogger _ _).volume = _
  rfl

variable {s t : Session} {args : Arguments} {given v : Value} {choice : Choice}

theorem of_levelText_ok {level : Value} {text : String} (h : Build.levelText level = .ok text) : level = .text text := by
  unfold Build.levelText at h
  split at h
  · next s =>
    cases checked : checkLevel s with
    | error f => rw [checked] at h; cases h
    | ok _ => rw [checked] at h; cases h; rfl
  all_goals cases h

theorem of_logDirectory_ok {dir : Value} {path : Option Path} (h : Build.logDirectory dir = .ok path) :
    dir = .ofOption .path path := by
  unfold Build.logDirectory at h
  split at h
  · cases h; rfl
  · next p =>
    cases checked : checkLogDir (some p) with
    | error f => rw [checked] at h; cases h
    | ok _ => rw [checked] at h; cases h; rfl
  · cases h

/-- Every call that makes logging settings gives some that a call can go by. -/
theorem chooses_of_logging {level console dir json : Value} (c : Context)
    (h : Build.logging level console dir json = .ok v) :
    ∃ text path, level = .text text ∧ dir = .ofOption .path path ∧ Chooses c v ⟨text, console, path, json⟩ := by
  obtain ⟨text, hlevel, h⟩ := of_bind_ok h
  obtain ⟨path, hdir, h⟩ := of_bind_ok h
  cases h
  exact ⟨text, path, of_levelText_ok hlevel, of_logDirectory_ok hdir, .given ⟨text, console, path, json⟩⟩

/-- The settings are the same for the next call. -/
theorem exec_loggingSettings_chooses (h : Chooses s.context given choice) :
    ∃ c, Chooses c given choice ∧ exec (loggingSettings given) s = (.ok choice.value, { s with context := c }) := by
  cases h with
  | given =>
    refine ⟨s.context, .given choice, ?_⟩
    obtain ⟨l, -, value⟩ | value := choice.value_cases <;> rw [value] <;> rfl
  | shared settled =>
    obtain ⟨id, shared, -⟩ := exec_sharedSettings_ok settled
    exact ⟨s.context.asked, .shared (Context.settled_of_shared shared), exec_loggingSettings_settled settled⟩

theorem exec_configureLogging_chooses (h : Chooses s.context given choice) : ∃ c, Chooses c given choice ∧
    exec (configureLogging given) s =
      ((exec (setUp choice.wanted) (cleared s.journal)).1.map
          (loggerNow (exec (setUp choice.wanted) (cleared s.journal)).2),
        { s with context := c, journal := (exec (setUp choice.wanted) (cleared s.journal)).2 }) := by
  obtain ⟨c, after, settings⟩ := exec_loggingSettings_chooses (s := { s with journal := cleared s.journal }) h
  refine ⟨c, after, ?_⟩
  rw [exec_configureLogging, ← cleared, loggerFrom, exec_bind_ok settings, exec_bind_ok (by rw [exec_ofExcept, wantedBy_value]),
    exec_setUpLogger]

/-- A call that succeeds leaves the library's logger as its settings say, whatever state it is made in: with the number
    of their level, a console handler if they switch it on, a handler for the file in their directory if they have
    one, and passing nothing on. It touches no other logger, and once more with the same settings it changes none. -/
theorem configure_forgets (chooses : Chooses s.context (args.get 0) choice)
    (h : exec (perform .configureLogging args) s = (.ok v, t)) :
    (∃ level, levels.lookup (Text.upper choice.level) = some level ∧
        (t.journal.logger packageLogger).closed = choice.configured level) ∧
      (∀ name, name ≠ packageLogger → t.journal.logger name = s.journal.logger name) ∧
      ∃ w u, exec (perform .configureLogging args) t = (.ok w, u) ∧ u.journal.logger = t.journal.logger := by
  change exec (configureLogging (args.get 0)) s = (.ok v, t) at h
  obtain ⟨c, chooses', run⟩ := exec_configureLogging_chooses chooses
  rw [run] at h
  rcases hset : exec (setUp choice.wanted) (cleared s.journal) with ⟨e | name, k⟩
  · rw [hset] at h
    cases h
  rw [hset] at h
  cases h
  obtain ⟨named, -, anew⟩ := of_setUp_ok hset
  cases (show loggerFor choice.wanted.name = .ok packageLogger from rfl).symm.trans named
  obtain ⟨level, files, levelled, opens, logger⟩ := anew (by rw [logger_cleared, Function.update_self])
  rw [logger_cleared, Function.update_idem] at logger
  refine ⟨⟨level, levelOf_text levelled, ?_⟩, fun name other => ?_, ?_⟩
  · show (k.logger packageLogger).closed = _
    rw [logger, Function.update_self, Logger.closed, List.map_append, closed_consoleHandlers, closed_files opens]
    rfl
  · show k.logger name = _
    rw [logger, Function.update_of_ne other]
  · -- the file is open, so it is opened again
    obtain ⟨k', again, -, same⟩ := exec_setUp_opens (j := cleared k) named
      (by rw [logger_cleared, Function.update_self]) levelled (by rwa [volume_cleared])
    obtain ⟨c', -, run'⟩ := exec_configureLogging_chooses (s := { s with context := c, journal := k }) chooses'
    refine ⟨_, _, run'.trans (by rw [again]; rfl), ?_⟩
    show k'.logger = k.logger
    rw [same, logger_cleared, Function.update_idem, logger, Function.update_idem]

/-- A logger that writes to the console and to a file is configured to write to another file only, which takes JSON. -/
theorem configure_forgets_old_file :
    let old : Choice := ⟨"ERROR", .bool true, some (.ofString "/var/log/old"), .bool false⟩
    let new : Choice := ⟨"info", .none, some (.ofString "//srv/log"), .int 1⟩
    let s := (exec (perform .configureLogging [(0, old.value)]) (start .writing [])).2
    let t := (exec (perform .configureLogging [(0, new.value)]) s).2
    (s.journal.logger packageLogger).handlers.length = 2 ∧
      (t.journal.logger packageLogger).closed = new.configured 20 ∧
      (t.journal.logger packageLogger).handlers.length = 1 := by
  intro old new s t
  have before : (s.journal.logger packageLogger).handlers.length = 2 := by decide +kernel
  have made : Build.logging (.text "info") .none (.path (.ofString "//srv/log")) (.int 1) = .ok new.value := rfl
  obtain ⟨_, path, ⟨⟩, dir, chooses⟩ := chooses_of_logging s.context made
  obtain _ | path := path
  · cases dir
  cases dir
  have succeeds : (exec (perform .configureLogging [(0, new.value)]) s).1.isOk = true := by decide +kernel
  have info : levels.lookup (Text.upper "info") = some 20 := by decide +kernel
  obtain ⟨v, run⟩ : ∃ v, exec (perform .configureLogging [(0, new.value)]) s = (.ok v, t) := exec_of_isOk succeeds
  obtain ⟨level, named, configured⟩ := (configure_forgets chooses run).1
  cases info.symm.trans named
  refine ⟨before, configured, ?_⟩
  rw [← length_closed, configured]
  rfl

end Session

end KeyBundle
