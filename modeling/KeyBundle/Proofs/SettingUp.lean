/-
  KeyBundle.Proofs.SettingUp — what setting up a logger comes to.

  A logger is set up piece by piece: its level, its console handler, its file handler, and last that it passes
  nothing on. Whether there is such a level is found out before anything changes; whether the file can be
  opened only when the level and the console handler are in place, and nothing takes them back.

  (1) What is wanted says what the handlers do (`Wanted.outlines`). A file handler that is wanted has its file open
      (`Wanted.Opens`).
  (2) The pieces change one logger and no other. A file that cannot be opened changes none.
  (3) So a set-up that succeeds changes its own logger only, and that only if it had no handlers (`of_setUp_ok`), and
      one that fails leaves of it what is in place by then (`of_setUp_error`). In any case a logger is left as it is
      or fitted out (`setUp_cases`).
-/

import KeyBundle.Proofs.Delivery
import KeyBundle.Proofs.Opening
import Mathlib.Logic.Function.Basic

namespace KeyBundle.Log

/-! ## (1) What is wanted -/

namespace Wanted

def onConsole (w : Wanted) : List Outline :=
  if w.enableConsole.truthy then [⟨true, 10, [.secure], .console⟩] else []

def inFile (w : Wanted) : List Outline :=
  if w.logDir.truthy then [⟨false, 10, [.secure], if w.enableJson.truthy then .json else .file⟩] else []

/-- What the handlers do that are wanted for a logger. -/
def outlines (w : Wanted) : List Outline := w.onConsole ++ w.inFile

/-- The console handler, if it is wanted. -/
def consoleHandlers (w : Wanted) : List Handler :=
  if w.enableConsole.truthy then [handler .console .console] else []

/-- The file handlers that are wanted, with their file opened on the volume: none without a directory, and one with
    a directory. -/
inductive Opens (w : Wanted) (v : Volume) : List Handler → Prop where
  | none : w.logDir.truthy = false → Opens w v []
  | some {path : Path} {t : Target} : w.logDir.truthy = true → logFile w.logDir w.name = .ok path →
      Opened v path w.maxFileSize w.backupCount t →
      Opens w v [handler (.file t) (if w.enableJson.truthy then .json else .file)]

end Wanted

section

variable {w : Wanted} {v : Volume} {files : List Handler}

theorem name_wantedBy {name settings : Value} (h : wantedBy name settings = .ok w) : w.name = name := by
  unfold wantedBy at h
  split at h
  · cases h
    rfl
  · cases h
    rfl
  · cases h

theorem outlines_wanted_eq_nil : w.outlines = [] ↔ w.enableConsole.truthy = false ∧ w.logDir.truthy = false := by
  unfold Wanted.outlines Wanted.onConsole Wanted.inFile
  cases w.enableConsole.truthy <;> cases w.logDir.truthy <;> simp

/-- All handlers that are wanted filter. -/
theorem filters_of_mem_outlines {o : Outline} (h : o ∈ w.outlines) : o.filters = [.secure] := by
  unfold Wanted.outlines Wanted.onConsole Wanted.inFile at h
  rcases List.mem_append.mp h with h | h <;> split at h
  · rw [List.mem_singleton.mp h]
  · cases h
  · rw [List.mem_singleton.mp h]
  · cases h

theorem outlines_consoleHandlers (w : Wanted) : w.consoleHandlers.map (·.outline) = w.onConsole := by
  unfold Wanted.consoleHandlers Wanted.onConsole
  split <;> rfl

theorem Wanted.Opens.outlines (h : w.Opens v files) : files.map (·.outline) = w.inFile := by
  unfold Wanted.inFile
  cases h with
  | none off => rw [if_neg (by simp [off])]; rfl
  | some on _ _ => rw [if_pos on]; rfl

/-- With its file opened, a logger has what is wanted. -/
theorem Wanted.Opens.outlines_append (h : w.Opens v files) :
    (w.consoleHandlers ++ files).map (·.outline) = w.outlines := by
  rw [List.map_append, outlines_consoleHandlers, h.outlines]
  rfl

end

/-! ## (2) The pieces -/

section

variable {w : Wanted} {j k : Journal} {name : String} {f : Fault} {files : List Handler}

theorem logger_update (j : Journal) (name : String) (l : Logger) :
    (j.setLogger name l).logger = Function.update j.logger name l := by
  funext m
  rw [logger_setLogger, Function.update_apply]

/-- A logger that comes to be known is as it was taken to be. -/
theorem logger_know (j : Journal) (name m : String) : (j.know name).logger m = j.logger m := by
  unfold Journal.know
  split
  · rfl
  · next h =>
    have unknown := isSome_lookup j.loggers name
    rw [show j.loggers.any (·.1 == name) = false from Bool.eq_false_iff.mpr h, Option.isSome_eq_false_iff,
      Option.isNone_iff_eq_none] at unknown
    rw [logger_setLogger]
    by_cases hm : m = name
    · rw [if_pos hm, hm, Journal.logger, unknown]
      rfl
    · rw [if_neg hm]

theorem exec_changeLogger (name : String) (f : Logger → Logger) (j : Journal) :
    exec (changeLogger name f) j = (.ok (), j.setLogger name (f (j.logger name))) := rfl

theorem exec_addConsole (name : String) (w : Wanted) (j : Journal) :
    exec (addConsole name w) j = (.ok (), (exec (addConsole name w) j).2) ∧
      (exec (addConsole name w) j).2.logger = Function.update j.logger name
        { j.logger name with handlers := (j.logger name).handlers ++ w.consoleHandlers } := by
  unfold addConsole Wanted.consoleHandlers
  split
  · exact ⟨rfl, logger_update _ _ _⟩
  · refine ⟨rfl, ?_⟩
    rw [List.append_nil]
    exact (Function.update_eq_self name j.logger).symm

/-- Opening a file may fail in many ways, and in none of them touches a logger. -/
theorem logger_openTarget (path : Path) (maxFileSize backupCount : Value) (j : Journal) :
    (exec (openTarget path maxFileSize backupCount) j).2.logger = j.logger := by
  have disk {α : Type} (d : Disk α) : Keeps (fun k : Journal => k.logger = j.logger) (onVolume d) := by
    intro k hk
    rw [exec_onVolume]
    exact hk
  suffices Keeps (fun k : Journal => k.logger = j.logger) (openTarget path maxFileSize backupCount) from this j rfl
  unfold openTarget
  split
  · exact .throw_bind _ _
  · dsimp only
    split
    · exact .throw_bind _ _
    · exact .bind (disk _) fun _ => .bind (.ofExcept _) fun _ => .bind (disk _) fun _ => .pure _

/-- A file that cannot be opened touches no logger. -/
theorem logger_of_addFile_error (h : exec (addFile name w) j = (.error f, k)) : k.logger = j.logger := by
  unfold addFile at h
  split at h
  · rcases of_exec_bind_error h with h | ⟨path, j₁, hp, h⟩
    · rw [exec_ofExcept, Prod.mk.injEq] at h
      rw [h.2]
    · cases of_exec_ofExcept hp
      have opened := logger_openTarget path w.maxFileSize w.backupCount j
      rcases of_exec_bind_error h with h | ⟨target, j₂, ht, h⟩
      · rwa [h] at opened
      · cases h
  · cases h

/-- The file handler that is wanted is added to those that are there. -/
theorem of_addFile (h : exec (addFile name w) j = (.ok (), k)) :
    ∃ files, w.Opens k.volume files ∧ k.logger = Function.update j.logger name
      { j.logger name with handlers := (j.logger name).handlers ++ files } := by
  unfold addFile at h
  split at h
  · next on =>
    obtain ⟨path, j₁, hp, hopen⟩ := of_exec_bind h
    obtain ⟨target, j₂, ht, hadd⟩ := of_exec_bind hopen
    obtain ⟨named, rfl⟩ := eq_ok_of_exec_ofExcept hp
    obtain ⟨untouched, opened⟩ := of_openTarget ht
    have same : j₂.logger = j.logger := by rw [untouched]; rfl
    cases hadd
    refine ⟨_, .some on named opened, ?_⟩
    rw [logger_update, same]
  · next off =>
    cases h
    refine ⟨[], .none (Bool.eq_false_iff.mpr off), ?_⟩
    rw [List.append_nil]
    exact (Function.update_eq_self name j.logger).symm

/-- A file that is open already is opened again for a new handler. -/
theorem exec_addFile (name : String) (h : w.Opens j.volume files) :
    ∃ k, exec (addFile name w) j = (.ok (), k) ∧ k.volume = j.volume ∧ k.logger = Function.update j.logger name
      { j.logger name with handlers := (j.logger name).handlers ++ files } := by
  unfold addFile
  cases h with
  | none off =>
    rw [if_neg (by simp [off])]
    refine ⟨j, rfl, rfl, ?_⟩
    rw [List.append_nil]
    exact (Function.update_eq_self name j.logger).symm
  | some on named opened =>
    rw [if_pos on, exec_bind_ok (by rw [exec_ofExcept, named]), exec_bind_ok (exec_openTarget opened)]
    exact ⟨_, rfl, rfl, logger_update _ _ _⟩

/-- The logger is there, with a level and with the console handler if that is wanted. -/
def Journal.readied (j : Journal) (name : String) (w : Wanted) (level : Int) : Journal :=
  (exec (addConsole name w) ((j.know name).setLogger name { (j.know name).logger name with level })).2

theorem logger_readied (none : (j.logger name).handlers = []) (level : Int) : (j.readied name w level).logger =
    Function.update j.logger name ⟨level, w.consoleHandlers, (j.logger name).propagate⟩ := by
  have known : (j.know name).logger = j.logger := funext (logger_know j name)
  rw [Journal.readied, (exec_addConsole name w _).2, logger_update, known, Function.update_idem]
  simp only [Function.update_self, none, List.nil_append]

theorem volume_readied (j : Journal) (name : String) (w : Wanted) (level : Int) :
    (j.readied name w level).volume = j.volume := by
  unfold Journal.readied addConsole Journal.know
  split <;> split <;> rfl

/-! ## (3) Setting up -/

/-- A logger that has handlers is only asked for. -/
theorem exec_setUp_handled (named : loggerFor w.name = .ok name) (some : (j.logger name).handlers ≠ []) :
    exec (setUp w) j = (.ok name, j.know name) := by
  unfold setUp
  rw [exec_bind_ok (by rw [exec_ofExcept, named]), exec_bind_ok (exec_modify _ _), exec_bind_ok (exec_get _), logger_know,
    if_pos (by simpa using some)]
  rfl

/-- A logger without handlers gets its level and its console handler, then the file handler, and then passes nothing
    on any more. Only the level and the file can be refused. -/
theorem exec_setUp_anew (named : loggerFor w.name = .ok name) (none : (j.logger name).handlers = []) :
    exec (setUp w) j = match levelOf w.level with
      | .error e => (.error e, j.know name)
      | .ok level => match exec (addFile name w) (j.readied name w level) with
        | (.error e, k) => (.error e, k)
        | (.ok _, k) => (.ok name, k.setLogger name { k.logger name with propagate := false }) := by
  unfold setUp
  rw [exec_bind_ok (by rw [exec_ofExcept, named]), exec_bind_ok (exec_modify _ _), exec_bind_ok (exec_get _), logger_know,
    if_neg (by simp [none])]
  cases hl : levelOf w.level with
  | error e => rw [exec_bind_error (exec_ofExcept _ _)]
  | ok level =>
    rw [exec_bind_ok (exec_ofExcept _ _), exec_bind_ok (exec_changeLogger _ _ _),
      exec_bind_ok (exec_addConsole name w _).1, exec_bind]
    dsimp only
    rw [← Journal.readied]
    rcases exec (addFile name w) (j.readied name w level) with ⟨_ | _, _⟩ <;> rfl

/-- A set-up that is asked for no logger fails at once. -/
theorem of_setUp_nameless {e : Fault} (h : exec (setUp w) j = (.error f, k)) (hn : loggerFor w.name = .error e) :
    k = j := by
  unfold setUp at h
  rw [exec_bind_error (by rw [exec_ofExcept, hn])] at h
  cases h
  rfl

/-- A set-up that fails has found no handlers. It leaves the logger as it is if there is no such level, and
    otherwise with that level and with the console handler. -/
theorem of_setUp_error (h : exec (setUp w) j = (.error f, k)) (hn : loggerFor w.name = .ok name) :
    (j.logger name).handlers = [] ∧
      k.logger = Function.update j.logger name (match levelOf w.level with
        | .error _ => j.logger name
        | .ok level => ⟨level, w.consoleHandlers, (j.logger name).propagate⟩) := by
  by_cases none : (j.logger name).handlers = []
  · refine ⟨none, ?_⟩
    rw [exec_setUp_anew hn none] at h
    cases hl : levelOf w.level with
    | error e =>
      rw [hl] at h
      cases h
      exact (funext (logger_know j name)).trans (Function.update_eq_self name j.logger).symm
    | ok level =>
      simp only [hl] at h
      rcases hf : exec (addFile name w) (j.readied name w level) with ⟨e | _, k'⟩
      · rw [hf] at h
        cases h
        rw [logger_of_addFile_error hf, logger_readied none]
      · rw [hf] at h
        cases h
  · rw [exec_setUp_handled hn none] at h
    cases h

/-- A set-up that succeeds leaves a logger with handlers as it is. Another one gets the level and the handlers that
    are wanted, and passes nothing on. -/
theorem of_setUp_ok (h : exec (setUp w) j = (.ok name, k)) :
    loggerFor w.name = .ok name ∧ ((j.logger name).handlers ≠ [] → k.logger = j.logger) ∧
      ((j.logger name).handlers = [] → ∃ level files, levelOf w.level = .ok level ∧ w.Opens k.volume files ∧
        k.logger = Function.update j.logger name ⟨level, w.consoleHandlers ++ files, false⟩) := by
  cases named : loggerFor w.name with
  | error e =>
    rw [setUp, exec_bind_error (by rw [exec_ofExcept, named])] at h
    cases h
  | ok n =>
    by_cases none : (j.logger n).handlers = []
    · rw [exec_setUp_anew named none] at h
      cases levelled : levelOf w.level with
      | error e =>
        rw [levelled] at h
        cases h
      | ok level =>
        simp only [levelled] at h
        rcases hf : exec (addFile n w) (j.readied n w level) with ⟨e | _, k'⟩
        · rw [hf] at h
          cases h
        · rw [hf] at h
          cases h
          obtain ⟨files, opens, file⟩ := of_addFile hf
          refine ⟨rfl, fun some => absurd none some, fun _ => ⟨level, files, rfl, opens, ?_⟩⟩
          rw [logger_update, file, logger_readied none]
          simp only [Function.update_idem, Function.update_self]
    · rw [exec_setUp_handled named none] at h
      cases h
      exact ⟨rfl, fun _ => funext (logger_know j name), fun some => absurd some none⟩

/-- A logger without handlers is set up once more as it was, if its file is open already. -/
theorem exec_setUp_opens {level : Int} (named : loggerFor w.name = .ok name) (none : (j.logger name).handlers = [])
    (levelled : levelOf w.level = .ok level) (opens : w.Opens j.volume files) :
    ∃ k, exec (setUp w) j = (.ok name, k) ∧ k.volume = j.volume ∧
      k.logger = Function.update j.logger name ⟨level, w.consoleHandlers ++ files, false⟩ := by
  have volume := volume_readied j name w level
  rw [← volume] at opens
  obtain ⟨k, added, same, file⟩ := exec_addFile name opens
  rw [exec_setUp_anew named none, levelled]
  dsimp only
  rw [added]
  refine ⟨_, rfl, same.trans volume, ?_⟩
  rw [logger_update, file, logger_readied none]
  simp only [Function.update_idem, Function.update_self]

/-- What a set-up may make of a logger: one that had no handlers has some that can be wanted, and passes on no more
    than before. -/
structure Fitted (l m : Logger) : Prop where
  none : l.handlers = []
  wanted : ∃ w : Wanted, m.outlines = w.outlines
  propagate : m.propagate = true → l.propagate = true

/-- A set-up, whether it succeeds or fails half way, touches one logger at most. -/
theorem setUp_cases (w : Wanted) (j : Journal) :
    let k := (exec (setUp w) j).2
    k.logger = j.logger ∨ ∃ name l, Fitted (j.logger name) l ∧ k.logger = Function.update j.logger name l := by
  rcases hx : exec (setUp w) j with ⟨f | name, k⟩
  · cases hn : loggerFor w.name with
    | error e =>
      cases of_setUp_nameless hx hn
      exact .inl rfl
    | ok name =>
      obtain ⟨none, changed⟩ := of_setUp_error hx hn
      cases hl : levelOf w.level with
      | error e =>
        rw [hl] at changed
        exact .inl (changed.trans (Function.update_eq_self name j.logger))
      | ok level =>
        rw [hl] at changed
        -- as if no file had been wanted
        have console : w.consoleHandlers.map (·.outline) = ({ w with logDir := .none } : Wanted).outlines :=
          (outlines_consoleHandlers w).trans (List.append_nil _).symm
        refine .inr ⟨name, _, ⟨none, ?_, ?_⟩, changed⟩
        · exact ⟨_, console⟩
        · exact id
  · obtain ⟨-, hold, hnew⟩ := of_setUp_ok hx
    by_cases none : (j.logger name).handlers = []
    · obtain ⟨level, files, -, opens, changed⟩ := hnew none
      refine .inr ⟨name, _, ⟨none, ?_, ?_⟩, changed⟩
      · exact ⟨w, opens.outlines_append⟩
      · nofun
    · exact .inl (hold none)

end

end KeyBundle.Log
