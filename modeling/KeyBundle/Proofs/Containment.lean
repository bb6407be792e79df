/-
  KeyBundle.Proofs.Containment — where the file of a logger is, seen from the directory that it is asked for in.

  The name of the file is made from the name of the logger, with underscores for dots, so it never steps upwards; but
  slashes stay.

  (1) A name that does not start with a slash is that of a path below the directory (`isBelow_join`). One that does
      is the name of a file wherever it says, and replaces the directory (`isAbsolute_fileName`).
  (2) So a file handler that is installed writes below the directory exactly if the name does not start with a slash,
      or happens to lead back there (`installed_below_iff`). With another name it writes elsewhere
      (`installed_outside`).
-/

import KeyBundle.Proofs.Interruption
import KeyBundle.Proofs.PathTexts
import KeyBundle.Proofs.Separators
import Mathlib.Data.List.Basic

namespace KeyBundle

/-! ## (1) Names of files -/

namespace Path

/-- The path lies below another, in it or in a folder of it. -/
def IsBelow (p q : Path) : Prop := p.root = q.root ∧ q.parts <+: p.parts ∧ p.parts ≠ q.parts

instance (p q : Path) : Decidable (p.IsBelow q) := inferInstanceAs (Decidable (_ ∧ _ ∧ _))

variable {p q : Path} {s : List Char} {t : String}

/-- What comes last is a part, unless it is a dot or a slash. -/
theorem partsOf_ne_nil {c : Char} (h : s.getLast? = some c) (slash : c ≠ '/') (dot : c ≠ '.') : partsOf s ≠ [] := by
  obtain ⟨leaf, last, -, whole⟩ := Text.exists_isLeaf '/' s
  have ends : leaf.getLast? = some c := by
    obtain rfl | ⟨before, rfl⟩ := whole
    · exact h
    · rw [List.getLast?_append_cons] at h
      cases leaf with
      | nil => exact absurd (Option.some.inj h).symm slash
      | cons d leaf => rwa [List.getLast?_cons_cons] at h
  have kept : (!leaf.isEmpty && leaf != ['.']) = true := by
    have filled : leaf ≠ [] := by
      rintro rfl
      cases ends
    have notDot : leaf ≠ ['.'] := by
      rintro rfl
      exact dot (Option.some.inj ends).symm
    simp [filled, notDot]
  exact List.ne_nil_of_mem (List.mem_map_of_mem (List.mem_filter.mpr ⟨List.mem_of_getLast? last, kept⟩))

theorem isBelow_join (relative : q.isAbsolute = false) (parts : q.parts ≠ []) : (p.join q).IsBelow p := by
  rw [join, if_neg (by simp [relative])]
  exact ⟨rfl, List.prefix_append _ _, by simpa using parts⟩

end Path

namespace Log

variable {name : String} {p q : Path}

theorem parts_resolved (p : Path) : (resolved p).parts = p.parts := by
  unfold resolved
  split <;> rfl

theorem isBelow_resolved (h : p.IsBelow q) : (resolved p).IsBelow (resolved q) := by
  obtain ⟨root, parts⟩ := h
  refine ⟨?_, by rwa [parts_resolved, parts_resolved]⟩
  unfold resolved
  rw [root]
  split <;> simp [root]

theorem toList_fileName (name : String) :
    (fileName name).toList = (name.toList.map fun c => if c == '.' then '_' else c) ++ ['.', 'l', 'o', 'g'] := by
  rw [fileName, String.toList_append, String.toList_ofList]
  rfl

theorem isAbsolute_fileName (nonempty : name ≠ "") :
    (Path.ofString (fileName name)).isAbsolute = true ↔ name.toList.head? = some '/' := by
  rw [Path.isAbsolute_ofString, toList_fileName]
  cases hn : name.toList with
  | nil => exact absurd (String.toList_inj.mp hn) nonempty
  | cons c cs =>
    simp only [List.map_cons, List.cons_append, List.head?_cons, Option.some.injEq, beq_iff_eq]
    split
    · next dot => simp [dot]
    · rfl

theorem parts_fileName (name : String) : (Path.ofString (fileName name)).parts ≠ [] := by
  refine Path.partsOf_ne_nil (c := 'g') ?_ (by decide) (by decide)
  rw [toList_fileName, List.getLast?_append_cons]
  rfl

/-- The file of a logger in a directory is below it, unless the name starts with a slash. -/
theorem isBelow_file (nonempty : name ≠ "") (dir : Path) :
    (resolved (dir.join (.ofString (fileName name)))).IsBelow (resolved dir) ↔
      name.toList.head? ≠ some '/' ∨ (resolved (.ofString (fileName name))).IsBelow (resolved dir) := by
  rw [ne_eq, ← isAbsolute_fileName nonempty]
  cases absolute : (Path.ofString (fileName name)).isAbsolute with
  | false =>
    have below := isBelow_resolved (Path.isBelow_join (p := dir) absolute (parts_fileName name))
    simp [below]
  | true => simp [Path.join, absolute]

/-! ## (2) File handlers -/

/-- The file that is written to. -/
def Sink.path? : Sink → Option Path
  | .console => none
  | .file t => some t.path

variable {w : Wanted} {j k : Journal} {r : Except Fault String} {dir path : Path} {o : Handler}

/-- A file handler that a set-up adds writes to the file of the logger in its directory. -/
theorem path_of_setUp (named : w.name = .text name) (nonempty : name ≠ "") (inDir : pathOf w.logDir = .ok dir)
    (h : exec (setUp w) j = (r, k)) (new : o ∈ (k.logger name).handlers) (old : o ∉ (j.logger name).handlers)
    (file : o.sink.path? = some path) : path = resolved (dir.join (.ofString (fileName name))) := by
  have asked : loggerFor w.name = .ok name := by
    rw [named, loggerFor, if_neg (by simpa [Value.truthy] using nonempty)]
  have console : o ∉ w.consoleHandlers := by
    unfold Wanted.consoleHandlers
    split
    · rintro (_ | ⟨_, ⟨⟩⟩)
      cases file
    · exact List.not_mem_nil
  cases r with
  | error e =>
    -- what fails adds no file handler
    obtain ⟨none, logger⟩ := of_setUp_error h asked
    rw [logger, Function.update_self] at new
    split at new
    · exact absurd new old
    · exact absurd new console
  | ok n =>
    obtain ⟨asked', hold, anew⟩ := of_setUp_ok h
    cases asked.symm.trans asked'
    by_cases none : (j.logger name).handlers = []
    · obtain ⟨level, files, -, opens, logger⟩ := anew none
      rw [logger, Function.update_self, List.mem_append] at new
      have added := new.resolve_left console
      cases opens with
      | none off => cases added
      | some on located opened =>
        cases List.mem_singleton.mp added
        cases file
        rw [opened.place]
        rw [logFile, inDir, named] at located
        exact congrArg resolved (Except.ok.inj located).symm
    · rw [hold none] at new
      exact absurd new old

end Log

namespace Session

open Log

variable {s t : Session} {args : Arguments} {r : Except Fault Value} {name : String} {dir path : Path}
  {o : Handler}

/-- A file handler that a call installs writes to the file of the logger in the directory that the call is given. That
    file is below the directory exactly if the name of the logger does not start with a slash, or names a file below
    the directory all by itself. -/
theorem installed_below_iff (named : args.get 0 = .text name) (nonempty : name ≠ "")
    (inDir : pathOf (args.get 1) = .ok dir) (h : exec (perform .secureLogger args) s = (r, t))
    (new : o ∈ (t.journal.logger name).handlers) (old : o ∉ (s.journal.logger name).handlers)
    (file : o.sink.path? = some path) :
    path = resolved (dir.join (.ofString (fileName name))) ∧
      (path.IsBelow (resolved dir) ↔
        name.toList.head? ≠ some '/' ∨ (resolved (.ofString (fileName name))).IsBelow (resolved dir)) := by
  change exec (setUpLogger (secureWanted args)) s = (r, t) at h
  rw [exec_setUpLogger, Prod.mk.injEq] at h
  obtain ⟨-, rfl⟩ := h
  have place : path = resolved (dir.join (.ofString (fileName name))) :=
    path_of_setUp (w := secureWanted args) named nonempty inDir rfl new old file
  exact ⟨place, by rw [place, isBelow_file nonempty]⟩

/-- A slash inside the name leads to a folder of the directory. -/
theorem installed_below_iff_nested :
    let s := start .writing []
    let args : Arguments := [(0, .text "app/db.main"), (1, .text "/var/log")]
    let t := (exec (perform .secureLogger args) s).2
    ∃ o ∈ (t.journal.logger "app/db.main").handlers, ∃ path, o.sink.path? = some path ∧
      path = ⟨.slash, ["var", "log", "app", "db_main.log"]⟩ ∧ path.IsBelow (.ofString "/var/log") := by
  intro s args t
  have none : (s.journal.logger "app/db.main").handlers = [] := List.isEmpty_iff.mp (by decide +kernel)
  obtain ⟨o, new, file⟩ : ∃ o ∈ (t.journal.logger "app/db.main").handlers,
      o.sink.path? = some ⟨.slash, ["var", "log", "app", "db_main.log"]⟩ := by decide +kernel
  have run : exec (perform .secureLogger args) s = ((exec (perform .secureLogger args) s).1, t) := (Prod.eta _).symm
  have named : args.get 0 = .text "app/db.main" := rfl
  have inDir : pathOf (args.get 1) = .ok (.ofString "/var/log") := rfl
  have plain : resolved (.ofString "/var/log") = .ofString "/var/log" := by decide +kernel
  have old : o ∉ (s.journal.logger "app/db.main").handlers := none ▸ List.not_mem_nil
  have below := (installed_below_iff named (by decide) inDir run new old file).2
  rw [plain] at below
  exact ⟨o, new, _, file, rfl, below.mpr (.inl (by decide +kernel))⟩

/-- A name that starts with a slash leads out of the directory: nothing is written below it. -/
theorem installed_outside :
    let s := start .writing []
    let dir := Path.ofString "/var/log"
    let t := (exec (perform .secureLogger [(0, .text "/tmp/outside"), (1, .path dir)]) s).2
    dir.isAbsolute = true ∧ dir.climbs = false ∧
      (t.journal.logger "/tmp/outside").handlers.filterMap (·.sink.path?) = [.ofString "/tmp/outside.log"] ∧
      ¬(Path.ofString "/tmp/outside.log").IsBelow dir := by
  decide +kernel

end Session

end KeyBundle
