/-
  KeyBundle.Proofs.Sessions — what may become of loggers in a session.

  A step of a session builds something, changes something in place, sets up a logger or logs a record.
  For a logger all of that comes to little (`Grown`): handlers are only added to it, and those filter;
  once it does not pass records on, it never does again. Only the logger of the library may lose its
  handlers.

  (1) Setting up keeps to that, also when it fails half way (`keeps_setUp`, `keeps_clearPackageLogger`).
  (2) A step keeps whatever lasts while loggers are asked for and records delivered (`Lasting`), if the operation that
      it calls does (`keeps_step`, `has_runEntry`). So every run keeps to that, too (`later_after`).
  (3) As no handler is there at the start, in every session all handlers filter (`redacting_after`).
-/

import KeyBundle.Proofs.SettingUp
import KeyBundle.Proofs.Stepping

namespace KeyBundle

namespace Log

/-! ## Loggers -/

/-- What may become of a logger. Where `lost` is true, it may also lose its handlers. -/
structure Grown (lost : Prop) (l m : Logger) : Prop where
  added : ∀ o ∈ m.outlines, o ∈ l.outlines ∨ o.filters = [.secure]
  kept : ¬lost → l.outlines <+: m.outlines
  propagate : m.propagate = true → l.propagate = true

namespace Grown

variable {lost : Prop} {l m n : Logger}

theorem of_profile (h : m.profile = l.profile) : Grown lost l m := by
  obtain ⟨-, ho, hp⟩ : m.level = l.level ∧ m.outlines = l.outlines ∧ m.propagate = l.propagate := by
    simpa [Logger.profile] using h
  exact ⟨fun o h => .inl (by rwa [← ho]), fun _ => ho ▸ List.prefix_rfl, fun h => by rwa [← hp]⟩

theorem trans (h : Grown lost l m) (k : Grown lost m n) : Grown lost l n where
  added o ho := (k.added o ho).elim (h.added o) .inr
  kept hn := (h.kept hn).trans (k.kept hn)
  propagate hp := h.propagate (k.propagate hp)

theorem fitted (h : Fitted l m) : Grown lost l m where
  added o ho := by
    obtain ⟨w, wanted⟩ := h.wanted
    exact .inr (filters_of_mem_outlines (wanted ▸ ho))
  kept _ := by
    rw [Logger.outlines, h.none]
    exact List.nil_prefix
  propagate := h.propagate

theorem cleared (h : lost) (l : Logger) : Grown lost l { l with handlers := [] } where
  added _ h := nomatch h
  kept hn := absurd h hn
  propagate h := h

end Grown

/-! ## Journals -/

/-- The second journal may come after the first one. Where `clears` is true, the logger of the library
    may have lost its handlers in between. -/
def Journal.Later (clears : Prop) (j k : Journal) : Prop :=
  ∀ name, Grown (name = packageLogger ∧ clears) (j.logger name) (k.logger name)

/-- What is logged is delivered or left out. -/
theorem log_ok {j k : Journal} {name : String} {level : Int} {message : Value} {args : List Value}
    {exception stack : Option String} {extras : List (String × Value)}
    (h : j.log name level message args exception stack extras = .ok k) :
    k = j ∨ k = j.deliver ⟨name, level, message, argsOf args, j.clock, exception, stack, extras⟩ := by
  unfold Journal.log at h
  split at h
  · split at h
    · cases h
    · cases h
      exact .inr rfl
  · cases h
    exact .inl rfl

theorem redacting_know {j : Journal} (h : j.Redacting) (name : String) : (j.know name).Redacting := by
  intro m o ho
  rw [Journal.outlines, logger_know] at ho
  exact h m o ho

namespace Journal.Later

variable {clears : Prop} {j k : Journal}

theorem refl : j.Later clears j := fun _ => .of_profile rfl

theorem congr {k' : Journal} (h : j.Later clears k) (same : k'.logger = k.logger) : j.Later clears k' := by
  intro m
  rw [same]
  exact h m

theorem update {k' : Journal} {name : String} {l : Logger} (h : j.Later clears k)
    (hl : Grown (name = packageLogger ∧ clears) (k.logger name) l) (hk : k'.logger = Function.update k.logger name l) :
    j.Later clears k' := by
  intro m
  rw [hk, Function.update_apply]
  split
  · next hm =>
    rw [hm]
    exact (h name).trans hl
  · exact h m

theorem know (h : j.Later clears k) (name : String) : j.Later clears (k.know name) :=
  h.congr (funext (logger_know k name))

end Journal.Later

/-- What is said of the loggers is not changed by asking for one, nor by delivering records. -/
structure Lasting (I : Journal → Prop) : Prop where
  know {j : Journal} (h : I j) (name : String) : I (j.know name)
  deliver {j : Journal} (h : I j) (r : Record) : I (j.deliver r)
  reset {j : Journal} (h : I j) (console : String) (clock : Moment) (trace? : Option Trace) :
    I { j with console, clock, trace? }

namespace Lasting

variable {I : Journal → Prop}

/-- What is said of the profiles of loggers only. -/
theorem of_profile (h : ∀ j k : Journal, (∀ m, (k.logger m).profile = (j.logger m).profile) → I j → I k) :
    Lasting I where
  know hj name := h _ _ (fun m => congrArg (·.profile) (logger_know _ name m)) hj
  deliver hj r := h _ _ (deliver_delivered _ r).2.2 hj
  reset {j} hj _ _ _ := h j _ (fun _ => rfl) hj

theorem log (hI : Lasting I) {j k : Journal} (h : I j) {name : String} {level : Int} {message : Value}
    {args : List Value} {exception stack : Option String} {extras : List (String × Value)}
    (hk : j.log name level message args exception stack extras = .ok k) : I k := by
  rcases log_ok hk with rfl | rfl
  · exact h
  · exact hI.deliver h _

end Lasting

theorem lasting_later (clears : Prop) (j : Journal) : Lasting (j.Later clears) :=
  .of_profile fun _ _ same h m => (h m).trans (.of_profile (same m))

/-! ## (1) Setting up -/

section

variable {clears : Prop} {j : Journal}

theorem keeps_setUp (w : Wanted) : Keeps (j.Later clears) (setUp w) := by
  intro k hk
  obtain same | ⟨name, l, fitted, changed⟩ := setUp_cases w k
  · exact hk.congr same
  · exact hk.update (.fitted fitted) changed

theorem keeps_clearPackageLogger (h : clears) : Keeps (j.Later clears) clearPackageLogger :=
  fun k hk => hk.update (.cleared ⟨rfl, h⟩ (k.logger packageLogger)) (logger_update _ _ _)

end

end Log

namespace Session

open Log

/-! ## (2) Steps -/

/-- What is said of a journal holds of that of the session. -/
def Has (I : Journal → Prop) (s : Session) : Prop := I s.journal

section

variable {I : Journal → Prop}

theorem keeps_building {α : Type} (b : Build α) : Keeps (Has I) (building b) := by
  refine .get_bind fun s hs => ?_
  rcases b.run.run s.context with ⟨r, context⟩
  exact .bind (.set hs) fun _ => .ofExcept _

theorem keeps_settingUp {α : Type} {b : Log.Setup α} (hb : Keeps I b) : Keeps (Has I) (settingUp b) := by
  refine .get_bind fun s hs => ?_
  have hj := hb s.journal hs
  unfold exec at hj
  rcases hx : b.run.run s.journal with ⟨r, journal⟩
  rw [hx] at hj
  exact .bind (.set hj) fun _ => .ofExcept _

theorem keeps_loggingSettings (given : Value) : Keeps (Has I) (loggingSettings given) := by
  unfold loggingSettings
  split
  · exact .bind (keeps_building _) fun _ => .pure _
  · exact .pure _

/-- An operation keeps what setting up keeps, and for the logger of the library what clearing it keeps. -/
theorem keeps_perform (hset : ∀ w, Keeps I (setUp w)) {op : Operation}
    (hclear : op = .configureLogging → Keeps I clearPackageLogger) (args : Arguments) :
    Keeps (Has I) (perform op args) := by
  have setUpLogger (w : Wanted) : Keeps (Has I) (setUpLogger w) :=
    .bind (keeps_settingUp (hset w)) fun _ => .bind .get fun _ => .pure _
  have loggerFrom (name given : Value) : Keeps (Has I) (loggerFrom name given) :=
    .bind (keeps_loggingSettings given) fun _ => .bind (.ofExcept _) fun w => setUpLogger w
  unfold perform
  split
  · exact setUpLogger _
  · exact .bind (keeps_settingUp (hclear rfl)) fun _ => loggerFrom _ _
  · exact loggerFrom _ _
  · exact keeps_building _

variable (hI : Lasting I)

include hI

theorem enduring_has : Enduring (Has I) where
  building _ := keeps_building _
  bindings h _ := h
  environment h _ := h
  know h name := hI.know h name
  log h hl := hI.log h hl
  clock h clock := hI.reset h _ clock _
  reports h trace? := hI.reset h _ _ trace?
  reported h _ := hI.reset h _ _ _

/-- Whatever a step does, and however far it comes, it keeps what lasts and what its operation keeps. -/
theorem keeps_step (e : Step) (h : ∀ op args, e = .call op args → ∀ given, Keeps (Has I) (perform op given)) :
    Keeps (Has I) e.act := (enduring_has hI).step e h

/-- What lasts is kept by all that comes after the step itself. -/
theorem has_runEntry {e : Entry} {s : Session} (h : Has I (exec e.step.act s).2) : Has I (runEntry e s).2 :=
  (enduring_has hI).runEntry h

end

section

variable {clears : Prop} {j : Journal}

/-- The journal of a session may come after the first one. -/
def Since (clears : Prop) (j : Journal) (s : Session) : Prop := j.Later clears s.journal

/-- The step sets up the logger of the library anew. -/
def Step.Configures (e : Step) : Prop := ∃ args, e = .call .configureLogging args

/-- Whatever a step does, and however far it comes, its loggers come after those of before. -/
theorem later_runEntry {e : Entry} (he : e.step.Configures → clears) {s : Session} (h : Since clears j s) :
    Since clears j (runEntry e s).2 := by
  refine has_runEntry (lasting_later clears j) (keeps_step (lasting_later clears j) e.step ?_ s h)
  intro op args hcall given
  exact keeps_perform (fun w => keeps_setUp w)
    (fun hop => keeps_clearPackageLogger (he ⟨args, hop ▸ hcall⟩)) given

/-! ## (3) Runs -/

/-- The session after some steps. -/
def after (entries : List Entry) (s : Session) : Session := entries.foldl (fun s e => (runEntry e s).2) s

/-- After more steps, loggers have become what they may become. -/
theorem later_after {entries : List Entry} (he : ∀ e ∈ entries, e.step.Configures → clears) {s : Session}
    (h : Since clears j s) : Since clears j (after entries s) := by
  induction entries generalizing s with
  | nil => exact h
  | cons e entries ih =>
    obtain ⟨hhead, htail⟩ := List.forall_mem_cons.mp he
    exact ih htail (later_runEntry hhead h)

end

theorem outlines_start (mode : Mode) (env : Environment) (name : String) :
    (start mode env).journal.outlines name = [] := by
  unfold start Journal.outlines
  rw [logger_setLogger]
  split
  · rfl
  · unfold Journal.logger Journal.empty
    rw [lookup_pair_cons]
    split <;> rfl

/-- In every session all handlers filter what they take. -/
theorem redacting_after (mode : Mode) (env : Environment) (entries : List Entry) :
    (after entries (start mode env)).journal.Redacting := by
  intro name o ho
  have later : Since True (start mode env).journal (after entries (start mode env)) :=
    later_after (fun _ _ _ => trivial) .refl
  rcases (later name).added o ho with ho | ho
  · have none := outlines_start mode env name
    unfold Journal.outlines at none
    rw [none] at ho
    cases ho
  · exact ho

end Session

end KeyBundle
