/-
  KeyBundle.Proofs.Receivers — whose handlers a record is handed to.

  A logger that has been set up passes nothing on, and one that has not has no handlers. So a record goes to the
  handlers of one logger only: of the first one on its way upwards that has been set up.

  (1) A set-up that succeeds adds its logger to those that are set up, and all other steps leave them as they are
      (`setUpAre_perform`, `setUpAre_after`).
  (2) The first of these on the way of a record is handed it, and no other logger is (`handsTo`).
  (3) So in every session in which no set-up fails a record is handed once to each handler of the nearest logger
      that has been set up, as the tree of loggers goes. By the dots of the names this is the nearest one, too, but for
      a name that opens the word root and comes late (`delivered_once`). Such a name loses a record, and so do two
      dots side by side (`passed_over`).
-/

import KeyBundle.Proofs.Ancestors
import KeyBundle.Proofs.Handlers
import KeyBundle.Proofs.Interruption
import Mathlib.Data.List.ReduceOption

namespace KeyBundle

namespace Log

/-! ## (1) Loggers that are set up -/

/-- The loggers of these names pass nothing on; the others have no handlers, and pass on what they get. -/
def Journal.SetUpAre (names : List String) (j : Journal) : Prop :=
  ∀ name, if name ∈ names then (j.logger name).propagate = false
    else j.outlines name = [] ∧ (j.logger name).propagate = true

variable {names : List String} {j k : Journal} {name : String} {w : Wanted}

theorem Journal.SetUpAre.congr {others : List String} (h : j.SetUpAre names) (same : ∀ n, n ∈ names ↔ n ∈ others) :
    j.SetUpAre others := by
  intro n
  simp only [← same]
  exact h n

theorem lasting_setUpAre (names : List String) : Lasting (Journal.SetUpAre names) := by
  refine .of_profile fun j k same h name => ?_
  have outlines : k.outlines name = j.outlines name := congrArg (·.2.1) (same name)
  have propagate : (k.logger name).propagate = (j.logger name).propagate := congrArg (·.2.2) (same name)
  rw [outlines, propagate]
  exact h name

/-- A logger that nobody has asked for passes on what it gets. -/
theorem Journal.SetUpAre.isKnown (h : j.SetUpAre names) (hn : name ∈ names) : j.isKnown name := by
  have silent := h name
  rw [if_pos hn, Journal.logger] at silent
  rw [Journal.isKnown, ← isSome_lookup]
  cases hl : j.loggers.lookup name with
  | none =>
    rw [hl] at silent
    cases silent
  | some l => rfl

/-- A set-up that succeeds adds its logger. -/
theorem setUpAre_setUp (h : j.SetUpAre names) (hk : exec (setUp w) j = (.ok name, k)) :
    k.SetUpAre (name :: names) := by
  obtain ⟨-, hold, hnew⟩ := of_setUp_ok hk
  intro m
  by_cases none : (j.logger name).handlers = []
  · obtain ⟨level, files, -, -, hk⟩ := hnew none
    by_cases hm : m = name
    · rw [if_pos (hm ▸ List.mem_cons_self ..), hk, hm, Function.update_self]
    · simp only [List.mem_cons, hm, false_or, Journal.outlines, hk, Function.update_of_ne hm]
      exact h m
  · have there : name ∈ names := by
      by_contra hn
      have fresh := h name
      rw [if_neg hn, outlines_eq_nil] at fresh
      exact none fresh.1
    have same : m = name ∨ m ∈ names ↔ m ∈ names := or_iff_right_of_imp fun hm => hm ▸ there
    simp only [List.mem_cons, Journal.outlines, hold none, same]
    exact h m

/-- A logger that has lost its handlers is no less set up. -/
theorem setUpAre_clearPackageLogger : Keeps (Journal.SetUpAre names) clearPackageLogger := by
  intro j h m
  simp only [clearPackageLogger, exec_changeLogger, Journal.outlines, logger_setLogger]
  have hm := h m
  by_cases hp : m = packageLogger
  · rw [if_pos hp]
    rw [hp] at hm ⊢
    split at hm
    · rwa [if_pos ‹_›]
    · rw [if_neg ‹_›]
      exact ⟨rfl, hm.2⟩
  · rwa [if_neg hp]

end Log

namespace Session

open Log

section

variable {names : List String} {s t : Session} {op : Operation} {args : Arguments} {v : Value}

theorem of_setUpLogger_ok {w : Wanted} (h : exec (setUpLogger w) s = (.ok v, t)) :
    ∃ name, exec (setUp w) s.journal = (.ok name, t.journal) := by
  obtain ⟨name, s₁, hset, hget⟩ := of_exec_bind h
  cases hget
  rw [exec_settingUp, Prod.mk.injEq] at hset
  exact ⟨name, Prod.ext hset.1 (congrArg (·.journal) hset.2)⟩

theorem of_loggerFrom_ok {name given : Value} (h : exec (loggerFrom name given) s = (.ok v, t)) :
    ∃ w n, w.name = name ∧ exec (setUp w) s.journal = (.ok n, t.journal) := by
  obtain ⟨settings, s₁, hsettings, hwanted⟩ := of_exec_bind h
  obtain ⟨w, s₂, hw, hset⟩ := of_exec_bind hwanted
  obtain ⟨wanted, rfl⟩ := eq_ok_of_exec_ofExcept hw
  obtain ⟨n, hn⟩ := of_setUpLogger_ok hset
  have untouched := (exec_loggingSettings given s s.journal).2
  change (exec (loggingSettings given) s).2.journal = s.journal at untouched
  rw [hsettings] at untouched
  rw [← untouched]
  exact ⟨w, n, name_wantedBy wanted, hn⟩

/-- An operation that sets up a logger and succeeds adds it to those that are set up. -/
theorem setUpAre_perform (hop : op.SetsUp) (h : exec (perform op args) s = (.ok v, t))
    (hs : s.journal.SetUpAre names) :
    ∃ name, loggerOf op args = .ok name ∧ t.journal.SetUpAre (name :: names) := by
  rcases hop with rfl | rfl | rfl
  · obtain ⟨name, hname⟩ := of_setUpLogger_ok h
    exact ⟨name, (of_setUp_ok hname).1, setUpAre_setUp hs hname⟩
  · unfold perform configureLogging at h
    obtain ⟨_, s₁, hclear, hfrom⟩ := of_exec_bind h
    have cleared := keeps_settingUp setUpAre_clearPackageLogger s hs
    rw [hclear] at cleared
    obtain ⟨w, name, hw, hname⟩ := of_loggerFrom_ok hfrom
    have named := (of_setUp_ok hname).1
    rw [hw] at named
    cases named
    exact ⟨packageLogger, rfl, setUpAre_setUp cleared hname⟩
  · obtain ⟨w, name, hw, hname⟩ := of_loggerFrom_ok h
    refine ⟨name, ?_, setUpAre_setUp hs hname⟩
    rw [← (of_setUp_ok hname).1, hw]
    rfl

end

/-- The set-up that a step calls, if any, with its arguments. -/
def Step.setUpCall? : Step → Option (Operation × List (Nat × Term))
  | .call .secureLogger args => some (.secureLogger, args)
  | .call .configureLogging args => some (.configureLogging, args)
  | .call .logger args => some (.logger, args)
  | _ => none

/-- The arguments of a call. -/
def evalArguments (args : List (Nat × Term)) : Act Arguments := args.mapM fun a => do return (a.1, ← eval a.2)

/-- The set-up that a step comes to, if any: the logger that is set up, or none if that fails. -/
def Step.setUps (step : Step) (s : Session) : List (Option String) :=
  match step.setUpCall? with
  | none => []
  | some (op, args) =>
    match exec (evalArguments args) s with
    | (.error _, _) => []
    | (.ok given, t) => [((exec (perform op given) t).1.bind fun _ => loggerOf op given).toOption]

/-- The set-ups of a session, each with its logger, or with none if it fails. -/
def setUps : List Entry → Session → List (Option String)
  | [], _ => []
  | e :: es, s => e.step.setUps s ++ setUps es (runEntry e s).2

/-- The loggers that are set up in a session. -/
def targets (entries : List Entry) (s : Session) : List String := (setUps entries s).reduceOption

section

variable {names : List String} {s : Session}

theorem of_setUpCall?_eq_some {step : Step} {op : Operation} {args : List (Nat × Term)}
    (h : step.setUpCall? = some (op, args)) : step = .call op args ∧ op.SetsUp := by
  unfold Step.setUpCall? at h
  split at h <;> cases h
  · exact ⟨rfl, .inl rfl⟩
  · exact ⟨rfl, .inr (.inl rfl)⟩
  · exact ⟨rfl, .inr (.inr rfl)⟩

theorem perform_of_setUpCall?_eq_none {op : Operation} {args : List (Nat × Term)}
    (h : (Step.call op args).setUpCall? = none) (given : Arguments) : perform op given = building (op.build given) := by
  cases op <;> first | rfl | cases h

/-- A step adds the logger that it sets up, and is no matter for the others. -/
theorem setUpAre_act {step : Step} (h : none ∉ step.setUps s) (hs : s.journal.SetUpAre names) :
    (exec step.act s).2.journal.SetUpAre ((step.setUps s).reduceOption ++ names) := by
  have lasting := lasting_setUpAre names
  unfold Step.setUps at h ⊢
  cases hcall : step.setUpCall? with
  | none =>
    refine keeps_step lasting step (fun op args he given => ?_) s hs
    rw [perform_of_setUpCall?_eq_none (he ▸ hcall)]
    exact keeps_building _
  | some call =>
    obtain ⟨op, args⟩ := call
    obtain ⟨rfl, hop⟩ := of_setUpCall?_eq_some hcall
    have given := Keeps.mapM (enduring_has lasting).evalSecond args s hs
    change Has _ (exec (evalArguments args) s).2 at given
    rw [hcall] at h
    rw [show exec (Step.call op args).act s = exec (evalArguments args >>= perform op) s from rfl]
    rcases hx : exec (evalArguments args) s with ⟨f | args, t⟩ <;> rw [hx] at given <;> simp only [hx] at h ⊢
    · rwa [exec_bind_error hx]
    · rw [exec_bind_ok hx]
      rcases hy : exec (perform op args) t with ⟨f | v, u⟩ <;> rw [hy] at h
      · cases h (List.mem_singleton_self _)
      · obtain ⟨name, named, added⟩ := setUpAre_perform hop hy given
        change u.journal.SetUpAre _
        rw [named]
        exact added

theorem setUpAre_runEntry {e : Entry} (h : none ∉ e.step.setUps s) (hs : s.journal.SetUpAre names) :
    (runEntry e s).2.journal.SetUpAre ((e.step.setUps s).reduceOption ++ names) :=
  has_runEntry (lasting_setUpAre _) (setUpAre_act h hs)

/-- In a session in which no set-up fails, those loggers are set up that a step sets up. -/
theorem setUpAre_after {entries : List Entry} (h : none ∉ setUps entries s) (hs : s.journal.SetUpAre names) :
    (after entries s).journal.SetUpAre (names ++ targets entries s) := by
  induction entries generalizing s names with
  | nil => exact (List.append_nil names).symm ▸ hs
  | cons e entries ih =>
    obtain ⟨hhead, htail⟩ := not_or.mp (mt List.mem_append.mpr h)
    have rest := ih htail (setUpAre_runEntry hhead hs)
    refine rest.congr fun n => ?_
    rw [targets, targets, setUps, List.reduceOption_append]
    simp only [List.mem_append]
    tauto

theorem setUpAre_start (mode : Mode) (env : Environment) : (start mode env).journal.SetUpAre [] := by
  intro name
  rw [if_neg List.not_mem_nil]
  refine ⟨outlines_start mode env name, ?_⟩
  unfold start
  rw [logger_setLogger]
  split
  · rfl
  · unfold Journal.logger Journal.empty
    rw [lookup_pair_cons]
    split <;> rfl

end

end Session

namespace Log

/-! ## (2) The logger that is handed a record -/

/-- The handlers of one logger take a record, each once and one after the other. -/
def Journal.handTo (j : Journal) (name : String) (r : Record) : Journal :=
  let l := j.logger name
  let (hs, p) := takeAll j.trace? l.handlers ⟨r, j.volume, j.console⟩
  { j.setLogger name { l with handlers := hs } with volume := p.volume, console := p.console }

/-- A record is handed to one logger, to each of its handlers once, the console handler first. No other logger takes it,
    so where that one has no handlers, only the console may be written to. -/
structure Journal.HandsTo (j : Journal) (name : String) (r : Record) : Prop where
  orderly : Orderly (j.logger name).handlers
  handed : (j.logger name).handlers ≠ [] → j.deliver r = j.handTo name r
  writings : (j.logger name).handlers ≠ [] →
    j.writings r = ((j.logger name).handlers.zipIdx 1).map fun h => ⟨h.1.sink.isConsole, h.1.format, h.2⟩
  unhandled : (j.logger name).handlers = [] → ∃ console, j.deliver r = { j with console }

section

variable {names : List String} {j : Journal} {name : String} {r : Record}

/-- A record comes up to the first logger that is set up, and finds no handler before. -/
theorem chain_eq_of_find? (h : j.SetUpAre names) {way : List String} (hfind : way.find? (· ∈ names) = some name) :
    ∃ before, j.chain way = before ++ [name] ∧ ∀ n ∈ before, (j.logger n).handlers = [] := by
  obtain ⟨hname, before, behind, rfl, hbefore⟩ := List.find?_eq_some_iff_append.mp hfind
  have silent := h name
  rw [if_pos (by simpa using hname)] at silent
  have open' : ∀ n ∈ before, (j.logger n).handlers = [] ∧ (j.logger n).propagate = true := by
    intro n hn
    have hopen := h n
    rwa [if_neg (by simpa using hbefore n hn), outlines_eq_nil] at hopen
  refine ⟨before, ?_, fun n hn => (open' n hn).1⟩
  clear hfind hbefore
  induction before with
  | nil => simp [Journal.chain, silent]
  | cons n before ih =>
    obtain ⟨hn, hrest⟩ := List.forall_mem_cons.mp open'
    rw [List.cons_append, Journal.chain, if_pos hn.2, ih hrest, List.cons_append]

/-- Loggers without handlers take nothing. -/
theorem foldl_passLogger_of_forall {before : List String} (h : ∀ n ∈ before, (j.logger n).handlers = []) (p : Passage) :
    before.foldl passLogger (j, p) = (j, p) := by
  induction before with
  | nil => rfl
  | cons n before ih =>
    obtain ⟨hn, hrest⟩ := List.forall_mem_cons.mp h
    rw [List.foldl_cons, passLogger, hn]
    exact ih hrest

/-- What handlers write that take a record and filter it once. -/
theorem writingsBy_eq {level : Int} {hs : List Handler} (h : ∀ o ∈ hs, o.level ≤ level ∧ o.filters = [.secure])
    (n : Nat) : writingsBy level n (hs.map (·.outline)) =
      (hs.zipIdx (n + 1)).map fun h => ⟨h.1.sink.isConsole, h.1.format, h.2⟩ := by
  induction hs generalizing n with
  | nil => rfl
  | cons o hs ih =>
    obtain ⟨⟨hl, hf⟩, hrest⟩ := List.forall_mem_cons.mp h
    have taken : ¬level < o.outline.level := Int.not_lt.mpr hl
    have once : o.outline.filters.length = 1 := congrArg List.length hf
    rw [List.map_cons, writingsBy, Outline.written, Outline.passes, if_neg taken, if_neg taken, once, ih hrest]
    rfl

theorem handsTo (h : j.SetUpAre names) (horder : Orderly (j.logger name).handlers) (hdebug : 10 ≤ r.level)
    (hfind : (r.logger :: j.namesAbove r.logger).find? (· ∈ names) = some name) : j.HandsTo name r := by
  obtain ⟨before, hchain, hbefore⟩ := chain_eq_of_find? h hfind
  have bare : (before.all fun n => (j.logger n).handlers.isEmpty) = true :=
    List.all_eq_true.mpr fun n hn => List.isEmpty_iff.mpr (hbefore n hn)
  have all : ((before ++ [name]).all fun n => (j.logger n).handlers.isEmpty) = (j.logger name).handlers.isEmpty := by
    rw [List.all_append, bare, List.all_cons, List.all_nil, Bool.and_true, Bool.true_and]
  refine ⟨horder, fun some => ?_, fun some => ?_, fun none => ?_⟩
  · unfold Journal.deliver Journal.handTo
    simp only [hchain, all, List.isEmpty_eq_false_iff.mpr some, List.foldl_append,
      foldl_passLogger_of_forall hbefore, List.foldl_cons, List.foldl_nil, passLogger, Bool.false_eq_true, if_false]
  · have found : (j.way r.logger).flatMap j.outlines = j.outlines name := by
      have nothing : before.flatMap j.outlines = [] :=
        List.flatMap_eq_nil_iff.mpr fun n hn => (outlines_eq_nil j n).mpr (hbefore n hn)
      rw [Journal.way, hchain, List.flatMap_append, nothing, List.flatMap_singleton, List.nil_append]
    have debug : levels.lookup "DEBUG" = Option.some 10 := by decide
    have handled : (j.outlines name).isEmpty = false :=
      List.isEmpty_eq_false_iff.mpr (mt (outlines_eq_nil j name).mp some)
    unfold Journal.writings
    simp only [found, handled, Bool.false_eq_true, if_false]
    refine writingsBy_eq (fun o ho => ⟨?_, horder.filters o ho⟩) 0
    have level := horder.level o ho
    rw [debug, Option.some.injEq] at level
    exact level ▸ hdebug
  · refine ⟨(j.deliver r).console, ?_⟩
    have volume (p : Passage) : (lastResort.take j.trace? p).2.volume = p.volume := by
      unfold Handler.take Handler.write lastResort
      dsimp only
      split <;> [rfl; split <;> rfl]
    unfold Journal.deliver
    simp only [hchain, all, none, List.isEmpty_nil, if_true, volume]

end

end Log

namespace Session

open Log

/-! ## (3) Sessions -/

/-- In a session in which no set-up fails, a record that is made of a message goes to the nearest logger that has
    been set up, among its own and those above it in the tree of loggers. It is handed once to each handler of that
    logger, to the console handler first, and to no other handler.

    Where no two dots stand side by side in the name of its logger, this is the nearest one by dots, too, unless the
    name of that one opens the word root and the logger below it on the way was there before it. -/
theorem delivered_once (mode : Mode) (env : Environment) (entries : List Entry) (text : String) (level : Int)
    (message : Value) (args : List Value) (exception stack : Option String) (extras : List (String × Value)) :
    let s := after entries (start mode env)
    let name := loggerName text
    let j := s.journal.know name
    let r : Record := ⟨name, level, message, argsOf args, j.clock, exception, stack, extras⟩
    let isTarget := fun n => decide (n ∈ targets entries (start mode env))
    none ∉ setUps entries (start mode env) → j.isEnabled name level → 10 ≤ level →
      (extras.find? fun e => ownFields.contains e.1) = none →
      exec (log text level message args exception stack extras) s = (.ok .none, { s with journal := j.deliver r }) ∧
      (∀ above, (name :: j.namesAbove name).find? isTarget = some above → j.HandsTo above r) ∧
      ∀ above, above ≠ Value.rootLogger → SingleDots name.toList →
        (name :: dottedAbove name).find? isTarget = some above →
        ((name :: j.namesAbove name).find? isTarget = some above ↔
          (above ∈ rootOpenings → above = name ∨ j.isOlder above (j.below above name))) := by
  intro s name j r isTarget hset henabled hdebug hextras
  have setUp : j.SetUpAre (targets entries (start mode env)) :=
    (lasting_setUpAre _).know (setUpAre_after hset (setUpAre_start mode env)) name
  refine ⟨?_, fun above hfind => ?_, fun above hroot hdots hfind => ?_⟩
  · have made : j.log (loggerName text) level message args exception stack extras = .ok (j.deliver r) := by
      unfold Journal.log
      rw [if_pos henabled, hextras]
    have asked : exec (askLogger text) s = (.ok (loggerNow j name), { s with journal := j }) := rfl
    unfold log
    rw [exec_bind_ok asked, exec_bind_ok (exec_get _)]
    simp only [made]
    rfl
  · obtain ⟨w, hw⟩ := equipped_after mode env entries above
    refine handsTo setUp (orderly_of_outlines (w := w) ?_) hdebug hfind
    rw [logger_know]
    exact hw
  · exact nearest_iff (fun n hn => setUp.isKnown (of_decide_eq_true hn)) hdots hroot hfind

/-- A logger that is set up late takes the records of one below it. -/
theorem delivered_once_late :
    let s := after [⟨.logger "app.db", none⟩, ⟨.call .secureLogger [(0, .text "app")], none⟩] (start .writing [])
    let j := s.journal.know "app.db"
    let r : Record := ⟨"app.db", 30, .text "hello", argsOf [], j.clock, none, none, []⟩
    j.HandsTo "app" r ∧ (j.logger "app").handlers.length = 1 ∧ j.writings r = [⟨true, .console, 1⟩] := by
  intro s j r
  obtain ⟨-, hands, nearest⟩ := delivered_once .writing [] _ "app.db" 30 (.text "hello") [] none none []
    (show none ∉ setUps [⟨.logger "app.db", none⟩, ⟨.call .secureLogger [(0, .text "app")], none⟩]
      (start .writing []) by decide +kernel) (by decide +kernel) (by decide) (by decide)
  have first := (nearest "app" (by decide) (by decide) (by decide +kernel)).mpr fun h => absurd h (by decide)
  exact ⟨hands "app" first, by decide +kernel, by decide +kernel⟩

/-- Loggers that are set up and are the nearest by dots, but do not get the record: one whose name opens the word root
    and that comes late, and one above two dots side by side. -/
theorem passed_over :
    let late := after [⟨.logger "r.kid", none⟩, ⟨.call .secureLogger [(0, .text "r")], none⟩] (start .writing [])
    let dots := after [⟨.call .secureLogger [(0, .text "a")], none⟩] (start .writing [])
    let written := fun (s : Session) name => (runEntry ⟨.log name 30 (.text "hello") [] none none [], none⟩ s).1.console
    dottedAbove "r.kid" = ["r"] ∧ (late.journal.logger "r").handlers.length = 1 ∧ written late "r.kid" = "hello\n" ∧
      "a" ∈ dottedAbove "a..b" ∧ (dots.journal.logger "a").handlers.length = 1 ∧ written dots "a..b" = "hello\n" := by
  decide +kernel

end Session

end KeyBundle
