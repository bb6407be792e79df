/-
  KeyBundle.Proofs.Delivery — what is written for a record on its way through the loggers.

  A record comes to the handlers of one logger after another, up to one that does not pass records on
  (`Journal.way`). Each handler that takes the record filters it, changes it by that for all
  handlers behind it, and writes it. `Journal.writings` lists what is to be written, each writing with
  the number of times that the record has been filtered by then. A writing may fail, and failures may
  be reported on the console: `Journal.tries` goes along with the run and says what has come of each.

  (1) The lists are exact (`deliver_delivered`): the writings are tried in their order, the console gets
      the texts of its own, the reports of all that fail and nothing else, and every file some of the
      texts of the file writings that do not fail and nothing else.
  (2) Delivering changes neither which handlers a logger has nor what they do (`deliver_delivered` too).
  (3) Where all handlers filter, a text is unfiltered only if it is a report, or the last resort's, which
      means that there is no handler on the way and that the record has the level of a warning
      (`redacts_iff`).
-/

import KeyBundle.Proofs.Appending

namespace KeyBundle.Log

/-! ## Records -/

/-- The record after so many passes of the filter. -/
def Record.passed (r : Record) : Nat → Record
  | 0 => r
  | n + 1 => (r.passed n).filtered []

@[simp] theorem level_passed (r : Record) (n : Nat) : (r.passed n).level = r.level := by
  induction n with
  | zero => rfl
  | succ n ih => exact ih

theorem foldl_applyFilter (r : Record) (n : Nat) (fs : List FilterKind) :
    fs.foldl applyFilter (r.passed n) = r.passed (n + fs.length) := by
  induction fs generalizing n with
  | nil => rfl
  | cons f fs ih =>
    cases f
    rw [List.foldl_cons, List.length_cons, Nat.add_comm fs.length, ← Nat.add_assoc]
    exact ih (n + 1)

/-! ## Writings -/

/-- A record written on a line, having passed the filter so many times. -/
structure Writing where
  onConsole : Bool
  format : LineFormat
  passes : Nat
  deriving DecidableEq

/-- The text that is written, if the record can be put on a line. -/
def Writing.text? (r : Record) (w : Writing) : Option String :=
  (line w.format (r.passed w.passes)).toOption.map (· ++ "\n")

/-- What a handler does to every record. -/
structure Outline where
  onConsole : Bool
  level : Int
  filters : List FilterKind
  format : LineFormat

def Sink.isConsole : Sink → Bool
  | console => true
  | file _ => false

def Handler.outline (h : Handler) : Outline := ⟨h.sink.isConsole, h.level, h.filters, h.format⟩

namespace Outline

variable (level : Int) (n : Nat)

/-- What the handler writes for a record of a level that has been filtered so many times. -/
def written (o : Outline) : List Writing :=
  if level < o.level then [] else [⟨o.onConsole, o.format, n + o.filters.length⟩]

/-- How many times the record has been filtered then. -/
def passes (o : Outline) : Nat := if level < o.level then n else n + o.filters.length

end Outline

/-- What one handler after another writes. -/
def writingsBy (level : Int) : Nat → List Outline → List Writing
  | _, [] => []
  | n, o :: os => o.written level n ++ writingsBy level (o.passes level n) os

def passesBy (level : Int) (n : Nat) (os : List Outline) : Nat := os.foldl (fun n o => o.passes level n) n

theorem writingsBy_append (level : Int) (n : Nat) (a b : List Outline) :
    writingsBy level n (a ++ b) = writingsBy level n a ++ writingsBy level (passesBy level n a) b := by
  induction a generalizing n with
  | nil => rfl
  | cons o a ih =>
    rw [List.cons_append, writingsBy, writingsBy, ih, List.append_assoc]
    rfl

theorem passesBy_append (level : Int) (n : Nat) (a b : List Outline) :
    passesBy level n (a ++ b) = passesBy level (passesBy level n a) b := List.foldl_append

def Logger.outlines (l : Logger) : List Outline := l.handlers.map (·.outline)

/-- What there is to say of a logger but for the files that its handlers have open. -/
def Logger.profile (l : Logger) : Int × List Outline × Bool := (l.level, l.outlines, l.propagate)

namespace Journal

def outlines (j : Journal) (name : String) : List Outline := (j.logger name).outlines

/-- The loggers that a record of a logger comes to. -/
def way (j : Journal) (name : String) : List String := j.chain (name :: j.namesAbove name)

/-- What is written for a record: what the handlers on its way write, or the last resort if there is
    none. -/
def writings (j : Journal) (r : Record) : List Writing :=
  let handlers := (j.way r.logger).flatMap j.outlines
  if handlers.isEmpty then if r.level < lastResortLevel then [] else [⟨true, .bare, 0⟩]
  else writingsBy r.level 0 handlers

end Journal

theorem outlines_eq_nil (j : Journal) (name : String) : j.outlines name = [] ↔ (j.logger name).handlers = [] :=
  List.map_eq_nil_iff

/-! ## What comes of writings -/

/-- A writing that was tried, and the passage then if it has failed. -/
structure Tried where
  writing : Writing
  failure? : Option Passage

namespace Tried

variable (trace? : Option Trace) (r : Record)

/-- What the console gets: the text of a writing to the console, or the report of a failure. -/
def shown (t : Tried) : String :=
  match t.failure? with
  | none => if t.writing.onConsole then (t.writing.text? r).getD "" else ""
  | some p => (trace?.map p.report).getD ""

/-- What a file gets. -/
def filed? (t : Tried) : Option String :=
  if t.writing.onConsole || t.failure?.isSome then none else t.writing.text? r

end Tried

/-- What a handler tries when the record has been filtered so many times. -/
def Handler.tries (n : Nat) (h : Handler) (p : Passage) : List Tried :=
  if p.record.level < h.level then []
  else
    let (written, _, q) := h.write { p with record := h.filters.foldl applyFilter p.record }
    [⟨⟨h.sink.isConsole, h.format, n + h.filters.length⟩, if written then none else some q⟩]

/-- What one handler after another tries. -/
def triesBy (trace? : Option Trace) : Nat → List Handler → Passage → List Tried
  | _, [], _ => []
  | n, h :: hs, p =>
    h.tries n p ++ triesBy trace? (h.outline.passes p.record.level n) hs (h.take trace? p).2

/-- What the handlers of one logger after another try. -/
def triesAlong : Nat → List String → Journal × Passage → List Tried
  | _, [], _ => []
  | n, name :: names, (j, p) =>
    triesBy j.trace? n (j.logger name).handlers p ++
      triesAlong (passesBy p.record.level n (j.outlines name)) names (passLogger (j, p) name)

/-- What is tried for a record, and what comes of it. -/
def Journal.tries (j : Journal) (r : Record) : List Tried :=
  let start : Passage := ⟨r, j.volume, j.console⟩
  if (j.way r.logger).all fun n => (j.logger n).handlers.isEmpty then lastResort.tries 0 start
  else triesAlong 0 (j.way r.logger) (j, start)

/-! ## (1) What is delivered -/

/-- From one state of files and console to another, this has been tried and nothing else. What has not
    failed had a text, and a failure met the record as filtered by then. -/
structure Delivered (trace? : Option Trace) (r : Record) (ts : List Tried) (v : Volume) (console : String)
    (v' : Volume) (console' : String) : Prop where
  console : console' = console ++ String.join (ts.map (·.shown trace? r))
  files : ∀ n, ∃ l, l.Sublist (ts.filterMap (·.filed? r)) ∧ v'.textOf n = v.textOf n ++ String.join l
  texts : ∀ t ∈ ts, t.failure? = none → (t.writing.text? r).isSome
  failures : ∀ t ∈ ts, ∀ p, t.failure? = some p → p.record = r.passed t.writing.passes

namespace Delivered

variable {trace? : Option Trace} {r : Record} {a b : List Tried} {v w x : Volume} {c d e : String}

theorem nil : Delivered trace? r [] v c v c where
  console := by simp
  files n := ⟨[], List.Sublist.refl _, by simp⟩
  texts := by simp
  failures := by simp

theorem append (h : Delivered trace? r a v c w d) (k : Delivered trace? r b w d x e) :
    Delivered trace? r (a ++ b) v c x e where
  console := by rw [k.console, h.console, List.map_append, String.join_append, String.append_assoc]
  files n := by
    obtain ⟨l, hl, hw⟩ := h.files n
    obtain ⟨m, hm, hx⟩ := k.files n
    refine ⟨l ++ m, ?_, by rw [hx, hw, String.join_append, String.append_assoc]⟩
    rw [List.filterMap_append]
    exact hl.append hm
  texts := List.forall_mem_append.mpr ⟨h.texts, k.texts⟩
  failures := List.forall_mem_append.mpr ⟨h.failures, k.failures⟩

variable {t : Writing} {text : String} {p : Passage}

theorem onConsole (ht : t.onConsole = true) (written : t.text? r = some text) :
    Delivered trace? r [⟨t, none⟩] v c v (c ++ text) where
  console := by simp [Tried.shown, ht, written]
  files _ := ⟨[], List.nil_sublist _, by simp⟩
  texts := by simp [written]
  failures := by simp

theorem toFile (ht : t.onConsole = false) (written : (t.text? r).isSome)
    (h : ∀ n, w.textOf n = v.textOf n ∨ ∃ text, t.text? r = some text ∧ w.textOf n = v.textOf n ++ text) :
    Delivered trace? r [⟨t, none⟩] v c w c where
  console := by simp [Tried.shown, ht]
  files n := by
    rcases h n with h | ⟨text, ht', h⟩
    · exact ⟨[], List.nil_sublist _, by simpa using h⟩
    · exact ⟨[text], by simp [Tried.filed?, ht, ht'], by simpa using h⟩
  texts := by simpa using written
  failures := by simp

theorem failed (hp : p.record = r.passed t.passes) (h : ∀ n, p.volume.textOf n = v.textOf n) :
    Delivered trace? r [⟨t, some p⟩] v p.console (p.failed trace?).volume (p.failed trace?).console where
  console := by simp [Tried.shown, Passage.failed]
  files n := ⟨[], List.nil_sublist _, by simpa [Passage.failed] using h n⟩
  texts := by simp
  failures := by simp [hp]

end Delivered

/-- One state of a record on its way and a later one: what has been tried between them, its writings, and how
    often the record has been filtered. -/
structure Passed (trace? : Option Trace) (r : Record) (ts : List Tried) (ws : List Writing) (n : Nat)
    (p q : Passage) : Prop where
  record : q.record = r.passed n
  writings : ts.map (·.writing) = ws
  delivered : Delivered trace? r ts p.volume p.console q.volume q.console

namespace Passed

variable {trace? : Option Trace} {r : Record} {a b : List Tried} {u w : List Writing} {m n : Nat} {p q x : Passage}

theorem nil (hp : p.record = r.passed n) : Passed trace? r [] [] n p p := ⟨hp, rfl, .nil⟩

theorem append (h : Passed trace? r a u m p q) (k : Passed trace? r b w n q x) :
    Passed trace? r (a ++ b) (u ++ w) n p x where
  record := k.record
  writings := by rw [List.map_append, h.writings, k.writings]
  delivered := h.delivered.append k.delivered

end Passed

variable (trace? : Option Trace) {r : Record} {n : Nat} {p : Passage}

/-- The record as it has been filtered so far is written on a line, or the failure is reported. -/
theorem passed_write (h : Handler) (hp : p.record = r.passed n) :
    let w : Writing := ⟨h.sink.isConsole, h.format, n⟩
    let (done, h', q) := h.write p
    Passed trace? r [⟨w, if done then none else some q⟩] [w] n p (if done then q else q.failed trace?) ∧
      h'.outline = h.outline := by
  intro w
  have text : (line h.format p.record).toOption.map (· ++ "\n") = w.text? r := by rw [hp]; rfl
  unfold Handler.write
  rw [text]
  cases hs : h.sink with
  | console =>
    have onConsole : w.onConsole = true := by simp only [w, hs, Sink.isConsole]
    cases written : w.text? r with
    | none => exact ⟨⟨hp, rfl, by simpa using Delivered.failed (p := p) hp fun _ => rfl⟩, rfl⟩
    | some text => exact ⟨⟨hp, rfl, .onConsole onConsole written⟩, rfl⟩
  | file t =>
    have toFile : w.onConsole = false := by simp only [w, hs, Sink.isConsole]
    have outline (t' : Target) : ({ h with sink := .file t' } : Handler).outline = h.outline := by
      simp only [Handler.outline, hs, Sink.isConsole]
    obtain ⟨hline, htexts⟩ := Attempt.adds_write (w.text? r)
    specialize hline (t, p.volume)
    specialize htexts (t, p.volume)
    rcases hw : (Attempt.write (w.text? r)).run.run (t, p.volume) with ⟨_ | _, t', v⟩ <;>
      rw [hw] at hline htexts <;> simp only [hw]
    · refine ⟨⟨hp, rfl, .failed hp fun m => ?_⟩, outline t'⟩
      exact (htexts m).resolve_right fun ⟨_, _, h, _⟩ => nomatch h
    · refine ⟨⟨hp, rfl, .toFile toFile (hline rfl) fun m => ?_⟩, outline t'⟩
      exact (htexts m).imp_right fun ⟨text, ht, _, h⟩ => ⟨text, ht, h⟩

theorem passed_take (h : Handler) (hp : p.record = r.passed n) :
    Passed trace? r (h.tries n p) (h.outline.written r.level n) (h.outline.passes r.level n) p (h.take trace? p).2 ∧
      (h.take trace? p).1.outline = h.outline := by
  unfold Handler.take Handler.tries Outline.written Outline.passes
  rw [hp, level_passed]
  by_cases hl : r.level < h.level
  · simp only [Handler.outline, hl, if_true]
    exact ⟨.nil hp, trivial⟩
  · simp only [Handler.outline, hl, if_false, foldl_applyFilter]
    obtain ⟨⟨hr, hw, hd⟩, ho⟩ := passed_write trace? h (p := { p with record := r.passed (n + h.filters.length) }) rfl
    exact ⟨⟨hr, hw, hd⟩, ho⟩

theorem passed_takeAll (hs : List Handler) (hp : p.record = r.passed n) :
    let os := hs.map (·.outline)
    Passed trace? r (triesBy trace? n hs p) (writingsBy r.level n os) (passesBy r.level n os) p (takeAll trace? hs p).2 ∧
      (takeAll trace? hs p).1.map (·.outline) = os := by
  induction hs generalizing n p with
  | nil => exact ⟨.nil hp, rfl⟩
  | cons h hs ih =>
    obtain ⟨hd, ho⟩ := passed_take trace? h hp
    obtain ⟨hd', ho'⟩ := ih hd.record
    unfold triesBy
    rw [hp, level_passed]
    exact ⟨hd.append hd', by rw [List.map_cons, ← ho, ← ho']; rfl⟩

/-! ## (2) Loggers -/

theorem logger_setLogger (j : Journal) (name : String) (l : Logger) (m : String) :
    (j.setLogger name l).logger m = if m = name then l else j.logger m := by
  unfold Journal.setLogger Journal.logger
  have known := isSome_lookup j.loggers name
  by_cases h : j.isKnown name
  · have hc := lookup_change name (fun _ => l) j.loggers m
    have hl : (j.loggers.lookup name).isSome := by rw [known]; exact h
    obtain ⟨k, hk⟩ := Option.isSome_iff_exists.mp hl
    simp only [h, if_true, hc]
    by_cases hm : m = name
    · simp [hm, hk]
    · simp [hm]
  · have hl : j.loggers.lookup name = none := by
      rw [← Option.not_isSome_iff_eq_none, known]
      exact h
    simp only [h, Bool.false_eq_true, if_false, lookup_concat]
    by_cases hm : m = name
    · simp [hm, hl]
    · simp [hm]

theorem profile_setLogger (j : Journal) (name : String) (l : Logger) (h : l.profile = (j.logger name).profile)
    (m : String) : ((j.setLogger name l).logger m).profile = (j.logger m).profile := by
  rw [logger_setLogger]
  by_cases hm : m = name
  · rw [if_pos hm, h, hm]
  · rw [if_neg hm]

theorem passed_passLogger (j : Journal) (name : String) (hp : p.record = r.passed n) :
    Passed j.trace? r (triesBy j.trace? n (j.logger name).handlers p) (writingsBy r.level n (j.outlines name))
        (passesBy r.level n (j.outlines name)) p (passLogger (j, p) name).2 ∧
      (passLogger (j, p) name).1.trace? = j.trace? ∧
      ∀ m, ((passLogger (j, p) name).1.logger m).profile = (j.logger m).profile := by
  unfold passLogger
  by_cases h : (j.logger name).handlers = []
  · simp only [Journal.outlines, Logger.outlines, h, List.isEmpty_nil, if_true]
    exact ⟨.nil hp, trivial, fun _ => trivial⟩
  · obtain ⟨hd, ho⟩ := passed_takeAll j.trace? (j.logger name).handlers hp
    simp only [List.isEmpty_iff, h]
    exact ⟨hd, rfl, profile_setLogger j name _ (by simp only [Logger.profile, Logger.outlines, ho])⟩

theorem passed_foldl (names : List String) (j : Journal) (hp : p.record = r.passed n) :
    Passed j.trace? r (triesAlong n names (j, p)) (writingsBy r.level n (names.flatMap j.outlines))
        (passesBy r.level n (names.flatMap j.outlines)) p (names.foldl passLogger (j, p)).2 ∧
      ∀ m, ((names.foldl passLogger (j, p)).1.logger m).profile = (j.logger m).profile := by
  induction names generalizing j n p with
  | nil => exact ⟨.nil hp, fun _ => rfl⟩
  | cons name names ih =>
    obtain ⟨hd, ht, ho⟩ := passed_passLogger j name hp
    obtain ⟨hd', ho'⟩ := ih (passLogger (j, p) name).1 hd.record
    have same : names.flatMap (passLogger (j, p) name).1.outlines = names.flatMap j.outlines :=
      congrArg names.flatMap (funext fun m => congrArg (·.2.1) (ho m))
    rw [same, ht] at hd'
    rw [List.flatMap_cons, writingsBy_append, passesBy_append, triesAlong, hp, level_passed]
    exact ⟨hd.append hd', fun m => (ho' m).trans (ho m)⟩

theorem flatMap_outlines_isEmpty (j : Journal) (names : List String) :
    (names.flatMap j.outlines).isEmpty = names.all fun n => (j.logger n).handlers.isEmpty := by
  induction names with
  | nil => rfl
  | cons name names ih =>
    rw [List.flatMap_cons, List.all_cons, ← ih]
    cases h : (j.logger name).handlers <;> simp [Journal.outlines, Logger.outlines, h]

/-- Delivering a record tries its writings in their order, and the console and the files get what comes of that
    and nothing else. It changes nothing of a logger but for the files that its handlers have open. -/
theorem deliver_delivered (j : Journal) (r : Record) :
    Delivered j.trace? r (j.tries r) j.volume j.console (j.deliver r).volume (j.deliver r).console ∧
      (j.tries r).map (·.writing) = j.writings r ∧
      ∀ m, ((j.deliver r).logger m).profile = (j.logger m).profile := by
  have first : (⟨r, j.volume, j.console⟩ : Passage).record = r.passed 0 := rfl
  unfold Journal.deliver Journal.tries Journal.writings
  simp only [flatMap_outlines_isEmpty, Journal.way]
  by_cases h : ((j.chain (r.logger :: j.namesAbove r.logger)).all fun n => (j.logger n).handlers.isEmpty) = true
  · obtain ⟨⟨-, hw, hd⟩, -⟩ := passed_take j.trace? lastResort first
    simp only [h, if_true]
    exact ⟨hd, hw, fun _ => rfl⟩
  · obtain ⟨⟨-, hw, hd⟩, ho⟩ := passed_foldl (j.chain (r.logger :: j.namesAbove r.logger)) j first
    simp only [h]
    exact ⟨hd, hw, ho⟩

/-! ## (3) Filtered texts -/

/-- Every handler filters what it takes. -/
def Journal.Redacting (j : Journal) : Prop := ∀ name, ∀ o ∈ j.outlines name, o.filters = [.secure]

/-- Every text that reaches the console or a file for the record has passed the filter: what is written has, and
    no failure is reported. -/
def Journal.Redacts (j : Journal) (r : Record) : Prop :=
  ∀ t ∈ j.tries r, if t.failure?.isSome then j.trace? = none else 0 < t.writing.passes

instance (j : Journal) (r : Record) : Decidable (j.Redacts r) :=
  inferInstanceAs (Decidable (∀ t ∈ j.tries r, if t.failure?.isSome then j.trace? = none else 0 < t.writing.passes))

/-- The last resort writes nothing for the record. -/
def Record.Quiet (r : Record) : Prop := r.level < lastResortLevel ∨ ∀ text, line .bare r ≠ .ok text

theorem passes_pos {level : Int} {os : List Outline} (h : ∀ o ∈ os, o.filters = [.secure]) (n : Nat) :
    ∀ w ∈ writingsBy level n os, 0 < w.passes := by
  induction os generalizing n with
  | nil => exact fun w hw => nomatch hw
  | cons o os ih =>
    obtain ⟨ho, hos⟩ := List.forall_mem_cons.mp h
    intro w hw
    rcases List.mem_append.mp hw with hw | hw
    · unfold Outline.written at hw
      split at hw
      · cases hw
      · rw [List.mem_singleton.mp hw, ho]
        exact Nat.succ_pos n
    · exact ih hos _ w hw

/-- With a handler on the way of a record, all that is written for it has passed the filter. -/
theorem passes_of_handled {j : Journal} (h : j.Redacting) {r : Record}
    (handled : ∃ name ∈ j.way r.logger, (j.logger name).handlers ≠ []) : ∀ w ∈ j.writings r, 0 < w.passes := by
  have filters : ∀ o ∈ (j.way r.logger).flatMap j.outlines, o.filters = [.secure] := by
    intro o ho
    obtain ⟨name, -, ho⟩ := List.mem_flatMap.mp ho
    exact h name o ho
  have found : ((j.way r.logger).flatMap j.outlines).isEmpty = false := by
    rw [flatMap_outlines_isEmpty]
    simpa using handled
  intro w hw
  rw [Journal.writings, found] at hw
  exact passes_pos filters 0 w hw

/-- The last resort writes the record unless it is quiet, and without any filter. -/
theorem lastResort_quiet_iff {r : Record} {v : Volume} {c : String} :
    (∀ t ∈ lastResort.tries 0 ⟨r, v, c⟩, t.failure? = none → 0 < t.writing.passes) ↔ r.Quiet := by
  unfold Record.Quiet Handler.tries Handler.write
  by_cases hl : r.level < lastResortLevel
  · simp [lastResort, hl]
  · cases ht : line .bare r <;> simp [lastResort, hl, ht, Except.toOption]

/-- Where all handlers filter, every text for a record has passed the filter exactly if no failure is reported,
    and a handler is on the way of the record or the last resort has nothing to write. -/
theorem redacts_iff {j : Journal} (h : j.Redacting) (r : Record) :
    j.Redacts r ↔ (j.trace? = none ∨ ∀ t ∈ j.tries r, t.failure? = none) ∧
      ((∃ name ∈ j.way r.logger, (j.logger name).handlers ≠ []) ∨ r.Quiet) := by
  have parted : j.Redacts r ↔ (∀ t ∈ j.tries r, t.failure?.isSome → j.trace? = none) ∧
      ∀ t ∈ j.tries r, t.failure? = none → 0 < t.writing.passes := by
    simp only [Journal.Redacts, ← forall_and]
    refine forall₂_congr fun t _ => ?_
    cases t.failure? <;> simp
  have reported : (∀ t ∈ j.tries r, t.failure?.isSome → j.trace? = none) ↔
      (j.trace? = none ∨ ∀ t ∈ j.tries r, t.failure? = none) := by
    cases j.trace? <;> simp
  have written : (∀ t ∈ j.tries r, t.failure? = none → 0 < t.writing.passes) ↔
      ((∃ name ∈ j.way r.logger, (j.logger name).handlers ≠ []) ∨ r.Quiet) := by
    by_cases handled : ∃ name ∈ j.way r.logger, (j.logger name).handlers ≠ []
    · refine iff_of_true (fun t ht _ => passes_of_handled h handled _ ?_) (.inl handled)
      rw [← (deliver_delivered j r).2.1]
      exact List.mem_map_of_mem ht
    · have none : ((j.way r.logger).all fun n => (j.logger n).handlers.isEmpty) = true := by simpa using handled
      rw [Journal.tries, if_pos none, lastResort_quiet_iff, or_iff_right handled]
  rw [parted, reported, written]

end KeyBundle.Log
