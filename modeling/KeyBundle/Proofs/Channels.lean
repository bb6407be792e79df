/-
  KeyBundle.Proofs.Channels — what comes of the exception and of the caller's own fields on a line.

  The filter knows of the message and of its arguments, and of nothing else that a record carries.

  (1) In a JSON text, printable stretches stand as they are (`infix_text`): there is nothing to escape in a long run or
      in most assignments.
  (2) A line is made of the given record with another message: a text line has the exception and the call stack
      below the message (`text?_eq_some_iff`), a JSON line has the exception as a member, together with the fields
      of the caller's own (`json?_eq_some_iff`).
  (3) So they come to the console and to all files as they were given (`written_as_given`), and a secret in them is
      shown (`exception_shown`). A line that cannot be written is reported with what the filter has left of the
      message and of the arguments.
-/

import KeyBundle.Proofs.Settling

namespace KeyBundle

namespace Log

open Redaction

/-! ## (1) JSON texts -/

/-- A character that needs no escape. -/
def Json.isPlain (c : Char) : Bool := 0x20 ≤ c.toNat && c.toNat < 0x7F && c != '"' && c != '\\'

theorem Json.escapeChar_plain {c : Char} (h : isPlain c) : escapeChar c = [c] := by
  simp only [isPlain, Bool.and_eq_true, decide_eq_true_eq, bne_iff_ne] at h
  obtain ⟨⟨⟨hlow, hhigh⟩, hquote⟩, hbackslash⟩ := h
  -- the characters with an escape of their own are control characters
  have ne {d : Char} (hd : d.toNat < 0x20) : (c == d) = false := by
    rw [beq_eq_false_iff_ne]
    rintro rfl
    omega
  have quoted : (c == '"' || c == '\\') = false := by simp [hquote, hbackslash]
  rw [escapeChar, quoted, ne (d := '\n') (by decide), ne (d := '\r') (by decide), ne (d := '\t') (by decide),
    ne (d := '\x08') (by decide), ne (d := '\x0c') (by decide)]
  simp [hlow, hhigh]

theorem Json.isPlain_of_isBase64 {c : Char} (h : Rule.isBase64 c) : isPlain c := by
  have plain : ∀ c ∈ ascii, Rule.isBase64 c → isPlain c := by decide +kernel
  exact plain c (mem_ascii h) h

/-- A stretch of such characters stands in the JSON text as it is. -/
theorem Json.infix_text {u : List Char} {s : String} (h : u <:+: s.toList) (hu : ∀ c ∈ u, isPlain c) :
    u <:+: (Json.text s).toList := by
  obtain ⟨x, y, hs⟩ := h
  have same : u.flatMap escapeChar = u := by
    rw [List.flatMap_congr fun c hc => escapeChar_plain (hu c hc), List.flatMap_singleton']
  refine ⟨'"' :: x.flatMap escapeChar, y.flatMap escapeChar ++ ['"'], ?_⟩
  rw [Json.text, String.toList_ofList, textChars, ← hs, List.flatMap_append, List.flatMap_append, same]
  simp

/-! ## (2) Lines -/

theorem eq_some_iff_line {r : Record} {w : Writing} {text : String} :
    w.text? r = some text ↔ ∃ l, line w.format (r.passed w.passes) = .ok l ∧ text = l ++ "\n" := by
  rw [Writing.text?, Option.map_eq_some_iff]
  exact exists_congr fun l => and_congr ⟨eq_ok_of_toOption, fun h => by rw [h]; rfl⟩ eq_comm

/-- A text line carries the message behind its heading, the exception and the call stack below, and no fields of the
    caller's own. -/
theorem text?_eq_some_iff {r : Record} {w : Writing} (hw : w.format ≠ .json) {text : String} :
    w.text? r = some text ↔ ∃ m, (r.passed w.passes).text = .ok m ∧
      text = withBelow (withBelow (heading w.format r ++ m) r.exception) r.stack ++ "\n" := by
  constructor
  · intro h
    cases hm : (r.passed w.passes).text with
    | ok m =>
      rw [text?_of_text hw hm] at h
      exact ⟨m, rfl, (Option.some.inj h).symm⟩
    | error f =>
      obtain ⟨l, hl, -⟩ := eq_some_iff_line.mp h
      cases hf : w.format with
      | json => exact absurd hf hw
      | console | file | bare =>
        rw [hf, line, hm] at hl
        · cases hl
        all_goals simp
  · rintro ⟨m, hm, rfl⟩
    exact text?_of_text hw hm

/-- The members of the JSON line of a record with the given time and message. -/
def Record.members (r : Record) (time m : String) : List (String × Value) :=
  [("timestamp", .text time), ("level", .text (levelName r.level)), ("logger", .text r.logger), ("message", .text m)] ++
    (shownExtras.filterMap fun name => (extra? r name).map fun v => (name, v)) ++
    r.exception.toList.map fun e => ("exception", .text e)

/-- A member as it is written. -/
def Json.Written (f : String × Value) (t : String × String) : Prop := t.1 = Json.text f.1 ∧ Json.value f.2 = .ok t.2

theorem mapM_eq_ok_iff {ε α β : Type} {f : α → Except ε β} {l : List α} {bs : List β} :
    l.mapM f = .ok bs ↔ List.Forall₂ (fun a b => f a = .ok b) l bs := by
  induction l generalizing bs with
  | nil =>
    rw [List.mapM_nil, List.forall₂_nil_left_iff]
    exact ⟨fun h => (Except.ok.inj h).symm, fun h => congrArg Except.ok h.symm⟩
  | cons a l ih =>
    rw [List.mapM_cons, List.forall₂_cons_left_iff]
    constructor
    · intro h
      obtain ⟨b, hb, h⟩ := of_bind_ok h
      obtain ⟨cs, hcs, h⟩ := of_bind_ok h
      cases h
      exact ⟨b, cs, hb, ih.mp hcs, rfl⟩
    · rintro ⟨b, cs, hb, hcs, rfl⟩
      rw [hb, ih.mpr hcs]
      rfl

theorem jsonFields_eq_ok_iff {r : Record} {fs : List (String × Value)} : jsonFields r = .ok fs ↔
    ∃ time m, timestamp r.created = .ok time ∧ r.text = .ok m ∧ fs = r.members time m := by
  constructor
  · intro h
    obtain ⟨time, htime, h⟩ := of_bind_ok h
    obtain ⟨m, hm, h⟩ := of_bind_ok h
    cases htext : r.text with
    | error f =>
      rw [htext] at hm
      cases hm
    | ok m' =>
      rw [htext] at hm
      cases hm
      exact ⟨time, m, htime, rfl, (Except.ok.inj h).symm⟩
  · rintro ⟨time, m, htime, hm, rfl⟩
    rw [jsonFields, htime, hm]
    rfl

theorem jsonLine_eq_ok_iff {r : Record} {text : String} : jsonLine r = .ok text ↔
    ∃ time m ts, timestamp r.created = .ok time ∧ r.text = .ok m ∧ List.Forall₂ Json.Written (r.members time m) ts ∧
      text = Json.object ts := by
  have written (f : String × Value) (t : String × String) :
      (do return (Json.text f.1, ← Json.value f.2) : Except Fault (String × String)) = .ok t ↔ Json.Written f t := by
    unfold Json.Written
    cases Json.value f.2 with
    | error e => exact ⟨nofun, fun h => nomatch h.2⟩
    | ok v =>
      refine ⟨fun h => ?_, fun ⟨h₁, h₂⟩ => ?_⟩
      · cases h
        exact ⟨rfl, rfl⟩
      · cases h₂
        exact congrArg Except.ok (Prod.ext h₁.symm rfl)
  constructor
  · intro h
    obtain ⟨fs, hfs, h⟩ := of_bind_ok h
    obtain ⟨time, m, htime, hm, rfl⟩ := jsonFields_eq_ok_iff.mp hfs
    obtain ⟨ts, hts, h⟩ := of_bind_ok h
    exact ⟨time, m, ts, htime, hm, (mapM_eq_ok_iff.mp hts).imp fun f t => (written f t).mp, (Except.ok.inj h).symm⟩
  · rintro ⟨time, m, ts, htime, hm, hts, rfl⟩
    have fields := jsonFields_eq_ok_iff.mpr ⟨time, m, htime, hm, rfl⟩
    have members := mapM_eq_ok_iff.mpr (hts.imp fun f t => (written f t).mpr)
    exact bind_eq_ok_iff.mpr ⟨_, fields, bind_eq_ok_iff.mpr ⟨ts, members, rfl⟩⟩

/-- The filter changes nothing of a record but what makes its message. -/
theorem members_passed (r : Record) (n : Nat) (time m : String) :
    (r.passed n).members time m = r.members time m := by
  rw [passed_frame]
  rfl

/-- A JSON line is the object of these members, with the message that has passed the filter. -/
theorem json?_eq_some_iff {r : Record} {w : Writing} (hw : w.format = .json) {text : String} :
    w.text? r = some text ↔ ∃ time m ts, timestamp r.created = .ok time ∧ (r.passed w.passes).text = .ok m ∧
      List.Forall₂ Json.Written (r.members time m) ts ∧ text = Json.object ts ++ "\n" := by
  have created : (r.passed w.passes).created = r.created := by rw [passed_frame]
  rw [eq_some_iff_line, hw]
  constructor
  · rintro ⟨line, hline, rfl⟩
    obtain ⟨time, m, ts, htime, hm, hts, rfl⟩ := jsonLine_eq_ok_iff.mp hline
    rw [members_passed] at hts
    exact ⟨time, m, ts, created ▸ htime, hm, hts, rfl⟩
  · rintro ⟨time, m, ts, htime, hm, hts, rfl⟩
    refine ⟨Json.object ts, jsonLine_eq_ok_iff.mpr ⟨time, m, ts, by rw [created, htime], hm, ?_, rfl⟩, rfl⟩
    rwa [members_passed]

/-! ## (3) Sessions -/

theorem infix_intercalate {α : Type} {l : List α} {ls : List (List α)} (h : l ∈ ls) (separator : List α) :
    l <:+: separator.intercalate ls := by
  induction ls with
  | nil => cases h
  | cons m ls ih =>
    cases ls with
    | nil =>
      rw [List.mem_singleton.mp h, List.intercalate_singleton]
    | cons k ls =>
      rw [List.intercalate_cons_cons]
      rcases List.mem_cons.mp h with rfl | h
      · exact ((List.prefix_append l separator).trans (List.prefix_append _ _)).isInfix
      · exact (ih h).trans (List.suffix_append _ _).isInfix

theorem Json.infix_object {t : String × String} {ts : List (String × String)} (h : t ∈ ts) :
    t.2.toList <:+: (object ts).toList := by
  have item : (t.1 ++ ": " ++ t.2).toList <:+: (Text.commaSeparated (ts.map fun m => m.1 ++ ": " ++ m.2)).toList := by
    rw [Text.commaSeparated, String.toList_intercalate]
    exact infix_intercalate (List.mem_map_of_mem (List.mem_map_of_mem (f := fun m => m.1 ++ ": " ++ m.2) h)) _
  have value : t.2.toList <:+: (t.1 ++ ": " ++ t.2).toList := by
    rw [String.toList_append]
    exact (List.suffix_append _ _).isInfix
  refine (value.trans item).trans ?_
  rw [object, String.toList_append, String.toList_append]
  exact List.infix_append _ _ _

theorem exists_of_forall₂ {α β : Type} {R : α → β → Prop} {l : List α} {ls : List β} (h : List.Forall₂ R l ls) {a : α}
    (ha : a ∈ l) : ∃ b ∈ ls, R a b := by
  induction h with
  | nil => cases ha
  | @cons c b l ls hc _ ih =>
    rcases List.mem_cons.mp ha with rfl | ha
    · exact ⟨b, List.mem_cons_self, hc⟩
    · obtain ⟨b', hb', hR⟩ := ih ha
      exact ⟨b', List.mem_cons_of_mem b hb', hR⟩

theorem suffix_withBelow (line s : String) : s.toList <:+ (withBelow line (some s)).toList := by
  unfold withBelow
  split
  · next h => cases h
  · next h =>
    cases h
    exact List.nil_suffix
  · next h =>
    cases h
    split
    all_goals
      rw [String.toList_append]
      exact List.suffix_append _ _

theorem prefix_withBelow (line : String) (below : Option String) : line.toList <+: (withBelow line below).toList := by
  unfold withBelow
  split
  · exact List.prefix_rfl
  · exact List.prefix_rfl
  · split
    all_goals
      simp only [String.toList_append, List.append_assoc]
      exact List.prefix_append _ _

/-- A text of the record that a line shows besides the message. -/
def Record.Given (r : Record) (f : LineFormat) (s : String) : Prop :=
  r.exception = some s ∨ f ≠ .json ∧ r.stack = some s ∨
    f = .json ∧ ∃ name ∈ shownExtras, extra? r name = some (.text s)

/-- What is printable of such a text, without quotes and backslashes, stands on the line as it was given. -/
theorem infix_written {r : Record} {w : Writing} {text s : String} (h : w.text? r = some text)
    (hs : r.Given w.format s) {u : List Char} (hu : u <:+: s.toList) (plain : ∀ c ∈ u, Json.isPlain c) :
    u <:+: text.toList := by
  by_cases hw : w.format = .json
  · obtain ⟨time, m, ts, -, -, hts, rfl⟩ := (json?_eq_some_iff hw).mp h
    have member : ∃ name, (name, Value.text s) ∈ r.members time m := by
      rcases hs with hs | ⟨h, -⟩ | ⟨-, name, hname, hs⟩
      · exact ⟨"exception", by simp [Record.members, hs]⟩
      · exact absurd hw h
      · refine ⟨name, List.mem_append_left _ (List.mem_append_right _ ?_)⟩
        exact List.mem_filterMap.mpr ⟨name, hname, by rw [hs]; rfl⟩
    obtain ⟨name, member⟩ := member
    obtain ⟨t, ht, -, hvalue⟩ := exists_of_forall₂ hts member
    rw [Json.value, Except.ok.injEq] at hvalue
    have written : u <:+: t.2.toList := hvalue ▸ Json.infix_text hu plain
    rw [String.toList_append]
    exact (written.trans (Json.infix_object ht)).trans (List.prefix_append _ _).isInfix
  · obtain ⟨m, -, rfl⟩ := (text?_eq_some_iff hw).mp h
    rw [String.toList_append]
    refine List.IsInfix.trans ?_ (List.prefix_append _ _).isInfix
    rcases hs with hs | ⟨-, hs⟩ | ⟨h, -⟩
    · rw [hs]
      exact (hu.trans (suffix_withBelow _ s).isInfix).trans (prefix_withBelow _ _).isInfix
    · rw [hs]
      exact hu.trans (suffix_withBelow _ s).isInfix
    · exact absurd h hw

end Log

namespace Session

open Log

/-- The exception, the call stack and the caller's own fields come to every line of a handler as they were given: a
    text line is the heading, the message that has passed the filter, and below the exception and the call stack; a
    JSON line is the object of its members, with such a message. So all that is printable of them, without quotes and
    backslashes, stands on the line. What is delivered is these lines and the reports of those that fail. -/
theorem written_as_given (mode : Mode) (env : Environment) (entries : List Entry) (r : Record) :
    let j := (after entries (start mode env)).journal
    (∃ name ∈ j.way r.logger, (j.logger name).handlers ≠ []) →
      Delivered j.trace? r (j.tries r) j.volume j.console (j.deliver r).volume (j.deliver r).console ∧
      (j.tries r).map (·.writing) = j.writings r ∧ ∀ w ∈ j.writings r, 0 < w.passes ∧
      (w.format ≠ .json → ∀ text, w.text? r = some text ↔ ∃ m, (r.passed w.passes).text = .ok m ∧
        text = withBelow (withBelow (heading w.format r ++ m) r.exception) r.stack ++ "\n") ∧
      (w.format = .json → ∀ text, w.text? r = some text ↔ ∃ time m ts, timestamp r.created = .ok time ∧
        (r.passed w.passes).text = .ok m ∧ List.Forall₂ Json.Written (r.members time m) ts ∧
          text = Json.object ts ++ "\n") ∧
      ∀ text s u, w.text? r = some text → r.Given w.format s → u <:+: s.toList → (∀ c ∈ u, Json.isPlain c) →
        u <:+: text.toList := by
  intro j handled
  obtain ⟨delivered, tried, -⟩ := deliver_delivered j r
  refine ⟨delivered, tried, fun w hw => ?_⟩
  exact ⟨passes_of_handled (redacting_after mode env entries) handled w hw, fun hf _ => text?_eq_some_iff hf,
    fun hf _ => json?_eq_some_iff hf, fun _ _ _ h given hu plain => infix_written h given hu plain⟩

/-- A run of forty characters in an exception and a pin in a call stack come to the console. -/
theorem written_as_given_run :
    let run := "AAAAAAAAAAAAAAAAAAAABBBBBBBBBBBBBBBBBBBB"
    let j := (after [⟨.call .secureLogger [(0, .text "app")], none⟩] (start .writing [])).journal
    let r : Record := ⟨"app", 30, .text "pin=1234", .sequence [], Journal.startOfRun, some run, some "pin=5678", []⟩
    let w : Writing := ⟨true, .console, 1⟩
    let shown := "22:13:20 | WARNING  | app | pin=[REDACTED]\nAAAAAAAAAAAAAAAAAAAABBBBBBBBBBBBBBBBBBBB\npin=5678\n"
    w ∈ j.writings r ∧ w.text? r = some shown ∧ run.toList <:+: shown.toList := by
  intro run j r w shown
  have handled : ∃ name ∈ j.way r.logger, (j.logger name).handlers ≠ [] := ⟨"app", by decide +kernel, by decide +kernel⟩
  have hw : w ∈ j.writings r := by decide +kernel
  obtain ⟨-, text, -, stretches⟩ := (written_as_given .writing [] _ r handled).2.2 w hw
  have message : (r.passed 1).text = .ok "pin=[REDACTED]" := eq_ok_of_toOption (by decide +kernel)
  have written : w.text? r = some shown := (text nofun shown).mpr ⟨_, message, by decide +kernel⟩
  have base64 : ∀ c ∈ run.toList, Redaction.Rule.isBase64 c := by decide
  refine ⟨hw, written, stretches shown run _ written (.inl rfl) List.infix_rfl fun c hc => ?_⟩
  exact Json.isPlain_of_isBase64 (base64 c hc)

/-- A pin in an exception is shown, which would have been hidden in the message. -/
theorem exception_shown :
    let s := after [⟨.call .secureLogger [(0, .text "app")], none⟩] (start .writing [])
    let exception := exceptionText "ValueError" "pin=1234"
    let (logged, _) := runEntry ⟨.log "app" 30 (.text "failed") [] (some exception) none [], none⟩ s
    logged.console = "22:13:20 | WARNING  | app | failed\nValueError: pin=1234\n" ∧
      Redaction.redact [] exception = "ValueError: pin=[REDACTED]" := by
  decide +kernel

end Session

end KeyBundle
