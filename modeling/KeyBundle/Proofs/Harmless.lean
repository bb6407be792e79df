/-
  KeyBundle.Proofs.Harmless — the shown form of parameters comes through redaction as it is.

  No rule finds anything in a harmless text (`redact_harmless`).

  (1) Brackets and commas part a text: nothing that makes a text harmful goes over them (`Harmless.append_cons`).
  (2) So the shown form of parameters is harmless, if their names are tame: between brackets and commas there is nothing
      but these names and the counts, and a count has no more digits than a run may have (`harmless_shown`).
  (3) As a message or as an argument of a record it is there after any number of runs of the filter (`harmless_kept`).
-/

import KeyBundle.Proofs.BlobArguments

namespace KeyBundle

namespace Redaction

open Pattern Rule

/-! ## (1) Parts of a text -/

section

variable {d : Char} {u v w : List Char}

/-- A text that a character is no part of occurs on one side of the character. -/
theorem isInfix_append_cons (hd : d ∉ w) (h : w <:+: u ++ d :: v) : w <:+: u ∨ w <:+: v := by
  have before {u : List Char} (h : w <+: u ++ d :: v) : w <+: u := by
    by_cases hle : w.length ≤ u.length
    · exact List.prefix_of_prefix_length_le h (List.prefix_append u _) hle
    · have reached : u ++ [d] <+: w :=
        List.prefix_of_prefix_length_le ⟨v, by simp⟩ h (by simp; omega)
      exact absurd (reached.mem (by simp)) hd
  induction u with
  | nil =>
    rcases List.infix_cons_iff.mp h with h | h
    · exact .inl (before h).isInfix
    · exact .inr h
  | cons c u ih =>
    rcases List.infix_cons_iff.mp h with h | h
    · exact .inl (before h).isInfix
    · exact (ih h).imp_left fun h => h.trans (List.suffix_cons c u).isInfix

/-- What parts the shown form of parameters. -/
def seams : List Char := "()[],".toList

theorem seams_apart : ∀ d ∈ seams, d ≠ '=' ∧ d ≠ ':' ∧ d ∉ "-----BEGIN ".toList ∧ ¬isBase64 d ∧ ¬isHexDigit d := by
  decide

theorem Harmless.append_cons (hd : d ∈ seams) (hu : Harmless u) (hv : Harmless v) : Harmless (u ++ d :: v) := by
  obtain ⟨equals, colon, undashed, base, digit⟩ := seams_apart d hd
  refine ⟨?_, ?_, fun opens => ?_, ?_, ?_⟩
  · simp [hu.equals, hv.equals, equals.symm]
  · simp [hu.colon, hv.colon, colon.symm]
  · exact (isInfix_append_cons undashed opens).elim hu.unopened hv.unopened
  · exact (noRun_append_cons base u v).mpr ⟨hu.runless.1, hv.runless.1, by decide⟩
  · exact (noRun_append_cons digit u v).mpr ⟨hu.runless.2, hv.runless.2, by decide⟩

/-- A blank before a text begins no line. -/
theorem Harmless.blank (h : Harmless u) : Harmless (' ' :: u) := by
  refine ⟨by simp [h.equals], by simp [h.colon], fun opens => ?_, ?_, ?_⟩
  · rcases List.infix_cons_iff.mp opens with opens | opens
    · exact absurd (List.cons_prefix_cons.mp opens).1 (by decide)
    · exact h.unopened opens
  · exact (noRun_append_cons (by decide) [] u).mpr ⟨noRun_nil (by decide), h.runless.1, by decide⟩
  · exact (noRun_append_cons (by decide) [] u).mpr ⟨noRun_nil (by decide), h.runless.2, by decide⟩

/-- In a short text there is no long run. -/
theorem harmless_of_length (equals : '=' ∉ u) (colon : ':' ∉ u) (unopened : ¬"-----BEGIN ".toList <:+: u)
    (short : u.length < 32) : Harmless u :=
  ⟨equals, colon, unopened, noRun_of_length (Nat.lt_trans short (by decide)), noRun_of_length short⟩

theorem harmless_nil : Harmless [] := harmless_of_length (by decide) (by decide) (by decide) (by decide)

end

/-! ## (2) Parameters -/

/-- A short name without signs and without the beginning of a dashed line. -/
structure IsTame (name : List Char) : Prop where
  equals : '=' ∉ name
  colon : ':' ∉ name
  undashed : ¬"-----BEGIN".toList <:+: name
  short : name.length ≤ 31

theorem IsTame.harmless {name : List Char} (h : IsTame name) : Harmless name :=
  have begins : "-----BEGIN".toList <+: "-----BEGIN ".toList := by decide
  harmless_of_length h.equals h.colon (fun opens => h.undashed (begins.isInfix.trans opens)) (Nat.lt_succ_of_le h.short)

theorem harmless_count {n : Nat} (h : n < 2 ^ 63) : Harmless (toString n).toList := by
  rw [Nat.toString_eq_ofList_toDigits, String.toList_ofList]
  have digits : ∀ c ∈ Nat.toDigits 10 n, c.isDigit := fun c hc => Nat.isDigit_of_mem_toDigits (by decide) (by decide) hc
  have absent {c : Char} (hc : c.isDigit = false) : c ∉ Nat.toDigits 10 n := by
    intro hmem
    rw [digits c hmem] at hc
    cases hc
  have short : (Nat.toDigits 10 n).length ≤ 19 :=
    (Nat.length_toDigits_le_iff (by decide) (by decide)).mpr (Nat.lt_trans h (by decide))
  exact harmless_of_length (absent rfl) (absent rfl) (fun opens => absent (by rfl) (opens.mem (a := '-') (by decide)))
    (Nat.lt_of_le_of_lt short (by decide))

theorem harmless_commaSeparated {items : List String} (h : ∀ item ∈ items, Harmless item.toList) :
    Harmless (Text.commaSeparated items).toList := by
  rw [Text.commaSeparated, String.toList_intercalate]
  induction items with
  | nil => exact harmless_nil
  | cons item items ih =>
    obtain ⟨first, rest⟩ := List.forall_mem_cons.mp h
    cases items with
    | nil => simpa using first
    | cons next items =>
      rw [List.map_cons, List.map_cons, List.intercalate_cons_cons, List.append_assoc]
      exact .append_cons (by decide) first (ih rest).blank

theorem harmless_shown {p : ParameterSet} (names : ∀ name ∈ p.names, IsTame name.toList)
    (counts : ∀ e ∈ p.entries, e.2.length < 2 ^ 63) : Harmless p.shown.toList := by
  have entries : ∀ item ∈ p.entries.map fun e => e.1 ++ "[" ++ toString e.2.length ++ "]", Harmless item.toList := by
    refine List.forall_mem_map.mpr fun e he => ?_
    have name := (names e.1 (List.mem_map_of_mem he)).harmless
    have count : Harmless ((toString e.2.length).toList ++ ']' :: []) :=
      .append_cons (by decide) (harmless_count (counts e he)) harmless_nil
    have entry : Harmless (e.1.toList ++ '[' :: ((toString e.2.length).toList ++ [']'])) :=
      .append_cons (by decide) name count
    simp only [String.toList_append, List.append_assoc]
    exact entry
  have word : Harmless "ParameterSet".toList := harmless_of_length (by decide) (by decide) (by decide) (by decide)
  have inside : Harmless ((Text.commaSeparated _).toList ++ ')' :: []) :=
    .append_cons (by decide) (harmless_commaSeparated entries) harmless_nil
  have whole : Harmless ("ParameterSet".toList ++ '(' :: _) := .append_cons (by decide) word inside
  rw [ParameterSet.shown, String.toList_append, String.toList_append]
  exact whole

end Redaction

namespace Log

open Redaction

/-! ## (3) Records -/

/-- Redaction leaves a harmless text as it is. The shown form of parameters with tame names is such a text, and comes
    through the filter any number of times, as the message of a record and as an argument. -/
theorem harmless_kept :
    (∀ s : String, Harmless s.toList → redact [] s = s) ∧
      ∀ p : ParameterSet, (∀ name ∈ p.names, IsTame name.toList) → (∀ e ∈ p.entries, e.2.length < 2 ^ 63) →
        (∀ n, (redact [])^[n] p.shown = p.shown) ∧
          ∀ (r : Record) (n : Nat),
            (r.message = .text p.shown → (r.passed n).message = .text p.shown) ∧
              ∀ xs, r.args = .sequence xs → ∃ ys, (r.passed n).args = .sequence ys ∧
                ∀ i : Nat, xs[i]? = some (Value.text p.shown) → ys[i]? = some (Value.text p.shown) := by
  refine ⟨fun s h => redact_harmless h, fun p names counts => ?_⟩
  have same : redact [] p.shown = p.shown := redact_harmless (harmless_shown names counts)
  have kept (n : Nat) : (redact [])^[n] p.shown = p.shown := Function.iterate_fixed same n
  have arg (n : Nat) : (cleanArg [])^[n] (.text p.shown) = .text p.shown :=
    Function.iterate_fixed (congrArg Value.text same) n
  refine ⟨kept, fun r n => ⟨fun message => ?_, fun xs args => ⟨xs.map (cleanArg [])^[n], ?_, fun i hi => ?_⟩⟩⟩
  · rw [passed_message message, kept]
  · rw [args_passed, args, cleanArgs_sequence]
  · rw [List.getElem?_map, hi, Option.map_some, arg]

/-- A text with dashes and a label, and parameters that are announced with their counts. -/
theorem harmless_kept_counts :
    let p : ParameterSet := ⟨[("modules", [[7]]), ("pins", [[1], [2]])], by decide, by decide⟩
    let r : Record :=
      ⟨"app", 10, .text "Built config: %s", .sequence [.text p.shown], Journal.startOfRun, none, none, []⟩
    redact [] "-----BEGIN-----, pins (2)" = "-----BEGIN-----, pins (2)" ∧
      p.shown = "ParameterSet(modules[1], pins[2])" ∧ (∀ n, (redact [])^[n] p.shown = p.shown) ∧
      ∀ n, ∃ ys, (r.passed n).args = .sequence ys ∧ ys[0]? = some (Value.text p.shown) := by
  intro p r
  have names : ∀ name ∈ p.names, IsTame name.toList :=
    List.forall_mem_cons.mpr ⟨⟨by decide, by decide, by decide, by decide⟩,
      List.forall_mem_singleton.mpr ⟨by decide, by decide, by decide, by decide⟩⟩
  obtain ⟨kept, records⟩ := harmless_kept.2 p names (by decide)
  refine ⟨harmless_kept.1 _ (harmless_of_length ?_ ?_ ?_ ?_), by decide, kept, fun n => ?_⟩
  · decide
  · decide
  · decide
  · decide
  · obtain ⟨ys, args, arg⟩ := (records r n).2 _ rfl
    exact ⟨ys, args, arg 0 rfl⟩

end Log

end KeyBundle
