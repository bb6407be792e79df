/-
  KeyBundle.Proofs.Assignments — where a name with its value is found.

  Four rules look for a name, a sign between blanks, and a value that may stand in quotes.

  (1) A pattern that is built of single characters has finitely many spellings, which are tried one after the
      other (`run_eq_spellings`).
  (2) No going back ever helps with what follows a name: blanks, signs, quotes and the characters of a value
      exclude each other. So there is one way to read it, from left to right, stage by stage (`Stage.length?`).
  (3) So the first match of such a rule is that of the first spelling that an assignment follows
      (`Naming.Lawful`, `Naming.lawful_of_mem`).
-/

import KeyBundle.Proofs.Matching
import Mathlib.Data.List.Chain

namespace KeyBundle.Redaction

open KeyBundle.Text

namespace Pattern

/-! ## (1) Spellings -/

/-- The texts of a pattern of single characters, in the order in which they are tried: a class for each character. -/
def spellings : Pattern → List (List (Char → Bool))
  | empty => [[]]
  | one accepts => [[accepts]]
  | seq p q => p.spellings.flatMap fun w => q.spellings.map (w ++ ·)
  | alt p q => p.spellings ++ q.spellings
  | many _ _ _ | few _ | boundary | atEnd => []

/-- The pattern is built of single characters. -/
def isSpelled : Pattern → Bool
  | empty | one _ => true
  | seq p q | alt p q => p.isSpelled && q.isSpelled
  | many _ _ _ | few _ | boundary | atEnd => false

/-- The text starts with characters of these classes. -/
def fits : List (Char → Bool) → List Char → Bool
  | [], _ => true
  | _ :: _, [] => false
  | f :: w, c :: t => f c && fits w t

theorem fits_append (w v : List (Char → Bool)) (t : List Char) :
    fits (w ++ v) t = (fits w t && fits v (t.drop w.length)) := by
  induction w generalizing t with
  | nil => rfl
  | cons f w ih =>
    cases t with
    | nil => rfl
    | cons c t => simp only [List.cons_append, fits, ih, Bool.and_assoc, List.length_cons, List.drop_succ_cons]

theorem run_eq_spellings {p : Pattern} (h : p.isSpelled) (here : Place) (k : Place → Option Nat) :
    p.run here k = p.spellings.findSome? fun w => if fits w here.rest then k (here.after w.length) else none := by
  induction p generalizing here k with
  | empty => simp [run, spellings, fits]
  | one accepts =>
    obtain ⟨b, t, u⟩ := here
    cases t with
    | nil => rfl
    | cons c t => by_cases hc : accepts c <;> simp [run, spellings, fits, hc, Place.after]
  | seq p q hp hq =>
    rw [isSpelled, Bool.and_eq_true] at h
    rw [run, hp h.1, spellings, findSome?_flatMap]
    congr 1
    funext w
    simp only [hq h.2, List.findSome?_map, Function.comp_def, fits_append, List.length_append, Place.after_after,
      Place.after_rest]
    cases fits w here.rest with
    | true => rfl
    | false => exact (List.findSome?_eq_none_iff.mpr fun _ _ => rfl).symm
  | alt p q hp hq =>
    rw [isSpelled, Bool.and_eq_true] at h
    rw [run, hp h.1, hq h.2, spellings, List.findSome?_append]
    cases p.spellings.findSome? _ <;> rfl
  | many | few | boundary | atEnd => cases h

theorem of_mem_spellings {P : (Char → Bool) → Prop} {p : Pattern} (h : p.All P) {w : List (Char → Bool)}
    (hw : w ∈ p.spellings) : ∀ f ∈ w, P f := by
  induction p generalizing w with
  | empty =>
    rw [List.mem_singleton.mp hw]
    nofun
  | one accepts =>
    rw [List.mem_singleton.mp hw]
    exact List.forall_mem_singleton.mpr h
  | seq p q hp hq =>
    obtain ⟨u, hu, hw⟩ := List.mem_flatMap.mp hw
    obtain ⟨v, hv, rfl⟩ := List.mem_map.mp hw
    exact List.forall_mem_append.mpr ⟨hp h.1 hu, hq h.2 hv⟩
  | alt p q hp hq => exact (List.mem_append.mp hw).elim (hp h.1) (hq h.2)
  | many | few | boundary | atEnd => cases hw

theorem all_seqs {P : (Char → Bool) → Prop} {ps : List Pattern} (h : ∀ p ∈ ps, p.All P) : (seqs ps).All P := by
  induction ps with
  | nil => trivial
  | cons p ps ih =>
    obtain ⟨hp, hps⟩ := List.forall_mem_cons.mp h
    cases ps with
    | nil => exact hp
    | cons q ps => exact ⟨hp, ih hps⟩

theorem all_word {P : (Char → Bool) → Prop} {s : String} (h : ∀ l ∈ s.toList, P (isForm l)) : (word s).All P :=
  all_seqs (List.forall_mem_map.mpr h)

/-! ## (2) Stages -/

section

variable {a : Char → Bool} {k : Place → Option Nat} {b : Option Char} {c : Char} {t : List Char} {u : Nat}

theorem used_of_mem_reach {most : Option Nat} {here q : Place} (hq : q ∈ reach a most here here.rest []) :
    here.used ≤ q.used := by
  obtain ⟨n, rfl, -⟩ := after_of_mem_reach (fun _ h => h) hq
  exact Nat.le_add_right _ _

theorem run_many (most : Option Nat) (here : Place) :
    (many a 0 most).run here k = (reach a most here here.rest []).findSome? k := by
  have all : (reach a most here here.rest []).filter (here.used + 0 ≤ ·.used) = reach a most here here.rest [] :=
    List.filter_eq_self.mpr fun q hq => decide_eq_true (used_of_mem_reach hq)
  rw [run, all]

theorem run_many_nil (most : Option Nat) : (many a 0 most).run ⟨b, [], u⟩ k = k ⟨b, [], u⟩ := by
  rw [run_many, reach, List.findSome?_singleton]

theorem run_many_neg (h : ¬a c) (most : Option Nat) : (many a 0 most).run ⟨b, c :: t, u⟩ k = k ⟨b, c :: t, u⟩ := by
  rw [run_many, reach_cons_neg h, List.findSome?_singleton]

theorem run_many_pos (h : a c) :
    (many a 0 none).run ⟨b, c :: t, u⟩ k = ((many a 0 none).run ⟨some c, t, u + 1⟩ k).or (k ⟨b, c :: t, u⟩) := by
  rw [run_many, run_many, reach_cons_pos h none (by simp), List.findSome?_append, List.findSome?_singleton]
  rfl

theorem run_upToOne_pos (h : a c) :
    (many a 0 (some 1)).run ⟨b, c :: t, u⟩ k = (k ⟨some c, t, u + 1⟩).or (k ⟨b, c :: t, u⟩) := by
  rw [run_many, reach_cons_pos h (some 1) (by simp), List.findSome?_append, List.findSome?_singleton]
  cases t <;> simp [reach]

theorem run_atLeastOne_nil : (many a 1 none).run ⟨b, [], u⟩ k = none := by
  simp [run, reach]

theorem run_atLeastOne_neg (h : ¬a c) : (many a 1 none).run ⟨b, c :: t, u⟩ k = none := by
  simp [run, reach_cons_neg h]

theorem run_atLeastOne_pos (h : a c) :
    (many a 1 none).run ⟨b, c :: t, u⟩ k = (many a 0 none).run ⟨some c, t, u + 1⟩ k := by
  have all : (reach a none ⟨some c, t, u + 1⟩ t []).filter (u + 1 ≤ ·.used) = reach a none ⟨some c, t, u + 1⟩ t [] :=
    List.filter_eq_self.mpr fun q hq => decide_eq_true (used_of_mem_reach hq)
  rw [run, run_many]
  change ((reach a none ⟨b, c :: t, u⟩ (c :: t) []).filter (u + 1 ≤ ·.used)).findSome? k = _
  rw [reach_cons_pos h none (by simp), List.filter_append, Option.map_none, all]
  simp

end

end Pattern

namespace Rule

open Pattern

def isSign (c : Char) : Bool := c == '=' || c == ':'

def isQuote (c : Char) : Bool := c == '"' || c == '\''

/-- A character of a value that is not a sign. -/
def isNameChar (c : Char) : Bool := isValueChar c && !isSign c

/-- What is read of an assignment: the rest of the name and the blanks after it, the blanks after the sign, a value
    that has been opened, a value that has begun. -/
inductive Stage where
  | name (rest : List (Char → Bool))
  | sign
  | quoted
  | value

namespace Stage

/-- How many characters an assignment goes on for, from a stage on. -/
def length? : Stage → List Char → Option Nat
  | value, [] => some 0
  | _, [] => none
  | name [], c :: t =>
    if isBlank c then (length? (name []) t).map (· + 1)
    else if isSign c then (length? sign t).map (· + 1) else none
  | name (f :: w), c :: t => if f c then (length? (name w) t).map (· + 1) else none
  | sign, c :: t =>
    if isBlank c then (length? sign t).map (· + 1)
    else if isQuote c then (length? quoted t).map (· + 1)
    else if isValueChar c then (length? value t).map (· + 1) else none
  | quoted, c :: t => if isValueChar c then (length? value t).map (· + 1) else none
  | value, c :: t =>
    if isValueChar c then (length? value t).map (· + 1) else if isQuote c then some 1 else some 0

/-- The rest of a name is made of characters for names. -/
def Named : Stage → Prop
  | name w => ∀ f ∈ w, ∀ c, f c → isNameChar c
  | sign | quoted | value => True

/-- A character either leads to a next stage or decides where the assignment ends. -/
theorem length?_cons (stage : Stage) (c : Char) :
    (∃ next, (stage.Named → next.Named) ∧ ∀ t, length? stage (c :: t) = (length? next t).map (· + 1)) ∨
      ∃ o, (∀ n ∈ o, n ≤ 1) ∧ ∀ t, length? stage (c :: t) = o := by
  cases stage with
  | name w =>
    cases w with
    | nil =>
      by_cases hb : isBlank c
      · exact .inl ⟨name [], id, fun t => by rw [length?, if_pos hb]⟩
      · by_cases hs : isSign c
        · exact .inl ⟨sign, fun _ => trivial, fun t => by rw [length?, if_neg hb, if_pos hs]⟩
        · exact .inr ⟨none, nofun, fun t => by rw [length?, if_neg hb, if_neg hs]⟩
    | cons f w =>
      by_cases hf : f c
      · exact .inl ⟨name w, fun h => (List.forall_mem_cons.mp h).2, fun t => by rw [length?, if_pos hf]⟩
      · exact .inr ⟨none, nofun, fun t => by rw [length?, if_neg hf]⟩
  | sign =>
    by_cases hb : isBlank c
    · exact .inl ⟨sign, id, fun t => by rw [length?, if_pos hb]⟩
    · by_cases hq : isQuote c
      · exact .inl ⟨quoted, id, fun t => by rw [length?, if_neg hb, if_pos hq]⟩
      · by_cases hv : isValueChar c
        · exact .inl ⟨value, id, fun t => by rw [length?, if_neg hb, if_neg hq, if_pos hv]⟩
        · exact .inr ⟨none, nofun, fun t => by rw [length?, if_neg hb, if_neg hq, if_neg hv]⟩
  | quoted =>
    by_cases hv : isValueChar c
    · exact .inl ⟨value, id, fun t => by rw [length?, if_pos hv]⟩
    · exact .inr ⟨none, nofun, fun t => by rw [length?, if_neg hv]⟩
  | value =>
    by_cases hv : isValueChar c
    · exact .inl ⟨value, id, fun t => by rw [length?, if_pos hv]⟩
    · by_cases hq : isQuote c
      · exact .inr ⟨some 1, by simp, fun t => by rw [length?, if_neg hv, if_pos hq]⟩
      · exact .inr ⟨some 0, by simp, fun t => by rw [length?, if_neg hv, if_neg hq]⟩

/-- What has to be matched from a stage on; of a name, only what comes after it. -/
def pattern : Stage → Pattern
  | name _ => assigned
  | sign => .seqs [.many isBlank 0 none, quote?, .many isValueChar 1 none, quote?]
  | quoted => .seq (.many isValueChar 1 none) quote?
  | value => .seq (.many isValueChar 0 none) quote?

theorem isSome_value (t : List Char) : (length? value t).isSome := by
  induction t with
  | nil => rfl
  | cons c t ih =>
    rw [length?]
    split
    · rwa [Option.isSome_map]
    · split <;> rfl

end Stage

theorem isBlank_of_isSign {c : Char} (h : isSign c) : isBlank c = false := by
  simp only [isSign, Bool.or_eq_true, beq_iff_eq] at h
  rcases h with rfl | rfl <;> decide

theorem isBlank_of_isQuote {c : Char} (h : isQuote c) : isBlank c = false := by
  simp only [isQuote, Bool.or_eq_true, beq_iff_eq] at h
  rcases h with rfl | rfl <;> decide

theorem isValueChar_of_isBlank {c : Char} (h : isBlank c) : isValueChar c = false := by
  rw [isValueChar, h]
  rfl

theorem isValueChar_of_isQuote {c : Char} (h : isQuote c) : isValueChar c = false := by
  simp only [isQuote, Bool.or_eq_true, beq_iff_eq] at h
  rcases h with rfl | rfl <;> rfl

theorem isValueChar_of_isSign {c : Char} (h : isSign c) : isValueChar c := by
  simp only [isSign, Bool.or_eq_true, beq_iff_eq] at h
  rcases h with rfl | rfl <;> decide

section

variable {b : Option Char} {c : Char} {t : List Char} {u : Nat} {k : Place → Option Nat}

theorem quote?_eq : quote? = .many isQuote 0 (some 1) := by
  have : "\"'".toList.contains = isQuote := by
    funext c
    simp [isQuote, Bool.beq_eq_decide_eq]
  rw [quote?, this]

theorem oneOf_signs : oneOf "=:" = .one isSign := by
  have : "=:".toList.contains = isSign := by
    funext c
    simp [isSign, Bool.beq_eq_decide_eq]
  rw [oneOf, this]

theorem run_quote?_nil : quote?.run ⟨b, [], u⟩ k = k ⟨b, [], u⟩ := run_many_nil (some 1)

theorem run_quote?_pos (h : isQuote c) :
    quote?.run ⟨b, c :: t, u⟩ k = (k ⟨some c, t, u + 1⟩).or (k ⟨b, c :: t, u⟩) := by
  rw [quote?_eq, run_upToOne_pos h]

theorem run_quote?_neg (h : ¬isQuote c) : quote?.run ⟨b, c :: t, u⟩ k = k ⟨b, c :: t, u⟩ := by
  rw [quote?_eq, run_many_neg h]

end

theorem map_succ (o : Option Nat) (u : Nat) : (o.map (· + 1)).map (u + ·) = o.map (u + 1 + ·) := by
  cases o with
  | none => rfl
  | some n =>
    change some (u + (n + 1)) = some (u + 1 + n)
    rw [Nat.add_assoc, Nat.add_comm 1]

namespace Stage

theorem run_value (b : Option Char) (t : List Char) (u : Nat) :
    value.pattern.run ⟨b, t, u⟩ used? = (value.length? t).map (u + ·) := by
  induction t generalizing b u with
  | nil => rw [pattern, run, run_many_nil, quote?, run_many_nil]; rfl
  | cons c t ih =>
    rw [length?]
    by_cases hv : isValueChar c
    · obtain ⟨n, hn⟩ := Option.isSome_iff_exists.mp (isSome_value t)
      have next := ih (some c) (u + 1)
      rw [pattern, run] at next ⊢
      rw [run_many_pos hv, next, if_pos hv, map_succ, hn]
      rfl
    · rw [pattern, run, run_many_neg hv, if_neg hv]
      by_cases hq : isQuote c
      · rw [run_quote?_pos hq, if_pos hq]; rfl
      · rw [run_quote?_neg hq, if_neg hq]; rfl

theorem run_quoted (b : Option Char) (t : List Char) (u : Nat) :
    quoted.pattern.run ⟨b, t, u⟩ used? = (quoted.length? t).map (u + ·) := by
  cases t with
  | nil => rw [pattern, run, run_atLeastOne_nil]; rfl
  | cons c t =>
    rw [length?, pattern, run]
    by_cases hv : isValueChar c
    · have next := run_value (some c) t (u + 1)
      rw [pattern, run] at next
      rw [run_atLeastOne_pos hv, next, if_pos hv, map_succ]
    · rw [run_atLeastOne_neg hv, if_neg hv]; rfl

theorem run_sign (b : Option Char) (t : List Char) (u : Nat) :
    sign.pattern.run ⟨b, t, u⟩ used? = (sign.length? t).map (u + ·) := by
  induction t generalizing b u with
  | nil =>
    change ((many isBlank 0 none).run _ fun next => quote?.run next fun next => quoted.pattern.run next used?) = none
    rw [run_many_nil, run_quote?_nil, run_quoted]
    rfl
  | cons c t ih =>
    have next := ih (some c) (u + 1)
    change ((many isBlank 0 none).run _ fun next => quote?.run next fun next => quoted.pattern.run next used?) = _
      at next ⊢
    rw [length?]
    by_cases hb : isBlank c
    · have hq : ¬isQuote c := fun h => by simp [isBlank_of_isQuote h] at hb
      rw [run_many_pos hb, next, if_pos hb, run_quote?_neg hq, run_quoted, map_succ, length?,
        if_neg (by simp [isValueChar_of_isBlank hb]), Option.map_none, Option.or_none]
    · rw [run_many_neg hb, if_neg hb]
      by_cases hq : isQuote c
      · rw [run_quote?_pos hq, if_pos hq, run_quoted, run_quoted, map_succ, length?.eq_def quoted (c :: t)]
        simp [isValueChar_of_isQuote hq]
      · rw [run_quote?_neg hq, if_neg hq, run_quoted]
        rfl

theorem run_name (b : Option Char) (t : List Char) (u : Nat) :
    assigned.run ⟨b, t, u⟩ used? = (length? (name []) t).map (u + ·) := by
  induction t generalizing b u with
  | nil =>
    change ((many isBlank 0 none).run _ fun next =>
      (oneOf "=:").run next fun next => sign.pattern.run next used?) = none
    rw [run_many_nil]
    rfl
  | cons c t ih =>
    have next := ih (some c) (u + 1)
    change ((many isBlank 0 none).run _ fun next => (oneOf "=:").run next fun next => sign.pattern.run next used?) = _
      at next ⊢
    rw [oneOf_signs] at next ⊢
    rw [length?]
    by_cases hb : isBlank c
    · have hs : ¬isSign c := fun h => by simp [isBlank_of_isSign h] at hb
      rw [run_many_pos hb, next, if_pos hb, map_succ, run.eq_def (.one isSign)]
      simp [hs]
    · rw [run_many_neg hb, if_neg hb]
      by_cases hs : isSign c
      · rw [if_pos hs, map_succ, ← run_sign (some c)]
        simp [run, hs]
      · rw [if_neg hs]
        simp [run, hs]

/-- The name fits, and then it depends on what follows the name. -/
theorem length?_name (w : List (Char → Bool)) (t : List Char) :
    length? (name w) t = if fits w t then (length? (name []) (t.drop w.length)).map (w.length + ·) else none := by
  induction w generalizing t with
  | nil => simp [fits]
  | cons f w ih =>
    cases t with
    | nil => rfl
    | cons c t =>
      rw [length?, ih, fits, List.length_cons, List.drop_succ_cons]
      by_cases hf : f c
      · cases fits w t <;> simp [hf, Function.comp_def, Nat.add_right_comm]
      · simp [hf]

end Stage

/-! ## (3) Rules -/

/-- The length of the first assignment to one of the names; a name that stands apart has to begin a word. -/
def assignment (apart : Bool) (names : Pattern) (b : Option Char) (t : List Char) : Option Nat :=
  if apart && !(⟨b, t, 0⟩ : Place).isBoundary then none
  else names.spellings.findSome? fun w => Stage.length? (.name w) t

theorem matchAt_names {names : Pattern} (h : names.isSpelled) (b : Option Char) (t : List Char) :
    (seq names assigned).matchAt b t = names.spellings.findSome? fun w => Stage.length? (.name w) t := by
  rw [matchAt, run, run_eq_spellings h]
  congr 1
  funext w
  rw [Stage.length?_name]
  congr 1
  exact (Stage.run_name _ _ _).trans (by rw [Nat.zero_add])

/-- A class of characters for names, in which capitals are along with their small letters. -/
structure IsNameClass (accepts : Char → Bool) : Prop where
  within (c : Char) : accepts c → isNameChar c
  folds (c : Char) : accepts c.toLower → accepts c

theorem toNat_of_isUpper {c : Char} (h : c.isUpper) : 65 ≤ c.toNat ∧ c.toNat ≤ 90 := by
  have : c.val ≥ 'A'.val ∧ c.val ≤ 'Z'.val := of_decide_eq_true h
  exact this

theorem isNameChar_of_isUpper {c : Char} (h : c.isUpper) : isNameChar c := by
  obtain ⟨h₁, h₂⟩ := toNat_of_isUpper h
  have ne (d : Char) (hd : d.toNat < 65) : (c == d) = false := by
    rw [beq_eq_false_iff_ne]
    rintro rfl
    omega
  have blank : isBlank c = false := by
    simp [isBlank, blankRanges, Ranges.holds]
    omega
  simp [isNameChar, isValueChar, isSign, blank, ne]

def capitals : List Char := (List.range 26).map fun n => Char.ofNat (65 + n)

theorem mem_capitals {c : Char} (h : c.isUpper) : c ∈ capitals := by
  obtain ⟨h₁, h₂⟩ := toNat_of_isUpper h
  refine List.mem_map.mpr ⟨c.toNat - 65, List.mem_range.mpr (by omega), ?_⟩
  rw [Nat.add_sub_cancel' h₁, Char.ofNat_toNat]

theorem of_toLower {accepts : Char → Bool} (h : ∀ c ∈ capitals, accepts c.toLower → accepts c) (c : Char)
    (hc : accepts c.toLower) : accepts c := by
  rcases isUpper_or_toLower c with hu | hl
  · exact h c (mem_capitals hu) hc
  · rwa [hl] at hc

theorem isNameClass_isForm {l : Char} (hl : isNameChar l) : IsNameClass (isForm l) where
  within c h := by
    have further : ∀ c ∈ ['İ', 'ı', 'ſ', '\u212A'], isNameChar c := by decide
    obtain rfl | hu | ⟨-, hc⟩ := isForm_cases h
    · exact hl
    · exact isNameChar_of_isUpper hu
    · exact further c hc
  folds := by
    have small : ∀ c ∈ capitals, c.toLower.toLower = c.toLower ∧ c.toLower ∉ ['İ', 'ı', 'ſ', '\u212A'] := by decide
    refine of_toLower fun c hc h => ?_
    obtain ⟨hlow, hfurther⟩ := small c hc
    simp only [List.mem_cons, List.not_mem_nil, or_false, not_or] at hfurther
    simp only [isForm, hlow, hfurther, Bool.or_eq_true, Bool.and_eq_true, beq_iff_eq, or_self, and_false,
      or_false] at h ⊢
    exact .inl (.inl (.inl h))

theorem isNameClass_joint : IsNameClass "_-".toList.contains where
  within c h := by
    rcases (by simpa using h : c = '_' ∨ c = '-') with rfl | rfl <;> decide
  folds := of_toLower (by decide)

theorem names_word {s : String} (hs : ∀ l ∈ s.toList, isNameChar l) : (word s).All IsNameClass :=
  all_word fun l hl => isNameClass_isForm (hs l hl)

/-- A rule for names with values, whether its names have to stand apart, and the names. -/
structure Naming where
  rule : Rule
  apart : Bool
  names : Pattern

namespace Naming

/-- What the rules for names have in common. -/
structure Lawful (n : Naming) : Prop where
  matchAt_eq (b : Option Char) (t : List Char) : n.rule.pattern.matchAt b t = assignment n.apart n.names b t
  least_pos : 0 < n.rule.pattern.least
  classes : n.names.All IsNameClass
  names_pos (w : List (Char → Bool)) : w ∈ n.names.spellings → 0 < w.length
  /-- No name starts with a dash, and none has two in a row. -/
  dashes (w : List (Char → Bool)) : w ∈ n.names.spellings → ((fun _ => true) :: w).IsChain fun f g => ¬(f '-' ∧ g '-')
  label_value (c : Char) : c ∈ n.rule.label → isValueChar c

def passwords : Naming := ⟨password, false, .alts [.word "password", .word "passwd", .word "pwd"]⟩

def pins : Naming := ⟨pin, true, .seq (.word "pin") (.opt (.word "s"))⟩

def tokens : Naming := ⟨token, false, .alts [.word "token", .word "bearer"]⟩

def secrets : Naming := ⟨secret, false, .alt (.word "secret")
  (.seqs [.word "priv", .opt (.word "ate"), .opt (.oneOf "_-"), .word "key", .opt (.word "s")])⟩

theorem lawful_passwords : passwords.Lawful where
  matchAt_eq := matchAt_names (by decide)
  least_pos := by decide
  classes := ⟨names_word (by decide), names_word (by decide), names_word (by decide)⟩
  names_pos := by decide +kernel
  dashes := by decide +kernel
  label_value := by decide

theorem lawful_pins : pins.Lawful where
  matchAt_eq b t := by
    have named : (seq pins.names assigned).matchAt b t = _ := matchAt_names (by decide) b t
    rw [assignment, ← named, matchAt, matchAt]
    cases h : (⟨b, t, 0⟩ : Place).isBoundary <;> simp [pins, pin, seqs, run, h]
  least_pos := by decide
  classes := ⟨names_word (by decide), names_word (by decide), trivial⟩
  names_pos := by decide +kernel
  dashes := by decide +kernel
  label_value := by decide

theorem lawful_tokens : tokens.Lawful where
  matchAt_eq := matchAt_names (by decide)
  least_pos := by decide
  classes := ⟨names_word (by decide), names_word (by decide)⟩
  names_pos := by decide +kernel
  dashes := by decide +kernel
  label_value := by decide

theorem lawful_secrets : secrets.Lawful where
  matchAt_eq := matchAt_names (by decide)
  least_pos := by decide
  classes := ⟨names_word (by decide), names_word (by decide), ⟨names_word (by decide), trivial⟩,
    ⟨isNameClass_joint, trivial⟩, names_word (by decide), names_word (by decide), trivial⟩
  names_pos := by decide +kernel
  dashes := by decide +kernel
  label_value := by decide

/-- The rules for names, in the order of their application. -/
def all : List Naming := [passwords, pins, tokens, secrets]

theorem lawful_of_mem {n : Naming} (h : n ∈ all) : n.Lawful := by
  simp only [all, List.mem_cons, List.not_mem_nil, or_false] at h
  rcases h with rfl | rfl | rfl | rfl
  · exact lawful_passwords
  · exact lawful_pins
  · exact lawful_tokens
  · exact lawful_secrets

namespace Lawful

variable {n : Naming} (h : n.Lawful)

include h

theorem named {w : List (Char → Bool)} (hw : w ∈ n.names.spellings) : Stage.Named (.name w) :=
  fun f hf => (of_mem_spellings h.classes hw f hf).within

/-- A rule for names takes something wherever it matches. -/
theorem exists_succ {b : Option Char} {t : List Char} {k : Nat} (hk : n.rule.pattern.matchAt b t = some k) :
    ∃ m, k = m + 1 :=
  Nat.exists_eq_add_one.mpr (Nat.le_trans h.least_pos (of_matchAt n.rule.pattern.within_true hk).1)

theorem matchAt_nil (b : Option Char) : n.rule.pattern.matchAt b [] = none := by
  cases hk : n.rule.pattern.matchAt b [] with
  | none => rfl
  | some k =>
    obtain ⟨m, rfl⟩ := h.exists_succ hk
    cases le_of_matchAt hk

end Lawful

end Naming

end Rule

end KeyBundle.Redaction
