/-
  KeyBundle.Proofs.Matching — where patterns match, and what replacement does to a text.

  Running a pattern tries the ways in which it can match, each together with all that has to follow. What follows
  left aside, a pattern has a list of ends, in the order in which they are tried (`Pattern.ends`).

  (1) Running a pattern is finding the first end that serves (`run_eq_findSome?`); so a match is the first of its
      ends (`matchAt_eq`).
  (2) A match takes at least what the pattern needs, and characters of its classes only (`after_of_mem_ends`). It
      does not come past a character that the pattern has no use for, nor does it depend on what is behind
      that (`matchAt_append`).
  (3) Replacement copies what no match starts in (`replaceFrom_inert`), goes on behind a match as from any
      other place (`replaceFrom_skip`), and goes on both sides of a character that the pattern has no use for as
      if there were nothing else (`replaceFrom_append`).
-/

import KeyBundle.Redaction.Rules
import Mathlib.Data.List.TakeWhile

namespace KeyBundle.Redaction

section Decidable

variable (p : Char → Prop) [DecidablePred p]

-- preferred to a search through all characters there are
instance (priority := high) decidableForallList (s : List Char) : Decidable (∀ c ∈ s, p c) := List.decidableBAll p s

instance (priority := high) decidableForallOption (o : Option Char) : Decidable (∀ c ∈ o, p c) := o.decidableForallMem

end Decidable

/-- The last character of a text that comes after another one. -/
def lastOf : Option Char → List Char → Option Char
  | before, [] => before
  | _, c :: s => lastOf (some c) s

@[simp] theorem lastOf_nil (b : Option Char) : lastOf b [] = b := rfl

@[simp] theorem lastOf_cons (b : Option Char) (c : Char) (s : List Char) : lastOf b (c :: s) = lastOf (some c) s := rfl

@[simp] theorem lastOf_append (b : Option Char) (s t : List Char) : lastOf b (s ++ t) = lastOf (lastOf b s) t := by
  induction s generalizing b with
  | nil => rfl
  | cons c s ih => exact ih (some c)

theorem lastOf_eq (b : Option Char) (s : List Char) : lastOf b s = s.getLast?.or b := by
  induction s generalizing b with
  | nil => rfl
  | cons c s ih =>
    rw [lastOf_cons, ih, List.getLast?_cons]
    cases s.getLast? <;> rfl

namespace Place

/-- The place after so many more characters. -/
def after (p : Place) (n : Nat) : Place := ⟨lastOf p.before (p.rest.take n), p.rest.drop n, p.used + n⟩

@[simp] theorem after_zero (p : Place) : p.after 0 = p := rfl

@[simp] theorem after_rest (p : Place) (n : Nat) : (p.after n).rest = p.rest.drop n := rfl

@[simp] theorem after_used (p : Place) (n : Nat) : (p.after n).used = p.used + n := rfl

theorem after_succ (b : Option Char) (c : Char) (r : List Char) (u n : Nat) :
    (⟨b, c :: r, u⟩ : Place).after (n + 1) = (⟨some c, r, u + 1⟩ : Place).after n := by
  simp only [after, List.take_succ_cons, lastOf_cons, List.drop_succ_cons, Nat.add_assoc, Nat.add_comm 1 n]

theorem after_after (p : Place) (m n : Nat) : (p.after m).after n = p.after (m + n) := by
  simp only [after, List.drop_drop, Nat.add_assoc, List.take_add, lastOf_append]

/-- The place with more text behind it. -/
def extend (p : Place) (t : List Char) : Place := { p with rest := p.rest ++ t }

end Place

/-- How many characters of a class a text starts with. -/
def runLength (a : Char → Bool) (t : List Char) : Nat := (t.takeWhile a).length

section

variable {a : Char → Bool} {c : Char} {t : List Char}

theorem runLength_cons_pos (h : a c) : runLength a (c :: t) = runLength a t + 1 := by
  rw [runLength, List.takeWhile_cons_of_pos h, List.length_cons, runLength]

theorem runLength_cons_neg (h : ¬a c) : runLength a (c :: t) = 0 := by
  rw [runLength, List.takeWhile_cons_of_neg h, List.length_nil]

/-- A character of another class ends the run. -/
theorem runLength_append_cons {d : Char} (h : ¬a d) (s w : List Char) : runLength a (s ++ d :: w) = runLength a s := by
  induction s with
  | nil => exact runLength_cons_neg h
  | cons c s ih =>
    rw [List.cons_append]
    by_cases hc : a c
    · rw [runLength_cons_pos hc, runLength_cons_pos hc, ih]
    · rw [runLength_cons_neg hc, runLength_cons_neg hc]

theorem runLength_mono {accepts : Char → Bool} (h : ∀ c, accepts c → a c) (t : List Char) :
    runLength accepts t ≤ runLength a t := by
  induction t with
  | nil => exact Nat.le_refl 0
  | cons c t ih =>
    by_cases hc : accepts c
    · rw [runLength_cons_pos hc, runLength_cons_pos (h c hc)]
      exact Nat.succ_le_succ ih
    · rw [runLength_cons_neg hc]
      exact Nat.zero_le _

theorem forall_mem_take {n : Nat} (h : n ≤ runLength a t) : ∀ c ∈ t.take n, a c := by
  have taken : t.take n <+: t.takeWhile a :=
    List.prefix_of_prefix_length_le (List.take_prefix n t) (List.takeWhile_prefix a)
      (Nat.le_trans (List.length_take_le n t) h)
  exact fun c hc => List.mem_takeWhile_imp (taken.mem hc)

theorem add_le_runLength {m n : Nat} (hm : m ≤ runLength a t) (hn : n ≤ runLength a (t.drop m)) :
    m + n ≤ runLength a t := by
  induction t generalizing m with
  | nil =>
    rw [List.drop_nil] at hn
    simp only [runLength, List.takeWhile_nil, List.length_nil] at hm hn ⊢
    omega
  | cons c t ih =>
    cases m with
    | zero => simpa using hn
    | succ m =>
      by_cases hc : a c
      · rw [runLength_cons_pos hc] at hm ⊢
        have := ih (Nat.le_of_succ_le_succ hm) hn
        omega
      · rw [runLength_cons_neg hc] at hm
        omega

end

namespace Pattern

theorem isUpper_or_toLower (c : Char) : c.isUpper ∨ c.toLower = c := by
  by_cases h : c.val ≥ 'A'.val ∧ c.val ≤ 'Z'.val
  · exact .inl (decide_eq_true h)
  · exact .inr (dif_neg h)

/-- The forms of a letter are the letter itself, a capital, and for three letters one of four more. -/
theorem isForm_cases {l c : Char} (h : isForm l c) :
    c = l ∨ c.isUpper ∨ l ∈ ['i', 's', 'k'] ∧ c ∈ ['İ', 'ı', 'ſ', '\u212A'] := by
  simp only [isForm, Bool.or_eq_true, Bool.and_eq_true, beq_iff_eq] at h
  rcases h with ((h | ⟨rfl, rfl | rfl⟩) | ⟨rfl, rfl⟩) | ⟨rfl, rfl⟩
  · rcases isUpper_or_toLower c with hu | hl
    · exact .inr (.inl hu)
    · exact .inl (hl.symm.trans h)
  all_goals exact .inr (.inr (by decide))

/-! ## (1) Ends -/

/-- Where a match can end that starts at a place, in the order in which the ends are tried. -/
def ends : Pattern → Place → List Place
  | empty, here => [here]
  | one accepts, here =>
    match here.rest with
    | [] => []
    | c :: cs => if accepts c then [⟨some c, cs, here.used + 1⟩] else []
  | seq p q, here => (p.ends here).flatMap q.ends
  | alt p q, here => p.ends here ++ q.ends here
  | many accepts least most, here => (reach accepts most here here.rest []).filter (here.used + least ≤ ·.used)
  | few accepts, here => (reach accepts none here here.rest []).reverse
  | boundary, here => if here.isBoundary then [here] else []
  | atEnd, here => if here.isLast then [here] else []

theorem findSome?_flatMap {α β γ : Type} (l : List α) (f : α → List β) (g : β → Option γ) :
    (l.flatMap f).findSome? g = l.findSome? fun a => (f a).findSome? g := by
  induction l with
  | nil => rfl
  | cons a l ih =>
    rw [List.flatMap_cons, List.findSome?_append, ih, List.findSome?_cons]
    cases (f a).findSome? g <;> rfl

theorem run_eq_findSome? (p : Pattern) (here : Place) (k : Place → Option Nat) :
    p.run here k = (p.ends here).findSome? k := by
  induction p generalizing here k with
  | empty => simp [run, ends]
  | one accepts =>
    unfold run ends
    cases here.rest with
    | nil => rfl
    | cons c cs => by_cases h : accepts c <;> simp [h]
  | seq p q hp hq =>
    rw [run, ends, hp, findSome?_flatMap]
    simp only [hq]
  | alt p q hp hq =>
    rw [run, ends, List.findSome?_append, hp, hq]
    cases (p.ends here).findSome? k <;> rfl
  | many accepts least most => rfl
  | few accepts => rfl
  | boundary => by_cases h : here.isBoundary <;> simp [run, ends, h]
  | atEnd => by_cases h : here.isLast <;> simp [run, ends, h]

/-- The first end that is tried. -/
def first (p : Pattern) (here : Place) : Option Place := (p.ends here).head?

/-- What is used of the text at the end of a match. -/
def used? (last : Place) : Option Nat := some last.used

theorem run_used (p : Pattern) (here : Place) : p.run here used? = (p.first here).map (·.used) := by
  rw [run_eq_findSome?, first]
  cases p.ends here <;> rfl

theorem matchAt_eq (p : Pattern) (b : Option Char) (t : List Char) :
    p.matchAt b t = (p.first ⟨b, t, 0⟩).map (·.used) :=
  run_used p ⟨b, t, 0⟩

theorem exists_matchAt {p : Pattern} {b : Option Char} {t : List Char} {q : Place} (h : q ∈ p.ends ⟨b, t, 0⟩) :
    ∃ m, p.matchAt b t = some m := by
  rw [matchAt_eq, first]
  exact ⟨_, Option.map_eq_some_iff.mpr ⟨_, List.head?_eq_some_head (List.ne_nil_of_mem h), rfl⟩⟩

theorem exists_mem_ends {p : Pattern} {b : Option Char} {t : List Char} {m : Nat} (h : p.matchAt b t = some m) :
    ∃ q, q ∈ p.ends ⟨b, t, 0⟩ := by
  rw [matchAt_eq, Option.map_eq_some_iff] at h
  obtain ⟨q, hq, -⟩ := h
  exact ⟨q, List.mem_of_head? hq⟩

theorem first_seq_of_singleton {p q : Pattern} {here next : Place} (h : p.ends here = [next]) :
    (seq p q).first here = q.first next := by
  rw [first, ends, h, List.flatMap_singleton, first]

theorem ends_seqs_cons (p : Pattern) (ps : List Pattern) (here : Place) :
    (seqs (p :: ps)).ends here = (p.ends here).flatMap (seqs ps).ends := by
  cases ps with
  | nil => exact (List.flatMap_singleton' _).symm
  | cons q ps => rfl

theorem ends_exactly (s : List Char) (here : Place) :
    (exactly s).ends here = if s <+: here.rest then [here.after s.length] else [] := by
  obtain ⟨b, t, u⟩ := here
  induction s generalizing b t u with
  | nil => simp [exactly, seqs, ends]
  | cons c s ih =>
    rw [exactly, List.map_cons, ends_seqs_cons]
    cases t with
    | nil => simp [ends]
    | cons d t =>
      by_cases h : d = c
      · subst h
        have rest := ih (some d) t (u + 1)
        rw [exactly] at rest
        simp [ends, rest, Place.after_succ]
      · have h' : ¬c = d := fun e => h e.symm
        simp [ends, h, h']

theorem rest_of_mem_ends_exactly {s : List Char} {here q : Place} (hq : q ∈ (exactly s).ends here) :
    here.rest = s ++ q.rest := by
  rw [ends_exactly] at hq
  split at hq
  · next h =>
    rw [List.mem_singleton.mp hq]
    exact List.prefix_iff_eq_append.mp h |>.symm
  · cases hq

/-! ## (2) How far a match comes -/

theorem reach_append (accepts : Char → Bool) (most : Option Nat) (here : Place) (t : List Char) (found : List Place) :
    reach accepts most here t found = reach accepts most here t [] ++ found := by
  induction t generalizing most here found with
  | nil => simp [reach]
  | cons c t ih =>
    match most with
    | some 0 => simp [reach]
    | none | some (n + 1) =>
      simp only [reach]
      split
      · rw [ih _ _ (here :: found), ih _ _ [here], List.append_assoc]
        rfl
      · rfl

theorem reach_cons_pos {accepts : Char → Bool} {c : Char} (h : accepts c) (most : Option Nat) (hm : most ≠ some 0)
    (b : Option Char) (t : List Char) (u : Nat) :
    reach accepts most ⟨b, c :: t, u⟩ (c :: t) [] =
      reach accepts (most.map (· - 1)) ⟨some c, t, u + 1⟩ t [] ++ [⟨b, c :: t, u⟩] := by
  match most with
  | some 0 => exact absurd rfl hm
  | none | some (n + 1) =>
    simp only [reach, if_pos h]
    exact reach_append ..

theorem reach_cons_neg {accepts : Char → Bool} {c : Char} (h : ¬accepts c) (most : Option Nat) (here : Place)
    (t : List Char) : reach accepts most here (c :: t) [] = [here] := by
  match most with
  | none | some 0 | some (n + 1) => simp [reach, h]

/-- A repetition can end after any number of characters of its class, up to its limit. -/
theorem reach_eq (accepts : Char → Bool) (most : Option Nat) (b : Option Char) (t : List Char) (u : Nat) :
    reach accepts most ⟨b, t, u⟩ t [] =
      (List.range (most.elim (runLength accepts t) (min (runLength accepts t)) + 1)).reverse.map
        (⟨b, t, u⟩ : Place).after := by
  induction t generalizing most b u with
  | nil => cases most <;> simp [reach, runLength]
  | cons c t ih =>
    have longer (n : Nat) :
        (List.range (n + 1)).reverse.map (⟨some c, t, u + 1⟩ : Place).after ++ [⟨b, c :: t, u⟩] =
          (List.range (n + 1 + 1)).reverse.map (⟨b, c :: t, u⟩ : Place).after := by
      rw [List.range_succ_eq_map (n := n + 1), List.reverse_cons, List.map_append, ← List.map_reverse, List.map_map,
        List.map_singleton, Place.after_zero]
      exact congrArg (· ++ _) (List.map_congr_left fun k _ => (Place.after_succ b c t u k).symm)
    by_cases h : accepts c
    · match most with
      | some 0 => simp [reach]
      | none =>
        rw [reach_cons_pos h none (by simp), Option.map_none, ih, runLength_cons_pos h]
        exact longer _
      | some (k + 1) =>
        rw [reach_cons_pos h (some (k + 1)) (by simp), Option.map_some, ih, runLength_cons_pos h]
        simp only [Option.elim_some, Nat.add_sub_cancel, Nat.add_min_add_right]
        exact longer _
    · rw [reach_cons_neg h, runLength_cons_neg h]
      cases most <;> simp

/-- The number of characters that every match takes. -/
def least : Pattern → Nat
  | one _ => 1
  | seq p q => p.least + q.least
  | alt p q => min p.least q.least
  | many _ least _ => least
  | empty | few _ | boundary | atEnd => 0

/-- All classes of the pattern are of a kind. -/
def All (P : (Char → Bool) → Prop) : Pattern → Prop
  | one accepts | many accepts _ _ | few accepts => P accepts
  | seq p q | alt p q => p.All P ∧ q.All P
  | empty | boundary | atEnd => True

/-- All classes of the pattern are part of this one. -/
def Within (a : Char → Bool) (p : Pattern) : Prop := p.All fun accepts => ∀ c, accepts c → a c

theorem mem_ends_many {accepts : Char → Bool} {least : Nat} {here q : Place} :
    q ∈ (many accepts least none).ends here ↔
      ∃ n, least ≤ n ∧ n ≤ runLength accepts here.rest ∧ q = here.after n := by
  obtain ⟨b, t, u⟩ := here
  rw [ends, reach_eq, List.mem_filter, List.mem_map]
  simp only [Option.elim_none, List.mem_reverse, List.mem_range, decide_eq_true_eq]
  constructor
  · rintro ⟨⟨n, hn, rfl⟩, hl⟩
    exact ⟨n, Nat.le_of_add_le_add_left hl, Nat.le_of_lt_succ hn, rfl⟩
  · rintro ⟨n, hl, hn, rfl⟩
    exact ⟨⟨n, Nat.lt_succ_of_le hn, rfl⟩, Nat.add_le_add_left hl u⟩

theorem self_mem_ends_many (accepts : Char → Bool) (most : Option Nat) (here : Place) :
    here ∈ (many accepts 0 most).ends here := by
  rw [ends, reach_eq]
  simp only [List.mem_filter, List.mem_map, List.mem_reverse, List.mem_range]
  exact ⟨⟨0, Nat.succ_pos _, rfl⟩, decide_eq_true (Nat.le_refl _)⟩

theorem first_many_seq {a : Char → Bool} {l : Nat} {p : Pattern} {here q : Place}
    (hl : l ≤ runLength a here.rest) (h : p.first (here.after (runLength a here.rest)) = some q) :
    (seq (many a l none) p).first here = some q := by
  obtain ⟨b, t, u⟩ := here
  have farthest : ∃ places, reach a none ⟨b, t, u⟩ t [] = (⟨b, t, u⟩ : Place).after (runLength a t) :: places := by
    rw [reach_eq, Option.elim_none, List.range_succ, List.reverse_append]
    exact ⟨_, rfl⟩
  obtain ⟨places, hplaces⟩ := farthest
  have enough : decide (u + l ≤ ((⟨b, t, u⟩ : Place).after (runLength a t)).used) :=
    decide_eq_true (Nat.add_le_add_left hl u)
  rw [first] at h
  rw [first, ends, ends, hplaces]
  rw [List.filter_cons, if_pos enough, List.flatMap_cons, List.head?_append, h]
  rfl

theorem after_of_mem_reach {a accepts : Char → Bool} (h : ∀ c, accepts c → a c) {most : Option Nat} {here q : Place}
    (hq : q ∈ reach accepts most here here.rest []) : ∃ n, q = here.after n ∧ n ≤ runLength a here.rest := by
  obtain ⟨b, t, u⟩ := here
  rw [reach_eq, List.mem_map] at hq
  obtain ⟨n, hn, rfl⟩ := hq
  refine ⟨n, rfl, Nat.le_trans ?_ (runLength_mono h t)⟩
  rw [List.mem_reverse, List.mem_range] at hn
  cases most with
  | none => exact Nat.le_of_lt_succ hn
  | some k => exact Nat.le_trans (Nat.le_of_lt_succ hn) (Nat.min_le_left _ _)

/-- A match takes what it needs at least, and characters of its classes only. -/
theorem after_of_mem_ends {a : Char → Bool} {p : Pattern} (h : p.Within a) {here q : Place} (hq : q ∈ p.ends here) :
    ∃ n, q = here.after n ∧ p.least ≤ n ∧ n ≤ runLength a here.rest := by
  induction p generalizing here q with
  | empty => exact ⟨0, List.mem_singleton.mp hq, Nat.le_refl 0, Nat.zero_le _⟩
  | one accepts =>
    obtain ⟨b, t, u⟩ := here
    cases t with
    | nil => cases hq
    | cons c t =>
      simp only [ends] at hq
      split at hq
      · next hc =>
        refine ⟨1, List.mem_singleton.mp hq, Nat.le_refl 1, ?_⟩
        rw [runLength_cons_pos (h c hc)]
        omega
      · cases hq
  | seq p q ihp ihq =>
    obtain ⟨_, hm, hend⟩ := List.mem_flatMap.mp hq
    obtain ⟨m, rfl, hml, hmr⟩ := ihp h.1 hm
    obtain ⟨n, rfl, hnl, hnr⟩ := ihq h.2 hend
    exact ⟨m + n, Place.after_after .., Nat.add_le_add hml hnl, add_le_runLength hmr hnr⟩
  | alt p q ihp ihq =>
    rcases List.mem_append.mp hq with hq | hq
    · obtain ⟨n, rfl, hl, hr⟩ := ihp h.1 hq
      exact ⟨n, rfl, Nat.le_trans (Nat.min_le_left _ _) hl, hr⟩
    · obtain ⟨n, rfl, hl, hr⟩ := ihq h.2 hq
      exact ⟨n, rfl, Nat.le_trans (Nat.min_le_right _ _) hl, hr⟩
  | many accepts least most =>
    obtain ⟨hq, hl⟩ := List.mem_filter.mp hq
    obtain ⟨n, rfl, hr⟩ := after_of_mem_reach h hq
    refine ⟨n, rfl, ?_, hr⟩
    rw [decide_eq_true_eq, Place.after_used] at hl
    exact Nat.le_of_add_le_add_left hl
  | few accepts =>
    obtain ⟨n, rfl, hr⟩ := after_of_mem_reach h (List.mem_reverse.mp hq)
    exact ⟨n, rfl, Nat.zero_le n, hr⟩
  | boundary =>
    rw [ends] at hq
    split at hq
    · exact ⟨0, List.mem_singleton.mp hq, Nat.le_refl 0, Nat.zero_le _⟩
    · cases hq
  | atEnd =>
    rw [ends] at hq
    split at hq
    · exact ⟨0, List.mem_singleton.mp hq, Nat.le_refl 0, Nat.zero_le _⟩
    · cases hq

theorem within_true (p : Pattern) : p.Within fun _ => true := by
  induction p with
  | seq p q hp hq | alt p q hp hq => exact ⟨hp, hq⟩
  | one | many | few => exact fun _ _ => rfl
  | empty | boundary | atEnd => trivial

theorem of_matchAt {a : Char → Bool} {p : Pattern} (h : p.Within a) {b : Option Char} {t : List Char} {n : Nat}
    (hm : p.matchAt b t = some n) : p.least ≤ n ∧ n ≤ runLength a t := by
  rw [matchAt_eq, Option.map_eq_some_iff] at hm
  obtain ⟨q, hq, rfl⟩ := hm
  obtain ⟨n, rfl, hl, hr⟩ := after_of_mem_ends h (List.mem_of_head? hq)
  rw [Place.after_used, Nat.zero_add]
  exact ⟨hl, hr⟩

theorem le_of_matchAt {p : Pattern} {b : Option Char} {t : List Char} {n : Nat} (h : p.matchAt b t = some n) :
    n ≤ t.length :=
  Nat.le_trans (of_matchAt p.within_true h).2 (List.takeWhile_sublist _).length_le

/-- A pattern that needs something takes something where it has an end. -/
theorem positive_matchAt {p : Pattern} (hp : 0 < p.least) {b : Option Char} {t : List Char} {q : Place}
    (h : q ∈ p.ends ⟨b, t, 0⟩) : ∃ m, p.matchAt b t = some (m + 1) := by
  obtain ⟨m, hm⟩ := exists_matchAt h
  have := (of_matchAt p.within_true hm).1
  exact ⟨m - 1, by rw [hm, Nat.sub_add_cancel (Nat.le_trans hp this)]⟩

/-- No class of the pattern takes the character, and its matches do not depend on what is around them. -/
def avoids (d : Char) : Pattern → Bool
  | empty => true
  | one accepts | many accepts _ _ | few accepts => !accepts d
  | seq p q | alt p q => p.avoids d && q.avoids d
  | boundary | atEnd => false

variable {d : Char}

theorem reach_extend {accepts : Char → Bool} (h : accepts d = false) (z : List Char) (most : Option Nat) (here : Place)
    (t : List Char) (found : List Place) :
    reach accepts most (here.extend (d :: z)) (t ++ d :: z) (found.map (·.extend (d :: z))) =
      (reach accepts most here t found).map (·.extend (d :: z)) := by
  induction t generalizing most here found with
  | nil =>
    match most with
    | none | some 0 | some (n + 1) => simp [reach, h]
  | cons c t ih =>
    match most with
    | some 0 => rfl
    | none | some (n + 1) =>
      simp only [reach, List.cons_append]
      split
      · exact ih _ ⟨some c, t, here.used + 1⟩ (here :: found)
      · rfl

theorem ends_extend {p : Pattern} (h : p.avoids d) (z : List Char) (here : Place) :
    p.ends (here.extend (d :: z)) = (p.ends here).map (·.extend (d :: z)) := by
  induction p generalizing here with
  | empty => rfl
  | one accepts =>
    obtain ⟨b, t, u⟩ := here
    have hd : accepts d = false := by simpa [avoids] using h
    cases t with
    | nil => simp [ends, Place.extend, hd]
    | cons c cs => by_cases hc : accepts c <;> simp [ends, Place.extend, hc]
  | seq p q hp hq =>
    simp only [avoids, Bool.and_eq_true] at h
    rw [ends, ends, hp h.1, List.map_flatMap, List.flatMap_map]
    exact congrArg (List.flatMap · _) (funext fun next => hq h.2 next)
  | alt p q hp hq =>
    simp only [avoids, Bool.and_eq_true] at h
    rw [ends, ends, hp h.1, hq h.2, List.map_append]
  | many accepts least most =>
    have hd : accepts d = false := by simpa [avoids] using h
    have reached := reach_extend hd z most here here.rest []
    rw [ends, ends, show (here.extend (d :: z)).rest = here.rest ++ d :: z from rfl]
    rw [List.map_nil] at reached
    rw [reached, List.filter_map]
    rfl
  | few accepts =>
    have hd : accepts d = false := by simpa [avoids] using h
    have reached := reach_extend hd z none here here.rest []
    rw [ends, ends, show (here.extend (d :: z)).rest = here.rest ++ d :: z from rfl]
    rw [List.map_nil] at reached
    rw [reached, List.map_reverse]
  | boundary => cases h
  | atEnd => cases h

theorem first_extend {p : Pattern} (h : p.avoids d) (b : Option Char) (s z : List Char) (u : Nat) :
    p.first ⟨b, s ++ d :: z, u⟩ = (p.first ⟨b, s, u⟩).map (·.extend (d :: z)) := by
  have extended := ends_extend h z ⟨b, s, u⟩
  rw [show (⟨b, s, u⟩ : Place).extend (d :: z) = ⟨b, s ++ d :: z, u⟩ from rfl] at extended
  rw [first, first, extended, List.head?_map]

/-- A character that the pattern has no use for ends the text as far as the pattern is concerned. -/
theorem matchAt_append {p : Pattern} (h : p.avoids d) (b : Option Char) (s z : List Char) :
    p.matchAt b (s ++ d :: z) = p.matchAt b s := by
  rw [matchAt_eq, matchAt_eq, first_extend h, Option.map_map]
  rfl

/-! ## (3) Replacement -/

variable {p : Pattern} {label : List Char} {b : Option Char}

theorem replaceFrom_nil (h : p.matchAt b [] = none) (skip : Nat) : p.replaceFrom label skip b [] = [] := by
  cases skip <;> (rw [replaceFrom, h]; rfl)

theorem replaceFrom_none {c : Char} {s : List Char} (h : p.matchAt b (c :: s) = none) :
    p.replaceFrom label 0 b (c :: s) = c :: p.replaceFrom label 0 (some c) s := by
  rw [replaceFrom, h]

theorem replaceFrom_some {c : Char} {s : List Char} {n : Nat} (h : p.matchAt b (c :: s) = some (n + 1)) :
    p.replaceFrom label 0 b (c :: s) = label ++ p.replaceFrom label n (some c) s := by
  rw [replaceFrom, h]

/-- Behind a match, replacement goes on as from any other place. -/
theorem replaceFrom_skip (s t : List Char) :
    p.replaceFrom label s.length b (s ++ t) = p.replaceFrom label 0 (lastOf b s) t := by
  induction s generalizing b with
  | nil => rfl
  | cons c s ih =>
    rw [List.length_cons, List.cons_append, replaceFrom, lastOf_cons]
    exact ih

/-- A match that takes a text of known length. -/
theorem replaceFrom_match {m z : List Char} (hm : m ≠ []) (h : p.matchAt b (m ++ z) = some m.length) :
    p.replaceFrom label 0 b (m ++ z) = label ++ p.replaceFrom label 0 (lastOf b m) z := by
  cases m with
  | nil => exact absurd rfl hm
  | cons c m =>
    rw [List.cons_append] at h ⊢
    rw [replaceFrom_some h, replaceFrom_skip, lastOf_cons]

/-- Text that no match starts in is copied. -/
theorem replaceFrom_inert {s t : List Char} (h : ∀ v, v <:+ s → v ≠ [] → ∀ b, p.matchAt b (v ++ t) = none) :
    p.replaceFrom label 0 b (s ++ t) = s ++ p.replaceFrom label 0 (lastOf b s) t := by
  induction s generalizing b with
  | nil => rfl
  | cons c s ih =>
    have missed : p.matchAt b (c :: (s ++ t)) = none := h (c :: s) List.suffix_rfl (List.cons_ne_nil c s) b
    rw [List.cons_append, replaceFrom_none missed, ih fun v hv => h v (hv.trans (List.suffix_cons c s))]
    rfl

/-- A character that the pattern has no use for parts the text. -/
theorem replaceFrom_append (h : p.avoids d) (s z : List Char) (skip : Nat) (hs : skip ≤ s.length) :
    p.replaceFrom label skip b (s ++ d :: z) =
      p.replaceFrom label skip b s ++ d :: p.replaceFrom label 0 (some d) z := by
  induction s generalizing b skip with
  | nil =>
    obtain rfl := Nat.le_zero.mp hs
    have same : p.matchAt b (d :: z) = p.matchAt b [] := matchAt_append h b [] z
    rw [List.nil_append, replaceFrom, replaceFrom, same]
    cases hm : p.matchAt b [] with
    | none => rfl
    | some n =>
      obtain rfl := Nat.le_zero.mp (le_of_matchAt hm)
      rfl
  | cons c s ih =>
    cases skip with
    | succ skip =>
      rw [List.cons_append, replaceFrom, replaceFrom]
      exact ih skip (Nat.le_of_succ_le_succ hs)
    | zero =>
      have same : p.matchAt b (c :: (s ++ d :: z)) = p.matchAt b (c :: s) := matchAt_append h b (c :: s) z
      rw [List.cons_append, replaceFrom, replaceFrom, same]
      match hm : p.matchAt b (c :: s) with
      | none => simp only [ih 0 (Nat.zero_le _), List.cons_append]
      | some 0 => simp only [ih 0 (Nat.zero_le _), List.append_assoc, List.cons_append]
      | some (n + 1) =>
        have hn : n ≤ s.length := Nat.le_of_succ_le_succ (le_of_matchAt hm)
        simp only [ih n hn, List.append_assoc]

end Pattern

end KeyBundle.Redaction
