/-
  KeyBundle.Proofs.Blocks — when the body of a dashed block stays out of a redacted text.

  A block stands in a text, with any text before and behind it: an opening line, a body over the base64
  alphabet and line breaks, a closing line with the same label.

  (1) A match of the rule for blocks goes from an opening line to the nearest closing line, or to the end of the text
      (`matchAt_block`, `blockEnd`).
  (2) No closing line ends where an opening line ends (`rest_of_closing`). So what the rule finds before the body
      either ends before the end of the opening line, or takes the body and the closing line (`matchAt_opening`,
      `applyFrom_block`).
  (3) The body is hidden exactly if the text up to the end of the opening line, redacted alone, does not end in a dash:
      then something that starts there takes the body too. Otherwise every body without long runs stands in the redacted
      text (`body_hidden_iff`).
  (4) So the body is shown behind a keyword and a colon: the keyword takes the beginning of the opening line for its
      value (`key_shown`).
-/

import KeyBundle.Proofs.DashedLines
import KeyBundle.Proofs.Runs

namespace KeyBundle.Redaction

open KeyBundle.Text Pattern Rule

/-! ## (1) The rule for blocks -/

/-- How many characters a block has taken at its end: after the nearest closing line, or at the end of the text. -/
def blockEnd : Option Char → List Char → Nat → Nat
  | _, [], u => u
  | b, c :: t, u =>
    match (dashed "END").first ⟨b, c :: t, u⟩ with
    | some q => q.used
    | none => if t = [] ∧ c = '\n' then u else blockEnd (some c) t (u + 1)

theorem blockEnd_found {b : Option Char} {c : Char} {t : List Char} {u : Nat} {q : Place}
    (h : (dashed "END").first ⟨b, c :: t, u⟩ = some q) : blockEnd b (c :: t) u = q.used := by
  rw [blockEnd, h]

theorem blockEnd_missed {b : Option Char} {c : Char} {t : List Char} {u : Nat}
    (h : (dashed "END").first ⟨b, c :: t, u⟩ = none) (more : ¬(t = [] ∧ c = '\n')) :
    blockEnd b (c :: t) u = blockEnd (some c) t (u + 1) := by
  rw [blockEnd, h]
  exact if_neg more

theorem run_few_cons (b : Option Char) (c : Char) (t : List Char) (u : Nat) (k : Place → Option Nat) :
    (few fun _ => true).run ⟨b, c :: t, u⟩ k =
      (k ⟨b, c :: t, u⟩).or ((few fun _ => true).run ⟨some c, t, u + 1⟩ k) := by
  rw [run, run, reach_cons_pos rfl none (by simp), List.reverse_append, List.findSome?_append]
  exact congrArg (Option.or · _) List.findSome?_singleton

theorem run_blockEnd (b : Option Char) (t : List Char) (u : Nat) :
    (few fun _ => true).run ⟨b, t, u⟩ (fun q => (alt (dashed "END") .atEnd).run q used?) = some (blockEnd b t u) := by
  induction t generalizing b u with
  | nil => rfl
  | cons c t ih =>
    rw [run_few_cons, ih, run, run_used, blockEnd]
    cases (dashed "END").first ⟨b, c :: t, u⟩ with
    | some q => rfl
    | none =>
      by_cases h : t = [] ∧ c = '\n'
      · obtain ⟨rfl, rfl⟩ := h
        rfl
      · have last : ¬(⟨b, c :: t, u⟩ : Place).isLast := by
          simp only [Place.isLast, Bool.or_eq_true, beq_iff_eq, List.cons.injEq, reduceCtorEq, false_or]
          rintro ⟨hc, ht⟩
          exact h ⟨ht, hc⟩
        simp [run, last, h]

/-- A match goes from an opening line to the nearest closing line, or to the end. -/
theorem matchAt_block (b : Option Char) (t : List Char) :
    block.pattern.matchAt b t = ((dashed "BEGIN").first ⟨b, t, 0⟩).map fun q => blockEnd q.before q.rest q.used := by
  have ended (q : Place) : (seq (few fun _ => true) (alt (dashed "END") .atEnd)).run q used? =
      some (blockEnd q.before q.rest q.used) := by
    rw [run]
    exact run_blockEnd q.before q.rest q.used
  change (seq (dashed "BEGIN") (seq (few fun _ => true) (alt (dashed "END") .atEnd))).run ⟨b, t, 0⟩ used? = _
  rw [run, run_eq_findSome?, first]
  simp only [ended]
  cases (dashed "BEGIN").ends ⟨b, t, 0⟩ <;> rfl

/-! ## (2) Opening lines -/

/-- A label between dashes, behind a word. -/
def line (word : String) (label : List Char) : List Char :=
  ("-----" ++ word ++ " ").toList ++ (label ++ "-----".toList)

theorem dashed_eq (word : String) : dashed word = seq (exactly ("-----" ++ word ++ " ").toList)
    (seq (many isBlockLabel 1 none) (exactly "-----".toList)) := rfl

theorem runLength_label {label : List Char} (hl : IsLabel label) (z : List Char) :
    runLength isBlockLabel (label ++ ("-----".toList ++ z)) = label.length := by
  have dash : ¬isBlockLabel '-' := by decide
  refine (runLength_append_cons dash label _).trans ?_
  rw [runLength, List.takeWhile_eq_self_iff.mpr hl.2]

/-- A line is found where it stands. -/
theorem first_line {word : String} {label : List Char} (hl : IsLabel label) (b : Option Char) (z : List Char)
    (u : Nat) : (dashed word).first ⟨b, line word label ++ z, u⟩ =
      some ((⟨b, line word label ++ z, u⟩ : Place).after (line word label).length) := by
  have opened : (exactly ("-----" ++ word ++ " ").toList).ends ⟨b, line word label ++ z, u⟩ =
      [(⟨b, line word label ++ z, u⟩ : Place).after ("-----" ++ word ++ " ").toList.length] := by
    rw [ends_exactly, if_pos]
    rw [line, List.append_assoc]
    exact List.prefix_append _ _
  have rest : ((⟨b, line word label ++ z, u⟩ : Place).after ("-----" ++ word ++ " ").toList.length).rest =
      label ++ ("-----".toList ++ z) := by
    rw [Place.after_rest, line, List.append_assoc, List.drop_left, List.append_assoc]
  have run := runLength_label hl z
  rw [dashed_eq, first_seq_of_singleton opened]
  refine first_many_seq ?_ ?_
  · rw [rest, run]
    exact List.length_pos_iff.mpr hl.1
  · rw [rest, run, first, ends_exactly, if_pos]
    · rw [Place.after_after, Place.after_after, line, List.length_append, List.length_append]
      rfl
    · rw [Place.after_rest, rest, List.drop_left]
      exact List.prefix_append _ _

theorem of_mem_ends_line {word : String} {b : Option Char} {t : List Char} {u : Nat} {q : Place}
    (hq : q ∈ (dashed word).ends ⟨b, t, u⟩) : ∃ label, IsLabel label ∧ t = line word label ++ q.rest := by
  rw [dashed_eq] at hq
  obtain ⟨q₁, h₁, hq⟩ := List.mem_flatMap.mp hq
  obtain ⟨q₂, h₂, h₃⟩ := List.mem_flatMap.mp hq
  obtain ⟨n, hn, hle, rfl⟩ := mem_ends_many.mp h₂
  have start : t = ("-----" ++ word ++ " ").toList ++ q₁.rest := rest_of_mem_ends_exactly h₁
  have stop : q₁.rest.drop n = "-----".toList ++ q.rest := rest_of_mem_ends_exactly h₃
  have long : n ≤ q₁.rest.length := Nat.le_trans hle (List.takeWhile_sublist _).length_le
  refine ⟨q₁.rest.take n, ⟨fun h => ?_, forall_mem_take hle⟩, ?_⟩
  · have : (q₁.rest.take n).length = n := List.length_take_of_le long
    rw [h] at this
    cases this
    cases hn
  · rw [line, List.append_assoc, List.append_assoc, ← stop, List.take_append_drop, start]

theorem first_dashed_none {word : String} {c : Char} (hc : c ≠ '-') (b : Option Char) (t : List Char) (u : Nat) :
    (dashed word).first ⟨b, c :: t, u⟩ = none := by
  cases hfirst : (dashed word).first ⟨b, c :: t, u⟩ with
  | none => rfl
  | some q =>
    obtain ⟨label, -, h⟩ := of_mem_ends_line (List.mem_of_head? hfirst)
    rw [line, String.toList_append, String.toList_append] at h
    cases h
    exact absurd rfl hc

/-- The last character outside of a class parts a text in one way only. -/
theorem eq_of_append_cons {α : Type} {p : α → Bool} {s s' v v' : List α} {d d' : α} (hd : ¬p d) (hd' : ¬p d')
    (hv : ∀ c ∈ v, p c) (hv' : ∀ c ∈ v', p c) (h : s ++ d :: v = s' ++ d' :: v') : d = d' ∧ v = v' := by
  rcases List.append_eq_append_iff.mp h with ⟨w, rfl, hw⟩ | ⟨w, rfl, hw⟩
  · cases w with
    | nil => exact List.cons.inj hw
    | cons e w =>
      cases hw
      exact absurd (hv d' (List.mem_append_right _ List.mem_cons_self)) hd'
  · cases w with
    | nil => exact (List.cons.inj hw).imp Eq.symm Eq.symm
    | cons e w =>
      cases hw
      exact absurd (hv' d (List.mem_append_right _ List.mem_cons_self)) hd

/-- No opening line, or what the rules for names leave of it, is the end of a closing line. -/
theorem rest_of_closing {label lead pre : List Char} (hl : IsLabel label) (hlead : IsLead lead) {v : List Char}
    (hv : v <:+ pre ++ (lead ++ lineEnd label)) {b : Option Char} {u : Nat} {q : Place}
    (hq : q ∈ (dashed "END").ends ⟨b, v, u⟩) : q.rest ≠ [] := by
  intro hrest
  obtain ⟨label', hl', heq⟩ := of_mem_ends_line hq
  rw [hrest, List.append_nil] at heq
  obtain ⟨x, hx⟩ := hv
  have outside : ¬isBlockLabel '-' := by decide
  have closing : ∀ c ∈ "END ".toList ++ label', isBlockLabel c := List.forall_mem_append.mpr ⟨by decide, hl'.2⟩
  -- without the last dashes, both texts end in characters for labels, behind one dash or bracket
  have dashes : (x ++ "----".toList) ++ '-' :: ("END ".toList ++ label') ++ "-----".toList =
      pre ++ lead ++ ' ' :: label ++ "-----".toList := by
    rw [heq, line, lineEnd] at hx
    simpa using hx
  have parted := List.append_cancel_right dashes
  rcases hlead with rfl | rfl
  · have opening : ∀ c ∈ "BEGIN ".toList ++ label, isBlockLabel c := List.forall_mem_append.mpr ⟨by decide, hl.2⟩
    have split : pre ++ "-----BEGIN".toList ++ ' ' :: label =
        (pre ++ "----".toList) ++ '-' :: ("BEGIN ".toList ++ label) := by simp
    rw [split] at parted
    have words := (eq_of_append_cons outside outside closing opening parted).2
    cases words
  · have bracket : ¬isBlockLabel ']' := by decide
    have opening : ∀ c ∈ ' ' :: label, isBlockLabel c := List.forall_mem_cons.mpr ⟨by decide, hl.2⟩
    rw [List.append_assoc, List.append_assoc, List.singleton_append] at parted
    rw [← List.append_assoc] at parted
    have delimiters := (eq_of_append_cons outside bracket closing opening parted).1
    cases delimiters

theorem avoids_dashed : (dashed "BEGIN").avoids '\n' ∧ (dashed "END").avoids '\n' := by decide

/-- A text without a line break at its end, of which no closing line is the end: either a block that is open ends
    before the end of the text, whatever follows in further lines, or it goes on behind it. -/
theorem blockEnd_line {y : List Char} (hy : ∀ c ∈ y.getLast?, c ≠ '\n')
    (hends : ∀ v, v <:+ y → ∀ b u, ∀ q ∈ (dashed "END").ends ⟨b, v, u⟩, q.rest ≠ []) (b : Option Char) (u : Nat) :
    (∃ m, u ≤ m ∧ m < u + y.length ∧ blockEnd b y u = m ∧ ∀ z, blockEnd b (y ++ '\n' :: z) u = m) ∨
      blockEnd b y u = u + y.length ∧
        ∀ z, blockEnd b (y ++ '\n' :: z) u = blockEnd (lastOf b y) ('\n' :: z) (u + y.length) := by
  induction y generalizing b u with
  | nil => exact .inr ⟨rfl, fun _ => rfl⟩
  | cons c y ih =>
    cases hfirst : (dashed "END").first ⟨b, c :: y, u⟩ with
    | some q =>
      have hq : q ∈ (dashed "END").ends ⟨b, c :: y, u⟩ := List.mem_of_head? hfirst
      obtain ⟨k, rfl, -, -⟩ := after_of_mem_ends (dashed "END").within_true hq
      have short : k < (c :: y).length := by
        by_contra hlong
        exact hends _ List.suffix_rfl b u _ hq (List.drop_eq_nil_of_le (Nat.le_of_not_lt hlong))
      refine .inl ⟨u + k, Nat.le_add_right u k, Nat.add_lt_add_left short u, blockEnd_found hfirst, fun z => ?_⟩
      exact blockEnd_found ((first_extend avoids_dashed.2 b (c :: y) z u).trans (congrArg _ hfirst))
    | none =>
      have alone : blockEnd b (c :: y) u = blockEnd (some c) y (u + 1) := by
        refine blockEnd_missed hfirst fun ⟨hnil, hc⟩ => ?_
        subst hnil
        exact hy c rfl hc
      have followed (z : List Char) :
          blockEnd b (c :: y ++ '\n' :: z) u = blockEnd (some c) (y ++ '\n' :: z) (u + 1) :=
        blockEnd_missed ((first_extend avoids_dashed.2 b (c :: y) z u).trans (congrArg _ hfirst)) (by simp)
      have hy' : ∀ d ∈ y.getLast?, d ≠ '\n' := fun d hd => hy d (by rw [List.getLast?_cons, hd]; rfl)
      rcases ih hy' (fun v hv => hends v (hv.trans (List.suffix_cons c y))) (some c) (u + 1) with
        ⟨m, hm, hlt, hm₁, hm₂⟩ | ⟨h₁, h₂⟩
      · refine .inl ⟨m, by omega, by rw [List.length_cons]; omega, alone.trans hm₁, fun z => (followed z).trans (hm₂ z)⟩
      · refine .inr ⟨?_, fun z => ?_⟩
        · rw [alone, h₁, List.length_cons]
          omega
        · rw [followed, h₂, List.length_cons, lastOf_cons, Nat.add_assoc, Nat.add_comm 1]

/-- Characters of a body, or of any text without dashes, do not end a block. -/
theorem blockEnd_append {s z : List Char} (hs : ∀ c ∈ s, c ≠ '-') (hz : z ≠ []) (b : Option Char) (u : Nat) :
    blockEnd b (s ++ z) u = blockEnd (lastOf b s) z (u + s.length) := by
  induction s generalizing b u with
  | nil => rfl
  | cons c s ih =>
    obtain ⟨hc, hs⟩ := List.forall_mem_cons.mp hs
    have more : ¬(s ++ z = [] ∧ c = '\n') := fun h => hz (List.append_eq_nil_iff.mp h.1).2
    rw [List.cons_append, blockEnd_missed (first_dashed_none hc _ _ _) more, ih hs, List.length_cons, lastOf_cons, Nat.add_assoc, Nat.add_comm 1]

/-- The body of a block. -/
def IsBody (s : List Char) : Prop := ∀ c ∈ s, isBase64 c ∨ c = '\n'

instance (s : List Char) : Decidable (IsBody s) :=
  inferInstanceAs (Decidable (∀ c ∈ s, isBase64 c ∨ c = '\n'))

/-- A body and the closing line, behind the opening line. -/
def closed (label s : List Char) : List Char := '\n' :: (s ++ '\n' :: line "END" label)

theorem IsBody.ne_dash {s : List Char} (hs : IsBody s) : ∀ c ∈ s, c ≠ '-' := by
  rintro c hc rfl
  rcases hs '-' hc with h | h <;> cases h

section

variable {label : List Char} (hl : IsLabel label)

include hl

theorem blockEnd_closed {s : List Char} (hs : IsBody s) (b : Option Char) (z : List Char) (u : Nat) :
    blockEnd b (closed label s ++ z) u = u + (closed label s).length := by
  have body : ∀ c ∈ '\n' :: (s ++ ['\n']), c ≠ '-' :=
    List.forall_mem_cons.mpr ⟨by decide, List.forall_mem_append.mpr ⟨hs.ne_dash, by decide⟩⟩
  have found (b : Option Char) (u : Nat) :
      blockEnd b (line "END" label ++ z) u = u + (line "END" label).length := by
    have first : (dashed "END").first ⟨b, line "END" label ++ z, u⟩ = _ := first_line hl b z u
    have dash : line "END" label ++ z = '-' :: ("----END ".toList ++ (label ++ "-----".toList) ++ z) := rfl
    rw [dash] at first ⊢
    rw [blockEnd_found first]
    rfl
  have parts : closed label s ++ z = ('\n' :: (s ++ ['\n'])) ++ (line "END" label ++ z) := by
    simp [closed]
  rw [parts, blockEnd_append body (by simp [line]), found]
  simp [closed]
  omega

variable {lead : List Char} (hlead : IsLead lead) {pre : List Char}

omit hl in
theorem getLast?_opening {y : List Char} (hy : y <:+ pre ++ (lead ++ lineEnd label)) (hne : y ≠ []) :
    y.getLast? = some '-' := by
  obtain ⟨x, hx⟩ := hy
  have := congrArg List.getLast? hx
  rw [List.getLast?_append_of_ne_nil _ hne] at this
  rw [this, lineEnd, ← List.cons_append, ← List.append_assoc, ← List.append_assoc,
    List.getLast?_append_of_ne_nil _ (by decide)]
  rfl

omit hl in
theorem unbroken_opening {y : List Char} (hy : y <:+ pre ++ (lead ++ lineEnd label)) : ∀ c ∈ y.getLast?, c ≠ '\n' := by
  intro c hc
  cases y with
  | nil => cases hc
  | cons d t =>
    rw [getLast?_opening hy (List.cons_ne_nil d t)] at hc
    cases hc
    decide

include hlead

/-- A match that starts before the end of an opening line ends before that end too, or takes all up to that end, and a
    body with its closing line. -/
theorem matchAt_opening {y : List Char} (hy : y <:+ pre ++ (lead ++ lineEnd label)) (b : Option Char) :
    (∃ o, (∀ m ∈ o, 0 < m ∧ m < y.length) ∧ block.pattern.matchAt b y = o ∧
        ∀ z, block.pattern.matchAt b (y ++ '\n' :: z) = o) ∨
      block.pattern.matchAt b y = some y.length ∧ ∀ s post, IsBody s →
        block.pattern.matchAt b (y ++ closed label s ++ post) = some (y ++ closed label s).length := by
  have extended (z : List Char) := first_extend avoids_dashed.1 b y z 0
  cases hfirst : (dashed "BEGIN").first ⟨b, y, 0⟩ with
  | none =>
    refine .inl ⟨none, nofun, by rw [matchAt_block, hfirst, Option.map_none], fun z => ?_⟩
    rw [matchAt_block, extended, hfirst, Option.map_none, Option.map_none]
  | some q =>
    obtain ⟨k, rfl, hk, hle⟩ := after_of_mem_ends (dashed "BEGIN").within_true (List.mem_of_head? hfirst)
    have alone : block.pattern.matchAt b y = some (blockEnd (lastOf b (y.take k)) (y.drop k) (0 + k)) := by
      rw [matchAt_block, hfirst]
      rfl
    have followed (z : List Char) : block.pattern.matchAt b (y ++ '\n' :: z) =
        some (blockEnd (lastOf b (y.take k)) (y.drop k ++ '\n' :: z) (0 + k)) := by
      rw [matchAt_block, extended, hfirst]
      rfl
    have behind : y.drop k <:+ pre ++ (lead ++ lineEnd label) := (List.drop_suffix k y).trans hy
    have length : 0 + k + (y.drop k).length = y.length := by
      have : k ≤ y.length := Nat.le_trans hle (List.takeWhile_sublist _).length_le
      rw [List.length_drop]
      omega
    rcases blockEnd_line (unbroken_opening behind) (fun v hv b u q hq => rest_of_closing hl hlead (hv.trans behind) hq)
      (lastOf b (y.take k)) (0 + k) with ⟨m, hm, hlt, h₁, h₂⟩ | ⟨h₁, h₂⟩
    · refine .inl ⟨some m, fun m' hm' => ?_, by rw [alone, h₁], fun z => by rw [followed, h₂]⟩
      obtain rfl := Option.mem_some_iff.mp hm'
      have : 0 < k := Nat.lt_of_lt_of_le (by decide) hk
      omega
    · refine .inr ⟨by rw [alone, h₁, length], fun s post hs => ?_⟩
      have found := blockEnd_closed hl hs (lastOf (lastOf b (y.take k)) (y.drop k)) post (0 + k + (y.drop k).length)
      rw [List.append_assoc]
      refine (followed _).trans (congrArg some ((h₂ _).trans (found.trans ?_)))
      rw [length, List.length_append]

omit hl hlead in
/-- Where a match ends before the end of a text, whatever follows in further lines, or there is none, a label or a
    character comes out, and what follows is left to the next step. -/
theorem applyFrom_cons {c : Char} {y : List Char} {b : Option Char} {o : Option Nat}
    (ho : ∀ m ∈ o, 0 < m ∧ m < (c :: y).length) (alone : block.pattern.matchAt b (c :: y) = o)
    (followed : ∀ z, block.pattern.matchAt b (c :: y ++ '\n' :: z) = o) :
    ∃ w skip, skip ≤ y.length ∧ (skip < y.length ∨ w = [c] ∧ y = []) ∧
      block.applyFrom 0 b (c :: y) = w ++ block.applyFrom skip (some c) y ∧ ∀ z,
      block.applyFrom 0 b (c :: y ++ '\n' :: z) = w ++ block.applyFrom skip (some c) (y ++ '\n' :: z) := by
  cases o with
  | none =>
    refine ⟨[c], 0, Nat.zero_le _, ?_, replaceFrom_none alone, fun z => replaceFrom_none (followed z)⟩
    exact (Nat.eq_zero_or_pos y.length).symm.imp_right fun h => ⟨rfl, List.length_eq_zero_iff.mp h⟩
  | some m =>
    obtain ⟨hpos, hlt⟩ := ho m rfl
    obtain ⟨m, rfl⟩ := Nat.exists_eq_add_one.mpr hpos
    have hlt := Nat.lt_of_succ_lt_succ hlt
    exact ⟨block.label, m, Nat.le_of_lt hlt, .inl hlt, replaceFrom_some alone, fun z =>
      replaceFrom_some (followed z)⟩

/-- The rule for blocks either takes the body, from some place before it on, and leaves a label at the end of a text
    that ends with the opening line; or it leaves all from the end of the opening line on. -/
theorem applyFrom_block {y : List Char} (hy : y <:+ pre ++ (lead ++ lineEnd label)) (skip : Nat)
    (hskip : skip ≤ y.length) (b : Option Char) :
    (∃ u, block.applyFrom skip b y = u ++ block.label ∧ ∀ s post, IsBody s →
        block.applyFrom skip b (y ++ closed label s ++ post) = u ++ block.label ++ block.applyFrom 0 (some '-') post) ∨
      ∃ u, block.applyFrom skip b y = u ∧ (skip < y.length → u.getLast? = some '-') ∧
        ∀ z, block.applyFrom skip b (y ++ '\n' :: z) = u ++ block.applyFrom 0 (lastOf b y) ('\n' :: z) := by
  induction y generalizing skip b with
  | nil =>
    obtain rfl := Nat.le_zero.mp hskip
    exact .inr ⟨[], rfl, fun h => absurd h (Nat.lt_irrefl 0), fun _ => rfl⟩
  | cons c y ih =>
    have rest := ih ((List.suffix_cons c y).trans hy)
    cases skip with
    | succ skip =>
      rcases rest skip (Nat.le_of_succ_le_succ hskip) (some c) with ⟨u, h₁, h₂⟩ | ⟨u, h₁, hlast, h₂⟩
      · exact .inl ⟨u, h₁, h₂⟩
      · exact .inr ⟨u, h₁, fun h => hlast (Nat.lt_of_succ_lt_succ h), h₂⟩
    | zero =>
      rcases matchAt_opening hl hlead hy b with ⟨o, ho, alone, followed⟩ | ⟨alone, followed⟩
      · obtain ⟨w, skip, hle, hlt, alone, followed⟩ := applyFrom_cons ho alone followed
        rcases rest skip hle (some c) with ⟨u, h₁, h₂⟩ | ⟨u, h₁, hlast, h₂⟩
        · refine .inl ⟨w ++ u, by rw [alone, h₁, List.append_assoc], fun s post hs => ?_⟩
          have taken := h₂ s post hs
          rw [List.append_assoc] at taken ⊢
          refine (followed _).trans ((congrArg (w ++ ·) taken).trans ?_)
          simp only [List.append_assoc]
        · refine .inr ⟨w ++ u, by rw [alone, h₁], fun _ => ?_, fun z => by rw [followed, h₂, List.append_assoc]; rfl⟩
          rcases hlt with hlt | ⟨rfl, rfl⟩
          · rw [List.getLast?_append, hlast hlt]
            rfl
          · obtain rfl : [] = u := h₁
            exact getLast?_opening hy (List.cons_ne_nil c [])
      · have nothing : block.applyFrom 0 (lastOf b (c :: y)) [] = [] := rfl
        refine .inl ⟨[], ?_, fun s post hs => ?_⟩
        · have taken : block.applyFrom 0 b (c :: y ++ []) = block.label ++ block.applyFrom 0 (lastOf b (c :: y)) [] :=
            replaceFrom_match (List.cons_ne_nil c y) (by rw [List.append_nil]; exact alone)
          rw [List.append_nil, nothing, List.append_nil] at taken
          exact taken
        · have last : lastOf b (c :: y ++ closed label s) = some '-' := by simp [closed, line]
          rw [← last]
          exact replaceFrom_match (by simp) (followed s post hs)

end

/-! ## (3) Bodies -/

theorem dashed_closed {label s : List Char} (hl : IsLabel label) (hs : IsBody s) : Dashed (closed label s) := by
  have body : ∀ c ∈ s, isSign c = false := fun c hc => by
    rcases hs c hc with h | rfl
    · exact isSign_eq_false ⟨rfl, rfl⟩ h
    · rfl
  constructor
  · refine List.forall_mem_cons.mpr ⟨rfl, List.forall_mem_append.mpr ⟨body, List.forall_mem_cons.mpr ⟨rfl, ?_⟩⟩⟩
    exact List.forall_mem_append.mpr ⟨by decide, List.forall_mem_append.mpr
      ⟨fun c hc => isSign_eq_false ⟨rfl, rfl⟩ (hl.2 c hc), by decide⟩⟩
  · exact ⟨'\n' :: (s ++ '\n' :: ("-----END ".toList ++ (label ++ "---".toList))), by simp [closed, line]⟩

/-- The rule for blocks copies a body with its line breaks. -/
theorem applyFrom_body {s : List Char} (hs : IsBody s) (b : Option Char) (z : List Char) :
    block.applyFrom 0 b ('\n' :: (s ++ '\n' :: z)) = '\n' :: (s ++ '\n' :: block.applyFrom 0 (some '\n') z) := by
  have undashed : ∀ c ∈ '\n' :: (s ++ ['\n']), c ≠ '-' :=
    List.forall_mem_cons.mpr ⟨by decide, List.forall_mem_append.mpr ⟨hs.ne_dash, by decide⟩⟩
  have copied : block.applyFrom 0 b ('\n' :: (s ++ ['\n']) ++ z) =
      '\n' :: (s ++ ['\n']) ++ block.applyFrom 0 (lastOf b ('\n' :: (s ++ ['\n']))) z := by
    refine replaceFrom_inert fun v hv hne b => ?_
    cases v with
    | nil => exact absurd rfl hne
    | cons c v =>
      rw [List.cons_append, matchAt_block, first_dashed_none (undashed c (hv.mem List.mem_cons_self)), Option.map_none]
  simpa using copied

/-- A text without long runs. -/
def Runless (s : List Char) : Prop := NoRun isBase64 40 s ∧ NoRun isHexDigit 32 s

/-- The rules for runs. -/
def runRules : List Rule := [base64, hexadecimal]

/-- The rules for names come first, then the one for blocks, then those for runs. -/
theorem all_parted : Rule.all = Naming.all.map Naming.rule ++ (block :: runRules) := rfl

theorem avoids_runRules : ∀ r ∈ runRules, ∀ d ∈ ['\n', '-', ']'], r.pattern.avoids d := by decide

theorem Runless.suffix {s v : List Char} (hs : Runless s) (hv : v <:+ s) : Runless v :=
  ⟨fun x hx => hs.1 x (hx.trans hv.isInfix), fun x hx => hs.2 x (hx.trans hv.isInfix)⟩

theorem runless_nil : Runless [] := ⟨noRun_nil (by decide), noRun_nil (by decide)⟩

section

variable {r : Rule} (hr : r ∈ runRules)

include hr

theorem matchAt_runless {s : List Char} (hs : Runless s) (b : Option Char) : r.pattern.matchAt b s = none := by
  cases hm : r.pattern.matchAt b s with
  | none => rfl
  | some m =>
    obtain ⟨q, hq⟩ := exists_mem_ends hm
    rcases List.mem_cons.mp hr with rfl | hr
    · obtain ⟨p, hp, -⟩ := List.mem_flatMap.mp hq
      obtain ⟨n, hn, hle, -⟩ := mem_ends_many.mp hp
      have short := noRun_iff.mp hs.1 s List.suffix_rfl
      exact absurd (Nat.le_trans hn hle) (Nat.not_le_of_lt short)
    · obtain rfl := List.mem_singleton.mp hr
      obtain ⟨p, hp, hq⟩ := List.mem_flatMap.mp hq
      obtain ⟨k, rfl, -, -⟩ := after_of_mem_ends (Pattern.within_true _) hp
      obtain ⟨n, hn, hle, -⟩ := mem_ends_many.mp hq
      have short := noRun_iff.mp hs.2 (s.drop k) (List.drop_suffix k s)
      exact absurd (Nat.le_trans hn hle) (Nat.not_le_of_lt short)

theorem applyFrom_runless {s : List Char} (hs : Runless s) (b : Option Char) : r.applyFrom 0 b s = s := by
  have copied : r.applyFrom 0 b (s ++ []) = s ++ r.applyFrom 0 (lastOf b s) [] :=
    replaceFrom_inert fun v hv _ b => by rw [List.append_nil, matchAt_runless hr (hs.suffix hv)]
  have nothing : r.applyFrom 0 (lastOf b s) [] = [] := replaceFrom_nil (matchAt_runless hr runless_nil _) 0
  rwa [nothing, List.append_nil] at copied

theorem apply_append {d : Char} (hd : d ∈ ['\n', '-', ']']) (b : Option Char) (u z : List Char) :
    r.applyFrom 0 b (u ++ d :: z) = r.applyFrom 0 b u ++ d :: r.applyFrom 0 (some d) z :=
  replaceFrom_append (avoids_runRules r hr d hd) u z 0 (Nat.zero_le _)

end

theorem foldl_runRules_last {d : Char} (hd : d ∈ ['\n', '-', ']']) (u : List Char) :
    ∃ u', runRules.foldl Rule.apply (u ++ [d]) = u' ++ [d] := by
  have step {r : Rule} (hr : r ∈ runRules) (u : List Char) : r.apply (u ++ [d]) = r.apply u ++ [d] := by
    rw [Rule.apply_eq, apply_append hr hd, applyFrom_runless hr runless_nil]
    rfl
  refine ⟨hexadecimal.apply (base64.apply u), ?_⟩
  rw [← step (by simp [runRules]), ← step (by simp [runRules])]
  rfl

/-- The rules for runs copy a body without runs, and what is around it does not depend on it. -/
theorem foldl_runRules_body (u z : List Char) :
    ∃ u' z', ∀ s, Runless s → runRules.foldl Rule.apply (u ++ '\n' :: (s ++ '\n' :: z)) = u' ++ (s ++ z') := by
  have step {r : Rule} (hr : r ∈ runRules) (u z : List Char) {s : List Char} (hs : Runless s) :
      r.apply (u ++ '\n' :: (s ++ '\n' :: z)) = r.apply u ++ '\n' :: (s ++ '\n' :: r.applyFrom 0 (some '\n') z) := by
    rw [Rule.apply_eq, apply_append hr (by decide), apply_append hr (by decide), applyFrom_runless hr hs]
    rfl
  refine ⟨hexadecimal.apply (base64.apply u) ++ ['\n'],
    '\n' :: hexadecimal.applyFrom 0 (some '\n') (base64.applyFrom 0 (some '\n') z), fun s hs => ?_⟩
  rw [List.append_assoc, List.singleton_append, ← step (by simp [runRules]) _ _ hs, ← step (by simp [runRules]) _ _ hs]
  rfl

theorem foldl_all (t : List Char) : Rule.all.foldl Rule.apply t =
    runRules.foldl Rule.apply (block.applyFrom 0 none ((Naming.all.map Naming.rule).foldl Rule.apply t)) := by
  rw [all_parted, List.foldl_append, List.foldl_cons, Rule.apply_eq]

/-- The rules either leave one text for all bodies and the bracket of a label at the end of the opening line alone, or
    they leave every body without long runs and the dashes of that line. -/
theorem foldl_block {label : List Char} (hl : IsLabel label) (pre post : List Char) :
    (∃ u v, Rule.all.foldl Rule.apply (pre ++ ("-----BEGIN".toList ++ lineEnd label)) = u ++ [']'] ∧
        ∀ s, IsBody s → Rule.all.foldl Rule.apply
          (pre ++ ("-----BEGIN".toList ++ (lineEnd label ++ (closed label s ++ post)))) = v) ∨
      ∃ u v w, Rule.all.foldl Rule.apply (pre ++ ("-----BEGIN".toList ++ lineEnd label)) = u ++ ['-'] ∧
        ∀ s, IsBody s → Runless s → Rule.all.foldl Rule.apply
          (pre ++ ("-----BEGIN".toList ++ (lineEnd label ++ (closed label s ++ post)))) = v ++ (s ++ w) := by
  obtain ⟨pre', lead, hlead, alone, followed⟩ :=
    foldl_opening hl (fun n hn => Naming.lawful_of_mem hn) (.inl rfl) pre
  obtain ⟨post', followed⟩ := followed post
  rcases applyFrom_block hl hlead List.suffix_rfl 0 (Nat.zero_le _) none with ⟨u, h₁, h₂⟩ | ⟨u, h₁, hlast, h₂⟩
  · obtain ⟨l, hlabel⟩ : ∃ l, block.label = l ++ [']'] := ⟨"pem=[REDACTED".toList, rfl⟩
    obtain ⟨u', hu'⟩ := foldl_runRules_last (by decide : ']' ∈ ['\n', '-', ']']) (u ++ l)
    refine .inl ⟨u', runRules.foldl Rule.apply (u ++ block.label ++ block.applyFrom 0 (some '-') post'), ?_,
      fun s hs => ?_⟩
    · rw [foldl_all, alone, h₁, hlabel, ← List.append_assoc, hu']
    · have taken := h₂ s post' hs
      rw [List.append_assoc, List.append_assoc, List.append_assoc] at taken
      rw [foldl_all, followed _ (dashed_closed hl hs), taken]
  · have nonempty : 0 < (pre' ++ (lead ++ lineEnd label)).length := by
      simp only [lineEnd, List.length_append, List.length_cons]
      omega
    obtain ⟨u₀, rfl⟩ := List.getLast?_eq_some_iff.mp (hlast nonempty)
    obtain ⟨u', hu'⟩ := foldl_runRules_last (by decide : '-' ∈ ['\n', '-', ']']) u₀
    obtain ⟨v, w, hvw⟩ := foldl_runRules_body (u₀ ++ ['-']) (block.applyFrom 0 (some '\n') (line "END" label ++ post'))
    refine .inr ⟨u', v, w, ?_, fun s hs hrun => ?_⟩
    · rw [foldl_all, alone, h₁, hu']
    · have kept := h₂ (s ++ '\n' :: line "END" label ++ post')
      rw [List.append_assoc, List.append_assoc, List.append_assoc, List.cons_append, applyFrom_body hs] at kept
      have joined : closed label s ++ post' = '\n' :: (s ++ '\n' :: (line "END" label ++ post')) := by
        simp [closed]
      rw [foldl_all, followed _ (dashed_closed hl hs), joined, kept, hvw s hrun]

/-- An opening line. -/
def opening (label : String) : String := "-----BEGIN " ++ label ++ "-----"

/-- A block with its body in lines of its own. -/
def sealed (label body : String) : String := opening label ++ "\n" ++ body ++ "\n-----END " ++ label ++ "-----"

/-- A body is hidden exactly if the text up to the end of the opening line, redacted alone, does not end in a dash.
    Otherwise every body without long runs stands in the redacted text. -/
theorem body_hidden_iff {label : String} (hl : IsLabel label.toList) (pre post : String) :
    ((∀ literals b₁ b₂, IsBody b₁.toList → IsBody b₂.toList →
        redact literals (pre ++ sealed label b₁ ++ post) = redact literals (pre ++ sealed label b₂ ++ post)) ↔
      (redact [] (pre ++ opening label)).toList.getLast? ≠ some '-') ∧
    ((redact [] (pre ++ opening label)).toList.getLast? = some '-' → ∃ u w : String, ∀ b, IsBody b.toList →
      Runless b.toList → redact [] (pre ++ sealed label b ++ post) = u ++ b ++ w) := by
  have short : (pre ++ opening label).toList = pre.toList ++ ("-----BEGIN".toList ++ lineEnd label.toList) := by
    simp [opening, lineEnd]
  have long (b : String) : (pre ++ sealed label b ++ post).toList = pre.toList ++ ("-----BEGIN".toList ++
      (lineEnd label.toList ++ (closed label.toList b.toList ++ post.toList))) := by
    simp [sealed, opening, lineEnd, closed, line]
  have alone : (redact [] (pre ++ opening label)).toList =
      Rule.all.foldl Rule.apply (pre.toList ++ ("-----BEGIN".toList ++ lineEnd label.toList)) := by
    rw [redact, String.toList_ofList, redactChars, short]
    rfl
  rw [alone]
  rcases foldl_block hl pre.toList post.toList with ⟨u, v, h₁, h₂⟩ | ⟨u, v, w, h₁, h₂⟩
  · have same (literals : List String) {b : String} (hb : IsBody b.toList) :
        redact literals (pre ++ sealed label b ++ post) =
          String.ofList ((literals.map (·.toList)).foldl hideLiteral v) := by
      rw [redact, redactChars, long, h₂ _ hb]
    have bracket : (u ++ [']']).getLast? ≠ some '-' := by simp
    rw [h₁]
    refine ⟨⟨fun _ => bracket, fun _ literals b₁ b₂ hb₁ hb₂ => ?_⟩, fun dash => absurd dash bracket⟩
    rw [same literals hb₁, same literals hb₂]
  · have shown {b : String} (hb : IsBody b.toList) (hrun : Runless b.toList) :
        redact [] (pre ++ sealed label b ++ post) = String.ofList v ++ b ++ String.ofList w := by
      rw [redact, redactChars, long, h₂ _ hb hrun]
      simp [String.ofList_append, String.append_assoc]
    have dash : (u ++ ['-']).getLast? = some '-' := by simp
    rw [h₁]
    refine ⟨⟨fun hidden => ?_, fun bracket => absurd dash bracket⟩, fun _ =>
      ⟨String.ofList v, String.ofList w, fun b => shown⟩⟩
    have none : IsBody "".toList ∧ Runless "".toList := ⟨by decide, runless_nil⟩
    have one : IsBody "A".toList ∧ Runless "A".toList :=
      ⟨by decide, noRun_of_length (by decide), noRun_of_length (by decide)⟩
    have same := hidden [] "" "A" none.1 one.1
    rw [shown none.1 none.2, shown one.1 one.2] at same
    have lengths := congrArg String.length same
    simp at lengths

/-- A block on lines of its own is hidden, one behind a keyword and a colon is not. -/
theorem body_hidden_iff_lines :
    redact ["MII"] ("key:\n" ++ sealed "PRIVATE KEY" "MIIEvQ" ++ "") =
        redact ["MII"] ("key:\n" ++ sealed "PRIVATE KEY" "" ++ "") ∧
      ∃ u w : String, ∀ b, IsBody b.toList → Runless b.toList →
        redact [] ("private_key: " ++ sealed "PRIVATE KEY" b ++ "") = u ++ b ++ w :=
  have label : IsLabel "PRIVATE KEY".toList := by decide
  ⟨(body_hidden_iff label "key:\n" "").1.mpr (by decide +kernel) ["MII"] "MIIEvQ" "" (by decide) (by decide),
    (body_hidden_iff label "private_key: " "").2 (by decide +kernel)⟩

/-! ## (4) A block behind a keyword -/

/-- Behind a keyword and a colon the body is shown: it makes a difference whether there is one. -/
theorem key_shown :
    redact [] ("private_key: " ++ sealed "PRIVATE KEY" "MIIEvQ" ++ "") ≠
      redact [] ("private_key: " ++ sealed "PRIVATE KEY" "" ++ "") := by
  decide +kernel

end KeyBundle.Redaction
