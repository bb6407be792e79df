/-
  KeyBundle.Proofs.Rewriting — what a rule makes of a text, piece by piece.

  A rule goes through a text from left to right: it copies a character where no match starts, and puts its label in the
  place of a match (`Rewritten`). So facts about its result go by induction over these two steps.

  (1) An assignment is read character by character (`Stage.step`), and a text in which the reading comes to nothing
      settles it, whatever follows (`Stage.fails`).
  (2) Labels neither hold, begin nor continue an assignment by accident: within a label the reading fails unless the
      name's own label starts there, and so it does at a label that comes in the middle of a name.
  (3) Where an assignment starts in the result, at a character that was copied, one started in the text before
      (`assigns_of_rewritten`). A label of a name that stands in the text is copied from its second character on
      (`matchAt_behind`).
-/

import KeyBundle.Proofs.Blocks
import Mathlib.Data.List.Infix

namespace KeyBundle.Redaction

open KeyBundle.Text Pattern Rule

/-! ## (1) Reading -/

namespace Rule.Stage

/-- What one character does: the reading goes on, or it ends. -/
def step : Stage → Char → Stage ⊕ Option Nat
  | name [], c => if isBlank c then .inl (name []) else if isSign c then .inl sign else .inr none
  | name (f :: w), c => if f c then .inl (name w) else .inr none
  | sign, c =>
    if isBlank c then .inl sign else if isQuote c then .inl quoted else if isValueChar c then .inl value else .inr none
  | quoted, c => if isValueChar c then .inl value else .inr none
  | value, c => if isValueChar c then .inl value else if isQuote c then .inr (some 1) else .inr (some 0)

theorem length?_step (stage : Stage) (c : Char) (t : List Char) :
    length? stage (c :: t) = (stage.step c).elim (fun next => (length? next t).map (· + 1)) id := by
  cases stage with
  | name w =>
    cases w with
    | nil =>
      simp only [length?, step]
      split
      · rfl
      · split <;> rfl
    | cons f w =>
      simp only [length?, step]
      split <;> rfl
  | sign =>
    simp only [length?, step]
    split
    · rfl
    · split
      · rfl
      · split <;> rfl
  | quoted =>
    simp only [length?, step]
    split <;> rfl
  | value =>
    simp only [length?, step]
    split
    · rfl
    · split <;> rfl

/-- The reading goes on with what is left of the name, at the blanks behind it, or past the name. -/
theorem of_step_inl {stage next : Stage} {c : Char} (h : stage.step c = .inl next) :
    (∃ f w, stage = name (f :: w) ∧ next = name w) ∨ (stage = name [] ∧ next = name []) ∨ ∀ w, next ≠ name w := by
  cases stage with
  | name w =>
    cases w with
    | nil =>
      simp only [step] at h
      repeat' split at h
      all_goals cases h
      · exact .inr (.inl ⟨rfl, rfl⟩)
      · exact .inr (.inr fun _ h => nomatch h)
    | cons f w =>
      simp only [step] at h
      split at h
      all_goals cases h
      exact .inl ⟨f, w, rfl, rfl⟩
  | sign | quoted | value =>
    simp only [step] at h
    repeat' split at h
    all_goals cases h
    all_goals exact .inr (.inr fun _ h => nomatch h)

/-- Over a common character, an assignment goes on as it does behind it. -/
theorem isSome_of_cons {stage : Stage} {c : Char} {t t' : List Char} (h : (length? stage (c :: t)).isSome)
    (rest : ∀ next, stage.step c = .inl next → (length? next t).isSome → (length? next t').isSome) :
    (length? stage (c :: t')).isSome := by
  rw [length?_step] at h ⊢
  cases hstep : stage.step c with
  | inl next =>
    rw [hstep, Sum.elim_inl, Option.isSome_map] at h
    rw [Sum.elim_inl, Option.isSome_map]
    exact rest next hstep h
  | inr o => rwa [hstep] at h

/-- The reading ends without success, or a value ends: behind a quote, or before a character that is no part of it. -/
theorem of_step_inr {stage : Stage} {c : Char} {o : Option Nat} (h : stage.step c = .inr o) :
    o = none ∨ isQuote c ∧ o = some 1 ∨ isValueChar c = false ∧ isQuote c = false ∧ o = some 0 := by
  cases stage with
  | name w =>
    cases w with
    | nil =>
      simp only [step] at h
      repeat' split at h
      all_goals cases h
      exact .inl rfl
    | cons f w =>
      simp only [step] at h
      split at h
      all_goals cases h
      exact .inl rfl
  | sign =>
    simp only [step] at h
    repeat' split at h
    all_goals cases h
    exact .inl rfl
  | quoted =>
    simp only [step] at h
    split at h
    all_goals cases h
    exact .inl rfl
  | value =>
    simp only [step] at h
    split at h
    · cases h
    · next hv =>
      split at h
      · next hq =>
        cases h
        exact .inr (.inl ⟨hq, rfl⟩)
      · next hq =>
        cases h
        exact .inr (.inr ⟨by simpa using hv, by simpa using hq, rfl⟩)

/-- A reading that succeeds goes on behind the character, or ends with it, which is a quote then, or right before it. -/
theorem of_length?_cons {stage : Stage} {c : Char} {t : List Char} {k : Nat} (h : length? stage (c :: t) = some k) :
    (∃ next n, stage.step c = .inl next ∧ length? next t = some n ∧ k = n + 1) ∨ isQuote c ∧ k = 1 ∨
      isValueChar c = false ∧ isQuote c = false ∧ k = 0 := by
  rw [length?_step] at h
  cases hstep : stage.step c with
  | inl next =>
    rw [hstep, Sum.elim_inl, Option.map_eq_some_iff] at h
    obtain ⟨n, hn, hk⟩ := h
    exact .inl ⟨next, n, rfl, hn, hk.symm⟩
  | inr o =>
    rw [hstep] at h
    obtain rfl : o = some k := h
    rcases of_step_inr hstep with h | ⟨hq, h⟩ | ⟨hv, hq, h⟩
    · cases h
    · exact .inr (.inl ⟨hq, Option.some.inj h⟩)
    · exact .inr (.inr ⟨hv, hq, Option.some.inj h⟩)

/-- The reading comes to nothing within the text, whatever follows. -/
def fails : Stage → List Char → Bool
  | _, [] => false
  | stage, c :: t =>
    match stage.step c with
    | .inl next => next.fails t
    | .inr o => o.isNone

/-- The whole text is read, and then a value has begun. -/
def entersValue : Stage → List Char → Bool
  | value, [] => true
  | _, [] => false
  | stage, c :: t =>
    match stage.step c with
    | .inl next => next.entersValue t
    | .inr _ => false

theorem length?_of_fails {stage : Stage} {s : List Char} (h : stage.fails s) (t : List Char) :
    length? stage (s ++ t) = none := by
  induction s generalizing stage with
  | nil => cases h
  | cons c s ih =>
    rw [fails] at h
    rw [List.cons_append, length?_step]
    cases hstep : stage.step c with
    | inl next =>
      rw [hstep] at h
      simp only [Sum.elim_inl, ih h, Option.map_none]
    | inr o =>
      rw [hstep] at h
      simpa using h

theorem length?_of_entersValue {stage : Stage} {s : List Char} (h : stage.entersValue s) (t : List Char) :
    length? stage (s ++ t) = (length? value t).map (s.length + ·) := by
  induction s generalizing stage with
  | nil =>
    cases stage with
    | value => simp
    | name | sign | quoted => cases h
  | cons c s ih =>
    rw [entersValue] at h
    rw [List.cons_append, length?_step]
    cases hstep : stage.step c with
    | inl next =>
      rw [hstep] at h
      simp only [Sum.elim_inl, ih h, Option.map_map, List.length_cons]
      congr 1
      funext n
      simp only [Function.comp_apply]
      omega
    | inr o =>
      rw [hstep] at h
      cases h

end Rule.Stage

/-! ## (2) Labels -/

/-- An assignment to one of the names starts the text. -/
def Rule.Naming.Assigns (n : Naming) (t : List Char) : Prop :=
  ∃ w ∈ n.names.spellings, (Stage.length? (.name w) t).isSome

/-- Within a label nothing is assigned, but where the name's own label starts. -/
theorem fails_label : ∀ n ∈ Naming.all, ∀ w ∈ n.names.spellings, ∀ r ∈ Rule.all, ∀ v ∈ r.label.tails, v ≠ [] →
    n.rule.label <+: v ∨ Stage.fails (.name w) v := by
  decide +kernel

/-- Within the label of a name, from its second character on, nothing is assigned at all. -/
theorem fails_behind : ∀ n ∈ Naming.all, ∀ w ∈ n.names.spellings, ∀ m ∈ Naming.all, ∀ v ∈ m.rule.label.tail.tails,
    v ≠ [] → Stage.fails (.name w) v := by
  decide +kernel

/-- A name that has begun does not go on into a label. -/
theorem fails_into_label : ∀ n ∈ Naming.all, ∀ w ∈ n.names.spellings, ∀ v ∈ w.tail.tails, ∀ r ∈ Rule.all,
    Stage.fails (.name v) r.label := by
  decide +kernel

/-- The label of a name is an assignment to it, in each spelling that fits. -/
theorem entersValue_label : ∀ n ∈ Naming.all,
    (∀ w ∈ n.names.spellings, Stage.fails (.name w) n.rule.label ∨ Stage.entersValue (.name w) n.rule.label) ∧
      ∃ w ∈ n.names.spellings, Stage.entersValue (.name w) n.rule.label := by
  decide +kernel

theorem rule_cases {r : Rule} (h : r ∈ Rule.all) : (∃ n ∈ Naming.all, r = n.rule) ∨ r = block ∨ r ∈ runRules := by
  rw [all_parted, List.mem_append, List.mem_cons, List.mem_map] at h
  rcases h with ⟨n, hn, rfl⟩ | rfl | h
  · exact .inl ⟨n, hn, rfl⟩
  · exact .inr (.inl rfl)
  · exact .inr (.inr h)

theorem least_pos : ∀ r ∈ Rule.all, 0 < r.pattern.least := by
  decide

theorem matchAt_nil_of_least {p : Pattern} (hp : 0 < p.least) (b : Option Char) : p.matchAt b [] = none := by
  cases h : p.matchAt b [] with
  | none => rfl
  | some n =>
    have low := (of_matchAt p.within_true h).1
    have high : n ≤ 0 := le_of_matchAt h
    omega

theorem matchAt_nil {r : Rule} (hr : r ∈ Rule.all) (b : Option Char) : r.pattern.matchAt b [] = none :=
  matchAt_nil_of_least (least_pos r hr) b

/-! ### What matches begin with -/

def ascii : List Char := (List.range 128).map Char.ofNat

theorem mem_ascii {c : Char} (h : isBase64 c) : c ∈ ascii := by
  have below {n : UInt32} (h : c.val ≤ n) (hn : n.toNat < 128) : c.toNat < 128 := Nat.lt_of_le_of_lt h hn
  have small : c.toNat < 128 := by
    rcases Bool.or_eq_true_iff.mp h with h | slash
    · rcases Bool.or_eq_true_iff.mp h with h | plus
      · rcases Bool.or_eq_true_iff.mp h with letter | digit
        · rcases Bool.or_eq_true_iff.mp letter with capital | little
          · exact below (of_decide_eq_true capital).2 (by decide)
          · exact below (of_decide_eq_true (Bool.and_eq_true_iff.mp little).2) (by decide)
        · exact below (of_decide_eq_true (Bool.and_eq_true_iff.mp digit).2) (by decide)
      · rw [beq_iff_eq.mp plus]
        decide
    · rw [beq_iff_eq.mp slash]
      decide
  exact List.mem_map.mpr ⟨c.toNat, List.mem_range.mpr small, Char.ofNat_toNat c⟩

theorem isValueChar_of_isBase64 {c : Char} (h : isBase64 c) : isValueChar c := by
  have checked : ∀ c ∈ ascii, isBase64 c → isValueChar c := by decide +kernel
  exact checked c (mem_ascii h) h

/-- The characters of runs, with the padding of base64. -/
def isRunChar (c : Char) : Bool := isBase64 c || c == '='

theorem within_runRules : ∀ r ∈ runRules, r.pattern.Within isRunChar ∧ 32 ≤ r.pattern.least := by
  have base (c : Char) (h : isBase64 c) : isRunChar c := by rw [isRunChar, h]; rfl
  have pad (c : Char) (h : c == '=') : isRunChar c := by rw [isRunChar, h, Bool.or_true]
  have digits : hexadecimal.pattern.Within isRunChar :=
    ⟨⟨⟨fun c h => base c (within_hexadecimal.1.1.1 c h), fun c h => base c (within_hexadecimal.1.1.2 c h)⟩, trivial⟩,
      fun c h => base c (isBase64_of_isHexDigit h)⟩
  intro r hr
  simp only [runRules, List.mem_cons, List.not_mem_nil, or_false] at hr
  rcases hr with rfl | rfl
  · exact ⟨⟨base, pad⟩, by decide⟩
  · exact ⟨digits, by decide⟩

/-- A match of a rule for runs begins with a character of the base64 alphabet. -/
theorem isBase64_of_match {r : Rule} (hr : r ∈ runRules) {b : Option Char} {c : Char} {t : List Char} {k : Nat}
    (h : r.pattern.matchAt b (c :: t) = some k) : isBase64 c := by
  have first {n : Nat} (hn : 0 < n) (hrun : n ≤ runLength isBase64 (c :: t)) : isBase64 c := by
    by_contra hc
    rw [runLength_cons_neg hc] at hrun
    omega
  simp only [runRules, List.mem_cons, List.not_mem_nil, or_false] at hr
  rcases hr with rfl | rfl
  · obtain ⟨q, hq⟩ := exists_mem_ends h
    obtain ⟨p, hp, -⟩ := List.mem_flatMap.mp hq
    obtain ⟨n, hn, hle, -⟩ := mem_ends_many.mp hp
    exact first (Nat.lt_of_lt_of_le (by decide) hn) hle
  · obtain ⟨hl, hle⟩ := of_matchAt within_hexadecimal h
    exact first (Nat.lt_of_lt_of_le (by decide) hl) hle

namespace Rule.Naming

variable {n : Naming} (hn : n ∈ Naming.all)

include hn

/-- A name that is read over a text begins with its first character. -/
theorem exists_of_isSome {w : List (Char → Bool)} (hw : w ∈ n.names.spellings) {t : List Char}
    (h : (Stage.length? (.name w) t).isSome) :
    ∃ f w' c t', w = f :: w' ∧ t = c :: t' ∧ f c ∧ isNameChar c ∧ (Stage.length? (.name w') t').isSome := by
  have lawful := lawful_of_mem hn
  cases w with
  | nil => exact absurd (lawful.names_pos [] hw) (Nat.lt_irrefl 0)
  | cons f w' =>
    cases t with
    | nil => cases h
    | cons c t' =>
      rw [Stage.length?] at h
      split at h
      · next hf =>
        rw [Option.isSome_map] at h
        exact ⟨f, w', c, t', rfl, rfl, hf, lawful.named hw f List.mem_cons_self c hf, h⟩
      · cases h

/-- The names that have to stand apart begin with a letter. -/
theorem isAlphanum_of_apart (ha : n.apart) {f : Char → Bool} {w : List (Char → Bool)}
    (hw : f :: w ∈ n.names.spellings) {c : Char} (hc : f c) : c.isAlphanum := by
  simp only [all, List.mem_cons, List.not_mem_nil, or_false] at hn
  rcases hn with rfl | rfl | rfl | rfl
  · cases ha
  · have first : f = isForm 'p' := by
      have : f :: w ∈ [[isForm 'p', isForm 'i', isForm 'n', isForm 's'], [isForm 'p', isForm 'i', isForm 'n']] := hw
      simp only [List.mem_cons, List.cons.injEq, List.not_mem_nil, or_false] at this
      rcases this with ⟨h, -⟩ | ⟨h, -⟩ <;> exact h
    rw [first] at hc
    obtain rfl | hu | ⟨hl, -⟩ := isForm_cases hc
    · decide
    · exact Bool.or_eq_true_iff.mpr (.inl (Bool.or_eq_true_iff.mpr (.inl hu)))
    · exact absurd hl (by decide)
  · cases ha
  · cases ha

theorem exists_of_matchAt {b : Option Char} {t : List Char} {k : Nat} (h : n.rule.pattern.matchAt b t = some k) :
    ∃ w ∈ n.names.spellings, Stage.length? (.name w) t = some k := by
  rw [(lawful_of_mem hn).matchAt_eq, assignment] at h
  split at h
  · cases h
  · exact List.exists_of_findSome?_eq_some h

/-- An assignment whose name has to stand apart begins with a word character. -/
theorem head_isWord (ha : n.apart) {t : List Char} (h : n.Assigns t) : t.head?.any isWord := by
  obtain ⟨w, hw, h⟩ := h
  obtain ⟨f, w', c, t', rfl, rfl, hf, -, -⟩ := exists_of_isSome hn hw h
  have := isAlphanum_of_apart hn ha hw hf
  simp [isWord, this]

/-- An assignment is found where one starts, unless its name has to stand apart and does not. -/
theorem matchAt_ne_none_iff {b : Option Char} {t : List Char} :
    n.rule.pattern.matchAt b t ≠ none ↔ (n.apart → b.any isWord = false) ∧ n.Assigns t := by
  rw [(lawful_of_mem hn).matchAt_eq, assignment]
  have found : (n.names.spellings.findSome? fun w => Stage.length? (.name w) t) ≠ none ↔ n.Assigns t := by
    rw [ne_eq, List.findSome?_eq_none_iff, Assigns]
    simp only [Option.isSome_iff_ne_none]
    simp only [not_forall, exists_prop]
  by_cases assigns : n.Assigns t
  · have joined : (n.apart && !(⟨b, t, 0⟩ : Place).isBoundary) = true ↔ ¬(n.apart → b.any isWord = false) := by
      cases ha : n.apart with
      | false => simp
      | true => simp [Place.isBoundary, head_isWord hn ha assigns]
    split
    · next h => exact iff_of_false (fun h' => h' rfl) fun h' => joined.mp h h'.1
    · next h => exact iff_of_true (found.mpr assigns) ⟨not_not.mp (mt joined.mpr h), assigns⟩
  · refine iff_of_false (fun h => ?_) fun h => assigns h.2
    split at h
    · exact h rfl
    · exact assigns (found.mp h)

end Rule.Naming

/-- A match begins with a character of a value. -/
theorem isValueChar_of_match {r : Rule} (hr : r ∈ Rule.all) {b : Option Char} {c : Char} {t : List Char} {k : Nat}
    (h : r.pattern.matchAt b (c :: t) = some k) : isValueChar c := by
  rcases rule_cases hr with ⟨n, hn, rfl⟩ | rfl | hr
  · obtain ⟨-, w, hw, hsome⟩ := (Naming.matchAt_ne_none_iff hn).mp (by rw [h]; exact Option.some_ne_none k)
    obtain ⟨-, -, d, t', -, ht, -, hd, -⟩ := Naming.exists_of_isSome hn hw hsome
    cases ht
    exact (isNameChar_iff.mp hd).1
  · by_cases hc : c = '-'
    · rw [hc]
      decide
    · rw [matchAt_block, first_dashed_none hc] at h
      cases h
  · exact isValueChar_of_isBase64 (isBase64_of_match hr h)

/-! ## (3) Rewriting -/

/-- What comes of a text behind a character: characters are copied where no match starts, and matches give way to the
    label. -/
inductive Rewritten (p : Pattern) (label : List Char) : Option Char → List Char → List Char → Prop where
  | nil (b : Option Char) : Rewritten p label b [] []
  | copied {b : Option Char} {c : Char} {t t' : List Char} (h : p.matchAt b (c :: t) = none)
      (rest : Rewritten p label (some c) t t') : Rewritten p label b (c :: t) (c :: t')
  | replaced {b : Option Char} {m t t' : List Char} (hm : m ≠ []) (h : p.matchAt b (m ++ t) = some m.length)
      (rest : Rewritten p label (lastOf b m) t t') : Rewritten p label b (m ++ t) (label ++ t')

/-- Replacement takes these two steps only, if no match is empty. -/
theorem rewritten_replaceFrom {p : Pattern} (hp : 0 < p.least) (label : List Char) (b : Option Char) (t : List Char) :
    Rewritten p label b t (p.replaceFrom label 0 b t) := by
  induction hlen : t.length using Nat.strong_induction_on generalizing b t with
  | _ k ih =>
    cases t with
    | nil =>
      rw [replaceFrom_nil (matchAt_nil_of_least hp b)]
      exact .nil b
    | cons c t =>
      cases h : p.matchAt b (c :: t) with
      | none =>
        rw [replaceFrom_none h]
        exact .copied h (ih t.length (by rw [← hlen]; simp) _ _ rfl)
      | some n =>
        have low := (of_matchAt p.within_true h).1
        have high := le_of_matchAt h
        -- the text is the match and what comes behind it
        have parts : (c :: t).take n ++ (c :: t).drop n = c :: t := List.take_append_drop n _
        have length : ((c :: t).take n).length = n := List.length_take_of_le high
        have nonempty : (c :: t).take n ≠ [] := by
          intro hnil
          rw [hnil] at length
          simp only [List.length_nil] at length
          omega
        have taken : p.matchAt b ((c :: t).take n ++ (c :: t).drop n) = some ((c :: t).take n).length := by
          rw [parts, h, length]
        have rest := ih ((c :: t).drop n).length (by rw [List.length_drop, ← hlen]; omega)
          (lastOf b ((c :: t).take n)) _ rfl
        have whole : Rewritten p label b _ _ := .replaced nonempty taken rest
        rw [← replaceFrom_match nonempty taken, parts] at whole
        exact whole

theorem Rule.rewritten {r : Rule} (hr : r ∈ Rule.all) (t : List Char) :
    Rewritten r.pattern r.label none t (r.apply t) :=
  rewritten_replaceFrom (least_pos r hr) r.label none t

/-- What begins the result without reaching into a label begins the text. -/
theorem Rewritten.isPrefix {p : Pattern} {label : List Char} {b : Option Char} {t t' : List Char}
    (h : Rewritten p label b t t') {s : List Char} (hlabel : label ≠ []) (hs : ∀ c ∈ label.head?, c ∉ s)
    (hbegins : s <+: t') : s <+: t := by
  induction h generalizing s with
  | nil b => exact hbegins
  | copied _ _ ih =>
    cases s with
    | nil => exact List.nil_prefix
    | cons d s =>
      obtain ⟨rfl, hrest⟩ := List.cons_prefix_cons.mp hbegins
      have rest := ih (fun c hc hmem => hs c hc (List.mem_cons_of_mem d hmem)) hrest
      exact List.cons_prefix_cons.mpr ⟨rfl, rest⟩
  | replaced _ _ _ _ =>
    cases s with
    | nil => exact List.nil_prefix
    | cons d s =>
      cases label with
      | nil => exact absurd rfl hlabel
      | cons c label =>
        obtain ⟨rfl, -⟩ := List.cons_prefix_cons.mp hbegins
        exact absurd List.mem_cons_self (hs d rfl)

/-- Text that no match starts in is copied. -/
theorem Rewritten.of_append {p : Pattern} {label : List Char} {b : Option Char} {s z t' : List Char}
    (h : Rewritten p label b (s ++ z) t') (hs : ∀ v, v <:+ s → v ≠ [] → ∀ b, p.matchAt b (v ++ z) = none) :
    ∃ z', t' = s ++ z' ∧ Rewritten p label (lastOf b s) z z' := by
  induction s generalizing b t' with
  | nil => exact ⟨t', rfl, h⟩
  | cons c s ih =>
    have missed : p.matchAt b (c :: (s ++ z)) = none := hs (c :: s) List.suffix_rfl (List.cons_ne_nil c s) b
    have inner : ∀ v, v <:+ s → v ≠ [] → ∀ b, p.matchAt b (v ++ z) = none := fun v hv =>
      hs v (hv.trans (List.suffix_cons c s))
    rw [List.cons_append] at h
    generalize ht : c :: (s ++ z) = t at h
    cases h with
    | nil => cases ht
    | copied _ rest =>
      cases ht
      obtain ⟨z', rfl, hz⟩ := ih rest inner
      exact ⟨z', rfl, hz⟩
    | replaced _ hmatch _ =>
      rw [← ht, missed] at hmatch
      cases hmatch

/-- Where a label of a name stands, it is copied from its second character on. -/
theorem matchAt_behind {r : Rule} (hr : r ∈ Rule.all) {m : Naming} (hm : m ∈ Naming.all) {v : List Char}
    (hv : v <:+ m.rule.label.tail) (hne : v ≠ []) (b : Option Char) (z : List Char) :
    r.pattern.matchAt b (v ++ z) = none := by
  have checked : ∀ m ∈ Naming.all, ∀ v ∈ m.rule.label.tail.tails, v ≠ [] →
      v.head? ≠ some '-' ∧ v.length < 32 ∧ v.getLast? = some ']' := by decide +kernel
  obtain ⟨hdash, hshort, hlast⟩ := checked m hm v ((List.mem_tails _ _).mpr hv) hne
  by_contra hfound
  obtain ⟨k, hk⟩ := Option.ne_none_iff_exists'.mp hfound
  rcases rule_cases hr with ⟨n, hn, rfl⟩ | rfl | hr
  · obtain ⟨-, w, hw, hsome⟩ := (Naming.matchAt_ne_none_iff hn).mp hfound
    rw [Stage.length?_of_fails (fails_behind n hn w hw m hm v ((List.mem_tails _ _).mpr hv) hne)] at hsome
    cases hsome
  · cases v with
    | nil => exact hne rfl
    | cons c v =>
      have hc : c ≠ '-' := fun h => hdash (by rw [h]; rfl)
      rw [List.cons_append, matchAt_block, first_dashed_none hc] at hk
      cases hk
  · obtain ⟨within, hleast⟩ := within_runRules r hr
    obtain ⟨hl, hle⟩ := of_matchAt within hk
    obtain ⟨u, rfl⟩ := List.getLast?_eq_some_iff.mp hlast
    have outside : ¬isRunChar ']' := by decide
    rw [List.append_assoc, List.singleton_append, runLength_append_cons outside] at hle
    have := (List.takeWhile_sublist (l := u) isRunChar).length_le
    rw [List.length_append, List.length_singleton] at hshort
    rw [runLength] at hle
    omega

/-- The reading has got past the first character of a name. -/
def Rule.Stage.Begun : Stage → Prop
  | .name v => ∃ n ∈ Naming.all, ∃ w ∈ n.names.spellings, v <:+ w.tail
  | .sign | .quoted | .value => True

theorem Rule.Stage.begun_step {stage next : Stage} {c : Char} (h : stage.Begun) (hstep : stage.step c = .inl next) :
    next.Begun := by
  rcases of_step_inl hstep with ⟨f, v, rfl, rfl⟩ | ⟨rfl, rfl⟩ | past
  · obtain ⟨n, hn, w, hw, hv⟩ := h
    exact ⟨n, hn, w, hw, (List.suffix_cons f v).trans hv⟩
  · exact h
  · cases next with
    | name w => exact absurd rfl (past w)
    | sign | quoted | value => trivial

/-- Behind the name, a character of a value is all that is missing. -/
theorem Rule.Stage.isSome_of_isValueChar {stage : Stage} (h : ∀ w, stage ≠ .name w) {c : Char} (hc : isValueChar c)
    (t : List Char) : (length? stage (c :: t)).isSome := by
  have hb : ¬isBlank c := fun hb => by simp [isValueChar_of_isBlank hb] at hc
  have hq : ¬isQuote c := fun hq => by simp [isValueChar_of_isQuote hq] at hc
  have value : (length? value t).isSome := isSome_value t
  cases stage with
  | name w => exact absurd rfl (h w)
  | sign => rw [length?, if_neg hb, if_neg hq, if_pos hc, Option.isSome_map, value]
  | quoted => rw [length?, if_pos hc, Option.isSome_map, value]
  | value => exact isSome_value _

/-- An assignment that has begun and goes on into what comes of a text goes on into the text, too. -/
theorem Rewritten.isSome_length? {r : Rule} (hr : r ∈ Rule.all) {b : Option Char} {t t' : List Char}
    (h : Rewritten r.pattern r.label b t t') {stage : Stage} (hstage : stage.Begun)
    (hsome : (Stage.length? stage t').isSome) : (Stage.length? stage t).isSome := by
  induction h generalizing stage with
  | nil b => exact hsome
  | @copied b c t t' _ _ ih =>
    exact Stage.isSome_of_cons hsome fun _ hstep hnext => ih (Stage.begun_step hstage hstep) hnext
  | @replaced b m t t' hm hmatch _ _ =>
    cases stage with
    | name v =>
      -- no name that has begun goes on into a label
      obtain ⟨n, hn, w, hw, hv⟩ := hstage
      rw [Stage.length?_of_fails (fails_into_label n hn w hw v ((List.mem_tails _ _).mpr hv) r hr)] at hsome
      cases hsome
    | sign | quoted | value =>
      cases m with
      | nil => exact absurd rfl hm
      | cons c m => exact Stage.isSome_of_isValueChar (by simp) (isValueChar_of_match hr hmatch) _

/-- An assignment that starts in the result with a character that has been copied starts in the text, too. -/
theorem assigns_of_rewritten {r : Rule} (hr : r ∈ Rule.all) {b : Option Char} {c : Char} {t t' : List Char}
    (h : Rewritten r.pattern r.label b t t') {n : Naming} (hn : n ∈ Naming.all) (ha : n.Assigns (c :: t')) :
    n.Assigns (c :: t) := by
  obtain ⟨w, hw, hsome⟩ := ha
  obtain ⟨f, w', d, t₀, rfl, ht, hf, -, hsome⟩ := Naming.exists_of_isSome hn hw hsome
  cases ht
  have begun : Stage.Begun (.name w') := ⟨n, hn, f :: w', hw, List.suffix_rfl⟩
  refine ⟨f :: w', hw, ?_⟩
  rw [Stage.length?, if_pos hf, Option.isSome_map]
  exact h.isSome_length? hr begun hsome

end KeyBundle.Redaction
