/-
  KeyBundle.Proofs.Runs — a redacted text holds no long runs.

  Forty characters of the base64 alphabet in a row, or thirty-two hexadecimal digits, are taken for a key.

  (1) No place of a text lies before a long run exactly if there is no long run in it (`noRun_iff`); a character
      of another class parts the runs (`noRun_append_cons`).
  (2) Replacement leaves no long run if it finds a match wherever one begins, and if what its label begins with is
      no longer than what a match takes (`noRun_replaceFrom`): then no run grows into a label, and none
      out of it, as labels end with a bracket.
  (3) The rule for base64 leaves no run of base64, and the rule for digits none of digits; that rule and the
      literals bring back no run that had gone. So a redacted text holds neither (`redact_noRun`).
-/

import KeyBundle.Proofs.Matching

namespace KeyBundle.Redaction

/-! ## (1) Runs -/

/-- Fewer than `n` characters of the class ever follow each other in the text. -/
def NoRun (a : Char → Bool) (n : Nat) (t : List Char) : Prop :=
  ∀ s, s <:+: t → (∀ c ∈ s, a c) → s.length < n

variable {a : Char → Bool} {n : Nat} {d : Char}

theorem noRun_iff {t : List Char} : NoRun a n t ↔ ∀ s, s <:+ t → runLength a s < n := by
  constructor
  · intro h s hs
    exact h _ ((List.takeWhile_prefix a).isInfix.trans hs.isInfix) fun c hc => List.mem_takeWhile_imp hc
  · rintro h s ⟨x, y, rfl⟩ hs
    refine Nat.lt_of_le_of_lt ?_ (h (s ++ y) ⟨x, (List.append_assoc ..).symm⟩)
    rw [runLength, List.takeWhile_append_of_pos hs, List.length_append]
    exact Nat.le_add_right _ _

theorem noRun_nil (h : 0 < n) : NoRun a n [] := by
  intro s hs _
  rwa [List.infix_nil.mp hs]

theorem noRun_of_length {t : List Char} (h : t.length < n) : NoRun a n t :=
  fun _ hs _ => Nat.lt_of_le_of_lt hs.length_le h

theorem noRun_cons {c : Char} {t : List Char} : NoRun a n (c :: t) ↔ runLength a (c :: t) < n ∧ NoRun a n t := by
  simp only [noRun_iff, List.suffix_cons_iff, forall_eq_or_imp]

/-- A character of another class parts the runs. -/
theorem noRun_append_cons (hd : ¬a d) (u w : List Char) :
    NoRun a n (u ++ d :: w) ↔ NoRun a n u ∧ NoRun a n w ∧ 0 < n := by
  induction u with
  | nil =>
    rw [List.nil_append, noRun_cons, runLength_cons_neg hd]
    exact ⟨fun ⟨hn, hw⟩ => ⟨noRun_nil hn, hw, hn⟩, fun ⟨_, hw, hn⟩ => ⟨hn, hw⟩⟩
  | cons c u ih =>
    have parted : runLength a ((c :: u) ++ d :: w) = runLength a (c :: u) := runLength_append_cons hd _ w
    rw [List.cons_append] at parted ⊢
    rw [noRun_cons, noRun_cons, parted, ih, and_assoc]

/-! ## (2) Replacement -/

/-- A label that starts with `lead` and then leaves the class, holds no long run, and ends outside the class. -/
def Parts (a : Char → Bool) (n : Nat) (lead label : List Char) : Prop :=
  ∃ d mid e, label = lead ++ d :: (mid ++ [e]) ∧ ¬a d ∧ ¬a e ∧ lead.length < n ∧ mid.length < n

variable {lead label : List Char}

theorem Parts.runLength_append (h : Parts a n lead label) (w : List Char) :
    runLength a (label ++ w) ≤ lead.length := by
  obtain ⟨d, mid, e, rfl, hd, -⟩ := h
  rw [List.append_assoc, List.cons_append, runLength_append_cons hd]
  exact (List.takeWhile_sublist _).length_le

theorem Parts.noRun_append (h : Parts a n lead label) {w : List Char} (hw : NoRun a n w) : NoRun a n (label ++ w) := by
  obtain ⟨d, mid, e, rfl, hd, he, hlead, hmid⟩ := h
  have hn : 0 < n := Nat.zero_lt_of_lt hlead
  rw [List.append_assoc, List.cons_append, List.append_assoc, List.singleton_append, noRun_append_cons hd,
    noRun_append_cons he]
  exact ⟨noRun_of_length hlead, ⟨noRun_of_length hmid, hw, hn⟩, hn⟩

variable {p : Pattern}

/-- What a text starts with is not made longer: what a label starts with is no longer than what it stands for. -/
theorem runLength_replaceFrom (hl : Parts a n lead label)
    (fits : ∀ b t m, p.matchAt b t = some m → lead.length ≤ runLength a t) (b : Option Char) (t : List Char) :
    runLength a (p.replaceFrom label 0 b t) ≤ runLength a t := by
  have labelled {b : Option Char} {t : List Char} {m : Nat} (h : p.matchAt b t = some m) (w : List Char) :
      runLength a (label ++ w) ≤ runLength a t := Nat.le_trans (hl.runLength_append w) (fits b t m h)
  induction t generalizing b with
  | nil =>
    rw [Pattern.replaceFrom]
    split
    · next h =>
      obtain ⟨m, hm⟩ := Option.isSome_iff_exists.mp h
      simpa only [List.append_nil] using labelled hm []
    · exact Nat.le_refl _
  | cons c t ih =>
    rw [Pattern.replaceFrom]
    split
    · next h => exact labelled h _
    · next h => exact labelled h _
    · by_cases hc : a c
      · rw [runLength_cons_pos hc, runLength_cons_pos hc]
        exact Nat.succ_le_succ (ih _)
      · rw [runLength_cons_neg hc]
        exact Nat.zero_le _

/-- No long run is left where every long run begins a match. -/
theorem noRun_replaceFrom (hl : Parts a n lead label)
    (fits : ∀ b t m, p.matchAt b t = some m → lead.length ≤ runLength a t) {t : List Char}
    (found : ∀ b s, s <:+ t → (∀ m, p.matchAt b s ≠ some (m + 1)) → runLength a s < n) (skip : Nat) (b : Option Char) :
    NoRun a n (p.replaceFrom label skip b t) := by
  obtain ⟨-, -, -, -, -, -, hn, -⟩ := id hl
  have empty : NoRun a n [] := noRun_nil (Nat.zero_lt_of_lt hn)
  induction t generalizing skip b with
  | nil =>
    rw [Pattern.replaceFrom]
    split
    · simpa only [List.append_nil] using hl.noRun_append empty
    · exact empty
  | cons c t ih =>
    have rest := ih fun b s hs => found b s (hs.trans (List.suffix_cons c t))
    have copied (h : ∀ m, p.matchAt b (c :: t) ≠ some (m + 1)) :
        NoRun a n (c :: p.replaceFrom label 0 (some c) t) := by
      refine noRun_cons.mpr ⟨Nat.lt_of_le_of_lt ?_ (found b _ List.suffix_rfl h), rest 0 _⟩
      by_cases hc : a c
      · rw [runLength_cons_pos hc, runLength_cons_pos hc]
        exact Nat.succ_le_succ (runLength_replaceFrom hl fits _ t)
      · rw [runLength_cons_neg hc]
        exact Nat.zero_le _
    cases skip with
    | succ skip =>
      rw [Pattern.replaceFrom]
      exact rest skip _
    | zero =>
      rw [Pattern.replaceFrom]
      split
      · exact hl.noRun_append (rest _ _)
      · next h => exact hl.noRun_append (copied (by simp [h]))
      · next h => exact copied (by simp [h])

/-! ## (3) Redaction -/

/-- Replacement with a label that starts with no more than every match takes brings back no run. -/
theorem noRun_replaceAll (hl : Parts a n lead label)
    (fits : ∀ b t m, p.matchAt b t = some m → lead.length ≤ runLength a t) {t : List Char} (h : NoRun a n t) :
    NoRun a n (p.replaceAll label t) :=
  noRun_replaceFrom hl fits (fun _ s hs _ => noRun_iff.mp h s hs) 0 none

namespace Rule

open Pattern

theorem isBase64_of_isAlphanum {c : Char} (h : c.isAlphanum) : isBase64 c := by
  rw [isBase64, h]
  rfl

theorem isBase64_of_letter {c : Char} (h : c.isUpper ∨ c.isLower) : isBase64 c :=
  isBase64_of_isAlphanum (Bool.or_eq_true_iff.mpr (.inl (Bool.or_eq_true_iff.mpr h)))

theorem isBase64_of_isHexDigit {c : Char} (h : isHexDigit c) : isBase64 c := by
  simp only [isHexDigit, Bool.or_eq_true, Bool.and_eq_true, decide_eq_true_eq] at h
  rcases h with (digit | ⟨h₁, h₂⟩) | ⟨h₁, h₂⟩
  · exact isBase64_of_isAlphanum (Bool.or_eq_true_iff.mpr (.inr digit))
  · have small : c.isLower :=
      Bool.and_eq_true_iff.mpr ⟨decide_eq_true h₁, decide_eq_true (UInt32.le_trans h₂ (by decide))⟩
    exact isBase64_of_letter (.inr small)
  · have capital : c.isUpper := decide_eq_true ⟨h₁, UInt32.le_trans h₂ (by decide)⟩
    exact isBase64_of_letter (.inl capital)

/-- The sign of base sixteen is written in characters of the base64 alphabet. -/
theorem within_hexadecimal : hexadecimal.pattern.Within isBase64 := by
  have form {l : Char} (hl : isBase64 l) (hk : l ∉ ['i', 's', 'k']) (c : Char) (h : isForm l c) : isBase64 c := by
    obtain rfl | hu | ⟨hl', -⟩ := isForm_cases h
    · exact hl
    · exact isBase64_of_letter (.inl hu)
    · exact absurd hl' hk
  exact ⟨⟨⟨form (by decide) (by decide), form (by decide) (by decide)⟩, trivial⟩, fun c => isBase64_of_isHexDigit⟩

theorem noRun_base64 (t : List Char) : NoRun isBase64 40 (base64.apply t) := by
  have label : Parts isBase64 40 "base64".toList base64.label :=
    ⟨'_', "secret=[REDACTED".toList, ']', rfl, by decide, by decide, by decide, by decide⟩
  refine noRun_replaceFrom label (fun b s m h => ?_) (fun b s _ h => ?_) 0 none
  · obtain ⟨q, hq⟩ := exists_mem_ends h
    obtain ⟨r, hr, -⟩ := List.mem_flatMap.mp hq
    obtain ⟨n, hn, hle, -⟩ := mem_ends_many.mp hr
    exact Nat.le_trans (Nat.le_trans (by decide) hn) hle
  · by_contra hlong
    have hr : (⟨b, s, 0⟩ : Place).after 40 ∈ (many isBase64 40 none).ends ⟨b, s, 0⟩ :=
      mem_ends_many.mpr ⟨40, Nat.le_refl _, Nat.le_of_not_lt hlong, rfl⟩
    obtain ⟨m, hm⟩ := positive_matchAt (p := base64.pattern) (by decide)
      (List.mem_flatMap.mpr ⟨_, hr, self_mem_ends_many _ _ _⟩)
    exact h m hm

theorem noRun_hexadecimal (t : List Char) : NoRun isHexDigit 32 (hexadecimal.apply t) := by
  have label : Parts isHexDigit 32 [] hexadecimal.label :=
    ⟨'h', "ex_secret=[REDACTED".toList, ']', rfl, by decide, by decide, by decide, by decide⟩
  refine noRun_replaceFrom label (fun _ _ _ _ => Nat.zero_le _) (fun b s _ h => ?_) 0 none
  by_contra hlong
  have hr : (⟨b, s, 0⟩ : Place).after 32 ∈ (many isHexDigit 32 none).ends ⟨b, s, 0⟩ :=
    mem_ends_many.mpr ⟨32, Nat.le_refl _, Nat.le_of_not_lt hlong, rfl⟩
  obtain ⟨m, hm⟩ := positive_matchAt (p := hexadecimal.pattern) (by decide)
    (List.mem_flatMap.mpr ⟨_, List.mem_append_right _ (List.mem_singleton_self _), hr⟩)
  exact h m hm

/-- The label for digits is shorter than the digits. -/
theorem noRun_base64_hexadecimal {t : List Char} (h : NoRun isBase64 40 t) :
    NoRun isBase64 40 (hexadecimal.apply t) := by
  have label : Parts isBase64 40 "hex".toList hexadecimal.label :=
    ⟨'_', "secret=[REDACTED".toList, ']', rfl, by decide, by decide, by decide, by decide⟩
  refine noRun_replaceAll label (fun b s m hm => ?_) h
  obtain ⟨hl, hr⟩ := of_matchAt within_hexadecimal hm
  exact Nat.le_trans (Nat.le_trans (by decide) hl) hr

end Rule

/-- Hiding literals brings back no run. -/
theorem noRun_hideLiterals (ha : ¬a '[' ∧ ¬a ']') (hn : 8 < n) (literals : List (List Char)) {t : List Char}
    (h : NoRun a n t) : NoRun a n (literals.foldl hideLiteral t) := by
  have label : Parts a n [] mark.toList :=
    ⟨'[', "REDACTED".toList, ']', rfl, ha.1, ha.2, Nat.zero_lt_of_lt hn, hn⟩
  induction literals generalizing t with
  | nil => exact h
  | cons l ls ih => exact ih (noRun_replaceAll label (fun _ _ _ _ => Nat.zero_le _) h)

/-- A redacted text holds no run of forty base64 characters and none of thirty-two hexadecimal digits. -/
theorem redact_noRun (literals : List String) (text : String) :
    NoRun Rule.isBase64 40 (redact literals text).toList ∧ NoRun Rule.isHexDigit 32 (redact literals text).toList := by
  rw [redact, String.toList_ofList, redactChars]
  exact ⟨noRun_hideLiterals (by decide) (by decide) _ (Rule.noRun_base64_hexadecimal (Rule.noRun_base64 _)),
    noRun_hideLiterals (by decide) (by decide) _ (Rule.noRun_hexadecimal _)⟩

end KeyBundle.Redaction
