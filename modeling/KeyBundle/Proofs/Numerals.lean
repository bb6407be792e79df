/-
  KeyBundle.Proofs.Numerals — which texts write whole numbers.

  A numeral is blanks, a sign or none, digits with single underscores between them, and blanks again
  (`Writes`), and just these are read, with the number that they write (`readInt_eq_ok_iff`). Underscores are well
  spaced just when the digits are separated by one at most (`wellSpaced_of_digits`, `digits_of_wellSpaced`), and a run of
  digits goes as far as it can, so that a numeral is taken apart in one way only (`readDigits_eq_ok_iff`).
-/

import KeyBundle.Number.Literal
import Mathlib.Data.List.TakeWhile

namespace KeyBundle.Number

/-! ## Digits and underscores -/

/-- The text has these digits, with one underscore between two of them at most. -/
inductive Digits : (text digits : List Char) → Prop where
  | one {d : Char} : d.isDigit → Digits [d] [d]
  | next {d : Char} {s ds : List Char} : d.isDigit → Digits s ds → Digits (d :: s) (d :: ds)
  | spaced {d : Char} {s ds : List Char} : d.isDigit → Digits s ds → Digits (d :: '_' :: s) (d :: ds)

/-- A digit or an underscore. -/
def isPart (c : Char) : Bool := c.isDigit || c == '_'

variable {text : String} {s ds body after : List Char} {c d : Char} {m : Nat} {n : Int}

theorem isPart_digit (h : d.isDigit) : isPart d := by simp [isPart, h]

theorem isPart_underscore : isPart '_' := rfl

theorem ne_underscore (h : d.isDigit) : (d == '_') = false :=
  beq_eq_false_iff_ne.mpr fun same => absurd h (same ▸ by decide)

theorem wellSpaced_of_digits (h : Digits s ds) (b : Bool) : wellSpaced b s = true := by
  induction h generalizing b with
  | one hd => simp [wellSpaced, ne_underscore hd]
  | next hd _ ih => simp [wellSpaced, ne_underscore hd, ih]
  | spaced hd _ ih => simp [wellSpaced, ne_underscore hd, ih]

theorem Digits.isPart (h : Digits s ds) : ∀ c ∈ s, isPart c := by
  induction h with
  | one hd => simpa using isPart_digit hd
  | next hd _ ih => exact List.forall_mem_cons.mpr ⟨isPart_digit hd, ih⟩
  | spaced hd _ ih => simp only [List.forall_mem_cons]; exact ⟨isPart_digit hd, isPart_underscore, ih⟩

theorem Digits.filter (h : Digits s ds) : s.filter (·.isDigit) = ds := by
  induction h with
  | one hd => simp [hd]
  | next hd _ ih => simp [hd, ih]
  | spaced hd _ ih => simp [hd, ih, show '_'.isDigit = false from rfl]

/-- By recursion on the text: an underscore goes with the digit before it. -/
theorem digits_of_wellSpaced : ∀ {s : List Char}, (∀ c ∈ s, isPart c) → wellSpaced false s = true →
    Digits s (s.filter (·.isDigit))
  | [], _, spaced => by cases spaced
  | d :: s, parts, spaced => by
    have digit : d.isDigit := by
      have first := parts d List.mem_cons_self
      by_cases h : d = '_'
      · subst h; cases spaced
      · simpa [isPart, h] using first
    have rest : wellSpaced true s = true := by simpa [wellSpaced, ne_underscore digit] using spaced
    have parts : ∀ c ∈ s, isPart c := fun c hc => parts c (.tail _ hc)
    rw [List.filter_cons_of_pos digit]
    match s, rest, parts with
    | [], _, _ => exact .one digit
    | c :: s, rest, parts =>
      by_cases h : c = '_'
      · subst h
        exact .spaced digit (digits_of_wellSpaced (fun c hc => parts c (.tail _ hc)) (by simpa [wellSpaced] using rest))
      · exact .next digit (digits_of_wellSpaced parts (by simpa [wellSpaced, h] using rest))

theorem Digits.head (h : Digits s ds) : ∃ d rest, s = d :: rest ∧ d.isDigit := by
  cases h with
  | one hd | next hd _ | spaced hd _ => exact ⟨_, _, rfl, hd⟩

/-! ## Digits to the end -/

theorem le_toNat_of_isDigit (h : d.isDigit) : '0'.toNat ≤ d.toNat := by
  simp only [Char.isDigit, Bool.and_eq_true, decide_eq_true_eq] at h
  exact UInt32.le_iff_toNat_le.mp h.1

theorem toNat_le_of_isPlainBlank (h : isPlainBlank c = true) : c.toNat ≤ ' '.toNat := by
  simp only [isPlainBlank, Bool.or_eq_true, beq_iff_eq, Bool.and_eq_true, decide_eq_true_eq] at h
  obtain rfl | h := h
  · exact Nat.le_refl _
  · exact Nat.le_trans h.2 (by decide)

theorem isPart_of_isPlainBlank (h : isPlainBlank c = true) : isPart c = false := by
  rw [Bool.eq_false_iff]
  intro part
  have low := toNat_le_of_isPlainBlank h
  obtain digit | rfl := by simpa [isPart] using part
  · exact absurd (Nat.le_trans (le_toNat_of_isDigit digit) low) (by decide)
  · exact absurd low (by decide)

theorem isPlainBlank_of_isDigit (h : d.isDigit) : isPlainBlank d = false := by
  rw [Bool.eq_false_iff]
  intro blank
  exact absurd (isPart_digit h) (by simp [isPart_of_isPlainBlank blank])

/-- A run of parts ends where the blanks begin. -/
theorem span_isPart (parts : ∀ c ∈ body, isPart c) (blanks : ∀ c ∈ after, isPlainBlank c) :
    (body ++ after).takeWhile isPart = body ∧ (body ++ after).dropWhile isPart = after := by
  rw [List.takeWhile_append_of_pos parts, List.dropWhile_append_of_pos parts]
  cases after with
  | nil => simp
  | cons c after => simp [isPart_of_isPlainBlank (blanks c List.mem_cons_self)]

theorem readDigits_eq_ok_iff : readDigits text s = .ok m ↔ ∃ body ds after, s = body ++ after ∧ Digits body ds ∧
    ds.length ≤ maxDigits ∧ (∀ c ∈ after, isPlainBlank c) ∧ m = digitsValue ds := by
  have unfolded : readDigits text s =
      if wellSpaced false (s.takeWhile isPart) = false then .error (.malformed text)
      else if maxDigits < ((s.takeWhile isPart).filter (·.isDigit)).length then
        .error (.tooLong ((s.takeWhile isPart).filter (·.isDigit)).length)
      else if (s.dropWhile isPart).all isPlainBlank = false then .error (.malformed text)
      else .ok (digitsValue ((s.takeWhile isPart).filter (·.isDigit))) := by
    simp only [readDigits, Bool.not_eq_true']
    rfl
  rw [unfolded]
  constructor
  · intro h
    split at h
    · cases h
    · next spaced =>
      split at h
      · cases h
      · next short =>
        split at h
        · cases h
        · next blanks =>
          rw [Bool.not_eq_false] at spaced blanks
          cases h
          exact ⟨_, _, _, List.takeWhile_append_dropWhile.symm,
            digits_of_wellSpaced (fun c hc => List.mem_takeWhile_imp hc) spaced, Nat.le_of_not_lt short,
            List.all_eq_true.mp blanks, rfl⟩
  · rintro ⟨body, ds, after, rfl, digits, short, blanks, rfl⟩
    obtain ⟨run, rest⟩ := span_isPart digits.isPart blanks
    rw [run, rest, wellSpaced_of_digits digits false, digits.filter, List.all_eq_true.mpr blanks, if_neg nofun,
      if_neg (Nat.not_lt.mpr short), if_neg nofun]

/-! ## Signs and blanks -/

/-- The number that a sign before digits makes of their value. -/
inductive Signed : (sign : List Char) → (value : Nat) → (number : Int) → Prop where
  | bare (m : Nat) : Signed [] m m
  | plus (m : Nat) : Signed ['+'] m m
  | minus (m : Nat) : Signed ['-'] m (-m)

/-- Between blanks, the text has a sign or none and the digits of the number, not too many of them. -/
def Writes (text : String) (n : Int) : Prop :=
  ∃ before sign body after ds, toPlain text.toList = before ++ (sign ++ body ++ after) ∧
    (∀ c ∈ before, isPlainBlank c) ∧ (∀ c ∈ after, isPlainBlank c) ∧
    Digits body ds ∧ ds.length ≤ maxDigits ∧ Signed sign (digitsValue ds) n

/-- The digits are read after the sign, which is taken off if there is one. -/
theorem readInt_eq_ok_iff_signed : readInt text = .ok n ↔
    ∃ sign rest m, (toPlain text.toList).dropWhile isPlainBlank = sign ++ rest ∧ readDigits text rest = .ok m ∧
      Signed sign m n := by
  unfold readInt
  constructor
  · intro h
    split at h
    · next s first =>
      cases digits : readDigits text s with
      | error _ => rw [digits] at h; cases h
      | ok m => rw [digits] at h; cases h; exact ⟨_, s, m, first, digits, .minus m⟩
    · next s first =>
      cases digits : readDigits text s with
      | error _ => rw [digits] at h; cases h
      | ok m => rw [digits] at h; cases h; exact ⟨_, s, m, first, digits, .plus m⟩
    · cases digits : readDigits text _ with
      | error _ => rw [digits] at h; cases h
      | ok m => rw [digits] at h; cases h; exact ⟨[], _, m, rfl, digits, .bare m⟩
  · rintro ⟨sign, rest, m, first, digits, signed⟩
    rw [first]
    cases signed with
    | plus | minus => simp only [List.singleton_append, digits]; rfl
    | bare =>
      -- a digit comes first, which is no sign
      obtain ⟨body, ds, after, rfl, hbody, -⟩ := readDigits_eq_ok_iff.mp digits
      obtain ⟨d, tail, rfl, hd⟩ := hbody.head
      rw [List.nil_append] at *
      split
      · next same => cases same; cases hd
      · next same => cases same; cases hd
      · rw [digits]; rfl

theorem readInt_eq_ok_iff : readInt text = .ok n ↔ Writes text n := by
  simp only [readInt_eq_ok_iff_signed, readDigits_eq_ok_iff]
  constructor
  · rintro ⟨sign, rest, m, first, ⟨body, ds, after, rfl, digits, short, blanks, rfl⟩, signed⟩
    refine ⟨(toPlain text.toList).takeWhile isPlainBlank, sign, body, after, ds, ?_,
      fun c hc => List.mem_takeWhile_imp hc, blanks, digits, short, signed⟩
    rw [List.append_assoc sign, ← first, List.takeWhile_append_dropWhile]
  · rintro ⟨before, sign, body, after, ds, text_eq, blanksBefore, blanksAfter, digits, short, signed⟩
    refine ⟨sign, body ++ after, _, ?_, ⟨body, ds, after, rfl, digits, short, blanksAfter, rfl⟩, signed⟩
    rw [text_eq, List.dropWhile_append_of_pos blanksBefore, ← List.append_assoc]
    -- what comes after the blanks is a sign or a digit
    cases signed with
    | plus | minus => rfl
    | bare =>
      obtain ⟨d, tail, rfl, hd⟩ := digits.head
      simp [isPlainBlank_of_isDigit hd]

end KeyBundle.Number
