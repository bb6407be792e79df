/-
  KeyBundle.Proofs.RawTexts — raw text between quotes.

  (1) Raw text can be written in UTF-8 exactly if it is text, that is, has no surrogates (`exists_utf8_iff`).
  (2) A form that ends by itself tells what it is the form of, whatever follows it (`Delimited`). Items whose forms do
      so can be put one after the other up to a mark with which none of them starts (`Delimited.upTo`).
  (3) The sign behind a backslash says how many digits follow, or which code point is meant (`escape?_some`); a code
      point that stands for itself is neither a quote nor a backslash (`escape?_none`). So raw text is told by its
      quoted form (`delimited_quoted`).
  (4) A surrogate is not printable (`isChar_of_isPrintable`). So the quoted form of any raw text is text
      (`isText_quoted`), and it is the usual one for text (`quoted_ofString`).
-/

import KeyBundle.Text.CodePoint
import Mathlib.Algebra.Group.Nat.Defs
import Mathlib.Data.List.Basic
import Mathlib.Data.Set.List

namespace KeyBundle.Text

/-! ## (1) Text in raw text -/

namespace CodePoint

variable {p : CodePoint} {c d : Char}

theorem ofChar_inj : ofChar c = ofChar d ↔ c = d := by
  simp only [ofChar, CodePoint.mk.injEq, Char.toNat_inj]

theorem ofChar_injective : Function.Injective ofChar := fun _ _ => ofChar_inj.mp

theorem char?_eq_some_iff : p.char? = some c ↔ p = ofChar c := by
  have back : (ofChar c).char? = some c := by
    have valid : (ofChar c).number.isValidChar := c.valid
    rw [char?, dif_pos valid]
    exact congrArg some (Char.toNat_inj.mp rfl)
  constructor
  · intro h
    by_cases valid : p.number.isValidChar
    · rw [char?, dif_pos valid, Option.some.injEq] at h
      obtain rfl := h
      rfl
    · rw [char?, dif_neg valid] at h
      cases h
  · rintro rfl
    exact back

/-- A character and no surrogate. -/
def IsChar (p : CodePoint) : Prop := ∃ c, ofChar c = p

theorem isChar_of_valid (h : p.number.isValidChar) : p.IsChar :=
  ⟨_, (char?_eq_some_iff.mp (dif_pos h)).symm⟩

end CodePoint

namespace RawText

open CodePoint

variable {t t' : RawText} {s : List Char}

theorem ofString_append (a b : String) : ofString (a ++ b) = ofString a ++ ofString b := by
  rw [ofString, String.toList_append]
  exact List.map_append

theorem ofString_injective : Function.Injective ofString := fun _ _ h =>
  String.toList_inj.mp (ofChar_injective.list_map h)

/-- All of the raw text is characters. -/
def IsText (t : RawText) : Prop := ∀ p ∈ t, p.IsChar

theorem isText_ofChars (s : List Char) : IsText (ofChars s) := List.forall_mem_map.mpr fun c _ => ⟨c, rfl⟩

theorem IsText.append (h : IsText t) (h' : IsText t') : IsText (t ++ t') := List.forall_mem_append.mpr ⟨h, h'⟩

theorem isText_flatten {ts : List RawText} (h : ∀ t ∈ ts, IsText t) : IsText ts.flatten := by
  intro p hp
  obtain ⟨t, ht, hp⟩ := List.mem_flatten.mp hp
  exact h t ht p hp

theorem isText_iff : IsText t ↔ ∃ s : String, t = ofString s := by
  constructor
  · intro h
    obtain ⟨s, rfl⟩ : t ∈ Set.range (List.map ofChar) := Set.range_list_map ofChar ▸ h
    exact ⟨String.ofList s, by rw [ofString, String.toList_ofList]; rfl⟩
  · rintro ⟨s, rfl⟩
    exact isText_ofChars _

theorem mapM_char? : t.mapM char? = some s ↔ t = ofChars s := by
  induction t generalizing s with
  | nil => cases s <;> simp [ofChars]
  | cons p t ih =>
    rw [List.mapM_cons]
    cases s with
    | nil => simp [ofChars, Option.bind_eq_some_iff]
    | cons c s => simp [ofChars, Option.bind_eq_some_iff, char?_eq_some_iff, ih]

theorem utf8?_ofString (s : String) : (ofString s).utf8? = some s.toUTF8.toList := by
  rw [utf8?, mapM_char?.mpr (rfl : ofString s = ofChars s.toList), Option.map_some, String.ofList_toList]

/-- Raw text has a form in UTF-8 exactly if it is text. -/
theorem exists_utf8_iff : (∃ bytes, t.utf8? = some bytes) ↔ IsText t := by
  rw [isText_iff]
  constructor
  · rintro ⟨bytes, h⟩
    obtain ⟨s, hs, -⟩ := Option.map_eq_some_iff.mp h
    exact ⟨String.ofList s, by rw [ofString, String.toList_ofList, mapM_char?.mp hs]⟩
  · rintro ⟨s, rfl⟩
    exact ⟨_, utf8?_ofString s⟩

end RawText

/-! ## (2) Forms that end by themselves -/

section

variable {α γ : Type} {form : α → List γ}

/-- What follows a form does not matter for what it is the form of. -/
def Delimited (form : α → List γ) : Prop := ∀ a b u v, form a ++ u = form b ++ v → a = b ∧ u = v

/-- Between two fixed pieces. -/
theorem Delimited.between (h : Delimited form) (opening closing : List γ) :
    Delimited fun a => opening ++ form a ++ closing := by
  intro a b u v same
  simp only [List.append_assoc] at same
  obtain ⟨rfl, rest⟩ := h a b _ _ (List.append_cancel_left same)
  exact ⟨rfl, List.append_cancel_left rest⟩

/-- Items one after the other up to a mark that no item starts with. -/
theorem Delimited.upTo (h : Delimited form) {mark : γ} (apart : ∀ a, ∃ c rest, form a = c :: rest ∧ c ≠ mark) :
    Delimited fun items : List α => items.flatMap form ++ [mark] := by
  have ends (a : α) (items : List α) (u v : List γ) :
      [mark] ++ u ≠ (a :: items).flatMap form ++ [mark] ++ v := by
    obtain ⟨c, rest, hform, hc⟩ := apart a
    rw [List.flatMap_cons, hform]
    intro same
    exact hc (List.cons.inj same).1.symm
  intro items
  induction items with
  | nil =>
    rintro (_ | ⟨b, items'⟩) u v same
    · exact ⟨rfl, (List.cons.inj same).2⟩
    · exact absurd same (ends b items' u v)
  | cons a items ih =>
    rintro (_ | ⟨b, items'⟩) u v same
    · exact absurd same.symm (ends a items v u)
    · simp only [List.flatMap_cons, List.append_assoc] at same
      obtain ⟨rfl, rest⟩ := h a b _ _ same
      obtain ⟨rfl, behind⟩ := ih items' u v (by simpa only [List.append_assoc] using rest)
      exact ⟨rfl, behind⟩

end

/-! ## (3) Quoted forms -/

theorem length_hexFixed (width n : Nat) : (hexFixed width n).length = width := by
  induction width generalizing n with
  | zero => rfl
  | succ width ih => rw [hexFixed, List.length_append, ih, List.length_singleton]

theorem digitChar_inj : ∀ d < 16, ∀ e < 16, digitChar d = digitChar e → d = e := by decide

/-- Enough digits tell a number. -/
theorem hexFixed_inj {width m n : Nat} (hm : m < 16 ^ width) (hn : n < 16 ^ width)
    (same : hexFixed width m = hexFixed width n) : m = n := by
  induction width generalizing m n with
  | zero => omega
  | succ width ih =>
    obtain ⟨higher, last⟩ := List.append_inj' same rfl
    have higher : m / 16 = n / 16 := ih (by omega) (by omega) higher
    have last : m % 16 = n % 16 :=
      digitChar_inj _ (Nat.mod_lt m (by decide)) _ (Nat.mod_lt n (by decide)) (List.singleton_inj.mp last)
    omega

namespace RawText

open CodePoint

variable {q sign : Char} {width : Nat} {p : CodePoint} {t : RawText}

/-- The two quotes. -/
def IsQuote (q : Char) : Prop := q = '\'' ∨ q = '"'

theorem isQuote_quoteFor (t : RawText) : IsQuote (quoteFor t) := by
  rw [quoteFor]
  split
  · exact .inr rfl
  · exact .inl rfl

/-- How many digits follow a sign. -/
def widthOf (sign : Char) : Nat :=
  if sign = 'x' then 2 else if sign = 'u' then 4 else if sign = 'U' then 8 else 0

/-- What a sign without digits stands for. -/
def named (sign : Char) : Char :=
  if sign = 't' then '\t' else if sign = 'n' then '\n' else if sign = 'r' then '\r' else sign

theorem escape?_some (hq : IsQuote q) (h : escape? q p = some (sign, width)) :
    width = widthOf sign ∧ if width = 0 then p = .ofChar (named sign) else p.number < 16 ^ width := by
  have small := p.inRange
  rw [escape?] at h
  split_ifs at h <;> obtain ⟨rfl, rfl⟩ := h
  · obtain rfl | rfl := hq <;> exact ⟨rfl, ‹_›⟩
  iterate 4 exact ⟨rfl, ‹_›⟩
  all_goals exact ⟨rfl, by rw [if_neg (by decide)]; omega⟩

theorem escape?_none (h : escape? q p = none) : p ≠ .ofChar q ∧ p ≠ .ofChar '\\' ∧ p.isPrintable = true := by
  rw [escape?] at h
  split_ifs at h with hq hb ht hn hr hp
  exact ⟨hq, hb, hp⟩

theorem delimited_escapePoint (hq : IsQuote q) : Delimited (escapePoint q) := by
  intro p p' u v same
  rw [escapePoint, escapePoint] at same
  -- a backslash never stands for itself, so the first code point says whether there is a sign
  cases h : escape? q p with
  | none =>
    cases h' : escape? q p' with
    | none =>
      rw [h, h'] at same
      exact List.cons.inj same
    | some escaped =>
      rw [h, h'] at same
      exact absurd (List.cons.inj same).1 (escape?_none h).2.1
  | some escaped =>
    obtain ⟨sign, width⟩ := escaped
    obtain ⟨hwidth, meant⟩ := escape?_some hq h
    cases h' : escape? q p' with
    | none =>
      rw [h, h'] at same
      exact absurd (List.cons.inj same).1.symm (escape?_none h').2.1
    | some escaped =>
      obtain ⟨sign', width'⟩ := escaped
      obtain ⟨hwidth', meant'⟩ := escape?_some hq h'
      rw [h, h'] at same
      obtain ⟨signs, digits⟩ := List.cons.inj (List.cons.inj same).2
      obtain rfl := ofChar_inj.mp signs
      obtain rfl : width = width' := hwidth.trans hwidth'.symm
      obtain ⟨digits, rest⟩ := List.append_inj digits (by simp [length_hexFixed])
      have digits := ofChar_injective.list_map digits
      refine ⟨?_, rest⟩
      split at meant
      · rw [if_pos ‹_›] at meant'
        rw [meant, meant']
      · rw [if_neg ‹_›] at meant'
        exact CodePoint.ext (hexFixed_inj meant meant' digits)

/-- The quote in use starts no escaped code point. -/
theorem escapePoint_starts (hq : IsQuote q) (p : CodePoint) : ∃ c rest, escapePoint q p = c :: rest ∧ c ≠ .ofChar q := by
  rw [escapePoint]
  cases h : escape? q p with
  | none => exact ⟨p, [], rfl, (escape?_none h).1⟩
  | some escaped =>
    refine ⟨.ofChar '\\', _, rfl, fun same => ?_⟩
    obtain rfl := ofChar_inj.mp same
    exact absurd hq (by simp [IsQuote])

/-- The quoted form tells the text and where it ends. -/
theorem delimited_quoted : Delimited quoted := by
  intro t t' u v same
  obtain ⟨quotes, same⟩ := List.cons.inj same
  have quotes := ofChar_inj.mp quotes
  rw [← quotes] at same
  have hq := isQuote_quoteFor t
  exact (delimited_escapePoint hq).upTo (escapePoint_starts hq) t t' u v same

/-! ## (4) Quoted forms are text -/

/-- The surrogates are among what is not printable. -/
theorem isChar_of_isPrintable (h : p.isPrintable = true) : p.IsChar := by
  refine isChar_of_valid ?_
  by_contra invalid
  have surrogate : 0xD7FC ≤ p.number ∧ p.number ≤ 0xF8FF := by
    have := p.inRange
    rw [Nat.isValidChar] at invalid
    omega
  have hidden : hiddenRanges.holds p.number = true :=
    List.any_eq_true.mpr ⟨(0xD7FC, 0xF8FF), by decide +kernel, by simpa using surrogate⟩
  rw [CodePoint.isPrintable, if_neg (by omega), hidden] at h
  cases h

theorem isText_escapePoint (q : Char) (p : CodePoint) : IsText (escapePoint q p) := by
  rw [escapePoint]
  cases h : escape? q p with
  | none => exact List.forall_mem_singleton.mpr (isChar_of_isPrintable (escape?_none h).2.2)
  | some escaped => exact isText_ofChars _

theorem isText_quoted (t : RawText) : IsText (quoted t) := by
  have body : IsText (t.flatMap (escapePoint (quoteFor t))) := by
    intro c hc
    obtain ⟨p, -, hp⟩ := List.mem_flatMap.mp hc
    exact isText_escapePoint _ p c hp
  exact ((isText_ofChars [_]).append body).append (isText_ofChars [_])

/-- A surrogate is written by its number between quotes, and not at all without them. -/
example : let t : RawText := [⟨0xDCFF, by decide⟩]
    utf8? t = none ∧ quoted t = ofString "'\\udcff'" := by decide +kernel

theorem contains_ofChars (s : List Char) (c : Char) : (ofChars s).contains (.ofChar c) = s.contains c := by
  rw [Bool.eq_iff_iff, List.contains_iff_mem, List.contains_iff_mem, ofChars, List.mem_map]
  simp only [ofChar_inj, exists_eq_right]

theorem escapePoint_ofChar (q c : Char) :
    escapePoint q (.ofChar c) = ofChars (Quoted.escapeChar q Text.isPrintable c) := by
  have printable : (ofChar c).isPrintable = Text.isPrintable c := rfl
  have number : (ofChar c).number = c.toNat := rfl
  simp only [escapePoint, escape?, Quoted.escapeChar, ofChar_inj, printable, number, beq_iff_eq, Bool.or_eq_true]
  by_cases hq : c = q
  · rw [if_pos hq, if_pos (.inl hq), hq]
    rfl
  by_cases hb : c = '\\'
  · rw [if_neg hq, if_pos hb, if_pos (.inr hb), hb]
    rfl
  rw [if_neg hq, if_neg hb, if_neg (not_or.mpr ⟨hq, hb⟩)]
  by_cases ht : c = '\t'
  · rw [if_pos ht, if_pos ht]
    rfl
  by_cases hn : c = '\n'
  · rw [if_neg ht, if_neg ht, if_pos hn, if_pos hn]
    rfl
  by_cases hr : c = '\r'
  · rw [if_neg ht, if_neg ht, if_neg hn, if_neg hn, if_pos hr, if_pos hr]
    rfl
  rw [if_neg ht, if_neg ht, if_neg hn, if_neg hn, if_neg hr, if_neg hr]
  by_cases hp : Text.isPrintable c = true
  · rw [if_pos hp, if_pos hp]
    rfl
  rw [if_neg hp, if_neg hp, Quoted.byNumber]
  split_ifs <;> rfl

/-- Quoting text as raw text is quoting it. -/
theorem quoted_ofString (s : String) : quoted (ofString s) = ofString (Text.quoted s) := by
  have quote : quoteFor (ofString s) = Quoted.quoteFor s.toList := by
    rw [quoteFor, Quoted.quoteFor, ofString, contains_ofChars, contains_ofChars]
  have body (q : Char) : (ofString s).flatMap (escapePoint q) =
      ofChars (s.toList.flatMap (Quoted.escapeChar q Text.isPrintable)) := by
    rw [ofString, ofChars, List.flatMap_map, ofChars, List.map_flatMap]
    exact List.flatMap_congr fun c _ => escapePoint_ofChar q c
  rw [quoted, quote, body, Text.quoted, ofString, String.toList_ofList, Quoted.encode, Quoted.encodeWith]
  simp [ofChars]

end RawText

end KeyBundle.Text
