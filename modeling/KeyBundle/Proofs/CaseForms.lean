/-
  KeyBundle.Proofs.CaseForms — a capital form has no other capital form, and a small form no other small form.

  The letters that have another case come in runs, and the images of a run miss all runs (`CaseRun.misses`).
  Whether a table is final in this sense is decided run by run, and the images of single letters likewise
  (`isFinal`). A character in the image of such a table is its own image (`mapCase_of_isFinal`). So the capital form
  of a capital form is that form (`upper_upper`), and the small form of anything made of small letters is the
  text itself (`lower_eq_self`). A character that is its own small form, such as a blank (`isSmall_of_isBlank`), stays in
  the small form of a text (`mem_lower`).
-/

import KeyBundle.Text.Case
import KeyBundle.Text.Class
import Mathlib.Data.Char
import Mathlib.Data.List.Basic

namespace KeyBundle.Text

/-! ## Tables that map into what they leave alone -/

/-- Where the run moves a code point. -/
def CaseRun.target (r : CaseRun) (n : Nat) : Nat := (n + r.shift).toNat

/-- No image of the first run lies on the second: they are apart, or they alternate. -/
def CaseRun.misses (r q : CaseRun) : Bool :=
  (r.target r.last).blt q.first || q.last.blt (r.target r.first)
    || (q.step == 2 && (r.first == r.last || r.step == 2) && (r.target r.first + q.first) % 2 == 1)

/-- A code point as a run of its own. -/
def CaseRun.point (n : Nat) : CaseRun := ⟨n, n, 1, 0⟩

/-- All images of the run are characters. -/
def CaseRun.inRange (r : CaseRun) : Bool :=
  0 ≤ r.first + r.shift && (r.target r.last < 0xD800 || (0xDFFF < r.target r.first && r.target r.last < 0x110000))

/-- The images of a run are characters that no run and no special maps. -/
def settles (specials : List (Nat × List Nat)) (runs : List CaseRun) (r : CaseRun) : Bool :=
  r.inRange && runs.all r.misses && specials.all fun s => r.misses (.point s.1)

/-- No image of the table is mapped by it. -/
def isFinal (specials : List (Nat × List Nat)) (runs : List CaseRun) : Bool :=
  runs.all (settles specials runs) && specials.all fun s => s.2.all fun n => settles specials runs (.point n)

namespace CaseRun

variable {r q : CaseRun} {n m : Nat}

theorem map?_eq_some_iff : r.map? n = some m ↔
    r.first ≤ n ∧ n ≤ r.last ∧ (n - r.first) % r.step = 0 ∧ m = (n + r.shift).toNat := by
  unfold map?
  split
  · next h =>
    simp only [Bool.and_eq_true, decide_eq_true_eq, beq_iff_eq] at h
    simp [h, eq_comm]
  · next h =>
    simp only [Bool.and_eq_true, decide_eq_true_eq, beq_iff_eq] at h
    refine ⟨nofun, fun k => absurd ⟨⟨k.1, k.2.1⟩, k.2.2.1⟩ h⟩

theorem map?_point : (point n).map? n = some n := map?_eq_some_iff.mpr ⟨Nat.le_refl n, Nat.le_refl n, Nat.mod_one _, rfl⟩

/-- Images that are apart from a run are not mapped by it, nor are those that alternate with it. -/
theorem map?_eq_none_of_misses (range : r.inRange = true) (h : r.misses q = true) (image : r.map? n = some m) :
    q.map? m = none := by
  obtain ⟨first, last, step, rfl⟩ := map?_eq_some_iff.mp image
  simp only [inRange, Bool.and_eq_true, decide_eq_true_eq] at range
  simp only [misses, target, Bool.or_eq_true, Bool.and_eq_true, beq_iff_eq, Nat.blt_eq] at h
  refine Option.eq_none_iff_forall_ne_some.mpr fun k hk => ?_
  obtain ⟨qfirst, qlast, qstep, -⟩ := map?_eq_some_iff.mp hk
  obtain (h | h) | ⟨⟨two, alone⟩, odd⟩ := h
  · omega
  · omega
  · rw [two] at qstep
    obtain alone | alternate := alone
    · omega
    · rw [alternate] at step
      omega

theorem isValidChar_of_inRange (range : r.inRange = true) (image : r.map? n = some m) : m.isValidChar := by
  obtain ⟨first, last, -, rfl⟩ := map?_eq_some_iff.mp image
  simp only [inRange, Bool.and_eq_true, Bool.or_eq_true, decide_eq_true_eq] at range
  unfold target at range
  unfold Nat.isValidChar
  omega

end CaseRun

section

variable {specials : List (Nat × List Nat)} {runs : List CaseRun}

/-- What a run maps to is mapped no further. -/
theorem mapCase_of_settles {r : CaseRun} {n m : Nat} (h : settles specials runs r = true) (image : r.map? n = some m) :
    mapCase specials runs (Char.ofNat m) = [Char.ofNat m] := by
  simp only [settles, Bool.and_eq_true, List.all_eq_true] at h
  obtain ⟨⟨range, missesRuns⟩, missesSpecials⟩ := h
  have onNoRun : ∀ q ∈ runs, q.map? m = none := fun q hq =>
    CaseRun.map?_eq_none_of_misses range (missesRuns q hq) image
  have noSpecial : specials.lookup m = none := by
    refine List.lookup_eq_none_iff.mpr fun s hs => bne_iff_ne.mpr fun same => ?_
    have apart := CaseRun.map?_eq_none_of_misses range (missesSpecials s hs) image
    rw [same, CaseRun.map?_point] at apart
    cases apart
  have point : (Char.ofNat m).toNat = m := by
    rw [Char.ofNat, dif_pos (CaseRun.isValidChar_of_inRange range image)]
    rfl
  rw [mapCase, point, noSpecial, List.findSome?_eq_none_iff.mpr onNoRun]

/-- What a final table maps to, it maps no further. -/
theorem mapCase_of_isFinal (h : isFinal specials runs = true) {c d : Char} (hd : d ∈ mapCase specials runs c) :
    mapCase specials runs d = [d] := by
  simp only [isFinal, Bool.and_eq_true, List.all_eq_true] at h
  unfold mapCase at hd
  split at hd
  · next ns special =>
    obtain ⟨before, after, rfl, -⟩ := List.lookup_eq_some_iff.mp special
    obtain ⟨n, hn, rfl⟩ := List.mem_map.mp hd
    exact mapCase_of_settles (h.2 (c.toNat, ns) (by simp) n hn) CaseRun.map?_point
  · split at hd
    · next m image =>
      obtain ⟨r, hr, image⟩ := List.exists_of_findSome?_eq_some image
      cases List.mem_singleton.mp hd
      exact mapCase_of_settles (h.1 r hr) image
    · next image =>
      cases List.mem_singleton.mp hd
      rw [mapCase, ‹specials.lookup c.toNat = none›, image]

end

/-! ## Capitals -/

theorem isFinal_upper : isFinal upperSpecials upperRuns = true := by decide +kernel

theorem isFinal_lower : isFinal lowerSpecials lowerRuns = true := by decide +kernel

/-- Runs and specials that start past ASCII do not map its letters. -/
theorem mapCase_of_past {specials : List (Nat × List Nat)} {r : CaseRun} {runs : List CaseRun} {c : Char}
    (pastSpecials : ∀ s ∈ specials, 0x80 ≤ s.1) (pastRuns : ∀ q ∈ runs, 0x80 ≤ q.first) (h : c.toNat < 0x80) :
    mapCase specials (r :: runs) c = mapCase [] [r] c := by
  have noSpecial : specials.lookup c.toNat = none :=
    List.lookup_eq_none_iff.mpr fun s hs => bne_iff_ne.mpr (by have := pastSpecials s hs; omega)
  have noRun : runs.findSome? (·.map? c.toNat) = none := by
    refine List.findSome?_eq_none_iff.mpr fun q hq => Option.eq_none_iff_forall_ne_some.mpr fun m hm => ?_
    have from80 := pastRuns q hq
    have := (CaseRun.map?_eq_some_iff.mp hm).1
    omega
  unfold mapCase
  rw [noSpecial, List.findSome?_cons, List.findSome?_cons, noRun]
  rfl

/-- The first runs of the tables are the letters of ASCII. -/
theorem mapCase_ascii {c : Char} (h : c.toNat < 0x80) :
    mapCase [] [⟨0x61, 0x7A, 1, -32⟩] c = [c.toUpper] ∧ mapCase [] [⟨0x41, 0x5A, 1, 32⟩] c = [c.toLower] := by
  have all : ∀ n ∈ List.range 0x80,
      mapCase [] [⟨0x61, 0x7A, 1, -32⟩] (Char.ofNat n) = [(Char.ofNat n).toUpper] ∧
        mapCase [] [⟨0x41, 0x5A, 1, 32⟩] (Char.ofNat n) = [(Char.ofNat n).toLower] := by decide +kernel
  have known := all c.toNat (List.mem_range.mpr h)
  rwa [Char.ofNat_toNat] at known

theorem upperChar_eq (c : Char) : upperChar c = mapCase upperSpecials upperRuns c := by
  unfold upperChar
  split
  · next h => exact ((mapCase_of_past (by decide +kernel) (by decide +kernel) h).trans (mapCase_ascii h).1).symm
  · rfl

theorem lowerChar_eq (c : Char) : lowerChar c = mapCase lowerSpecials lowerRuns c := by
  unfold lowerChar
  split
  · next h => exact ((mapCase_of_past (by decide +kernel) (by decide +kernel) h).trans (mapCase_ascii h).2).symm
  · rfl

/-- A capital form is its own capital form. -/
theorem upper_upper (s : String) : upper (upper s) = upper s := by
  have capital : ∀ d ∈ s.toList.flatMap upperChar, upperChar d = [d] := by
    intro d hd
    obtain ⟨c, -, hc⟩ := List.mem_flatMap.mp hd
    rw [upperChar_eq] at hc ⊢
    exact mapCase_of_isFinal isFinal_upper hc
  have same : (s.toList.flatMap upperChar).flatMap upperChar = s.toList.flatMap upperChar := by
    rw [List.flatMap_congr capital, List.flatMap_singleton']
  rw [upper, upper, String.toList_ofList, same]

/-! ## Small letters -/

/-- The character is its own small form. -/
def IsSmall (c : Char) : Prop := lowerChar c = [c]

theorem IsSmall.ne_sigma {c : Char} (h : IsSmall c) : c ≠ 'Σ' := by
  rintro rfl
  cases (show lowerChar 'Σ' = ['σ'] by decide +kernel).symm.trans h

theorem isSmall_of_mem_lowerChar {c d : Char} (h : d ∈ lowerChar c) : IsSmall d := by
  rw [lowerChar_eq] at h
  rw [IsSmall, lowerChar_eq]
  exact mapCase_of_isFinal isFinal_lower h

theorem isSmall_lowerAfter (passed s : List Char) : ∀ d ∈ lowerAfter passed s, IsSmall d := by
  induction s generalizing passed with
  | nil => exact fun d hd => nomatch hd
  | cons c s ih =>
    intro d hd
    obtain hd | hd := List.mem_append.mp hd
    · split at hd
      · -- both forms of a sigma
        cases List.mem_singleton.mp hd
        split
        · exact (by decide +kernel : lowerChar 'ς' = ['ς'])
        · exact (by decide +kernel : lowerChar 'σ' = ['σ'])
      · exact isSmall_of_mem_lowerChar hd
    · exact ih _ d hd

theorem isSmall_lower (s : String) : ∀ c ∈ (lower s).toList, IsSmall c := by
  rw [lower, String.toList_ofList]
  exact isSmall_lowerAfter [] _

theorem lowerAfter_eq_self {s : List Char} (h : ∀ c ∈ s, IsSmall c) (passed : List Char) : lowerAfter passed s = s := by
  induction s generalizing passed with
  | nil => rfl
  | cons c s ih =>
    obtain ⟨small, rest⟩ := List.forall_mem_cons.mp h
    rw [lowerAfter, beq_false_of_ne small.ne_sigma, ih rest]
    exact congrArg (· ++ s) small

theorem lower_eq_self {s : String} (h : ∀ c ∈ s.toList, IsSmall c) : lower s = s := by
  rw [lower, lowerAfter_eq_self h, String.ofList_toList]

/-- A small letter of a text is in its small form. -/
theorem mem_lowerAfter {c : Char} (small : IsSmall c) {s : List Char} (h : c ∈ s) (passed : List Char) :
    c ∈ lowerAfter passed s := by
  induction s generalizing passed with
  | nil => cases h
  | cons d s ih =>
    rw [lowerAfter]
    obtain _ | ⟨_, later⟩ := h
    · rw [beq_false_of_ne small.ne_sigma]
      exact List.mem_append_left _ (small ▸ List.mem_singleton_self c)
    · exact List.mem_append_right _ (ih later _)

theorem mem_lower {c : Char} {s : String} (small : IsSmall c) (h : c ∈ s.toList) : c ∈ (lower s).toList := by
  rw [lower, String.toList_ofList]
  exact mem_lowerAfter small h []

theorem isSmall_of_isBlank {c : Char} (h : isBlank c = true) : IsSmall c := by
  have each : ∀ r ∈ blankRanges, ∀ n ∈ List.range' r.1 (r.2 + 1 - r.1), lowerChar (Char.ofNat n) = [Char.ofNat n] := by
    decide +kernel
  obtain ⟨r, hr, inside⟩ := List.any_eq_true.mp h
  simp only [Bool.and_eq_true, decide_eq_true_eq] at inside
  have known := each r hr c.toNat (List.mem_range'_1.mpr ⟨inside.1, by omega⟩)
  rwa [Char.ofNat_toNat] at known

end KeyBundle.Text
