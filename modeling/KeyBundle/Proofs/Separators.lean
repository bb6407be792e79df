/-
  KeyBundle.Proofs.Separators — what the pieces between separators are.

  The pieces are those of the library's `List.splitOn` (`pieces_eq_splitOn`). So a piece is what stands between two
  separators, or between one and an end of the text, and has none in it (`mem_pieces_iff`); and the last piece is what
  stands after the last separator (`getLast?_pieces_iff`). Pieces that are not empty are told by what comes of putting
  separators between them, and so is the number of separators before them (`separated_inj`).
-/

import KeyBundle.Text.Split

namespace KeyBundle.Text

variable {sep : Char} {s part leaf : List Char}

theorem pieces_eq_splitOn (sep : Char) (s : List Char) : pieces sep s = s.splitOn sep := by
  induction s with
  | nil => exact (List.splitOn_nil sep).symm
  | cons c s ih =>
    rw [pieces, ih, List.splitOn_cons_eq_if_modifyHead]
    split
    · rfl
    · cases h : s.splitOn sep with
      | nil => exact absurd h (List.splitOn_ne_nil sep s)
      | cons piece more => rfl

/-- Texts are without a separator, or a part without one stands before the first. -/
@[elab_as_elim]
theorem separated_induction {P : List Char → Prop} (sep : Char) (alone : ∀ s, sep ∉ s → P s)
    (before : ∀ part s, sep ∉ part → P s → P (part ++ sep :: s)) (s : List Char) : P s := by
  by_cases h : sep ∈ s
  · obtain ⟨part, rest, cut, free⟩ := List.eq_append_cons_of_mem h
    have shorter : rest.length < s.length := by simp [cut]; omega
    exact cut ▸ before part rest free (separated_induction sep alone before rest)
  · exact alone s h
termination_by s.length

/-- The part lies between separators or ends of the text and has no separator in it. -/
def IsPart (sep : Char) (s part : List Char) : Prop :=
  sep ∉ part ∧ ∃ before after, s = before ++ part ++ after ∧
    (before = [] ∨ ∃ earlier, before = earlier ++ [sep]) ∧ (after = [] ∨ ∃ later, after = sep :: later)

theorem mem_pieces_iff : part ∈ pieces sep s ↔ IsPart sep s part := by
  rw [pieces_eq_splitOn]
  refine ⟨?_, ?_⟩
  · induction s using separated_induction sep with
    | alone s free =>
      rw [List.splitOn_eq_singleton free, List.mem_singleton]
      rintro rfl
      exact ⟨free, [], [], by simp⟩
    | before first s free ih =>
      rw [List.splitOn_append_cons_self_of_not_mem free, List.mem_cons]
      rintro (rfl | h)
      · exact ⟨free, [], sep :: s, by simp⟩
      · obtain ⟨hpart, before, after, rfl, starts, ends⟩ := ih h
        refine ⟨hpart, first ++ sep :: before, after, by simp, .inr ?_, ends⟩
        obtain rfl | ⟨earlier, rfl⟩ := starts
        · exact ⟨first, rfl⟩
        · exact ⟨first ++ sep :: earlier, by simp⟩
  · -- one separator is taken off on either side
    rintro ⟨free, before, after, rfl, starts, ends⟩
    have atStart : part ∈ (part ++ after).splitOn sep := by
      obtain rfl | ⟨later, rfl⟩ := ends
      · rw [List.append_nil, List.splitOn_eq_singleton free]
        exact List.mem_singleton_self part
      · rw [List.splitOn_append_cons_self_of_not_mem free]
        exact List.mem_cons_self
    obtain rfl | ⟨earlier, rfl⟩ := starts
    · exact atStart
    · rw [show earlier ++ [sep] ++ part ++ after = earlier ++ sep :: (part ++ after) by simp,
        List.splitOn_append_cons_self]
      exact List.mem_append_right _ atStart

/-- The leaf is what follows the last separator, or all of a text without one. -/
def IsLeaf (sep : Char) (s leaf : List Char) : Prop :=
  sep ∉ leaf ∧ (s = leaf ∨ ∃ before, s = before ++ sep :: leaf)

theorem IsLeaf.subset (h : IsLeaf sep s leaf) : leaf ⊆ s := by
  obtain ⟨-, rfl | ⟨before, rfl⟩⟩ := h
  · exact List.Subset.refl s
  · exact fun c hc => List.mem_append_right _ (List.mem_cons_of_mem _ hc)

theorem getLast?_pieces_iff : (pieces sep s).getLast? = some leaf ↔ IsLeaf sep s leaf := by
  rw [pieces_eq_splitOn]
  refine ⟨?_, ?_⟩
  · induction s using separated_induction sep with
    | alone s free =>
      rw [List.splitOn_eq_singleton free]
      rintro ⟨⟩
      exact ⟨free, .inl rfl⟩
    | before first s free ih =>
      rw [List.splitOn_append_cons_self_of_not_mem free, List.getLast?_cons_of_ne_nil (List.splitOn_ne_nil sep s)]
      intro h
      obtain ⟨hleaf, rfl | ⟨before, rfl⟩⟩ := ih h
      · exact ⟨hleaf, .inr ⟨first, rfl⟩⟩
      · exact ⟨hleaf, .inr ⟨first ++ sep :: before, by simp⟩⟩
  · rintro ⟨free, rfl | ⟨before, rfl⟩⟩
    · rw [List.splitOn_eq_singleton free]
      rfl
    · rw [List.splitOn_append_cons_self, List.splitOn_eq_singleton free, List.getLast?_concat]

/-- Every text has a leaf. -/
theorem exists_isLeaf (sep : Char) (s : List Char) : ∃ leaf, (pieces sep s).getLast? = some leaf ∧ IsLeaf sep s leaf := by
  have some_piece : pieces sep s ≠ [] := pieces_eq_splitOn sep s ▸ List.splitOn_ne_nil sep s
  exact ⟨_, List.getLast?_eq_some_getLast some_piece, getLast?_pieces_iff.mp (List.getLast?_eq_some_getLast some_piece)⟩

/-! ## Putting together -/

section

variable {α : Type} [DecidableEq α] {sep : α} {parts parts' : List (List α)}

/-- No separator stands before parts that are not empty. -/
theorem takeWhile_intercalate (h : ∀ part ∈ parts, part ≠ [] ∧ sep ∉ part) :
    ([sep].intercalate parts).takeWhile (· == sep) = [] := by
  cases parts with
  | nil => rfl
  | cons first rest =>
    obtain ⟨filled, unbroken⟩ := h first List.mem_cons_self
    obtain ⟨c, cs, rfl⟩ := List.exists_cons_of_ne_nil filled
    have other : c ≠ sep := fun same => unbroken (same ▸ List.mem_cons_self)
    have starts : ∃ more, [sep].intercalate ((c :: cs) :: rest) = c :: more := by
      cases rest with
      | nil => exact ⟨cs, by simp⟩
      | cons second rest => exact ⟨_, by rw [List.intercalate_cons_cons]; rfl⟩
    obtain ⟨more, hmore⟩ := starts
    rw [hmore, List.takeWhile_cons_of_neg (by simpa using other)]

theorem separated_inj (h : ∀ part ∈ parts, part ≠ [] ∧ sep ∉ part) (h' : ∀ part ∈ parts', part ≠ [] ∧ sep ∉ part)
    {m n : Nat} (same : List.replicate m sep ++ [sep].intercalate parts =
      List.replicate n sep ++ [sep].intercalate parts') : m = n ∧ parts = parts' := by
  have leading {k : Nat} {ps : List (List α)} (hps : ∀ part ∈ ps, part ≠ [] ∧ sep ∉ part) :
      ((List.replicate k sep ++ [sep].intercalate ps).takeWhile (· == sep)).length = k := by
    rw [List.takeWhile_append_of_pos (by simp), takeWhile_intercalate hps, List.append_nil, List.length_replicate]
  obtain rfl : m = n := by rw [← leading (k := m) h, same, leading h']
  refine ⟨rfl, ?_⟩
  have joined := List.append_cancel_left same
  have read {ps : List (List α)} (hps : ∀ part ∈ ps, part ≠ [] ∧ sep ∉ part) :
      ps = if [sep].intercalate ps = [] then [] else ([sep].intercalate ps).splitOn sep := by
    cases ps with
    | nil => rfl
    | cons first rest =>
      have nonempty : [sep].intercalate (first :: rest) ≠ [] := by
        cases rest <;> simp [List.intercalate_cons_cons, (hps first List.mem_cons_self).1]
      rw [if_neg nonempty, List.splitOn_intercalate sep (fun part hpart => (hps part hpart).2) (List.cons_ne_nil _ _)]
  rw [read h, read h', joined]

end

end KeyBundle.Text
