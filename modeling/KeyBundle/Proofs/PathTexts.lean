/-
  KeyBundle.Proofs.PathTexts — the text of a path says which path it is.

  Whether a path is absolute is seen from the first character of its text (`Path.isAbsolute_ofString`).
  A path that has been read has plain parts: none is empty, a single dot, or has a slash in it (`Path.plain_partsOf`).
  Plain parts are read back from their text (`Path.partsOf_joined`), and the number of slashes before them says where the
  path starts. So an absolute path is read back from its text, both as it stands and as a run writes it
  (`Path.ofString_text`, `Path.ofRunText_text`).
-/

import KeyBundle.Path
import KeyBundle.Proofs.Separators

namespace KeyBundle.Path

/-- What may stand between the slashes of a path in normal form. -/
structure IsPlain (part : String) : Prop where
  filled : part ≠ ""
  notDot : part ≠ "."
  unbroken : '/' ∉ part.toList

variable {p : Path} {parts : List String} {s : List Char} {t : String}

/-- A path is absolute when its text begins with a slash. -/
theorem isAbsolute_ofString : (ofString t).isAbsolute = true ↔ t.toList.head? = some '/' := by
  rw [isAbsolute, ofString, rootOf]
  cases t.toList with
  | nil => decide
  | cons c cs =>
    rw [List.takeWhile_cons]
    by_cases slash : c = '/'
    · subst slash
      simp only [beq_self_eq_true, if_true, List.length_cons, List.head?_cons, iff_true]
      split
      · omega
      · rfl
      · rfl
    · simp [slash]

/-! ## Parts -/

theorem plain_partsOf (s : List Char) : ∀ part ∈ partsOf s, IsPlain part := by
  intro part h
  obtain ⟨piece, hpiece, rfl⟩ := List.mem_map.mp h
  obtain ⟨hpiece, kept⟩ := List.mem_filter.mp hpiece
  simp only [Bool.and_eq_true, Bool.not_eq_true', List.isEmpty_eq_false_iff, bne_iff_ne, ne_eq] at kept
  have unbroken := (Text.mem_pieces_iff.mp hpiece).1
  refine ⟨fun empty => kept.1 ?_, fun dot => kept.2 ?_, by rwa [String.toList_ofList]⟩
  · simpa using congrArg String.toList empty
  · simpa using congrArg String.toList dot

/-- A slash before the first part makes no part. -/
theorem partsOf_slash (s : List Char) : partsOf ('/' :: s) = partsOf s := by
  simp [partsOf, Text.pieces]

/-- Parts with slashes between them. -/
def joined (parts : List String) : List Char := ['/'].intercalate (parts.map String.toList)

theorem toList_intercalate_slash (parts : List String) : ("/".intercalate parts).toList = joined parts :=
  String.toList_intercalate

theorem partsOf_joined (h : ∀ part ∈ parts, IsPlain part) : partsOf (joined parts) = parts := by
  cases parts with
  | nil => rfl
  | cons first rest =>
    have pieces : Text.pieces '/' (joined (first :: rest)) = (first :: rest).map String.toList := by
      rw [Text.pieces_eq_splitOn]
      refine List.splitOn_intercalate '/' (fun l hl => ?_) (by simp)
      obtain ⟨part, hpart, rfl⟩ := List.mem_map.mp hl
      exact (h part hpart).unbroken
    have kept : ∀ l ∈ (first :: rest).map String.toList, (!l.isEmpty && l != ['.']) = true := by
      intro l hl
      obtain ⟨part, hpart, rfl⟩ := List.mem_map.mp hl
      have filled : part.toList ≠ [] := fun empty => (h part hpart).filled (String.toList_inj.mp empty)
      have notDot : part.toList ≠ ['.'] := fun dot => (h part hpart).notDot (String.toList_inj.mp dot)
      simp [filled, notDot]
    rw [partsOf, pieces, List.filter_eq_self.mpr kept, List.map_map]
    exact (List.map_congr_left fun part _ => String.ofList_toList).trans (List.map_id _)

/-- No slash stands before plain parts. -/
theorem takeWhile_joined (h : ∀ part ∈ parts, IsPlain part) : (joined parts).takeWhile (· == '/') = [] :=
  Text.takeWhile_intercalate <| List.forall_mem_map.mpr fun part hpart =>
    ⟨fun empty => (h part hpart).filled (String.toList_inj.mp empty), (h part hpart).unbroken⟩

/-! ## Whole paths -/

/-- Slashes say where an absolute path starts, unless it is at the directory set aside for a run. -/
def IsSlashed (p : Path) : Prop := p.root = .slash ∨ p.root = .doubleSlash

theorem toList_text (h : p.IsSlashed) : p.text.toList = p.root.text.toList ++ joined p.parts := by
  obtain ⟨root, parts⟩ := p
  obtain rfl | rfl := h <;> exact (String.toList_append).trans (congrArg _ (toList_intercalate_slash parts))

theorem ofString_text (h : p.IsSlashed) (plain : ∀ part ∈ p.parts, IsPlain part) : ofString p.text = p := by
  have before := takeWhile_joined plain
  have back := partsOf_joined plain
  rw [ofString, toList_text h]
  obtain ⟨root, parts⟩ := p
  obtain rfl | rfl := h
  · have one : rootOf ('/' :: joined parts) = .slash := by simp [rootOf, before]
    rw [show PathRoot.slash.text.toList = ['/'] by decide, List.singleton_append, one, partsOf_slash, back]
  · have two : rootOf ('/' :: '/' :: joined parts) = .doubleSlash := by simp [rootOf, before]
    rw [show PathRoot.doubleSlash.text.toList = ['/', '/'] by decide, List.cons_append, List.singleton_append, two,
      partsOf_slash, partsOf_slash, back]

theorem isSlashed_ofString (h : (ofString t).isAbsolute = true) : (ofString t).IsSlashed := by
  rw [isAbsolute, ofString, rootOf] at h
  rw [IsSlashed, ofString, rootOf]
  split at h <;> simp_all

theorem ofString_text_ofString (h : (ofString t).isAbsolute = true) : ofString (ofString t).text = ofString t :=
  ofString_text (isSlashed_ofString h) (plain_partsOf _)

/-- A text that starts with a slash does not start with the name of a directory. -/
theorem ofRunText_text (h : p.IsSlashed) : ofRunText p.text = ofString p.text := by
  have slash : ∃ rest, p.text.toList = '/' :: rest := by
    rw [toList_text h]
    obtain h | h := h <;> rw [h] <;> exact ⟨_, rfl⟩
  obtain ⟨rest, hrest⟩ := slash
  rw [ofRunText, hrest]
  rfl

/-- The directory set aside for a run, and paths below it, are read back by its name. -/
theorem ofRunText_scratch (plain : ∀ part ∈ parts, IsPlain part) :
    ofRunText (text ⟨.scratch, parts⟩) = ⟨.scratch, parts⟩ := by
  cases parts with
  | nil => rfl
  | cons first rest =>
    have shown : (text ⟨.scratch, first :: rest⟩).toList = PathRoot.scratch.text.toList ++ '/' :: joined (first :: rest) := by
      rw [text, toList_intercalate_slash, joined, List.map_cons, List.map_cons, List.intercalate_cons_cons]
      rw [List.append_assoc]
      rfl
    have opens : PathRoot.scratch.text.toList.isPrefixOf (PathRoot.scratch.text.toList ++ '/' :: joined (first :: rest)) :=
      List.isPrefixOf_iff_prefix.mpr (List.prefix_append _ _)
    rw [ofRunText, shown]
    simp only [opens, List.drop_left, List.head?_cons, Option.all_some, beq_self_eq_true, Bool.and_self, if_true]
    rw [partsOf_slash, partsOf_joined plain]

/-- What a run writes is a path below the directory set aside for it, or any other. -/
theorem ofRunText_cases (t : String) :
    (∃ rest, ofRunText t = ⟨.scratch, partsOf rest⟩) ∨ ofRunText t = ofString t := by
  rw [ofRunText]
  split
  · exact .inl ⟨_, rfl⟩
  · exact .inr rfl

theorem plain_ofRunText (t : String) : ∀ part ∈ (ofRunText t).parts, IsPlain part := by
  obtain ⟨rest, here⟩ | here := ofRunText_cases t
  · rw [here]
    exact plain_partsOf rest
  · rw [here]
    exact plain_partsOf _

theorem ofRunText_text_ofRunText (h : (ofRunText t).isAbsolute = true) : ofRunText (ofRunText t).text = ofRunText t := by
  obtain ⟨rest, here⟩ | here := ofRunText_cases t
  · rw [here]
    exact ofRunText_scratch (plain_partsOf rest)
  · rw [here] at h ⊢
    rw [ofRunText_text (isSlashed_ofString h), ofString_text_ofString h]

end KeyBundle.Path
