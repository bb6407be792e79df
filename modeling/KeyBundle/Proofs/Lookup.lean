/-
  KeyBundle.Proofs.Lookup — reading association lists that entries are added to or changed in.
-/

namespace KeyBundle

variable {α β : Type} [BEq α] [LawfulBEq α] [DecidableEq α]

theorem lookup_pair_cons (k : α) (b : β) (l : List (α × β)) (n : α) :
    ((k, b) :: l).lookup n = if n = k then some b else l.lookup n := by
  by_cases h : n = k
  · simp [h]
  · rw [List.lookup_cons, beq_false_of_ne h, if_neg h]

theorem isSome_lookup (l : List (α × β)) (n : α) : (l.lookup n).isSome = l.any (·.1 == n) := by
  induction l with
  | nil => rfl
  | cons e l ih =>
    obtain ⟨k, b⟩ := e
    rw [lookup_pair_cons, List.any_cons, ← ih]
    by_cases h : n = k
    · simp [h]
    · rw [if_neg h, beq_false_of_ne (Ne.symm h), Bool.false_or]

/-- The first entry under a key is found. -/
theorem lookup_concat (l : List (α × β)) (k : α) (b : β) (n : α) :
    (l ++ [(k, b)]).lookup n = (l.lookup n).or (if n = k then some b else none) := by
  induction l with
  | nil => rw [List.nil_append, lookup_pair_cons]; rfl
  | cons e l ih =>
    obtain ⟨j, c⟩ := e
    rw [List.cons_append, lookup_pair_cons, lookup_pair_cons, ih]
    split <;> rfl

/-- Every entry under a key is changed. -/
theorem lookup_change (k : α) (f : β → β) (l : List (α × β)) (n : α) :
    (l.map fun e => if e.1 == k then (k, f e.2) else e).lookup n =
      if n = k then (l.lookup n).map f else l.lookup n := by
  induction l with
  | nil => simp
  | cons e l ih =>
    obtain ⟨j, c⟩ := e
    rw [List.map_cons, lookup_pair_cons j c]
    by_cases hj : j = k
    · subst hj
      simp only [beq_self_eq_true, if_true, lookup_pair_cons, ih]
      by_cases hn : n = j <;> simp [hn]
    · simp only [beq_false_of_ne hj, Bool.false_eq_true, if_false, lookup_pair_cons, ih]
      by_cases hn : n = j
      · simp [hn, hj]
      · simp [hn]

/-- Where no key comes twice, every entry is found. -/
theorem mem_iff_lookup_eq {l : List (α × β)} (h : (l.map Prod.fst).Nodup) {k : α} {b : β} :
    (k, b) ∈ l ↔ l.lookup k = some b := by
  induction l with
  | nil => simp
  | cons e l ih =>
    obtain ⟨j, c⟩ := e
    rw [List.map_cons, List.nodup_cons] at h
    rw [lookup_pair_cons, List.mem_cons, ih h.2, Prod.mk.injEq]
    split
    · next same =>
      subst same
      have absent : l.lookup k ≠ some b := fun found => h.1 (List.mem_map.mpr ⟨(k, b), (ih h.2).mpr found, rfl⟩)
      simp [absent, eq_comm]
    · next other => simp [other]

end KeyBundle
