/-
  KeyBundle.Proofs.Merging — what merging does to parameter sets.

  A parameter set is given by the order of its names and by the blobs under each of them
  (`Entries.ext_blobs`), and merging is read off on both:
  (1) Names: those of the first set, then the new ones of the second (`names_merged`). No name is
      lost, also where no blob is under it.
  (2) Blobs: under every name those of the first set, then those of the second (`blobs_merged`).
  (3) Merging is associative with the empty set on either side, order of names included
      (`merged_assoc`); the short ways for an empty side give what the entries give one by one
      (`entries_merged`). So the parameters of a sequence of schemes can be had piece by piece
      (`parametersOf_append`).
-/

import KeyBundle.Bundle
import KeyBundle.Proofs.Lookup

namespace KeyBundle

namespace Entries

/-- The blobs under a name; none where the name is absent. -/
def blobs (es : Entries) (n : String) : List Blob := (es.lookup n).getD []

@[simp] theorem names_cons (e : String × List Blob) (es : Entries) : names (e :: es) = e.1 :: names es := rfl

@[simp] theorem names_append (a b : Entries) : names (a ++ b) = names a ++ names b := List.map_append

theorem nodup_names_cons {e : String × List Blob} {es : Entries} :
    (names (e :: es)).Nodup ↔ e.1 ∉ names es ∧ (names es).Nodup := List.nodup_cons

@[simp] theorem merge_nil (a : Entries) : merge a [] = a := rfl

theorem merge_cons (a : Entries) (e : String × List Blob) (b : Entries) :
    merge a (e :: b) = merge (update e.1 (· ++ e.2) a) b := rfl

theorem blobs_cons (e : String × List Blob) (es : Entries) (n : String) :
    blobs (e :: es) n = if n = e.1 then e.2 else blobs es n := by
  obtain ⟨m, bs⟩ := e
  unfold blobs
  rw [lookup_pair_cons]
  split <;> rfl

theorem blobs_of_not_mem {es : Entries} {n : String} (h : n ∉ names es) : blobs es n = [] := by
  induction es with
  | nil => rfl
  | cons e es ih =>
    simp only [names_cons, List.mem_cons, not_or] at h
    rw [blobs_cons, if_neg h.1, ih h.2]

theorem blobs_update (name : String) (f : List Blob → List Blob) (es : Entries) (n : String) :
    blobs (update name f es) n = if n = name then f (blobs es name) else blobs es n := by
  induction es with
  | nil => simp only [update, blobs_cons]; rfl
  | cons e es ih =>
    simp only [update]
    by_cases he : e.1 = name
    · subst he
      by_cases hn : n = e.1 <;> simp [blobs_cons, hn]
    · rw [if_neg he, blobs_cons, blobs_cons, ih, blobs_cons, if_neg (Ne.symm he)]
      by_cases hn : n = e.1
      · rw [if_pos hn, if_neg (fun h => he (hn ▸ h)), if_pos hn]
      · rw [if_neg hn, if_neg hn]

/-! ## (1) Names and (2) blobs -/

theorem names_merge (a : Entries) {b : Entries} (hb : (names b).Nodup) :
    names (merge a b) = names a ++ (names b).filter (· ∉ names a) := by
  induction b generalizing a with
  | nil => simp [names]
  | cons e b ih =>
    obtain ⟨he, hb⟩ := nodup_names_cons.mp hb
    rw [merge_cons, ih _ hb, names_update]
    by_cases h : e.1 ∈ names a
    · simp [h]
    · have hne : ∀ n ∈ names b, n ≠ e.1 := fun n hn hne => he (hne ▸ hn)
      have hf : (names b).filter (· ∉ names a ++ [e.1]) = (names b).filter (· ∉ names a) :=
        List.filter_congr fun n hn => by simp [hne n hn]
      rw [if_neg h, hf]
      simp [h]

theorem blobs_merge (a : Entries) {b : Entries} (hb : (names b).Nodup) (n : String) :
    blobs (merge a b) n = blobs a n ++ blobs b n := by
  induction b generalizing a with
  | nil => simp [blobs]
  | cons e b ih =>
    obtain ⟨he, hb⟩ := nodup_names_cons.mp hb
    rw [merge_cons, ih _ hb, blobs_update, blobs_cons]
    by_cases h : n = e.1
    · subst h
      simp [blobs_of_not_mem he]
    · rw [if_neg h, if_neg h]

/-! ## (3) Associativity -/

/-- Entries without repeated names are given by their names in order and the blobs under each. -/
theorem ext_blobs {a b : Entries} (ha : (names a).Nodup) (hn : names a = names b)
    (h : ∀ n, blobs a n = blobs b n) : a = b := by
  induction a generalizing b with
  | nil =>
    cases b with
    | nil => rfl
    | cons f b => simp [names] at hn
  | cons e a ih =>
    cases b with
    | nil => simp [names] at hn
    | cons f b =>
      simp only [names_cons, List.cons.injEq] at hn
      obtain ⟨he, ha⟩ := nodup_names_cons.mp ha
      have h2 : e.2 = f.2 := by simpa [blobs_cons, hn.1] using h e.1
      have ht : a = b := by
        refine ih ha hn.2 fun n => ?_
        by_cases hne : n = e.1
        · rw [hne, blobs_of_not_mem he, blobs_of_not_mem (hn.2 ▸ he)]
        · have hnf : n ≠ f.1 := hn.1 ▸ hne
          simpa [blobs_cons, hne, hnf] using h n
      rw [ht, Prod.ext hn.1 h2]

theorem nil_merge {b : Entries} (hb : (names b).Nodup) : merge [] b = b := by
  refine ext_blobs (nodup_merge _ _ List.nodup_nil) ?_ fun n => ?_
  · rw [names_merge _ hb]
    simp [names]
  · rw [blobs_merge _ hb]
    simp [blobs]

theorem merge_assoc {a b c : Entries} (ha : (names a).Nodup) (hb : (names b).Nodup) (hc : (names c).Nodup) :
    merge (merge a b) c = merge a (merge b c) := by
  have hbc := nodup_merge b c hb
  refine ext_blobs (nodup_merge _ _ (nodup_merge _ _ ha)) ?_ fun n => ?_
  · rw [names_merge _ hc, names_merge _ hb, names_merge _ hbc, names_merge _ hc, List.filter_append,
      List.filter_filter, List.append_assoc]
    congr 2
    refine List.filter_congr fun n _ => ?_
    by_cases h : n ∈ names a <;> simp [h]
  · rw [blobs_merge _ hc, blobs_merge _ hb, blobs_merge _ hbc, blobs_merge _ hc, List.append_assoc]

end Entries

/-! ## Parameter sets -/

namespace ParameterSet

/-- The blobs under a name; none where the name is absent. -/
def blobs (p : ParameterSet) (n : String) : List Blob := p.entries.blobs n

theorem ext {p q : ParameterSet} (h : p.entries = q.entries) : p = q := by
  cases p
  cases q
  cases h
  rfl

theorem isEmpty_iff {p : ParameterSet} : p.isEmpty = true ↔ p.entries = [] := List.isEmpty_iff

/-- Whichever way it goes, merging merges the entries. -/
theorem entries_merged (p q : ParameterSet) : (p.merged q).entries = p.entries.merge q.entries := by
  unfold merged
  by_cases hq : q.isEmpty = true
  · rw [if_pos hq, isEmpty_iff.mp hq, Entries.merge_nil]
  · rw [if_neg hq]
    by_cases hp : p.isEmpty = true
    · rw [if_pos hp, isEmpty_iff.mp hp, Entries.nil_merge q.distinct]
    · rw [if_neg hp]
      rfl

theorem names_merged (p q : ParameterSet) : (p.merged q).names = p.names ++ q.names.filter (· ∉ p.names) := by
  unfold names
  rw [entries_merged, Entries.names_merge _ q.distinct]

theorem blobs_merged (p q : ParameterSet) (n : String) : (p.merged q).blobs n = p.blobs n ++ q.blobs n := by
  unfold blobs
  rw [entries_merged, Entries.blobs_merge _ q.distinct]

theorem mem_names_merged {p q : ParameterSet} {n : String} :
    n ∈ (p.merged q).names ↔ n ∈ p.names ∨ n ∈ q.names := by
  rw [names_merged]
  by_cases h : n ∈ p.names <;> simp [h]

@[simp] theorem merged_empty (p : ParameterSet) : p.merged empty = p := rfl

@[simp] theorem empty_merged (q : ParameterSet) : empty.merged q = q :=
  ext (by rw [entries_merged]; exact Entries.nil_merge q.distinct)

theorem merged_assoc (p q r : ParameterSet) : (p.merged q).merged r = p.merged (q.merged r) := by
  refine ext ?_
  simp only [entries_merged]
  exact Entries.merge_assoc p.distinct q.distinct r.distinct

end ParameterSet

/-! ## Parameters of schemes -/

namespace ParameterSet

theorem blobs_put (p : ParameterSet) (name : String) (h : isName name = true) (bs : List Blob) (n : String) :
    (p.put name h bs).blobs n = if n = name then bs else p.blobs n := by
  unfold put blobs
  rw [Entries.blobs_update]

end ParameterSet

theorem Scheme.blobs_single (name : String) (h : isName name = true) (bs : List Blob) (n : String) :
    (single name h bs).blobs n = if n = name then bs else [] := ParameterSet.blobs_put _ _ _ _ _

theorem Scheme.blobs_pair (first : String) (h : isName first = true) (xs : List Blob) (second : String)
    (k : isName second = true) (ys : List Blob) (n : String) :
    (pair first h xs second k ys).blobs n = if n = second then ys else if n = first then xs else [] := by
  unfold pair
  rw [ParameterSet.blobs_put, blobs_single]

@[simp] theorem parametersOf_nil : parametersOf [] = .empty := rfl

@[simp] theorem parametersOf_singleton (s : Scheme) : parametersOf [s] = s.parameters :=
  ParameterSet.empty_merged _

theorem foldl_merged (p : ParameterSet) (ss : List Scheme) :
    ss.foldl (fun p s => p.merged s.parameters) p = p.merged (parametersOf ss) := by
  induction ss generalizing p with
  | nil => rfl
  | cons s ss ih =>
    unfold parametersOf
    rw [List.foldl_cons, List.foldl_cons, ih, ih, ParameterSet.empty_merged, ParameterSet.merged_assoc]

theorem parametersOf_append (a b : List Scheme) :
    parametersOf (a ++ b) = (parametersOf a).merged (parametersOf b) := by
  rw [← foldl_merged]
  exact List.foldl_append

theorem parametersOf_cons (s : Scheme) (ss : List Scheme) :
    parametersOf (s :: ss) = s.parameters.merged (parametersOf ss) := by
  rw [← parametersOf_singleton s, ← parametersOf_append, List.singleton_append]

theorem mem_names_parametersOf {ss : List Scheme} {n : String} :
    n ∈ (parametersOf ss).names ↔ ∃ s ∈ ss, n ∈ s.parameters.names := by
  induction ss with
  | nil => simp [ParameterSet.names, ParameterSet.empty, Entries.names]
  | cons s ss ih =>
    rw [parametersOf_cons, ParameterSet.mem_names_merged, ih]
    simp

theorem blobs_parametersOf (ss : List Scheme) (n : String) :
    (parametersOf ss).blobs n = ss.flatMap fun s => s.parameters.blobs n := by
  induction ss with
  | nil => rfl
  | cons s ss ih => rw [parametersOf_cons, ParameterSet.blobs_merged, ih, List.flatMap_cons]

end KeyBundle
