/-
  KeyBundle.Proofs.Sameness — equality of parameter sets, schemes and bundles.

  (1) Parameter sets are equal if one's entries are the other's in some order (`ParameterSet.same_iff_perm`), so if
      they have the same names and the same blobs under each (`ParameterSet.same_iff`).
  (2) On every kind of thing equality is an equivalence, and equal things have one digest (`IsEquality`). Equality of
      the parts gives it for the whole (`IsEquality.both`), so it goes from parameter sets up to bundles.
  (3) What equals the empty thing of its kind is that thing (`CryptoConfig.same_empty_iff`).
-/

import Mathlib.Data.List.Forall2
import Mathlib.Data.List.Nodup
import Mathlib.Data.List.Perm.Subperm
import KeyBundle.Proofs.Merging
import KeyBundle.Value.Equality

namespace KeyBundle

/-- An equality that is an equivalence, and a digest that equal things share. -/
structure IsEquality {α : Type} (same : α → α → Bool) (digest : α → UInt64) : Prop where
  refl (a : α) : same a a = true
  symm {a b : α} (h : same a b = true) : same b a = true
  trans {a b c : α} (h : same a b = true) (k : same b c = true) : same a c = true
  digest {a b : α} (h : same a b = true) : digest a = digest b

/-- Things that are equal if two parts of theirs are, with the digest of both. -/
theorem IsEquality.both {α β γ : Type} {sameα : α → α → Bool} {digestα : α → UInt64} {sameβ : β → β → Bool}
    {digestβ : β → UInt64} (hα : IsEquality sameα digestα) (hβ : IsEquality sameβ digestβ) (f : γ → α) (g : γ → β) :
    IsEquality (fun a b => sameα (f a) (f b) && sameβ (g a) (g b))
      fun a => mixHash (digestα (f a)) (digestβ (g a)) where
  refl a := by rw [hα.refl, hβ.refl, Bool.and_true]
  symm h := by
    rw [Bool.and_eq_true] at h ⊢
    exact ⟨hα.symm h.1, hβ.symm h.2⟩
  trans h k := by
    rw [Bool.and_eq_true] at h k ⊢
    exact ⟨hα.trans h.1 k.1, hβ.trans h.2 k.2⟩
  digest h := by
    rw [Bool.and_eq_true] at h
    rw [hα.digest h.1, hβ.digest h.2]

/-! ## Parameter sets -/

namespace ParameterSet

variable {p q : ParameterSet}

theorem mem_entries_iff {e : String × List Blob} : e ∈ p.entries ↔ e.1 ∈ p.names ∧ p.blobs e.1 = e.2 := by
  constructor
  · intro h
    have found := (mem_iff_lookup_eq p.distinct).mp h
    refine ⟨List.mem_map_of_mem h, ?_⟩
    rw [blobs, Entries.blobs, found, Option.getD_some]
  · rintro ⟨hn, hb⟩
    obtain ⟨⟨n, bs⟩, hf, rfl⟩ := List.mem_map.mp hn
    have found := (mem_iff_lookup_eq p.distinct).mp hf
    rw [blobs, Entries.blobs, found, Option.getD_some] at hb
    rwa [hb] at hf

theorem nodup_entries (p : ParameterSet) : p.entries.Nodup := List.Nodup.of_map Prod.fst p.distinct

theorem same_iff_perm : p.same q = true ↔ p.entries.Perm q.entries := by
  simp only [same, Bool.and_eq_true, beq_iff_eq, List.all_eq_true]
  constructor
  · rintro ⟨size, found⟩
    have within : p.entries ⊆ q.entries := fun e he => (mem_iff_lookup_eq q.distinct).mpr (found e he)
    exact (p.nodup_entries.subperm within).perm_of_length_le (Nat.le_of_eq size.symm)
  · intro h
    exact ⟨h.length_eq, fun e he => (mem_iff_lookup_eq q.distinct).mp (h.subset he)⟩

/-- The same names, and the same blobs under each of them. -/
theorem same_iff : p.same q = true ↔ (∀ n, n ∈ p.names ↔ n ∈ q.names) ∧ ∀ n, p.blobs n = q.blobs n := by
  rw [same_iff_perm]
  constructor
  · intro h
    have names (n : String) : n ∈ p.names ↔ n ∈ q.names := (h.map Prod.fst).mem_iff
    refine ⟨names, fun n => ?_⟩
    by_cases hn : n ∈ p.names
    · have held : (n, p.blobs n) ∈ q.entries := h.subset (mem_entries_iff.mpr ⟨hn, rfl⟩)
      exact (mem_entries_iff.mp held).2.symm
    · rw [blobs, Entries.blobs_of_not_mem hn, blobs, Entries.blobs_of_not_mem (mt (names n).mpr hn)]
  · rintro ⟨names, hb⟩
    refine (List.perm_ext_iff_of_nodup p.nodup_entries q.nodup_entries).mpr fun e => ?_
    rw [mem_entries_iff, mem_entries_iff, names, hb]

theorem same_refl (p : ParameterSet) : p.same p = true := by
  rw [same_iff_perm]

theorem isEquality : IsEquality same digest where
  refl := same_refl
  symm h := by
    rw [same_iff_perm] at h ⊢
    exact h.symm
  trans h k := by
    rw [same_iff_perm] at h k ⊢
    exact h.trans k
  digest h := by
    rw [same_iff_perm] at h
    exact (h.map hash).foldr_eq 0

theorem same_merged {p' q' : ParameterSet} (hp : p.same p' = true) (hq : q.same q' = true) :
    (p.merged q).same (p'.merged q') = true := by
  rw [same_iff] at hp hq ⊢
  obtain ⟨names, hb⟩ := hp
  obtain ⟨names', hb'⟩ := hq
  constructor
  · intro n
    rw [mem_names_merged, mem_names_merged, names, names']
  · intro n
    rw [blobs_merged, blobs_merged, hb, hb']

theorem same_empty_iff : p.same .empty = true ↔ p = .empty := by
  constructor
  · intro h
    simp only [same, Bool.and_eq_true, beq_iff_eq] at h
    exact ext (List.eq_nil_of_length_eq_zero h.1)
  · rintro rfl
    exact same_refl _

theorem isEmpty_eq_true_iff : p.isEmpty = true ↔ p = .empty :=
  ⟨fun h => ext (isEmpty_iff.mp h), fun h => h ▸ rfl⟩

end ParameterSet

/-! ## Schemes -/

namespace Scheme

theorem same_custom_iff {k l : String} {d e : Direction} {p q : ParameterSet} :
    (custom k d p).same (custom l e q) = true ↔ k = l ∧ d = e ∧ p.same q = true := by
  show (k == l && d == e && p.same q) = true ↔ _
  rw [Bool.and_eq_true, Bool.and_eq_true, beq_iff_eq, beq_iff_eq, and_assoc]

theorem same_refl (s : Scheme) : s.same s = true := by
  cases s with
  | custom k d p =>
    rw [same_custom_iff]
    exact ⟨rfl, rfl, ParameterSet.same_refl p⟩
  | jweRecipients | pkcs7Recipients | x509Certificates => exact beq_self_eq_true _
  | _ => exact Bool.and_eq_true_iff.mpr ⟨beq_self_eq_true _, beq_self_eq_true _⟩

/-- Schemes are equal if nothing tells them apart, but custom ones may have their parameters in another order. -/
theorem same_iff {s t : Scheme} : s.same t = true ↔
    s = t ∨ ∃ kind d p q, s = .custom kind d p ∧ t = .custom kind d q ∧ p.same q = true := by
  constructor
  · intro h
    cases s with
    | custom k d p =>
      cases t with
      | custom l e q =>
        rw [same_custom_iff] at h
        obtain ⟨rfl, rfl, hpq⟩ := h
        exact .inr ⟨k, d, p, q, rfl, rfl, hpq⟩
      | _ => exact absurd h Bool.false_ne_true
    | _ =>
      -- of two classes, or of one class with one field or with two
      cases t <;> first
        | exact absurd h Bool.false_ne_true
        | exact .inl (congrArg _ (eq_of_beq h))
        | exact .inl (congrArg₂ _ (eq_of_beq (Bool.and_eq_true_iff.mp h).1) (eq_of_beq (Bool.and_eq_true_iff.mp h).2))
  · rintro (rfl | ⟨k, d, p, q, rfl, rfl, h⟩)
    · exact same_refl s
    · rw [same_custom_iff]
      exact ⟨rfl, rfl, h⟩

theorem isEquality : IsEquality same digest where
  refl := same_refl
  symm h := by
    rw [same_iff] at h ⊢
    obtain rfl | ⟨kind, d, p, q, rfl, rfl, hpq⟩ := h
    · exact .inl rfl
    · exact .inr ⟨kind, d, q, p, rfl, rfl, IsEquality.symm ParameterSet.isEquality hpq⟩
  trans h k := by
    rw [same_iff] at h k ⊢
    obtain rfl | ⟨kind, d, p, q, rfl, rfl, hpq⟩ := h
    · exact k
    · obtain rfl | ⟨_, _, _, r, ⟨⟩, rfl, hqr⟩ := k
      · exact .inr ⟨kind, d, p, q, rfl, rfl, hpq⟩
      · exact .inr ⟨kind, d, p, r, rfl, rfl, IsEquality.trans ParameterSet.isEquality hpq hqr⟩
  digest h := by
    rw [same_iff] at h
    obtain rfl | ⟨kind, d, p, q, rfl, rfl, hpq⟩ := h
    · rfl
    · simp only [digest, IsEquality.digest ParameterSet.isEquality hpq]

variable {s t : Scheme}

theorem direction_eq_of_same (h : s.same t = true) : s.direction = t.direction := by
  rw [same_iff] at h
  obtain rfl | ⟨kind, d, p, q, rfl, rfl, -⟩ := h <;> rfl

theorem className_eq_of_same (h : s.same t = true) : s.className = t.className := by
  rw [same_iff] at h
  obtain rfl | ⟨kind, d, p, q, rfl, rfl, -⟩ := h <;> rfl

theorem same_parameters (h : s.same t = true) : s.parameters.same t.parameters = true := by
  rw [same_iff] at h
  obtain rfl | ⟨kind, d, p, q, rfl, rfl, hpq⟩ := h
  · exact ParameterSet.same_refl _
  · exact hpq

end Scheme

/-! ## Sequences of schemes -/

theorem sameSchemes_iff {ss ts : List Scheme} :
    sameSchemes ss ts = true ↔ List.Forall₂ (fun s t => s.same t = true) ss ts := by
  rw [List.forall₂_iff_zip]
  simp [sameSchemes]

theorem foldl_digest {ss ts : List Scheme} (h : List.Forall₂ (fun s t => s.same t = true) ss ts) (start : UInt64) :
    ss.foldl (fun h s => mixHash h s.digest) start = ts.foldl (fun h s => mixHash h s.digest) start := by
  induction h generalizing start with
  | nil => rfl
  | cons hs _ ih => rw [List.foldl_cons, List.foldl_cons, IsEquality.digest Scheme.isEquality hs, ih]

theorem isEquality_sameSchemes : IsEquality sameSchemes digestSchemes where
  refl ss := by
    rw [sameSchemes_iff]
    exact List.forall₂_same.mpr fun s _ => Scheme.same_refl s
  symm h := by
    rw [sameSchemes_iff] at h ⊢
    exact (h.imp fun _ _ => IsEquality.symm Scheme.isEquality).flip
  trans {ss ts us} h k := by
    rw [sameSchemes_iff] at h k ⊢
    induction h generalizing us with
    | nil => exact k
    | cons hs _ ih =>
      obtain ⟨u, us, hu, hus, rfl⟩ := List.forall₂_cons_left_iff.mp k
      exact .cons (IsEquality.trans Scheme.isEquality hs hu) (ih hus)
  digest h := by
    rw [sameSchemes_iff] at h
    exact foldl_digest h 7

theorem length_eq_of_sameSchemes {ss ts : List Scheme} (h : sameSchemes ss ts = true) : ss.length = ts.length := by
  rw [sameSchemes_iff] at h
  exact h.length_eq

theorem sameSchemes_nil_iff {ss : List Scheme} : sameSchemes ss [] = true ↔ ss = [] := by
  rw [sameSchemes_iff, List.forall₂_nil_right_iff]

theorem same_foldl_merged {ss ts : List Scheme} (h : List.Forall₂ (fun s t => s.same t = true) ss ts)
    {p q : ParameterSet} (hp : p.same q = true) : (ss.foldl (fun p s => p.merged s.parameters) p).same
      (ts.foldl (fun p s => p.merged s.parameters) q) = true := by
  induction h generalizing p q with
  | nil => exact hp
  | cons hs _ ih => exact ih (ParameterSet.same_merged hp (Scheme.same_parameters hs))

theorem same_parametersOf {ss ts : List Scheme} (h : sameSchemes ss ts = true) :
    (parametersOf ss).same (parametersOf ts) = true := by
  rw [sameSchemes_iff] at h
  exact same_foldl_merged h (ParameterSet.same_refl _)

/-! ## Sides and bundles -/

theorem DecryptConfig.isEquality : IsEquality same digest :=
  IsEquality.both ParameterSet.isEquality isEquality_sameSchemes parameters schemes

theorem EncryptConfig.isEquality : IsEquality same digest :=
  have materials := IsEquality.both ParameterSet.isEquality DecryptConfig.isEquality parameters decryptConfig
  materials.both isEquality_sameSchemes id schemes

theorem CryptoConfig.isEquality : IsEquality same digest :=
  IsEquality.both EncryptConfig.isEquality DecryptConfig.isEquality encryptConfig decryptConfig

theorem CryptoConfig.same_refl (b : CryptoConfig) : b.same b = true := IsEquality.refl isEquality b

theorem DecryptConfig.same_empty_iff {d : DecryptConfig} : d.same .empty = true ↔ d = .empty := by
  refine ⟨fun h => ?_, fun h => h ▸ IsEquality.refl isEquality d⟩
  obtain ⟨parameters, schemes⟩ := d
  simp only [same, empty, Bool.and_eq_true, ParameterSet.same_empty_iff, sameSchemes_nil_iff] at h
  rw [h.1, h.2, empty]

theorem EncryptConfig.same_empty_iff {e : EncryptConfig} : e.same .empty = true ↔ e = .empty := by
  refine ⟨fun h => ?_, fun h => h ▸ IsEquality.refl isEquality e⟩
  obtain ⟨parameters, embedded, schemes⟩ := e
  simp only [same, empty, Bool.and_eq_true, ParameterSet.same_empty_iff, DecryptConfig.same_empty_iff,
    sameSchemes_nil_iff] at h
  rw [h.1.1, h.1.2, h.2, empty]

theorem CryptoConfig.same_empty_iff {b : CryptoConfig} : b.same .empty = true ↔ b = .empty := by
  refine ⟨fun h => ?_, fun h => h ▸ same_refl b⟩
  obtain ⟨e, d⟩ := b
  simp only [same, empty, Bool.and_eq_true, EncryptConfig.same_empty_iff, DecryptConfig.same_empty_iff] at h
  rw [h.1, h.2, empty]

theorem Value.equal_parameters (p q : ParameterSet) : Value.equal (.parameters p) (.parameters q) = p.same q :=
  rfl

theorem Value.equal_scheme (s t : Scheme) : Value.equal (.scheme s) (.scheme t) = s.same t :=
  rfl

theorem Value.equal_cryptoConfig (a b : CryptoConfig) : Value.equal (.cryptoConfig a) (.cryptoConfig b) = a.same b :=
  rfl

end KeyBundle
