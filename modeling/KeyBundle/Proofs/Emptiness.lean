/-
  KeyBundle.Proofs.Emptiness — what an empty bundle is, and what leaving it out of a combination does.

  A bundle counts as empty when neither side is configured, and that does not look at the material embedded on the
  encrypting side. So an empty bundle differs from the bundle of nothing by what it embeds, and by nothing else
  (`same_empty_iff_isEmpty`).
  (1) Leaving empty bundles out changes what is embedded in the combination at most: one step keeps `AlikeButEmbedded`
      (`AlikeButEmbedded.merged`, `AlikeButEmbedded.leave`), and so does the whole list.
  (2) It changes nothing when the bundles that are left out embed nothing. When one of them does, fewer schemes are
      embedded (`LeavesOut.embedded_length`), for parameters come with schemes in all that is assembled.
  (3) The bundles of the constructors embed nothing unless a side is configured, nor do their combinations
      (`isEmpty_of_built`); a bundle around the encrypting side of one that decrypts may (`isEmpty_around_key`).
-/

import KeyBundle.Proofs.Embedding
import KeyBundle.Proofs.Sameness

namespace KeyBundle

/-! ## Empty and nothing -/

theorem DecryptConfig.isConfigured_eq_false_iff {d : DecryptConfig} : d.isConfigured = false ↔ d = .empty := by
  obtain ⟨parameters, schemes⟩ := d
  simp [isConfigured, empty, ParameterSet.isEmpty_eq_true_iff, and_comm]

namespace CryptoConfig

/-- A bundle is empty when neither side has schemes or parameters of its own. -/
theorem isEmpty_iff {b : CryptoConfig} : b.isEmpty = true ↔
    (b.encryptConfig.parameters = .empty ∧ b.encryptConfig.schemes = []) ∧ b.decryptConfig = .empty := by
  simp [isEmpty, encryption, decryption, DecryptConfig.isConfigured_eq_false_iff, EncryptConfig.isConfigured,
    ParameterSet.isEmpty_eq_true_iff, and_comm]

theorem eq_empty_iff {b : CryptoConfig} :
    b = .empty ↔ b.isEmpty = true ∧ b.encryptConfig.decryptConfig.isConfigured = false := by
  rw [isEmpty_iff, DecryptConfig.isConfigured_eq_false_iff]
  obtain ⟨⟨parameters, embedded, schemes⟩, d⟩ := b
  simp only [empty, EncryptConfig.empty, mk.injEq, EncryptConfig.mk.injEq]
  tauto

/-- A bundle equals that of nothing when it is empty and embeds nothing. -/
theorem same_empty_iff_isEmpty {b : CryptoConfig} : Value.equal (.cryptoConfig b) (.cryptoConfig .empty) = true ↔
    b.isEmpty = true ∧ b.encryptConfig.decryptConfig.isConfigured = false := by
  rw [← eq_empty_iff, ← same_empty_iff, Value.equal_cryptoConfig]

/-! ## Bundles left out -/

/-- Of all the bundles some are kept, in their order, and some empty ones are left out. -/
inductive LeavesOut : (all kept out : List CryptoConfig) → Prop where
  | nil : LeavesOut [] [] []
  | keep {all kept out : List CryptoConfig} (b : CryptoConfig) : LeavesOut all kept out →
      LeavesOut (b :: all) (b :: kept) out
  | leave {all kept out : List CryptoConfig} {b : CryptoConfig} : b.isEmpty = true → LeavesOut all kept out →
      LeavesOut (b :: all) kept (b :: out)

/-- The bundles differ in what they embed at most. -/
structure AlikeButEmbedded (a b : CryptoConfig) : Prop where
  parameters : a.encryptConfig.parameters = b.encryptConfig.parameters
  schemes : a.encryptConfig.schemes = b.encryptConfig.schemes
  decrypting : a.decryptConfig = b.decryptConfig

variable {a b c : CryptoConfig} {all kept out : List CryptoConfig}

theorem AlikeButEmbedded.merged (h : AlikeButEmbedded a b) (c : CryptoConfig) :
    AlikeButEmbedded (a.merged c) (b.merged c) where
  parameters := congrArg (·.merged c.encryptConfig.parameters) h.parameters
  schemes := congrArg (· ++ c.encryptConfig.schemes) h.schemes
  decrypting := congrArg (·.merged c.decryptConfig) h.decrypting

/-- An empty bundle may be merged to one of them alone. -/
theorem AlikeButEmbedded.leave (h : AlikeButEmbedded a b) (hc : c.isEmpty = true) : AlikeButEmbedded (a.merged c) b := by
  obtain ⟨⟨noParameters, noSchemes⟩, noDecrypting⟩ := isEmpty_iff.mp hc
  constructor
  · rw [← h.parameters, CryptoConfig.merged, EncryptConfig.merged, noParameters, ParameterSet.merged_empty]
  · rw [← h.schemes, CryptoConfig.merged, EncryptConfig.merged, noSchemes, List.append_nil]
  · rw [← h.decrypting, CryptoConfig.merged, noDecrypting, DecryptConfig.merged, DecryptConfig.empty,
      ParameterSet.merged_empty, List.append_nil]

theorem LeavesOut.alike (h : LeavesOut all kept out) (hab : AlikeButEmbedded a b) :
    AlikeButEmbedded (all.foldl .merged a) (kept.foldl .merged b) := by
  induction h generalizing a b with
  | nil => exact hab
  | keep c _ ih => exact ih (hab.merged c)
  | leave empty _ ih => exact ih (hab.leave empty)

theorem merged_empty (a : CryptoConfig) : a.merged .empty = a := by
  simp [CryptoConfig.merged, EncryptConfig.merged, DecryptConfig.merged, empty, EncryptConfig.empty, DecryptConfig.empty]

/-- Nothing is changed by leaving nothing out. -/
theorem LeavesOut.foldl_eq (h : LeavesOut all kept out)
    (nothing : ∀ b ∈ out, b.encryptConfig.decryptConfig.isConfigured = false) (a : CryptoConfig) :
    all.foldl .merged a = kept.foldl .merged a := by
  induction h generalizing a with
  | nil => rfl
  | keep c _ ih => exact ih nothing _
  | @leave _ _ _ b isEmpty _ ih =>
    obtain ⟨here, rest⟩ := List.forall_mem_cons.mp nothing
    rw [List.foldl_cons, eq_empty_iff.mpr ⟨isEmpty, here⟩, merged_empty]
    exact ih rest a

/-- The schemes that are embedded. -/
def embeddedSchemes (b : CryptoConfig) : List Scheme := b.encryptConfig.decryptConfig.schemes

theorem embeddedSchemes_foldl (bs : List CryptoConfig) (a : CryptoConfig) :
    (bs.foldl .merged a).embeddedSchemes = a.embeddedSchemes ++ bs.flatMap embeddedSchemes := by
  induction bs generalizing a with
  | nil => exact (List.append_nil _).symm
  | cons b bs ih => rw [List.foldl_cons, ih, List.flatMap_cons, ← List.append_assoc]; rfl

/-- All that is embedded is embedded by what is kept or by what is left out. -/
theorem LeavesOut.embedded_length (h : LeavesOut all kept out) : (all.flatMap embeddedSchemes).length =
    (kept.flatMap embeddedSchemes).length + (out.flatMap embeddedSchemes).length := by
  induction h with
  | nil => rfl
  | keep c _ ih | leave _ _ ih => simp only [List.flatMap_cons, List.length_append, ih]; omega

theorem LeavesOut.subset (h : LeavesOut all kept out) : out ⊆ all := by
  induction h with
  | nil => exact List.Subset.refl []
  | keep c _ ih => exact List.Subset.trans ih (List.subset_cons_self c _)
  | leave _ _ ih => exact List.cons_subset_cons _ ih

theorem embedded_length_of_same (h : a.same b = true) : a.embeddedSchemes.length = b.embeddedSchemes.length := by
  simp only [same, EncryptConfig.same, DecryptConfig.same, Bool.and_eq_true] at h
  exact length_eq_of_sameSchemes h.1.1.2.2

/-- Where parameters come with their schemes, a bundle without embedded schemes embeds nothing. -/
theorem Accounted.embeds_nothing (h : b.Accounted) (none : b.embeddedSchemes = []) :
    b.encryptConfig.decryptConfig.isConfigured = false := by
  have parameters := h.encrypting.embedded.parameters
  rw [show b.encryptConfig.decryptConfig.schemes = [] from none] at parameters
  rw [DecryptConfig.isConfigured, parameters, show b.encryptConfig.decryptConfig.schemes = [] from none]
  rfl

/-- Of bundles that are accounted for, those left out make no difference just when none of them embeds anything. -/
theorem LeavesOut.same_iff (h : LeavesOut all kept out) (accounted : ∀ b ∈ all, b.Accounted) :
    (combine kept).same (combine all) = true ↔ ∀ b ∈ out, b.encryptConfig.decryptConfig.isConfigured = false := by
  constructor
  · intro same b hb
    refine (accounted b (h.subset hb)).embeds_nothing ?_
    have lengths := embedded_length_of_same same
    rw [combine, combine, embeddedSchemes_foldl, embeddedSchemes_foldl, List.length_append, List.length_append,
      h.embedded_length] at lengths
    have none : out.flatMap embeddedSchemes = [] := List.eq_nil_of_length_eq_zero (by omega)
    exact List.flatMap_eq_nil_iff.mp none b hb
  · intro nothing
    rw [combine, combine, h.foldl_eq nothing]
    exact same_refl _

end CryptoConfig

/-! ## Bundles of the constructors -/

/-- What is built of calls embeds nothing unless a side has schemes. -/
theorem embeds_nothing_of_built {calls : List Call} {v : Value} (h : Built calls v) : ∃ b, v = .cryptoConfig b ∧
    (b.encryptConfig.schemes = [] → b.decryptConfig.schemes = [] → b.encryptConfig.decryptConfig = .empty) :=
  h.induct
    (P := fun _ b => b.encryptConfig.schemes = [] → b.decryptConfig.schemes = [] → b.encryptConfig.decryptConfig = .empty)
    (fun _ _ => rfl)
    (fun k b given noEncrypting noDecrypting => by
      obtain ⟨s, rfl⟩ | ⟨⟨s, d, rfl⟩, -⟩ := Call.forms given
      · unfold CryptoConfig.ofScheme at noEncrypting noDecrypting
        cases hd : s.direction with
        | encrypt => rw [hd] at noEncrypting; cases noEncrypting
        | decrypt => rw [hd] at noDecrypting; cases noDecrypting
      · cases noEncrypting)
    (fun ks ls a b ha hb noEncrypting noDecrypting => by
      obtain ⟨noEncryptingA, noEncryptingB⟩ := List.append_eq_nil_iff.mp noEncrypting
      obtain ⟨noDecryptingA, noDecryptingB⟩ := List.append_eq_nil_iff.mp noDecrypting
      rw [CryptoConfig.merged, EncryptConfig.merged, ha noEncryptingA noDecryptingA, hb noEncryptingB noDecryptingB]
      rfl)

theorem isEmpty_of_built {calls : List Call} {v : Value} (h : Built calls v) : ∃ b, v = .cryptoConfig b ∧
    (b.isEmpty = true ↔ Value.equal (.cryptoConfig b) (.cryptoConfig .empty) = true) := by
  obtain ⟨b, rfl, nothing⟩ := embeds_nothing_of_built h
  refine ⟨b, rfl, ?_⟩
  rw [CryptoConfig.same_empty_iff_isEmpty, iff_self_and]
  intro empty
  obtain ⟨⟨-, noEncrypting⟩, noDecrypting⟩ := CryptoConfig.isEmpty_iff.mp empty
  exact DecryptConfig.isConfigured_eq_false_iff.mpr (nothing noEncrypting (noDecrypting ▸ rfl))

/-! ## Assembled bundles -/

open Assembly CryptoConfig

/-- Bundles with fields of their usual types are combined to one, in whatever form they are handed over. -/
theorem exec_combine_cryptoConfig {x : Value} {c : Context} {bs : List CryptoConfig}
    (h : upcoming c x = some (bs.map .cryptoConfig)) : (exec (Build.combine x) c).1 = .ok (.cryptoConfig (.combine bs)) := by
  rw [map_cryptoConfig] at h
  obtain ⟨c', combined⟩ := exec_combine h
  rw [combined, combined_slots, bundle_slots]

/-- An assembled bundle equals that of nothing when it is empty and embeds nothing. Leaving empty ones out of a list
    changes nothing about the combination but what it embeds, and not even that just when none of them embeds anything.
    What the constructors give and what is combined of it embeds nothing when it is empty. -/
theorem isEmpty_assembled (c : Context) (ms : List Move) :
    (∀ b, .ok (.cryptoConfig b) ∈ (assemble c ms).made →
      (Value.equal (.cryptoConfig b) (.cryptoConfig .empty) = true ↔
        b.isEmpty = true ∧ b.encryptConfig.decryptConfig.isConfigured = false)) ∧
    (∀ all kept out, LeavesOut all kept out → (∀ b ∈ all, .ok (.cryptoConfig b) ∈ (assemble c ms).made) →
      ∀ x y c d, upcoming c x = some (all.map .cryptoConfig) → upcoming d y = some (kept.map .cryptoConfig) →
        ∃ r s, (exec (Build.combine x) c).1 = .ok (.cryptoConfig r) ∧ (exec (Build.combine y) d).1 = .ok (.cryptoConfig s) ∧
          AlikeButEmbedded r s ∧
          (Value.equal (.cryptoConfig s) (.cryptoConfig r) = true ↔
            ∀ b ∈ out, b.encryptConfig.decryptConfig.isConfigured = false)) ∧
    ∀ calls v, Built calls v → ∃ b, v = .cryptoConfig b ∧
      (b.isEmpty = true ↔ Value.equal (.cryptoConfig b) (.cryptoConfig .empty) = true) := by
  refine ⟨fun b _ => same_empty_iff_isEmpty, fun all kept out leaves made x y c' d hx hy => ?_, fun _ _ => isEmpty_of_built⟩
  have accounted : ∀ b ∈ all, b.Accounted := fun b hb => foldl_accounted ms ⟨c, []⟩ (fun _ h => nomatch h) _ (made b hb)
  refine ⟨_, _, exec_combine_cryptoConfig hx, exec_combine_cryptoConfig hy, leaves.alike ⟨rfl, rfl, rfl⟩, ?_⟩
  rw [Value.equal_cryptoConfig]
  exact leaves.same_iff accounted

/-- A key, a bundle around the encrypting side of its bundle, and nothing combined. The last two are empty. -/
def aroundKey : List Move :=
  [.construct .decryptWithPrivateKeys [(0, .tuple [.bytes [0x6B]]), (1, .tuple [.bytes [0x70]])], .encryptSide 0,
    .pair (some 1) none, .combine .tuple []]

/-- The first of the two embeds the key, so that it is not the bundle of nothing and makes a difference. -/
theorem isEmpty_around_key : ∃ b, .ok (.cryptoConfig b) ∈ (assemble (.start [] .ofString) aroundKey).made ∧
    b.isEmpty = true ∧ Value.equal (.cryptoConfig b) (.cryptoConfig .empty) = false ∧
    Value.equal (.cryptoConfig (.combine [b])) (.cryptoConfig (.combine [])) = false := by
  have made : (pieceAt? crypto? (assemble (.start [] .ofString) aroundKey).made 2).any
      (fun b => b.isEmpty && !b.same .empty && !(combine [b]).same (.combine [])) := by decide +kernel
  obtain ⟨b, hb, found⟩ := (Option.any_eq_true _ _).mp made
  obtain ⟨v, hv, hvb⟩ := mem_of_pieceAt? hb
  simp only [Bool.and_eq_true, Bool.not_eq_true'] at found
  cases v <;> cases hvb
  exact ⟨b, hv, found.1.1, by rw [Value.equal_cryptoConfig, found.1.2], by rw [Value.equal_cryptoConfig, found.2]⟩

/-- The other of the two makes no difference beside the key. -/
theorem isEmpty_assembled_key : ∃ k e r s, e.isEmpty = true ∧
    (exec (Build.combine (.tuple [.cryptoConfig e, .cryptoConfig k])) (.start [] .ofString)).1 = .ok (.cryptoConfig r) ∧
    (exec (Build.combine (.tuple [.cryptoConfig k])) (.start [] .ofString)).1 = .ok (.cryptoConfig s) ∧
    k.decryptConfig.isConfigured = true ∧ Value.equal (.cryptoConfig s) (.cryptoConfig r) = true := by
  have made : (pieceAt? crypto? (assemble (.start [] .ofString) aroundKey).made 0).any (·.decryptConfig.isConfigured) ∧
      (pieceAt? crypto? (assemble (.start [] .ofString) aroundKey).made 3).any
        (fun e => e.isEmpty && !e.encryptConfig.decryptConfig.isConfigured) := by decide +kernel
  obtain ⟨k, hk, configured⟩ := (Option.any_eq_true _ _).mp made.1
  obtain ⟨e, he, empty⟩ := (Option.any_eq_true _ _).mp made.2
  obtain ⟨v, hv, hvk⟩ := mem_of_pieceAt? hk
  obtain ⟨w, hw, hwe⟩ := mem_of_pieceAt? he
  cases v <;> cases hvk
  cases w <;> cases hwe
  simp only [Bool.and_eq_true, Bool.not_eq_true'] at empty
  obtain ⟨r, s, hr, hs, -, same⟩ := (isEmpty_assembled (.start [] .ofString) aroundKey).2.1 [e, k] [k] [e]
    (.leave empty.1 (.keep k .nil)) (by simp [hv, hw]) (.tuple [.cryptoConfig e, .cryptoConfig k])
    (.tuple [.cryptoConfig k]) (.start [] .ofString) (.start [] .ofString) rfl rfl
  exact ⟨k, e, r, s, empty.1, hr, hs, configured, same.mpr (List.forall_mem_singleton.mpr empty.2)⟩

end KeyBundle
