/-
  KeyBundle.Proofs.Masking — parameter sets, schemes and bundles with every blob emptied.

  A masked thing has the empty blob in the place of each of its blobs and is the same otherwise:
  names and their order, the number of blobs under each name, kinds and directions. So two things
  with one mask differ in the content of blobs only.

  (1) Merging masked things gives the masked merge, through all that bundles are made of
      (`masked_merged`, `masked_parameters`, `masked_ofSchemes`).
  (2) The shown form and the plain text of a thing are those of its mask (`shown_masked`,
      `plain_masked`): nothing that is shown depends on the content of a blob.
-/

import KeyBundle.Proofs.Merging
import KeyBundle.Value.Text

namespace KeyBundle

/-! ## Blobs -/

def maskBlobs (bs : List Blob) : List Blob := bs.map fun _ => []

@[simp] theorem length_maskBlobs (bs : List Blob) : (maskBlobs bs).length = bs.length := List.length_map _

@[simp] theorem isEmpty_maskBlobs (bs : List Blob) : (maskBlobs bs).isEmpty = bs.isEmpty := by
  cases bs <;> rfl

theorem maskBlobs_append (a b : List Blob) : maskBlobs (a ++ b) = maskBlobs a ++ maskBlobs b := List.map_append

/-! ## (1) Parameter sets -/

namespace Entries

def masked (es : Entries) : Entries := es.map fun e => (e.1, maskBlobs e.2)

@[simp] theorem names_masked (es : Entries) : names (masked es) = names es := by
  simp [names, masked, Function.comp_def]

theorem masked_update {f g : List Blob → List Blob} (h : ∀ bs, maskBlobs (f bs) = g (maskBlobs bs)) (name : String)
    (es : Entries) : masked (update name f es) = update name g (masked es) := by
  induction es with
  | nil =>
    show [(name, maskBlobs (f []))] = [(name, g [])]
    rw [h]
    rfl
  | cons e es ih =>
    simp only [masked] at ih
    by_cases he : e.1 = name
    · simp [masked, update, he, h]
    · simp [masked, update, he, ih]

theorem masked_merge (a b : Entries) : masked (merge a b) = merge (masked a) (masked b) := by
  induction b generalizing a with
  | nil => rfl
  | cons e b ih =>
    have hm : masked (e :: b) = (e.1, maskBlobs e.2) :: masked b := rfl
    have hu := masked_update (f := (· ++ e.2)) (g := (· ++ maskBlobs e.2)) (fun bs => maskBlobs_append bs e.2) e.1 a
    rw [merge_cons, ih, hu, hm, merge_cons]

end Entries

namespace ParameterSet

def masked (p : ParameterSet) : ParameterSet where
  entries := p.entries.masked
  distinct := by
    rw [Entries.names_masked]
    exact p.distinct
  named n hn := p.named n (by rwa [Entries.names_masked] at hn)

@[simp] theorem isEmpty_masked (p : ParameterSet) : p.masked.isEmpty = p.isEmpty := by
  simp [isEmpty, masked, Entries.masked]

@[simp] theorem masked_empty : empty.masked = empty := rfl

theorem masked_put (p : ParameterSet) (name : String) (h : isName name = true) (bs : List Blob) :
    (p.put name h bs).masked = p.masked.put name h (maskBlobs bs) :=
  ext (Entries.masked_update (f := fun _ => bs) (g := fun _ => maskBlobs bs) (fun _ => rfl) name p.entries)

theorem masked_merged (p q : ParameterSet) : (p.merged q).masked = p.masked.merged q.masked := by
  refine ext ?_
  rw [entries_merged]
  show (p.merged q).entries.masked = _
  rw [entries_merged, Entries.masked_merge]
  rfl

theorem shown_masked (p : ParameterSet) : p.masked.shown = p.shown := by
  simp [shown, masked, Entries.masked, Function.comp_def]

end ParameterSet

/-! ## (1) Schemes -/

namespace Scheme

def masked : Scheme → Scheme
  | jweRecipients pubkeys => jweRecipients (maskBlobs pubkeys)
  | pkcs7Recipients x509s => pkcs7Recipients (maskBlobs x509s)
  | gpgRecipients recipients _ => gpgRecipients (maskBlobs recipients) []
  | pkcs11Recipients modules pins => pkcs11Recipients (maskBlobs modules) (maskBlobs pins)
  | privateKeys privkeys passwords => privateKeys (maskBlobs privkeys) (maskBlobs passwords)
  | x509Certificates x509s => x509Certificates (maskBlobs x509s)
  | gpgPrivateKeys privkeys passwords => gpgPrivateKeys (maskBlobs privkeys) (maskBlobs passwords)
  | pkcs11Modules modules pins => pkcs11Modules (maskBlobs modules) (maskBlobs pins)
  | custom kind direction values => custom kind direction values.masked

@[simp] theorem className_masked (s : Scheme) : s.masked.className = s.className := by cases s <;> rfl

@[simp] theorem kind_masked (s : Scheme) : s.masked.kind = s.kind := by cases s <;> rfl

@[simp] theorem direction_masked (s : Scheme) : s.masked.direction = s.direction := by cases s <;> rfl

theorem masked_single (name : String) (h : isName name = true) (bs : List Blob) :
    (single name h bs).masked = single name h (maskBlobs bs) := ParameterSet.masked_put .empty name h bs

theorem masked_pair (first : String) (h : isName first = true) (xs : List Blob) (second : String)
    (k : isName second = true) (ys : List Blob) :
    (pair first h xs second k ys).masked = pair first h (maskBlobs xs) second k (maskBlobs ys) := by
  unfold pair
  rw [ParameterSet.masked_put, masked_single]

theorem masked_parameters (s : Scheme) : s.parameters.masked = s.masked.parameters := by
  cases s with
  | jweRecipients | pkcs7Recipients | x509Certificates => exact masked_single _ _ _
  | gpgRecipients | pkcs11Recipients | privateKeys | gpgPrivateKeys | pkcs11Modules =>
    exact masked_pair _ _ _ _ _ _
  | custom => rfl

theorem shown_masked (s : Scheme) : s.masked.shown = s.shown := by
  unfold shown
  rw [className_masked, ← masked_parameters, ParameterSet.shown_masked]

end Scheme

theorem masked_parametersOf (ss : List Scheme) : (parametersOf ss).masked = parametersOf (ss.map .masked) := by
  induction ss with
  | nil => rfl
  | cons s ss ih =>
    have hs : parametersOf (s :: ss) = s.parameters.merged (parametersOf ss) := by
      rw [← List.singleton_append, parametersOf_append, parametersOf_singleton]
    have hm : parametersOf (s.masked :: ss.map .masked) = s.masked.parameters.merged (parametersOf (ss.map .masked)) := by
      rw [← List.singleton_append, parametersOf_append, parametersOf_singleton]
    rw [hs, ParameterSet.masked_merged, ih, Scheme.masked_parameters, List.map_cons, hm]

/-! ## (1) Bundles -/

def DecryptConfig.masked (c : DecryptConfig) : DecryptConfig := ⟨c.parameters.masked, c.schemes.map .masked⟩

def EncryptConfig.masked (c : EncryptConfig) : EncryptConfig :=
  ⟨c.parameters.masked, c.decryptConfig.masked, c.schemes.map .masked⟩

def CryptoConfig.masked (c : CryptoConfig) : CryptoConfig := ⟨c.encryptConfig.masked, c.decryptConfig.masked⟩

namespace DecryptConfig

theorem masked_merged (a b : DecryptConfig) : (a.merged b).masked = a.masked.merged b.masked := by
  simp [masked, merged, ParameterSet.masked_merged]

theorem masked_ofSchemes (ss : List Scheme) : (ofSchemes ss).masked = ofSchemes (ss.map .masked) := by
  simp [masked, ofSchemes, masked_parametersOf]

theorem shown_masked (c : DecryptConfig) : c.masked.shown = c.shown := by
  simp [shown, masked, ParameterSet.shown_masked, Function.comp_def, Scheme.shown_masked]

end DecryptConfig

namespace EncryptConfig

theorem masked_merged (a b : EncryptConfig) : (a.merged b).masked = a.masked.merged b.masked := by
  simp [masked, merged, ParameterSet.masked_merged, DecryptConfig.masked_merged]

theorem masked_withDecryptConfig (a : EncryptConfig) (d : DecryptConfig) :
    (a.withDecryptConfig d).masked = a.masked.withDecryptConfig d.masked := by
  simp [masked, withDecryptConfig, DecryptConfig.masked_merged]

theorem shown_masked (c : EncryptConfig) : c.masked.shown = c.shown := by
  simp [shown, masked, ParameterSet.shown_masked, DecryptConfig.shown_masked, Function.comp_def, Scheme.shown_masked]

end EncryptConfig

namespace CryptoConfig

theorem masked_merged (a b : CryptoConfig) : (a.merged b).masked = a.masked.merged b.masked := by
  simp [masked, merged, EncryptConfig.masked_merged, DecryptConfig.masked_merged]

theorem masked_encrypting (s : Scheme) : (encrypting s).masked = encrypting s.masked := by
  simp [masked, encrypting, EncryptConfig.ofSchemes, EncryptConfig.masked, DecryptConfig.masked, DecryptConfig.empty,
    Scheme.masked_parameters]

theorem masked_decrypting (s : Scheme) : (decrypting s).masked = decrypting s.masked := by
  simp [masked, decrypting, EncryptConfig.masked, DecryptConfig.masked_ofSchemes]

theorem shown_masked (c : CryptoConfig) : c.masked.shown = c.shown := by
  simp [shown, masked, EncryptConfig.shown_masked, DecryptConfig.shown_masked]

end CryptoConfig

/-! ## (2) Values -/

namespace Value

/-- The value, masked if it is of a type of the library that holds blobs. -/
def masked : Value → Value
  | parameters p => parameters p.masked
  | scheme s => scheme s.masked
  | decryptConfig c => decryptConfig c.masked
  | encryptConfig c => encryptConfig c.masked
  | cryptoConfig c => cryptoConfig c.masked
  | v => v

theorem shown_masked (v : Value) : v.masked.shown = v.shown := by
  cases v with
  | parameters p => exact p.shown_masked
  | scheme s => exact s.shown_masked
  | decryptConfig c => exact c.shown_masked
  | encryptConfig c => exact c.shown_masked
  | cryptoConfig c => exact c.shown_masked
  | _ => rfl

theorem plain_masked (v : Value) : v.masked.plain = v.plain := by
  cases v with
  | parameters | scheme | decryptConfig | encryptConfig | cryptoConfig => exact shown_masked _
  | _ => rfl

end Value

end KeyBundle
