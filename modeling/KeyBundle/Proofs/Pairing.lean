/-
  KeyBundle.Proofs.Pairing — pins stay with their modules, and passwords with their keys.

  The two sequences of a pair are kept under two names and merged name by name. They stay in step
  (`Paired.merged`), as every contribution to one is as long as the one to the other: the check of
  the constructors sees to that (`Scheme.Even`), and no other scheme has blobs under these names
  (`paired_modules`, `paired_keys`).

  So in a bundle combined of results of the named constructors (`pairs_built`) the modules and pins to
  encrypt with, position by position, are the pairs that were given to the calls, in the order of
  the calls; and so are the private keys and passwords, on the decrypting side as well as in the
  embedded material.
-/

import KeyBundle.Proofs.Calls

namespace KeyBundle

open Build

/-- Under two names there are equally many blobs; position by position they are these pairs. -/
structure Paired (p : ParameterSet) (first second : String) (pairs : List (Blob × Blob)) : Prop where
  length_eq : (p.blobs first).length = (p.blobs second).length
  zip_eq : (p.blobs first).zip (p.blobs second) = pairs

namespace Paired

variable {p q : ParameterSet} {first second : String} {xs ys : List (Blob × Blob)}

theorem of_blobs {as bs : List Blob} (ha : p.blobs first = as) (hb : p.blobs second = bs) (h : as.length = bs.length) :
    Paired p first second (as.zip bs) := ⟨by rw [ha, hb, h], by rw [ha, hb]⟩

theorem empty : Paired .empty first second [] := ⟨rfl, rfl⟩

theorem map_fst (h : Paired p first second xs) : xs.map Prod.fst = p.blobs first := by
  rw [← h.zip_eq, List.map_fst_zip (Nat.le_of_eq h.length_eq)]

theorem merged (hp : Paired p first second xs) (hq : Paired q first second ys) :
    Paired (p.merged q) first second (xs ++ ys) where
  length_eq := by
    rw [ParameterSet.blobs_merged, ParameterSet.blobs_merged, List.length_append, List.length_append,
      hp.length_eq, hq.length_eq]
  zip_eq := by
    rw [ParameterSet.blobs_merged, ParameterSet.blobs_merged, List.zip_append hp.length_eq, hp.zip_eq, hq.zip_eq]

end Paired

/-! ## Schemes -/

namespace Scheme

/-- The schemes of the library's own. -/
def isTyped : Scheme → Bool
  | custom .. => false
  | _ => true

/-- What the constructors enforce of pairs. -/
def Even : Scheme → Prop
  | pkcs11Recipients modules pins => modules.length = pins.length
  | privateKeys privkeys passwords => privkeys.length = passwords.length
  | _ => True

/-- Modules to encrypt with, each with its pin. -/
def modulePairs : Scheme → List (Blob × Blob)
  | pkcs11Recipients modules pins => modules.zip pins
  | _ => []

/-- Private keys, each with its password. -/
def keyPairs : Scheme → List (Blob × Blob)
  | privateKeys privkeys passwords => privkeys.zip passwords
  | _ => []

variable {s : Scheme}

theorem paired_modules (ht : s.isTyped = true) (hd : s.direction = .encrypt) (he : s.Even) :
    Paired s.parameters Wire.modules Wire.pins s.modulePairs := by
  cases s with
  | pkcs11Recipients modules pins => exact .of_blobs (blobs_pair ..) (blobs_pair ..) he
  | jweRecipients | pkcs7Recipients => exact .of_blobs (blobs_single ..) (blobs_single ..) rfl
  | gpgRecipients => exact .of_blobs (blobs_pair ..) (blobs_pair ..) rfl
  | custom => cases ht
  | _ => cases hd

theorem paired_keys (ht : s.isTyped = true) (hd : s.direction = .decrypt) (he : s.Even) :
    Paired s.parameters Wire.privateKeys Wire.privatePasswords s.keyPairs := by
  cases s with
  | privateKeys privkeys passwords => exact .of_blobs (blobs_pair ..) (blobs_pair ..) he
  | x509Certificates => exact .of_blobs (blobs_single ..) (blobs_single ..) rfl
  | gpgPrivateKeys | pkcs11Modules => exact .of_blobs (blobs_pair ..) (blobs_pair ..) rfl
  | custom => cases ht
  | _ => cases hd

end Scheme

/-! ## Checks -/

theorem of_exec_requirePaired {first second : String} {xs ys : List Blob} {c c' : Context}
    (h : exec (requirePaired first second xs ys) c = (.ok (), c')) : xs.length = ys.length ∧ c' = c := by
  obtain ⟨h, hc⟩ := of_exec_refused h
  refine ⟨?_, hc⟩
  unfold checkPaired at h
  split at h
  · assumption
  · cases h

/-- A scheme that passes its check is even. -/
theorem even_of_exec_checkScheme {s : Scheme} {limit : Value} {c c' : Context}
    (h : exec (checkScheme s limit) c = (.ok (), c')) : s.Even := by
  cases s with
  | pkcs11Recipients modules pins =>
    obtain ⟨_, _, h, -⟩ := of_exec_bind h
    exact (of_exec_requirePaired h).1
  | privateKeys privkeys passwords => exact (of_exec_requirePaired h).1
  | _ => trivial

/-! ## Bundles -/

/-- What pairs there are in the slots of a bundle. -/
structure CryptoConfig.Paired (b : CryptoConfig) (modules keys : List (Blob × Blob)) : Prop where
  encrypting : KeyBundle.Paired b.encryptConfig.parameters Wire.modules Wire.pins modules
  embedded : KeyBundle.Paired b.encryptConfig.decryptConfig.parameters Wire.privateKeys Wire.privatePasswords keys
  decrypting : KeyBundle.Paired b.decryptConfig.parameters Wire.privateKeys Wire.privatePasswords keys

namespace CryptoConfig.Paired

theorem empty : CryptoConfig.empty.Paired [] [] := ⟨.empty, .empty, .empty⟩

theorem merged {a b : CryptoConfig} {ms ns ks ls : List (Blob × Blob)} (ha : a.Paired ms ks) (hb : b.Paired ns ls) :
    (a.merged b).Paired (ms ++ ns) (ks ++ ls) :=
  ⟨ha.encrypting.merged hb.encrypting, ha.embedded.merged hb.embedded, ha.decrypting.merged hb.decrypting⟩

theorem ofScheme {s : Scheme} (ht : s.isTyped = true) (he : s.Even) :
    (CryptoConfig.ofScheme s).Paired s.modulePairs s.keyPairs := by
  cases hd : s.direction with
  | encrypt =>
    have hk : s.keyPairs = [] := by
      cases s <;> first | rfl | cases hd
    have hp : KeyBundle.Paired (parametersOf [s]) Wire.modules Wire.pins s.modulePairs := by
      rw [parametersOf_singleton]
      exact s.paired_modules ht hd he
    rw [CryptoConfig.ofScheme, hd, hk]
    exact ⟨hp, .empty, .empty⟩
  | decrypt =>
    have hm : s.modulePairs = [] := by
      cases s <;> first | rfl | cases hd
    have hp : KeyBundle.Paired (parametersOf [s]) Wire.privateKeys Wire.privatePasswords s.keyPairs := by
      rw [parametersOf_singleton]
      exact s.paired_keys ht hd he
    rw [CryptoConfig.ofScheme, hd, hm]
    exact ⟨.empty, hp, hp⟩

end CryptoConfig.Paired

/-! ## Calls -/

/-- The constructors that are handed neither a scheme nor parameters as they are. -/
def Assembly.Constructor.isNamed : Assembly.Constructor → Bool
  | encryptWithScheme | decryptWithScheme | initEncryption | initDecryption => false
  | _ => true

namespace Call

/-- The pairs of modules and pins that a call for encryption is given. -/
def modulePairs (k : Call) : List (Blob × Blob) :=
  match k.kind with
  | .encryptWithPkcs11 => k.first.zip k.second
  | _ => []

/-- The pairs of private keys and passwords that a call for decryption is given. -/
def keyPairs (k : Call) : List (Blob × Blob) :=
  match k.kind with
  | .decryptWithPrivateKeys => k.first.zip k.second
  | _ => []

/-- Where pairs are given, nothing is left over. -/
def Even (k : Call) : Prop :=
  match k.kind with
  | .encryptWithPkcs11 | .decryptWithPrivateKeys => k.first.length = k.second.length
  | _ => True

theorem exists_scheme? {k : Call} (h : k.kind.isNamed = true) : ∃ s, k.scheme? = some s ∧ s.isTyped = true ∧
    s.modulePairs = k.modulePairs ∧ s.keyPairs = k.keyPairs ∧ (s.Even ↔ k.Even) := by
  obtain ⟨kind, args, context⟩ := k
  cases kind
  case encryptWithScheme | decryptWithScheme | initEncryption | initDecryption => cases h
  all_goals exact ⟨_, rfl, rfl, rfl, rfl, Iff.rfl⟩

theorem paired_of_gives {k : Call} {b : CryptoConfig} (hk : k.kind.isNamed = true) (h : k.Gives (.cryptoConfig b)) :
    k.Even ∧ b.Paired k.modulePairs k.keyPairs := by
  obtain ⟨s, hs, ht, hm, hp, he⟩ := exists_scheme? hk
  obtain ⟨hb, drawn, c', hc⟩ := of_gives hs h
  have even := even_of_exec_checkScheme hc
  cases hb
  rw [← hm, ← hp]
  exact ⟨he.mp even, .ofScheme ht even⟩

end Call

/-- The pairs of all calls, in their order, are those in what is built of them. -/
theorem Built.paired {calls : List Call} {v : Value} (h : Built calls v) (hk : ∀ k ∈ calls, k.kind.isNamed = true) :
    ∃ b, v = .cryptoConfig b ∧ b.Paired (calls.flatMap Call.modulePairs) (calls.flatMap Call.keyPairs) := by
  obtain ⟨b, rfl, hb⟩ := h.induct
    (P := fun ks b => (∀ k ∈ ks, k.kind.isNamed = true) →
      b.Paired (ks.flatMap Call.modulePairs) (ks.flatMap Call.keyPairs))
    (fun _ => .empty)
    (fun k b hg hk => by
      rw [List.flatMap_singleton, List.flatMap_singleton]
      exact (Call.paired_of_gives (hk k List.mem_cons_self) hg).2)
    (fun ks ls a b ha hb hk => by
      obtain ⟨hks, hls⟩ := List.forall_mem_append.mp hk
      rw [List.flatMap_append, List.flatMap_append]
      exact (ha hks).merged (hb hls))
  exact ⟨b, rfl, hb hk⟩

theorem Built.even {calls : List Call} {v : Value} (h : Built calls v) (hk : ∀ k ∈ calls, k.kind.isNamed = true) :
    ∀ k ∈ calls, k.Even := by
  intro k hm
  obtain ⟨b, hg⟩ := h.gives.2 k hm
  exact (Call.paired_of_gives (hk k hm) hg).1

/-- A bundle that is built of calls of the named constructors has as modules and pins to encrypt with, and
    as private keys and passwords both on its decrypting side and embedded, position by position the
    pairs that the calls were given, in the order of the calls; to no call was a sequence given
    without one as long. -/
theorem pairs_built {calls : List Call} {v : Value} (h : Built calls v) (hk : ∀ k ∈ calls, k.kind.isNamed = true) :
    ∃ b, v = .cryptoConfig b ∧ (∀ k ∈ calls, k.Even) ∧
      b.Paired (calls.flatMap Call.modulePairs) (calls.flatMap Call.keyPairs) := by
  obtain ⟨b, hb, hp⟩ := h.paired hk
  exact ⟨b, hb, h.even hk, hp⟩

/-- Two calls for modules and two for private keys, one of them with no key; two results are combined
    before the others, and one of them is combined a second time. -/
theorem pairs_built_nested :
    let call (kind : Assembly.Constructor) (v w : Value) : Call := ⟨kind, [(0, v), (1, w)], .start [] .ofString⟩
    let pin : Call := call .encryptWithPkcs11 (.list 0 [.bytes [1]]) (.tuple [.view 4 1 [2]])
    let other : Call := call .encryptWithPkcs11 (.stream 0 [.buffer 1 [3]]) (.list 2 [.bytes []])
    let key : Call := call .decryptWithPrivateKeys (.tuple [.bytes [4], .bytes [5]]) (.tuple [.bytes [], .bytes [6]])
    let none : Call := call .decryptWithPrivateKeys .none (.tuple [])
    let calls := [pin, key, pin, none, other]
    ∃ v, Built calls v ∧ (∀ k ∈ calls, k.kind.isNamed = true) ∧
      calls.flatMap Call.modulePairs = [([1], [2]), ([1], [2]), ([3], [])] ∧
      calls.flatMap Call.keyPairs = [([4], []), ([5], [6])] ∧
      ∃ b, v = .cryptoConfig b ∧ (∀ k ∈ calls, k.Even) ∧
        b.Paired (calls.flatMap Call.modulePairs) (calls.flatMap Call.keyPairs) := by
  intro call pin other key none calls
  obtain ⟨p, hp⟩ : ∃ v, pin.Gives v := Call.gives_of_isOk (by decide +kernel)
  obtain ⟨o, ho⟩ : ∃ v, other.Gives v := Call.gives_of_isOk (by decide +kernel)
  obtain ⟨k, hk⟩ : ∃ v, key.Gives v := Call.gives_of_isOk (by decide +kernel)
  obtain ⟨n, hn⟩ : ∃ v, none.Gives v := Call.gives_of_isOk (by decide +kernel)
  obtain ⟨w, -, -, hw⟩ := @Built.combine [([pin], p), ([key], k)] (.list 0 [p, k]) (.start [] .ofString)
    (by simp [Built.call, hp, hk]) rfl
  replace hw : Built [pin, key] w := hw
  obtain ⟨v, -, -, hv⟩ := @Built.combine [([pin, key], w), ([pin], p), ([none], n), ([other], o)]
    (.stream 0 [w, p, n, o]) (.start [] .ofString) (by simp [Built.call, hp, hn, ho, hw]) rfl
  have named : ∀ k ∈ calls, k.kind.isNamed = true := by decide
  exact ⟨v, hv, named, rfl, rfl, pairs_built hv named⟩

end KeyBundle
