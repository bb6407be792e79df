/-
  KeyBundle.Proofs.Embedding — a bundle embeds all that it can decrypt with.

  A call gives the bundle of a scheme, which has the same on its decrypting side and embedded, or it
  gives one with something embedded and an empty decrypting side (`Call.forms`). Merging appends
  under each name on both (`Embeds.merged`). So in what is built of calls, under every name, the
  blobs of the decrypting side are a subsequence of the embedded ones, and its names are embedded
  (`embeds_built`). The two are equal unless a call was given parameters to embed alone.
-/

import KeyBundle.Proofs.Calls

namespace KeyBundle

open Build

/-- All of the decrypting side is embedded in the encrypting side, in the same order. -/
structure CryptoConfig.Embeds (b : CryptoConfig) : Prop where
  blobs : ∀ n, (b.decryptConfig.parameters.blobs n).Sublist (b.encryptConfig.decryptConfig.parameters.blobs n)
  names : ∀ n ∈ b.decryptConfig.parameters.names, n ∈ b.encryptConfig.decryptConfig.parameters.names

namespace CryptoConfig.Embeds

theorem of_eq {b : CryptoConfig} (h : b.decryptConfig = b.encryptConfig.decryptConfig) : b.Embeds where
  blobs n := by rw [h]
  names n hn := h ▸ hn

theorem of_empty {b : CryptoConfig} (h : b.decryptConfig = .empty) : b.Embeds where
  blobs n := by
    rw [h]
    exact List.nil_sublist _
  names n hn := by
    rw [h] at hn
    cases hn

theorem merged {a b : CryptoConfig} (ha : a.Embeds) (hb : b.Embeds) : (a.merged b).Embeds where
  blobs n := by
    simp only [CryptoConfig.merged, EncryptConfig.merged, DecryptConfig.merged, ParameterSet.blobs_merged]
    exact (ha.blobs n).append (hb.blobs n)
  names n hn := by
    simp only [CryptoConfig.merged, EncryptConfig.merged, DecryptConfig.merged, ParameterSet.mem_names_merged] at hn ⊢
    exact hn.imp (ha.names n) (hb.names n)

end CryptoConfig.Embeds

/-! ## Calls -/

/-- A bundle for encryption with material embedded that is not on its decrypting side. -/
def CryptoConfig.embedding (s : Scheme) (d : DecryptConfig) : CryptoConfig :=
  ⟨(encrypting s).encryptConfig.withDecryptConfig d, .empty⟩

theorem CryptoConfig.decryptConfig_ofScheme (s : Scheme) :
    (ofScheme s).decryptConfig = (ofScheme s).encryptConfig.decryptConfig := by
  unfold ofScheme
  cases s.direction <;> rfl

theorem of_exec_initEncryption {parameters more : Value} {c c' : Context} {b : CryptoConfig}
    (h : exec (initEncryption parameters more) c = (.ok b, c')) :
    (∃ s, b = .ofScheme s) ∨ (∃ s d, b = .embedding s d) ∧ more.truthy = true := by
  obtain ⟨s, c₁, -, hmade⟩ := of_exec_bind h
  obtain ⟨b₀, c₂, hb, hmore⟩ := of_exec_bind hmade
  by_cases ht : more.truthy = true
  · rw [if_pos ht] at hmore
    obtain ⟨t, c₃, -, hd⟩ := of_exec_bind hmore
    cases hd
    obtain ⟨_, -, -, rfl, -⟩ := of_exec_forSide hb
    exact .inr ⟨⟨_, _, rfl⟩, ht⟩
  · rw [if_neg ht] at hmore
    cases hmore
    obtain ⟨t, -, hbt, -⟩ := of_exec_encryptWithScheme hb
    exact .inl ⟨t, hbt⟩

namespace Call

/-- The parameters that a call has for embedding alone. -/
def embedsAlone (k : Call) : Bool :=
  match k.kind with
  | .initEncryption => (k.arg 1).truthy
  | _ => false

/-- Calls give the bundles of schemes, except where there is more to embed. -/
theorem forms {k : Call} {b : CryptoConfig} (h : k.Gives (.cryptoConfig b)) :
    (∃ s, b = .ofScheme s) ∨ (∃ s d, b = .embedding s d) ∧ k.embedsAlone = true := by
  obtain ⟨kind, args, context⟩ := k
  obtain ⟨c, h⟩ := h
  cases kind
  case encryptWithJwe | encryptWithPkcs7 | encryptWithGpg | encryptWithPkcs11 =>
    obtain ⟨s, _, _, -, hb, -⟩ := of_exec_make of_exec_encryptWithScheme h
    exact .inl ⟨s, Value.cryptoConfig.inj hb⟩
  case decryptWithPrivateKeys | decryptWithX509s | decryptWithGpgPrivateKeys | decryptWithPkcs11 | initDecryption =>
    obtain ⟨s, _, _, -, hb, -⟩ := of_exec_make of_exec_decryptWithScheme h
    exact .inl ⟨s, Value.cryptoConfig.inj hb⟩
  case encryptWithScheme =>
    obtain ⟨_, hb, hx⟩ := of_exec_bundle h
    cases hb
    obtain ⟨s, -, hs, -⟩ := of_exec_encryptWithScheme hx
    exact .inl ⟨s, hs⟩
  case decryptWithScheme =>
    obtain ⟨_, hb, hx⟩ := of_exec_bundle h
    cases hb
    obtain ⟨s, -, hs, -⟩ := of_exec_decryptWithScheme hx
    exact .inl ⟨s, hs⟩
  case initEncryption =>
    obtain ⟨_, hb, hx⟩ := of_exec_bundle h
    cases hb
    exact of_exec_initEncryption hx

theorem embeds_of_gives {k : Call} {b : CryptoConfig} (h : k.Gives (.cryptoConfig b)) : b.Embeds := by
  obtain ⟨s, rfl⟩ | ⟨⟨s, d, rfl⟩, -⟩ := forms h
  · exact .of_eq (CryptoConfig.decryptConfig_ofScheme s)
  · exact .of_empty rfl

/-- Nothing is embedded that is not on the decrypting side unless it was given for that. -/
theorem decryptConfig_of_gives {k : Call} {b : CryptoConfig} (h : k.Gives (.cryptoConfig b))
    (ha : k.embedsAlone = false) : b.decryptConfig = b.encryptConfig.decryptConfig := by
  obtain ⟨s, rfl⟩ | ⟨-, he⟩ := forms h
  · exact CryptoConfig.decryptConfig_ofScheme s
  · rw [ha] at he
    cases he

end Call

/-- A bundle that is built of calls embeds under every name all that it can decrypt with, in the same
    order; and it embeds just that when no call was given parameters to embed alone. -/
theorem embeds_built {calls : List Call} {v : Value} (h : Built calls v) :
    ∃ b, v = .cryptoConfig b ∧ b.Embeds ∧
      ((∀ k ∈ calls, k.embedsAlone = false) → b.decryptConfig = b.encryptConfig.decryptConfig) :=
  h.induct
    (P := fun ks b => b.Embeds ∧ ((∀ k ∈ ks, k.embedsAlone = false) → b.decryptConfig = b.encryptConfig.decryptConfig))
    ⟨.of_eq rfl, fun _ => rfl⟩
    (fun k b hg => ⟨Call.embeds_of_gives hg, fun hk => Call.decryptConfig_of_gives hg (hk k List.mem_cons_self)⟩)
    (fun ks ls a b ha hb => by
      refine ⟨ha.1.merged hb.1, fun hk => ?_⟩
      obtain ⟨hks, hls⟩ := List.forall_mem_append.mp hk
      simp only [CryptoConfig.merged, EncryptConfig.merged, ha.2 hks, hb.2 hls])

/-- A recipient and a private key combined, and these after parameters with more of them to embed alone. -/
theorem embeds_built_alone :
    let call (kind : Assembly.Constructor) (v w : Value) : Call := ⟨kind, [(0, v), (1, w)], .start [] .ofString⟩
    let table (id : Nat) (name : String) (b : Blob) : Value := .table id [(.text name, .tuple [.bytes b])]
    let key : Call := call .decryptWithPrivateKeys (.tuple [.bytes [1]]) (.tuple [.bytes []])
    let recipient : Call := call .encryptWithJwe (.list 0 [.bytes [2]]) .none
    let alone : Call := call .initEncryption (table 1 "pubkeys" [3]) (table 2 "privkeys" [4])
    let calls := [key, recipient]
    ∃ v w, (Built calls v ∧ (∀ k ∈ calls, k.embedsAlone = false) ∧
        ∃ b, v = .cryptoConfig b ∧ b.Embeds ∧ b.decryptConfig = b.encryptConfig.decryptConfig) ∧
      Built (alone :: calls) w ∧ ∃ b, w = .cryptoConfig b ∧ b.Embeds := by
  intro call table key recipient alone calls
  obtain ⟨k, hk⟩ : ∃ v, key.Gives v := Call.gives_of_isOk (by decide +kernel)
  obtain ⟨r, hr⟩ : ∃ v, recipient.Gives v := Call.gives_of_isOk (by decide +kernel)
  obtain ⟨a, ha⟩ : ∃ v, alone.Gives v := Call.gives_of_isOk (by decide +kernel)
  obtain ⟨v, -, -, hv⟩ := @Built.combine [([key], k), ([recipient], r)] (.list 3 [k, r]) (.start [] .ofString)
    (by simp [Built.call, hk, hr]) rfl
  replace hv : Built calls v := hv
  obtain ⟨w, -, -, hw⟩ := @Built.combine [([alone], a), (calls, v)] (.tuple [a, v]) (.start [] .ofString)
    (by simp [Built.call, ha, hv]) rfl
  have none : ∀ k ∈ calls, k.embedsAlone = false := by decide
  obtain ⟨b, hb, embeds, same⟩ := embeds_built hv
  obtain ⟨d, hd, more, -⟩ := embeds_built hw
  exact ⟨v, w, ⟨hv, none, b, hb, embeds, same none⟩, hw, d, hd, more⟩

end KeyBundle
