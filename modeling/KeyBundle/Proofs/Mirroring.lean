/-
  KeyBundle.Proofs.Mirroring — building does to masks what it does to the things themselves.

  `Mirrors μ b b'` says that `b'` does to the mask of a context what `b` does to the context, with
  the mask `μ` of the result, and with the same fault where `b` fails. Every step of building
  mirrors itself on masked arguments: reading blobs (`mirrors_blobs`) and mappings
  (`mirrors_parameterSet`), making schemes, checking them, giving notice of them, and making
  bundles of them (`mirrors_encryptWithScheme`, `mirrors_decryptWithScheme`, `mirrors_initEncryption`).
-/

import KeyBundle.Build.Constructors
import KeyBundle.Proofs.Masking
import KeyBundle.Proofs.Steps

namespace KeyBundle

open Build

/-! ## Masks of arguments -/

/-- Bytes in any form give way to no bytes. -/
def maskItem (v : Value) : Value := if v.blob?.isSome then .bytes [] else v

/-- A sequence of blobs in any form, each of them masked. -/
def maskSequence : Value → Value
  | .list _ xs | .tuple xs => .tuple (xs.map maskItem)
  | .fixedSet xs => .fixedSet (xs.map maskItem)
  | .table id es => .table id (es.map fun e => (maskItem e.1, e.2))
  | .stream id xs => .stream id (xs.map maskItem)
  | .generator id name xs r => .generator id name (xs.map maskItem) r
  | v => v

/-- A mapping of names to sequences of blobs. -/
def maskMapping : Value → Value
  | .table _ es => .table 0 (es.map fun e => (e.1, maskSequence e.2))
  | v => v.masked

/-- A notice with masked arguments. A single one stays: it may be a mapping, and a template can name
    the values of a mapping. -/
def Notice.masked (n : Notice) : Notice :=
  match n.args with
  | [_] => n
  | args => { n with args := args.map .masked }

def Context.masked (c : Context) : Context := { c with notices := c.notices.map .masked }

/-! ## Mirroring -/

/-- The second step does to what is masked as the first does to what is not. -/
def Mirrors {α β : Type} (μ : α → β) (b : Build α) (b' : Build β) : Prop :=
  ∀ c, exec b' c.masked = ((exec b c).1.map μ, (exec b c).2.masked)

namespace Mirrors

variable {α β γ δ : Type} {μ : α → β} {ν : γ → δ}

theorem pure {a : α} {b : β} (h : b = μ a) : Mirrors μ (Pure.pure a) (Pure.pure b) := by
  intro c
  rw [h]
  rfl

theorem throw (f : Fault) : Mirrors μ (MonadExcept.throw f) (MonadExcept.throw f) := fun _ => rfl

theorem throw_bind (f : Fault) (k : δ → Build α) (k' : δ → Build β) :
    Mirrors μ (MonadExcept.throw f >>= k) (MonadExcept.throw f >>= k') := fun _ => rfl

theorem get : Mirrors Context.masked MonadState.get MonadState.get := fun _ => rfl

theorem update {f g : Context → Context} (h : ∀ c, g c.masked = (f c).masked) : Mirrors id (modify f) (modify g) := by
  intro c
  rw [exec_modify, exec_modify, h]
  rfl

theorem set (c : Context) : Mirrors id (MonadState.set c) (MonadState.set c.masked) := fun _ => rfl

theorem ofExcept {x : Except Fault α} {y : Except Fault β} (h : y = x.map μ) :
    Mirrors μ (MonadExcept.ofExcept x) (MonadExcept.ofExcept y) := by
  intro c
  rw [exec_ofExcept, exec_ofExcept, h]

theorem bind {b : Build α} {b' : Build β} {f : α → Build γ} {f' : β → Build δ} (hb : Mirrors μ b b')
    (hf : ∀ a, Mirrors ν (f a) (f' (μ a))) : Mirrors ν (b >>= f) (b' >>= f') := by
  intro c
  have h := hb c
  rcases hx : exec b c with ⟨e | a, t⟩
  · rw [hx] at h
    rw [exec_bind_error hx, exec_bind_error h]
    rfl
  · rw [hx] at h
    rw [exec_bind_ok hx, exec_bind_ok h]
    exact hf a t

theorem foldlM {κ : γ → δ} {f : α → γ → Build α} {g : β → δ → Build β}
    (h : ∀ a x, Mirrors μ (f a x) (g (μ a) (κ x))) (l : List γ) (a : α) :
    Mirrors μ (l.foldlM f a) ((l.map κ).foldlM g (μ a)) := by
  induction l generalizing a with
  | nil => exact pure rfl
  | cons x l ih =>
    rw [List.map_cons, List.foldlM_cons, List.foldlM_cons]
    exact bind (h a x) ih

theorem mapM {f : γ → Build α} {g : γ → Build β} (h : ∀ x, Mirrors μ (f x) (g x)) (l : List γ) :
    Mirrors (List.map μ) (l.mapM f) (l.mapM g) := by
  induction l with
  | nil => exact pure rfl
  | cons x l ih =>
    rw [List.mapM_cons, List.mapM_cons]
    exact bind (h x) fun a => bind ih fun as => pure rfl

theorem refused {x : Except Fault α} {y : Except Fault β} (report : Rejection → Fault) (h : y = x.map μ) :
    Mirrors μ (Build.refused report x) (Build.refused report y) := by
  subst h
  cases x with
  | error r => exact throw _
  | ok a => exact pure rfl

end Mirrors

/-! ## Reading blobs -/

theorem maskItem_text (s : String) : maskItem (.text s) = .text s := rfl

theorem maskItem_int (n : Int) : maskItem (.int n) = .int n := rfl

theorem blob_maskItem (field : String) (v : Value) :
    blob field (maskItem v) = (blob field v).map fun _ => [] := by
  cases v <;> rfl

theorem itemsOf?_maskSequence (v : Value) : itemsOf? (maskSequence v) = (itemsOf? v).map (List.map maskItem) := by
  cases v <;> simp [maskSequence, itemsOf?, Function.comp_def, maskItem_text, maskItem_int]

theorem mirrors_setDrawn (key : Nat) {m n : Nat} (h : n = m) : Mirrors id (setDrawn key m) (setDrawn key n) := by
  subst h
  exact .update fun _ => rfl

theorem mirrors_peekItems? (v : Value) :
    Mirrors (Option.map (List.map maskItem)) (peekItems? v) (peekItems? (maskSequence v)) := by
  cases v with
  | stream key xs | generator key _ xs => exact .bind .get fun c => .pure (congrArg some List.map_drop.symm)
  | _ => exact .pure (itemsOf?_maskSequence _)

theorem mirrors_ending? (v : Value) : Mirrors id (ending? v) (ending? (maskSequence v)) := by
  cases v with
  | generator key name xs r =>
    refine .bind .get fun c => .pure ?_
    rw [List.length_map]
    rfl
  | _ => exact .pure rfl

theorem mirrors_takeItems? (v : Value) :
    Mirrors (Option.map (Except.map (List.map maskItem))) (takeItems? v) (takeItems? (maskSequence v)) := by
  refine .bind (mirrors_peekItems? v) fun items => .bind (mirrors_ending? v) fun fault? => ?_
  have outcome : itemsOr (items.map (List.map maskItem)) fault? =
      (itemsOr items fault?).map (Except.map (List.map maskItem)) := by
    cases fault? <;> cases items <;> rfl
  cases v with
  | stream key xs | generator key _ xs => exact .bind (mirrors_setDrawn key (by simp)) fun _ => .pure outcome
  | _ => exact .pure outcome

theorem isSingleValue_maskSequence (v : Value) : isSingleValue (maskSequence v) = isSingleValue v := by
  cases v <;> rfl

theorem mirrors_sequenceBlobs (report : Rejection → Fault) (field : String) (v : Value) :
    Mirrors maskBlobs (sequenceBlobs report field v) (sequenceBlobs report field (maskSequence v)) := by
  unfold sequenceBlobs
  rw [isSingleValue_maskSequence]
  split
  · exact .throw_bind _ _ _
  · refine .bind (mirrors_takeItems? v) fun items => .bind (.refused (μ := List.map maskItem) report ?_) fun xs =>
      .refused report (mapM_map (blob_maskItem field) xs)
    rcases items with _ | _ | xs <;> rfl

theorem blobs_of_ne_none (report : Rejection → Fault) (field : String) {v : Value} (h : v ≠ .none) :
    blobs report field v = sequenceBlobs report field v := by
  cases v with
  | none => exact absurd rfl h
  | _ => rfl

theorem mirrors_blobs (report : Rejection → Fault) (field : String) (v : Value) :
    Mirrors maskBlobs (blobs report field v) (blobs report field (maskSequence v)) := by
  by_cases h : v = .none
  · subst h
    exact .pure rfl
  · have hm : maskSequence v ≠ .none := by
      cases v <;> first | exact h | simp [maskSequence]
    rw [blobs_of_ne_none report field h, blobs_of_ne_none report field hm]
    exact mirrors_sequenceBlobs report field v

/-! ## Reading mappings -/

theorem truthy_maskMapping (v : Value) : (maskMapping v).truthy = v.truthy := by
  cases v <;> simp [maskMapping, Value.masked, Value.truthy]

theorem maskSequence_ofBlobs (bs : List Blob) : maskSequence (.ofBlobs bs) = .ofBlobs (maskBlobs bs) := by
  have items : (bs.map Value.bytes).map maskItem = (maskBlobs bs).map Value.bytes := by
    rw [maskBlobs, List.map_map, List.map_map]
    rfl
  exact congrArg Value.tuple items

theorem entriesOf_maskMapping (v : Value) :
    entriesOf (maskMapping v) = (entriesOf v).map (List.map fun e => (e.1, maskSequence e.2)) := by
  unfold entriesOf
  rw [truthy_maskMapping]
  split
  · cases v with
    | parameters p =>
      simp [maskMapping, Value.masked, ParameterSet.masked, Entries.masked, Except.map, maskSequence_ofBlobs]
    | scheme s => simp [maskMapping, Value.masked, Except.map, Value.noAttribute, Value.attributeType, Value.typeName]
    | _ => rfl
  · rfl

theorem mirrors_addEntry (p : ParameterSet) (e : Value × Value) :
    Mirrors ParameterSet.masked (addEntry p e) (addEntry p.masked (e.1, maskSequence e.2)) := by
  refine .bind (.refused (μ := id) badArgument ?_) fun n => .bind (mirrors_blobs _ _ _) fun bs => .pure ?_
  · cases name e.1 <;> rfl
  · exact (ParameterSet.masked_put p n.val n.property bs).symm

theorem mirrors_parameterSet (v : Value) :
    Mirrors ParameterSet.masked (parameterSet v) (parameterSet (maskMapping v)) :=
  .bind (.ofExcept (entriesOf_maskMapping v)) fun es => .foldlM mirrors_addEntry es .empty

theorem mirrors_asParameterSet (v : Value) :
    Mirrors ParameterSet.masked (asParameterSet v) (asParameterSet (maskMapping v)) := by
  by_cases h : ∃ p, v = .parameters p
  · obtain ⟨p, rfl⟩ := h
    exact .pure rfl
  · have same (w : Value) (hw : ¬∃ p, w = .parameters p) : asParameterSet w = parameterSet w := by
      cases w <;> first | rfl | exact absurd ⟨_, rfl⟩ hw
    have hm : ¬∃ p, maskMapping v = .parameters p := by
      cases v <;> first | exact absurd ⟨_, rfl⟩ h | simp [maskMapping, Value.masked]
    rw [same v h, same _ hm]
    exact mirrors_parameterSet v

/-! ## Making schemes -/

theorem mirrors_jweRecipients (v : Value) :
    Mirrors Scheme.masked (jweRecipients v) (jweRecipients (maskSequence v)) :=
  .bind (mirrors_blobs _ _ v) fun _ => .pure rfl

theorem mirrors_pkcs7Recipients (v : Value) :
    Mirrors Scheme.masked (pkcs7Recipients v) (pkcs7Recipients (maskSequence v)) :=
  .bind (mirrors_blobs _ _ v) fun _ => .pure rfl

theorem mirrors_x509Certificates (v : Value) :
    Mirrors Scheme.masked (x509Certificates v) (x509Certificates (maskSequence v)) :=
  .bind (mirrors_blobs _ _ v) fun _ => .pure rfl

theorem keyring_maskItem (v : Value) : keyring (maskItem v) = (keyring v).map fun _ => [] := by
  cases v <;> rfl

theorem mirrors_gpgRecipients (v w : Value) :
    Mirrors Scheme.masked (gpgRecipients v w) (gpgRecipients (maskSequence v) (maskItem w)) :=
  .bind (mirrors_blobs _ _ v) fun _ => .bind (.refused badArgument (keyring_maskItem w)) fun _ => .pure rfl

theorem mirrors_twoFields (first second : String) (v w : Value) :
    Mirrors (Prod.map maskBlobs maskBlobs) (twoFields first second v w)
      (twoFields first second (maskSequence v) (maskSequence w)) :=
  .bind (mirrors_blobs _ _ v) fun _ => .bind (mirrors_blobs _ _ w) fun _ => .pure rfl

theorem mirrors_pkcs11Recipients (v w : Value) :
    Mirrors Scheme.masked (pkcs11Recipients v w) (pkcs11Recipients (maskSequence v) (maskSequence w)) :=
  .bind (mirrors_twoFields _ _ v w) fun _ => .pure rfl

theorem mirrors_privateKeys (v w : Value) :
    Mirrors Scheme.masked (privateKeys v w) (privateKeys (maskSequence v) (maskSequence w)) :=
  .bind (mirrors_twoFields _ _ v w) fun _ => .pure rfl

theorem mirrors_gpgPrivateKeys (v w : Value) :
    Mirrors Scheme.masked (gpgPrivateKeys v w) (gpgPrivateKeys (maskSequence v) (maskSequence w)) :=
  .bind (mirrors_twoFields _ _ v w) fun _ => .pure rfl

theorem mirrors_pkcs11Modules (v w : Value) :
    Mirrors Scheme.masked (pkcs11Modules v w) (pkcs11Modules (maskSequence v) (maskSequence w)) :=
  .bind (mirrors_twoFields _ _ v w) fun _ => .pure rfl

theorem mirrors_customScheme (kind direction values : Value) :
    Mirrors Scheme.masked (customScheme kind direction values) (customScheme kind direction (maskMapping values)) := by
  cases kind with
  | text k =>
    simp only [customScheme]
    split
    · exact .throw_bind _ _ _
    · cases direction with
      | direction d => exact .bind (mirrors_asParameterSet values) fun _ => .pure rfl
      | _ => exact .throw _
  | _ => exact .throw _

/-! ## Checks and notices -/

theorem mirrors_notify {m n : Notice} (h : n = m.masked) : Mirrors id (notify m) (notify n) := by
  subst h
  exact .update fun c => by simp [Context.masked]

theorem mirrors_newId : Mirrors id newId newId := .bind .get fun _ => .bind (.set _) fun _ => .pure rfl

theorem mirrors_sharedSettings : Mirrors id sharedSettings sharedSettings := by
  refine .bind .get fun c => ?_
  simp only [Context.masked]
  split
  · exact .pure rfl
  · split
    · exact .throw _
    · exact .bind mirrors_newId fun _ => .bind (.update fun _ => rfl) fun _ => .pure rfl

theorem mirrors_moduleLimit (given : Value) : Mirrors id (moduleLimit given) (moduleLimit given) := by
  cases given with
  | none => exact .bind mirrors_sharedSettings fun _ => .pure rfl
  | number n =>
    simp only [moduleLimit]
    split
    · exact .throw _
    · exact .pure rfl
  | _ => exact .throw _

theorem requirePaired_masked (first second : String) (xs ys : List Blob) :
    requirePaired first second (maskBlobs xs) (maskBlobs ys) = requirePaired first second xs ys := by
  unfold requirePaired
  rw [length_maskBlobs, length_maskBlobs]

theorem mirrors_requirePaired (first second : String) (xs ys : List Blob) :
    Mirrors id (requirePaired first second xs ys) (requirePaired first second (maskBlobs xs) (maskBlobs ys)) := by
  rw [requirePaired_masked]
  exact .refused badArgument (by cases checkPaired first second xs.length ys.length <;> rfl)

theorem mirrors_checkEncrypting (s : Scheme) (given : Value) :
    Mirrors id (checkEncrypting s given) (checkEncrypting s.masked given) := by
  cases s with
  | pkcs11Recipients modules pins =>
    refine .bind (mirrors_requirePaired _ _ modules pins) fun _ => .bind (mirrors_moduleLimit given) fun limit => ?_
    simp only [isEmpty_maskBlobs, length_maskBlobs, id]
    split
    · exact .throw_bind _ _ _
    · split
      · exact .throw _
      · exact .pure rfl
  | _ => exact .pure rfl

theorem mirrors_warnUnpaired (s : Scheme) (first second : String) (xs ys : List Blob) :
    Mirrors id (warnUnpaired s first second xs ys) (warnUnpaired s.masked first second (maskBlobs xs) (maskBlobs ys)) := by
  unfold warnUnpaired
  rw [length_maskBlobs, length_maskBlobs]
  split
  · exact mirrors_notify (by simp [Notice.masked, Value.masked, Value.int])
  · exact .pure rfl

theorem mirrors_checkDecrypting (s : Scheme) : Mirrors id (checkDecrypting s) (checkDecrypting s.masked) := by
  cases s with
  | privateKeys privkeys passwords => exact mirrors_requirePaired _ _ privkeys passwords
  | gpgPrivateKeys privkeys passwords => exact mirrors_warnUnpaired (.gpgPrivateKeys privkeys passwords) _ _ _ _
  | pkcs11Modules modules pins => exact mirrors_warnUnpaired (.pkcs11Modules modules pins) _ _ _ _
  | _ => exact .pure rfl

/-! ## Making bundles -/

theorem masked_builtNotice (s : Scheme) (p : ParameterSet) :
    builtNotice s.masked p.masked = (builtNotice s p).masked := by
  simp [builtNotice, Notice.masked, Value.masked]

theorem mirrors_schemeFor (d : Direction) (v : Value) :
    Mirrors Scheme.masked (schemeFor d v) (schemeFor d v.masked) := by
  cases v with
  | scheme s =>
    simp only [schemeFor, Value.masked, Scheme.direction_masked, Scheme.className_masked]
    split
    · exact .pure rfl
    · exact .throw _
  | _ => exact .throw _

theorem mirrors_encryptWithScheme (v given : Value) :
    Mirrors CryptoConfig.masked (encryptWithScheme v given) (encryptWithScheme v.masked given) := by
  refine .bind (mirrors_schemeFor .encrypt v) fun s => .bind (mirrors_checkEncrypting s given) fun _ => ?_
  have hc := CryptoConfig.masked_encrypting s
  exact .bind (mirrors_notify (hc ▸ masked_builtNotice s _)) fun _ => .pure hc.symm

theorem mirrors_decryptWithScheme (v : Value) :
    Mirrors CryptoConfig.masked (decryptWithScheme v) (decryptWithScheme v.masked) := by
  refine .bind (mirrors_schemeFor .decrypt v) fun s => .bind (mirrors_checkDecrypting s) fun _ => ?_
  have hc := CryptoConfig.masked_decrypting s
  exact .bind (mirrors_notify (hc ▸ masked_builtNotice s _)) fun _ => .pure hc.symm

theorem mirrors_rawScheme (d : Direction) (v : Value) :
    Mirrors Scheme.masked (rawScheme d v) (rawScheme d (maskMapping v)) := mirrors_customScheme _ _ v

theorem mirrors_initEncryption (v w : Value) :
    Mirrors CryptoConfig.masked (initEncryption v w) (initEncryption (maskMapping v) (maskMapping w)) := by
  refine .bind (mirrors_rawScheme .encrypt v) fun s => .bind (mirrors_encryptWithScheme (.scheme s) .none) fun c => ?_
  simp only [truthy_maskMapping]
  split
  · refine .bind (mirrors_rawScheme .decrypt w) fun t => .pure ?_
    simp [CryptoConfig.masked, EncryptConfig.masked_withDecryptConfig, DecryptConfig.masked_ofSchemes]
  · exact .pure rfl

theorem mirrors_initDecryption (v : Value) :
    Mirrors CryptoConfig.masked (initDecryption v) (initDecryption (maskMapping v)) :=
  .bind (mirrors_rawScheme .decrypt v) fun s => mirrors_decryptWithScheme (.scheme s)

end KeyBundle
