/-
  KeyBundle.Proofs.Lightness — what nearly all steps of building leave as it is.

  Reading values takes items of streams, and what is new takes an identity that is free. A step that does
  nothing else is light (`Light`): the environment, the shared settings and the notices are the same after
  it, also where it fails. Light steps one after the other are light. So is everything that is done to values:
  reading them, merging them, copying them, and writing them out.
-/

import KeyBundle.Proofs.Assembly
import KeyBundle.Session.Run

namespace KeyBundle

open Build

/-- The second context may come after the first when streams have been read and identities taken in between. -/
def Context.Onward (c d : Context) : Prop := ∃ drawn fresh, d = { c with drawn, fresh }

/-- A step after which nothing else has changed. -/
def Light {α : Type} (b : Build α) : Prop := ∀ c : Context, Keeps c.Onward b

theorem Context.Onward.refl (c : Context) : c.Onward c := ⟨c.drawn, c.fresh, rfl⟩

namespace Light

variable {α β : Type}

theorem onward {b : Build α} (h : Light b) (c : Context) : c.Onward (exec b c).2 := h c c (.refl c)

theorem pure (a : α) : Light (Pure.pure a) := fun _ => .pure a

theorem throw (f : Fault) : Light (MonadExcept.throw f : Build α) := fun _ => .throw f

theorem throw_bind (f : Fault) (g : α → Build β) : Light (MonadExcept.throw f >>= g) := fun _ => .throw_bind f g

theorem get : Light (MonadState.get : Build Context) := fun _ => .get

theorem ofExcept (r : Except Fault α) : Light (MonadExcept.ofExcept r) := fun _ => .ofExcept r

theorem bind {b : Build α} {f : α → Build β} (hb : Light b) (hf : ∀ a, Light (f a)) : Light (b >>= f) :=
  fun c => .bind (hb c) fun a => hf a c

theorem mapM {f : α → Build β} (hf : ∀ a, Light (f a)) (l : List α) : Light (l.mapM f) :=
  fun c => .mapM (fun a => hf a c) l

theorem forM {f : α → Build PUnit} (hf : ∀ a, Light (f a)) (l : List α) : Light (l.forM f) :=
  fun c => .forM (fun a => hf a c) l

theorem foldlM {f : β → α → Build β} (hf : ∀ b a, Light (f b a)) : ∀ (l : List α) (b : β), Light (l.foldlM f b)
  | [], b => pure b
  | a :: l, b => bind (hf b a) fun b => foldlM hf l b

/-! ## Streams and identities -/

theorem newId : Light newId := by
  rintro c _ ⟨drawn, fresh, rfl⟩
  exact ⟨drawn, fresh + 1, rfl⟩

theorem setDrawn (id n : Nat) : Light (setDrawn id n) := by
  rintro c _ ⟨drawn, fresh, rfl⟩
  exact ⟨_, fresh, rfl⟩

theorem peekItems? (v : Value) : Light (peekItems? v) := by
  unfold Build.peekItems?
  split
  · exact .bind .get fun _ => .pure _
  · exact .bind .get fun _ => .pure _
  · exact .pure _

theorem ending? (v : Value) : Light (ending? v) := by
  unfold Build.ending?
  split
  · exact .bind .get fun _ => .pure _
  · exact .pure _

theorem takeItems? (v : Value) : Light (takeItems? v) := by
  refine .bind (.peekItems? v) fun _ => .bind (.ending? v) fun _ => ?_
  dsimp only
  split
  · exact .bind (.setDrawn _ _) fun _ => .pure _
  · exact .bind (.setDrawn _ _) fun _ => .pure _
  · exact .pure _

theorem endWith (fault? : Option Raised) : Light (endWith fault?) := by
  cases fault? with
  | none => exact .pure _
  | some r => exact .throw _

theorem takeItems (v : Value) : Light (takeItems v) := by
  refine .bind (.takeItems? v) fun _ => ?_
  split
  · exact .pure _
  · exact .throw _
  · exact .throw _

end Light

/-! ## Blobs -/

theorem light_refused {α : Type} (report : Rejection → Fault) (r : Except Fault α) : Light (refused report r) :=
  .ofExcept _

theorem light_blobs (report : Rejection → Fault) (name : String) (v : Value) : Light (blobs report name v) := by
  unfold blobs
  split
  · exact .pure _
  · unfold sequenceBlobs
    split
    · exact .throw_bind _ _
    · exact .bind (.takeItems? v) fun _ => .bind (light_refused _ _) fun _ => light_refused _ _

theorem light_addEntry (p : ParameterSet) (e : Value × Value) : Light (addEntry p e) :=
  .bind (light_refused _ _) fun _ => .bind (light_blobs _ _ _) fun _ => .pure _

theorem light_parameterSet (v : Value) : Light (parameterSet v) :=
  .bind (.ofExcept _) fun es => .foldlM light_addEntry es _

theorem light_asParameterSet (v : Value) : Light (asParameterSet v) := by
  unfold asParameterSet
  split
  · exact .pure _
  · exact light_parameterSet v

/-! ## Schemes -/

theorem light_field (name : String) (v : Value) : Light (field name v) := light_blobs badArgument name v

theorem light_oneField (f : List Blob → Scheme) (name : String) (v : Value) : Light (do return f (← field name v)) :=
  .bind (light_field name v) fun _ => .pure _

theorem light_twoFields (f : List Blob → List Blob → Scheme) (first second : String) (v w : Value) :
    Light (do let (xs, ys) ← twoFields first second v w; return f xs ys) :=
  .bind (.bind (light_field first v) fun _ => .bind (light_field second w) fun _ => .pure _) fun _ => .pure _

theorem light_gpgRecipients (v w : Value) : Light (gpgRecipients v w) :=
  .bind (light_field _ v) fun _ => .bind (light_refused _ _) fun _ => .pure _

theorem light_customScheme (kind direction values : Value) : Light (customScheme kind direction values) := by
  cases kind with
  | text k =>
    simp only [customScheme]
    split
    · exact .throw_bind _ _
    · cases direction with
      | direction d => exact .bind (light_asParameterSet values) fun _ => .pure _
      | _ => exact .throw _
  | _ => exact .throw _

theorem light_customSchemeOf (kind direction values : Value) : Light (customSchemeOf kind direction values) :=
  .bind (light_parameterSet values) fun _ => light_customScheme _ _ _

theorem light_schemeFor (d : Direction) (v : Value) : Light (schemeFor d v) := by
  unfold schemeFor
  split
  · split
    · exact .pure _
    · exact .throw _
  · exact .throw _

/-! ## Bundles -/

theorem light_decryptConfig (parameters schemes : Value) : Light (decryptConfig parameters schemes) :=
  .bind (light_asParameterSet _) fun _ => .bind (.takeItems _) fun _ => .pure _

theorem light_encryptConfig (parameters embedded schemes : Value) : Light (encryptConfig parameters embedded schemes) :=
  .bind (light_asParameterSet _) fun _ => .bind (.takeItems _) fun _ => .pure _

theorem light_schemesFor (d : Direction) (vs : List Value) : Light (schemesFor d vs) := by
  unfold schemesFor
  split
  · exact .pure _
  · exact .throw _

theorem light_decryptFromSchemes (vs : List Value) : Light (decryptFromSchemes vs) :=
  .bind (light_schemesFor _ vs) fun _ => .pure _

theorem light_encryptFromSchemes (vs : List Value) (embedded : Value) : Light (encryptFromSchemes vs embedded) :=
  .bind (light_schemesFor _ vs) fun _ => .pure _

theorem light_mergeParameters (p : ParameterSet) (other : Value) : Light (mergeParameters p other) := by
  unfold mergeParameters
  split
  · exact .pure _
  · exact .bind (light_asParameterSet other) fun _ => .pure _

theorem light_mergeSide (p : ParameterSet) (schemes : List Value) (other : Value) : Light (mergeSide p schemes other) := by
  unfold mergeSide
  split
  · exact .pure _
  · split <;> exact .throw _

theorem light_mergeDecrypt (p : ParameterSet) (schemes : List Value) (other : Value) :
    Light (mergeDecrypt p schemes other) :=
  .bind (light_mergeSide p schemes other) fun _ => .pure _

theorem light_embeddedIn (other : Value) : Light (embeddedIn other) := by
  unfold embeddedIn
  split
  · exact .pure _
  · exact .throw _

theorem light_merged (self other : Value) : Light (merged self other) := by
  rw [merged.eq_def]
  split
  · exact .bind (light_mergeParameters _ _) fun _ => .pure _
  · split
    · exact .pure _
    · exact .pure _
    · exact light_mergeDecrypt _ _ _
  · split
    · exact .pure _
    · exact light_mergeDecrypt _ _ _
  · split
    · exact .pure _
    · exact .pure _
    · refine .bind (light_mergeSide _ _ _) fun _ => .bind (light_embeddedIn _) fun d => ?_
      split
      · exact .pure _
      · exact .bind (light_mergeDecrypt _ _ _) fun _ => .pure _
  · split
    · exact .pure _
    · refine .bind (light_mergeSide _ _ _) fun _ => ?_
      dsimp only
      split
      · exact .throw_bind _ _
      · exact .bind (light_embeddedIn _) fun d => .bind (light_merged _ d) fun _ => .pure _
  · exact .throw _
termination_by sizeOf self

theorem light_withDecryptConfig (self more : Value) : Light (withDecryptConfig self more) := by
  unfold withDecryptConfig
  split
  · exact .pure _
  · exact .pure _
  · exact .pure _
  · exact .bind (light_merged _ _) fun _ => .pure _
  · dsimp only
    split
    · exact .throw_bind _ _
    · exact .bind (light_merged _ _) fun _ => .pure _
  · exact .throw _

theorem light_addBundle (sides : Value × Value) (bundle : Value) : Light (addBundle sides bundle) := by
  unfold addBundle
  split
  · exact .throw _
  · exact .bind (light_merged _ _) fun _ => .bind (light_merged _ _) fun _ => .pure _

theorem light_addBundles {seen : Nat → Build Unit} (hs : ∀ n, Light (seen n)) :
    ∀ (bundles : List Value) (n : Nat) (sides : Value × Value), Light (addBundles seen n sides bundles)
  | [], n, _ => .bind (hs (n + 1)) fun _ => .pure _
  | b :: bs, n, sides => .bind (hs (n + 1)) fun _ => .bind (light_addBundle sides b) fun _ => light_addBundles hs bs _ _

theorem light_combine (bundles : Value) : Light (combine bundles) := by
  refine .bind (.peekItems? bundles) fun items => ?_
  split
  · refine .bind (.ending? bundles) fun _ => ?_
    dsimp only
    split
    · exact .bind (light_addBundles (fun n => .setDrawn _ n) _ _ _) fun _ => .bind (.endWith _) fun _ => .pure _
    · exact .bind (light_addBundles (fun n => .setDrawn _ n) _ _ _) fun _ => .bind (.endWith _) fun _ => .pure _
    · exact .bind (light_addBundles (fun _ => .pure _) _ _ _) fun _ => .bind (.endWith _) fun _ => .pure _
  · exact .throw _

/-! ## Settings -/

theorem light_settings (l c : Value) : Light (settings l c) :=
  .bind (.ofExcept _) fun _ => .bind .newId fun _ => .pure _

/-- Reading settings shares nothing. -/
theorem light_loadSettings (pre : Value) : Light (loadSettings pre) := by
  refine .bind (.ofExcept _) fun _ => .bind .get fun _ => ?_
  split
  · exact .throw _
  · exact .bind .newId fun _ => .pure _

namespace Session

/-! ## Sessions -/

theorem light_checkHashable (v : Value) : Light (checkHashable v) := .bind (.ofExcept _) fun _ => .pure _

theorem light_asTable (p : ParameterSet) : Light (asTable p) :=
  .bind (.mapM (fun _ => .bind .newId fun _ => .pure _) _) fun _ => .bind .newId fun _ => .pure _

theorem light_apply (v : Value) (name : String) (args : List Value) : Light (apply v name args) := by
  unfold apply
  split
  · exact light_merged _ _
  · exact light_withDecryptConfig _ _
  · exact light_asTable _
  · exact .pure _
  · exact .pure _
  · split
    · exact .bind .newId fun _ => .pure _
    · exact notCalled _ _
  · exact notCalled _ _
where
  notCalled (v : Value) (name : String) : Light (apply.notCalled v name) := .bind (.ofExcept _) fun _ => .throw _

theorem light_findAhead (v : Value) (id : Nat) (xs : List Value) (key : Value) : Light (findAhead v id xs key) := by
  refine .bind .get fun _ => .bind (.ending? v) fun _ => ?_
  split
  · exact .bind (.setDrawn _ _) fun _ => .pure _
  · exact .bind (.setDrawn _ _) fun _ => .bind (.endWith _) fun _ => .pure _

theorem light_findIn (v key : Value) : Light (findIn v key) := by
  unfold findIn
  split
  · exact light_findAhead _ _ _ _
  · exact light_findAhead _ _ _ _
  · exact .ofExcept _

theorem light_keys (v : Value) : Light (keys v) := by
  unfold keys
  split
  · exact .bind .newId fun _ => .pure _
  · exact .bind .newId fun _ => .pure _
  · exact .throw _

mutual

theorem light_eval (bs : Bindings) (t : Term) : Light (t.eval bs) := by
  cases t with
  | none | bool | int | text | bytes | path | direction => exact .pure _
  | numeral => exact .bind (.ofExcept _) fun _ => .pure _
  | float | buffer | view | object => exact .bind .newId fun _ => .pure _
  | list ts | stream ts => exact .bind (light_evalAll bs ts) fun _ => .bind .newId fun _ => .pure _
  | repeated t n => exact .bind (light_eval bs t) fun _ => .bind .newId fun _ => .pure _
  | tuple ts => exact .bind (light_evalAll bs ts) fun _ => .pure _
  | table es => exact .bind (light_evalEntries bs es) fun _ => .bind .newId fun _ => .pure _
  | fixedSet ts => exact .bind (light_evalAll bs ts) fun _ => .bind (.forM light_checkHashable _) fun _ => .pure _
  | name s =>
    unfold Term.eval
    split
    · exact .pure _
    · exact .throw _

theorem light_evalAll (bs : Bindings) (ts : List Term) : Light (evalAll bs ts) := by
  cases ts with
  | nil => exact .pure _
  | cons t ts => exact .bind (light_eval bs t) fun _ => .bind (light_evalAll bs ts) fun _ => .pure _

theorem light_evalEntries (bs : Bindings) (es : List (Term × Term)) : Light (evalEntries bs es) := by
  cases es with
  | nil => exact .pure _
  | cons e es =>
    obtain ⟨k, v⟩ := e
    exact .bind (light_eval bs k) fun _ => .bind (light_eval bs v) fun _ => .bind (light_checkHashable _) fun _ =>
      .bind (light_evalEntries bs es) fun _ => .pure _

end

/-! ### Copies -/

/-- Copying is light whatever has been copied before. -/
def LightCopying {α : Type} (m : Copying α) : Prop := ∀ done, Light (m.run done)

namespace LightCopying

variable {α β : Type}

theorem pure (a : α) : LightCopying (Pure.pure a) := fun _ => .pure _

theorem throw (f : Fault) : LightCopying (MonadExcept.throw f : Copying α) := fun _ => .throw _

theorem bind {m : Copying α} {f : α → Copying β} (hm : LightCopying m) (hf : ∀ a, LightCopying (f a)) :
    LightCopying (m >>= f) := fun done => .bind (hm done) fun p => hf p.1 p.2

theorem lift {b : Build α} (h : Light b) : LightCopying (liftM b) := fun _ => .bind h fun _ => .pure _

theorem nextId : LightCopying nextId := lift .newId

theorem get : LightCopying (MonadState.get : Copying Copied) := fun _ => .pure _

theorem update (f : Copied → Copied) : LightCopying (modify f) := fun _ => .pure _

theorem once (v : Value) {make : Copying Value} (h : LightCopying make) : LightCopying (once v make) := by
  unfold Session.once
  split
  · exact h
  · refine .bind .get fun done => ?_
    dsimp only
    split
    · exact .pure _
    · exact .bind h fun _ => .bind (.update _) fun _ => .pure _

end LightCopying

theorem light_copyParameters (p : ParameterSet) : Light (copyParameters p) := light_parameterSet _

theorem light_copyScheme (s : Scheme) : Light (copyScheme s) := by
  cases s with
  | custom => exact .bind (light_copyParameters _) fun _ => .pure _
  | _ => exact .pure _

theorem light_copyDecrypt (c : DecryptConfig) : Light (copyDecrypt c) :=
  .bind (light_copyParameters _) fun _ => .bind (.mapM light_copyScheme _) fun _ => .pure _

theorem light_copyEncrypt (c : EncryptConfig) : Light (copyEncrypt c) :=
  .bind (light_copyParameters _) fun _ => .bind (light_copyDecrypt _) fun _ =>
    .bind (.mapM light_copyScheme _) fun _ => .pure _

theorem light_copyCrypto (c : CryptoConfig) : Light (copyCrypto c) :=
  .bind (light_copyEncrypt _) fun _ => .bind (light_copyDecrypt _) fun _ => .pure _

mutual

theorem light_copy (v : Value) : LightCopying (copy v) := by
  cases v with
  | number n =>
    cases n with
    | float => exact .bind .nextId fun _ => .pure _
    | _ => exact .pure _
  | limits l =>
    obtain ⟨n⟩ := l
    cases n with
    | float => exact .once _ (.bind .nextId fun _ => .pure _)
    | _ => exact .pure _
  | buffer | object => exact .once _ (.bind .nextId fun _ => .pure _)
  | tuple xs | fixedSet xs => exact .once _ (.bind (light_copyAll xs) fun _ => .pure _)
  | list _ xs | error _ _ xs => exact .once _ (.bind .nextId fun _ => .bind (light_copyAll xs) fun _ => .pure _)
  | table _ es => exact .once _ (.bind .nextId fun _ => .bind (light_copyEntries es) fun _ => .pure _)
  | stream _ xs =>
    exact .once _ (.bind .nextId fun _ => .bind (.lift .get) fun _ => .bind (.lift (.setDrawn _ _)) fun _ =>
      .bind (light_copyAll xs) fun _ => .pure _)
  | method _ receiver _ => exact .once _ (.bind (light_copy receiver) fun _ => .bind .nextId fun _ => .pure _)
  | parameters => exact .bind (.lift (light_copyParameters _)) fun _ => .pure _
  | scheme => exact .bind (.lift (light_copyScheme _)) fun _ => .pure _
  | decryptConfig => exact .bind (.lift (light_copyDecrypt _)) fun _ => .pure _
  | encryptConfig => exact .bind (.lift (light_copyEncrypt _)) fun _ => .pure _
  | cryptoConfig => exact .bind (.lift (light_copyCrypto _)) fun _ => .pure _
  | settings => exact .throw _
  | record kind fs =>
    cases kind with
    | settings => exact .throw _
    | _ => exact .once _ (.bind (light_copyAll fs) fun _ => .pure _)
  | _ => exact .pure _

theorem light_copyAll (xs : List Value) : LightCopying (copyAll xs) := by
  cases xs with
  | nil => exact .pure _
  | cons x xs => exact .bind (light_copy x) fun _ => .bind (light_copyAll xs) fun _ => .pure _

theorem light_copyEntries (es : List (Value × Value)) : LightCopying (copyEntries es) := by
  cases es with
  | nil => exact .pure _
  | cons e es =>
    obtain ⟨k, v⟩ := e
    exact .bind (light_copy k) fun _ => .bind (light_copy v) fun _ => .bind (light_copyEntries es) fun _ => .pure _

end

theorem light_copied (whole : Value) : Light (copied whole) := by
  refine .bind .get fun c => ?_
  dsimp only
  split
  · exact .throw_bind _ _
  · exact .bind (light_copy _ []) fun _ => .pure _

/-! ### Operations -/

theorem light_schemeValue {b : Build Scheme} (h : Light b) : Light (schemeValue b) := .bind h fun _ => .pure _

/-- What is built is light, but for the constructors, which give notice, and the operations on the shared settings. -/
theorem light_build (op : Operation) (args : Arguments) : Light (op.build args) ∨
    (∃ k : Assembly.Constructor, op = k.operation) ∨ op = .sharedSettings ∨ op = .forgetSettings := by
  cases op with
  | encryptWithScheme => exact .inr (.inl ⟨.encryptWithScheme, rfl⟩)
  | encryptWithJwe => exact .inr (.inl ⟨.encryptWithJwe, rfl⟩)
  | encryptWithPkcs7 => exact .inr (.inl ⟨.encryptWithPkcs7, rfl⟩)
  | encryptWithGpg => exact .inr (.inl ⟨.encryptWithGpg, rfl⟩)
  | encryptWithPkcs11 => exact .inr (.inl ⟨.encryptWithPkcs11, rfl⟩)
  | decryptWithScheme => exact .inr (.inl ⟨.decryptWithScheme, rfl⟩)
  | decryptWithPrivateKeys => exact .inr (.inl ⟨.decryptWithPrivateKeys, rfl⟩)
  | decryptWithX509s => exact .inr (.inl ⟨.decryptWithX509s, rfl⟩)
  | decryptWithGpgPrivateKeys => exact .inr (.inl ⟨.decryptWithGpgPrivateKeys, rfl⟩)
  | decryptWithPkcs11 => exact .inr (.inl ⟨.decryptWithPkcs11, rfl⟩)
  | initEncryption => exact .inr (.inl ⟨.initEncryption, rfl⟩)
  | initDecryption => exact .inr (.inl ⟨.initDecryption, rfl⟩)
  | sharedSettings => exact .inr (.inr (.inl rfl))
  | forgetSettings => exact .inr (.inr (.inr rfl))
  | validateBlob => exact .inl (.bind (light_refused _ _) fun _ => .pure _)
  | validateBlobSequence => exact .inl (.bind (light_blobs _ _ _) fun _ => .pure _)
  | validatePairedLengths =>
    exact .inl (.bind (.ofExcept _) fun _ => .bind (.ofExcept _) fun _ => .bind (light_refused _ _) fun _ => .pure _)
  | validateParameterName => exact .inl (.bind (light_refused _ _) fun _ => .pure _)
  | isSensitiveKey | parseBool | direction | limits | logging => exact .inl (.ofExcept _)
  | parameterSet => exact .inl (.bind (light_parameterSet _) fun _ => .pure _)
  | scheme => exact .inl (.throw _)
  | jweRecipients | pkcs7Recipients | x509Certificates => exact .inl (light_schemeValue (light_oneField _ _ _))
  | gpgRecipients => exact .inl (light_schemeValue (light_gpgRecipients _ _))
  | pkcs11Recipients | privateKeys | gpgPrivateKeys | pkcs11Modules => exact .inl (light_schemeValue (light_twoFields _ _ _ _ _))
  | customScheme => exact .inl (light_schemeValue (light_customScheme _ _ _))
  | customSchemeOf => exact .inl (light_schemeValue (light_customSchemeOf _ _ _))
  | decryptConfig => exact .inl (light_decryptConfig _ _)
  | encryptConfig => exact .inl (light_encryptConfig _ _ _)
  | decryptFromSchemes => exact .inl (light_decryptFromSchemes _)
  | encryptFromSchemes => exact .inl (light_encryptFromSchemes _ _)
  | combine => exact .inl (light_combine _)
  | settings => exact .inl (light_settings _ _)
  | loadSettings => exact .inl (light_loadSettings _)
  | error => exact .inl (.bind .newId fun _ => .pure _)
  | cryptoConfig | secureLogger | configureLogging | logger => exact .inl (.pure _)

end Session

end KeyBundle
