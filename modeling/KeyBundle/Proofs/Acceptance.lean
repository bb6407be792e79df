/-
  KeyBundle.Proofs.Acceptance — what the constructors accept, and how they refuse the rest.

  A step admits its arguments under a condition (`Admits`): where the condition holds it succeeds; elsewhere it
  passes on an error that one of its arguments raises, or refuses a bad argument; it comes to nothing else. That holds
  of reading a field, a keyring and a mapping, and of announcing a scheme, and it holds of steps that follow one
  another (`Admits.bind`).

  So it holds of every constructor that needs no settings (`Call.admits_call`). It accepts sequences of blobs, a
  keyring that is bytes or nothing, and mappings of names to sequences (`Call.Acceptable`); private keys need
  as many passwords. The bundle then has all blobs in the order in which they came, in its parameters and in its
  schemes (`Call.Holds`). It passes on what the first argument raises that is not as it should be (`Call.StoppedBy`).
-/

import KeyBundle.Proofs.Announcing
import KeyBundle.Proofs.Embedding
import KeyBundle.Proofs.ModuleCalls

namespace KeyBundle

open Build

/-! ## Steps that accept or refuse -/

/-- Under the condition a step succeeds, in the way said; elsewhere it passes on an error that is raised to it, or
    refuses a bad argument. -/
structure Admits {α : Type} (c : Context) (A : Prop) (E : Raised → Prop) (b : Build α) (P : α → Context → Prop) :
    Prop where
  accepts : A → ∃ a c', exec b c = (.ok a, c') ∧ P a c'
  raises : ∀ e, E e → ∃ c', exec b c = (.error e.passed, c')
  refuses : ¬A → (∀ e, ¬E e) → ∃ r c', exec b c = (.error (badArgument r), c')

/-- Nothing is raised. -/
def Nothing (_ : Raised) : Prop := False

namespace Admits

variable {α β : Type} {c : Context} {A B : Prop} {E F : Raised → Prop} {P Q : α → Context → Prop}

theorem pure {a : α} (h : P a c) : Admits c True Nothing (Pure.pure a) P :=
  ⟨fun _ => ⟨a, c, rfl, h⟩, fun _ h => h.elim, fun h _ => absurd trivial h⟩

theorem imp {b : Build α} (h : Admits c A E b P) (hA : A ↔ B) (hE : ∀ e, E e ↔ F e)
    (hP : ∀ a c', P a c' → Q a c') : Admits c B F b Q where
  accepts hB := by
    obtain ⟨a, c', he, ha⟩ := h.accepts (hA.mpr hB)
    exact ⟨a, c', he, hP a c' ha⟩
  raises e hF := h.raises e ((hE e).mpr hF)
  refuses hB calm := h.refuses (mt hA.mp hB) fun e => mt (hE e).mp (calm e)

theorem mono {b : Build α} (h : Admits c A E b P) (hP : ∀ a c', P a c' → Q a c') : Admits c A E b Q :=
  h.imp Iff.rfl (fun _ => Iff.rfl) hP

/-- The first step that does not succeed is the last. -/
theorem bind {b : Build α} {f : α → Build β} {R : β → Context → Prop} (hb : Admits c A E b P)
    (hf : ∀ a c', P a c' → Admits c' B F (f a) R) : Admits c (A ∧ B) (fun e => E e ∨ A ∧ F e) (b >>= f) R where
  accepts h := by
    obtain ⟨a, c₁, ha, hP⟩ := hb.accepts h.1
    rw [exec_bind_ok ha]
    exact (hf a c₁ hP).accepts h.2
  raises e h := by
    rcases h with hE | ⟨hA, hF⟩
    · obtain ⟨c', he⟩ := hb.raises e hE
      exact ⟨c', exec_bind_error he f⟩
    · obtain ⟨a, c₁, ha, hP⟩ := hb.accepts hA
      rw [exec_bind_ok ha]
      exact (hf a c₁ hP).raises e hF
  refuses h calm := by
    by_cases hA : A
    · obtain ⟨a, c₁, ha, hP⟩ := hb.accepts hA
      rw [exec_bind_ok ha]
      exact (hf a c₁ hP).refuses (fun hB => h ⟨hA, hB⟩) fun e hF => calm e (.inr ⟨hA, hF⟩)
    · obtain ⟨r, c', hr⟩ := hb.refuses hA fun e hE => calm e (.inl hE)
      exact ⟨r, c', exec_bind_error hr f⟩

/-- What is left to do after a step cannot fail. -/
theorem map {b : Build α} {f : α → β} {R : β → Context → Prop} (h : Admits c A E b P)
    (hf : ∀ a c', P a c' → R (f a) c') : Admits c A E (do return f (← b)) R :=
  (h.bind fun a c' ha => .pure (hf a c' ha)).imp (and_iff_left trivial)
    (fun _ => or_iff_left fun h => h.2) fun _ _ h => h

end Admits

/-! ## Reading -/

theorem admits_field (c : Context) (name : String) (v : Value) :
    Admits c (IsSequence c v) (Raises c v) (field name v) fun bs c' => bs = blobsIn c v ∧ c' = c.past v where
  accepts h := ⟨_, _, exec_field_ok h name, rfl, rfl⟩
  raises _ h := ⟨_, exec_field_raises h name⟩
  refuses h calm := by
    obtain ⟨r, hr⟩ := exists_refusal h name
    exact ⟨r, _, exec_field_refused hr calm⟩

theorem admits_oneField (c : Context) (f : List Blob → Scheme) (name : String) (v : Value) :
    Admits c (IsSequence c v) (Raises c v) (do return f (← field name v)) fun s _ => s = f (blobsIn c v) :=
  (admits_field c name v).map fun _ _ h => congrArg f h.1

theorem admits_twoFields (c : Context) (f : List Blob → List Blob → Scheme) (first second : String) (v w : Value) :
    Admits c (IsSequence c v ∧ IsSequence (c.past v) w)
      (fun e => Raises c v e ∨ IsSequence c v ∧ Raises (c.past v) w e)
      (do let (xs, ys) ← twoFields first second v w; return f xs ys)
      fun s _ => s = f (blobsIn c v) (blobsIn (c.past v) w) := by
  refine Admits.map (P := fun a _ => a = (blobsIn c v, blobsIn (c.past v) w)) (f := fun a => f a.1 a.2) ?_ ?_
  · refine (admits_field c first v).bind fun xs c₁ hx => ?_
    obtain ⟨rfl, rfl⟩ := hx
    exact (admits_field _ second w).map fun ys _ hy => by rw [hy.1]
  · rintro _ _ rfl
    rfl

/-- Bytes in any form, or nothing. -/
def IsKeyring (v : Value) : Prop := v = .none ∨ v.blob?.isSome = true

/-- Bytes that raise this error when they are copied. -/
def SealedBy (v : Value) (e : Raised) : Prop := ∃ className b, v = .sealed className b e

theorem admits_keyring (c : Context) (v : Value) : Admits c (IsKeyring v) (SealedBy v) (refused badArgument (keyring v))
    fun ring c' => ring = v.blob?.getD [] ∧ c' = c where
  accepts h := by
    rcases h with rfl | h
    · exact ⟨_, _, rfl, rfl, rfl⟩
    · obtain ⟨b, hb⟩ := Option.isSome_iff_exists.mp h
      cases v with
      | bytes | buffer | view => exact ⟨_, _, rfl, rfl, rfl⟩
      | _ => cases hb
  raises e h := by
    obtain ⟨className, b, rfl⟩ := h
    exact ⟨c, by rw [← reported_raised]; rfl⟩
  refuses h calm := by
    cases v with
    | none => exact absurd (.inl rfl) h
    | bytes | buffer | view => exact absurd (.inr rfl) h
    | sealed className b e => exact absurd ⟨className, b, rfl⟩ (calm e)
    | _ => exact ⟨_, c, rfl⟩

theorem admits_gpgRecipients (c : Context) (v w : Value) :
    Admits c (IsSequence c v ∧ IsKeyring w) (fun e => Raises c v e ∨ IsSequence c v ∧ SealedBy w e) (gpgRecipients v w)
      fun s _ => s = .gpgRecipients (blobsIn c v) (w.blob?.getD []) := by
  refine (admits_field c "recipients" v).bind fun rs c₁ hr => ?_
  exact (admits_keyring c₁ w).map fun ring c₂ h => by rw [hr.1, h.1]

/-- Parameters that no other scheme covers, read from a mapping. -/
theorem admits_rawScheme (c : Context) (d : Direction) (id : Nat) (es : List (Value × Value)) :
    Admits c (IsMapping c es) (MappingRaises c es) (rawScheme d (.table id es)) fun s c' =>
      c' = c.pastAll es ∧ ∃ p, s = .custom rawKind d p ∧ (Distinct es → p.entries = entriesIn c es) := by
  have read : Admits c (IsMapping c es) (MappingRaises c es) (parameterSet (.table id es)) fun p c' =>
      c' = c.pastAll es ∧ (Distinct es → p.entries = entriesIn c es) :=
    { accepts h := by
        obtain ⟨p, hp, entries⟩ := exec_parameterSet_ok h id
        exact ⟨p, _, hp, rfl, entries⟩
      raises _ h := exec_parameterSet_raises h id
      refuses h calm := exec_parameterSet_refused h calm id }
  rw [rawScheme_eq]
  exact read.map fun p c' h => ⟨h.1, p, rfl, h.2⟩

theorem admits_announce (c : Context) {s : Scheme} (hs : s.isLimited = false) (limit : Value) :
    Admits c s.Even Nothing (announce s limit) fun b c' => b = .ofScheme s ∧ ∃ ns, c' = c.noting ns where
  accepts even := ⟨_, _, exec_announce_ok (exec_checkScheme_ok hs even), rfl, _, Context.noting_noting ..⟩
  raises _ h := h.elim
  refuses uneven _ := by
    obtain ⟨r, hr⟩ := exec_checkScheme_error hs uneven
    exact ⟨r, c, exec_announce_error hr⟩

/-! ### Notices do not matter for what is read -/

section

variable {c : Context} (ns : List Notice)

theorem upcoming_noting (v : Value) : upcoming (c.noting ns) v = upcoming c v := by
  cases v <;> rfl

theorem isSequence_noting {v : Value} : IsSequence (c.noting ns) v ↔ IsSequence c v := by
  have same : upcoming (c.noting ns) v = upcoming c v := upcoming_noting ns v
  constructor
  · intro h
    cases h with
    | nothing => exact .nothing
    | items several come bytes => exact .items several (same.symm.trans come) bytes
  · intro h
    cases h with
    | nothing => exact .nothing
    | items several come bytes => exact .items several (same.trans come) bytes

theorem raises_noting {v : Value} {e : Raised} : Raises (c.noting ns) v e ↔ Raises c v e := by
  have same : upcoming (c.noting ns) v = upcoming c v := upcoming_noting ns v
  have ending : raising? (c.noting ns) v = raising? c v := by cases v <;> rfl
  constructor
  · intro h
    cases h with
    | going raises other => exact .going (ending.symm.trans raises) other
    | copying several come first => exact .copying several (same.symm.trans come) first
  · intro h
    cases h with
    | going raises other => exact .going (ending.trans raises) other
    | copying several come first => exact .copying several (same.trans come) first

theorem mappingRaises_noting {es : List (Value × Value)} {e : Raised} :
    MappingRaises (c.noting ns) es e ↔ MappingRaises c es e := by
  induction es generalizing c with
  | nil => exact ⟨nofun, nofun⟩
  | cons _ es ih =>
    constructor
    · rintro (⟨named, raises⟩ | ⟨named, blobs, rest⟩)
      · exact .here named ((raises_noting ns).mp raises)
      · exact .later named ((isSequence_noting ns).mp blobs) (ih.mp rest)
    · rintro (⟨named, raises⟩ | ⟨named, blobs, rest⟩)
      · exact .here named ((raises_noting ns).mpr raises)
      · exact .later named ((isSequence_noting ns).mpr blobs) (ih.mpr rest)

theorem isMapping_noting {es : List (Value × Value)} : IsMapping (c.noting ns) es ↔ IsMapping c es := by
  induction es generalizing c with
  | nil => exact ⟨fun _ => .nil, fun _ => .nil⟩
  | cons e es ih =>
    constructor
    · rintro (_ | ⟨named, blobs, rest⟩)
      exact .cons named ((isSequence_noting ns).mp blobs) (ih.mp rest)
    · rintro (_ | ⟨named, blobs, rest⟩)
      exact .cons named ((isSequence_noting ns).mpr blobs) (ih.mpr rest)

theorem entriesIn_noting (es : List (Value × Value)) : entriesIn (c.noting ns) es = entriesIn c es := by
  induction es generalizing c with
  | nil => rfl
  | cons e es ih =>
    rw [entriesIn, entriesIn, blobsIn, blobsIn, upcoming_noting]
    exact congrArg _ (show entriesIn ((c.past e.2).noting ns) es = _ from ih)

end

/-! ## Calls -/

namespace Call

/-- The entries of an argument that is a mapping. -/
def entries (k : Call) (n : Nat) : List (Value × Value) :=
  match k.arg n with
  | .table _ es => es
  | _ => []

/-- The entries to embed alone. -/
def more (k : Call) : List (Value × Value) :=
  match k.kind with
  | .initEncryption => k.entries 1
  | _ => []

/-- The call is not for modules to encrypt with and is not handed a scheme; parameters are mappings, of
    which the second may be left out. -/
def IsPlain (k : Call) : Prop :=
  match k.kind with
  | .encryptWithScheme | .encryptWithPkcs11 | .decryptWithScheme => False
  | .initEncryption =>
    (∃ id, k.arg 0 = .table id (k.entries 0)) ∧ (k.arg 1 = .none ∨ ∃ id, k.arg 1 = .table id (k.entries 1))
  | .initDecryption => ∃ id, k.arg 0 = .table id (k.entries 0)
  | _ => True

/-- What a scheme is made of is of the form wanted. -/
def Readable (k : Call) : Prop :=
  match k.kind with
  | .encryptWithJwe | .encryptWithPkcs7 | .decryptWithX509s => IsSequence k.context (k.arg 0)
  | .encryptWithGpg => IsSequence k.context (k.arg 0) ∧ IsKeyring (k.arg 1)
  | .initEncryption | .initDecryption => IsMapping k.context (k.entries 0)
  | _ => IsSequence k.context (k.arg 0) ∧ IsSequence (k.context.past (k.arg 0)) (k.arg 1)

/-- All that a call is given is of the form wanted; what is to be embedded alone is read last. -/
structure Acceptable (k : Call) : Prop where
  readable : k.Readable
  even : k.Even
  more : IsMapping (k.context.pastAll (k.entries 0)) k.more

/-- Reading what a scheme is made of raises this error; what is read before is of the form wanted. -/
def ReadingStoppedBy (k : Call) (e : Raised) : Prop :=
  match k.kind with
  | .encryptWithJwe | .encryptWithPkcs7 | .decryptWithX509s => Raises k.context (k.arg 0) e
  | .encryptWithGpg => Raises k.context (k.arg 0) e ∨ IsSequence k.context (k.arg 0) ∧ SealedBy (k.arg 1) e
  | .initEncryption | .initDecryption => MappingRaises k.context (k.entries 0) e
  | _ =>
    Raises k.context (k.arg 0) e ∨ IsSequence k.context (k.arg 0) ∧ Raises (k.context.past (k.arg 0)) (k.arg 1) e

/-- The first thing that is not as it should be raises this error. -/
inductive StoppedBy (k : Call) (e : Raised) : Prop
  | reading (stopped : k.ReadingStoppedBy e)
  | embedding (readable : k.Readable) (even : k.Even)
      (raises : MappingRaises (k.context.pastAll (k.entries 0)) k.more e)

/-- The blobs that a call is given, under the names of the engine or its own. -/
def material (k : Call) : Entries :=
  match k.kind with
  | .encryptWithJwe => [(Wire.pubkeys, k.first)]
  | .encryptWithPkcs7 | .decryptWithX509s => [(Wire.x509s, k.first)]
  | .encryptWithGpg => [(Wire.gpgRecipients, k.first), (Wire.gpgKeyring, [(k.arg 1).blob?.getD []])]
  | .decryptWithPrivateKeys => [(Wire.privateKeys, k.first), (Wire.privatePasswords, k.second)]
  | .decryptWithGpgPrivateKeys => [(Wire.gpgPrivateKeys, k.first), (Wire.gpgPasswords, k.second)]
  | .encryptWithPkcs11 | .decryptWithPkcs11 => [(Wire.modules, k.first), (Wire.pins, k.second)]
  | .initEncryption | .initDecryption => entriesIn k.context (k.entries 0)
  | .encryptWithScheme | .decryptWithScheme => []

/-- The fields of the scheme, or its own parameters, are the blobs of the call, and so are its parameters for
    the engine. -/
structure IsFor (k : Call) (s : Scheme) : Prop where
  fields : if k.kind.isNamed then k.scheme? = some s else ∃ p, s = .custom rawKind k.kind.side p
  parameters : Distinct (k.entries 0) → s.parameters.entries = k.material

/-- The scheme of a call has its blobs in its fields, or is one with these parameters of its own. -/
def HasFields (k : Call) (s : Scheme) (p : ParameterSet) : Prop :=
  if k.kind.isNamed then k.scheme? = some s else s = .custom rawKind k.kind.side p

/-- What is in the bundle, slot by slot. A constructor for encryption has its blobs on the encrypting side, and
    embeds what it is given for that alone; one for decryption has them on the decrypting side, and embeds them too. -/
inductive Holds (k : Call) : CryptoConfig → Prop
  | encrypting {s : Scheme} {p q : ParameterSet} {more : List Scheme} (side : k.kind.side = .encrypt)
      (fields : k.HasFields s p) (entries : Distinct (k.entries 0) → p.entries = k.material)
      (embedded : Distinct k.more → q.entries = entriesIn (k.context.pastAll (k.entries 0)) k.more)
      (schemes : more = if k.more.isEmpty then [] else [.custom rawKind .decrypt q]) :
      Holds k ⟨⟨p, ⟨q, more⟩, [s]⟩, ⟨.empty, []⟩⟩
  | decrypting {s : Scheme} {p : ParameterSet} (side : k.kind.side = .decrypt)
      (fields : k.HasFields s p) (entries : Distinct (k.entries 0) → p.entries = k.material) :
      Holds k ⟨⟨.empty, ⟨p, [s]⟩, []⟩, ⟨p, [s]⟩⟩

variable {k : Call} {s : Scheme}

theorem IsFor.even_iff (h : k.IsFor s) : s.Even ↔ k.Even := by
  obtain ⟨kind, args, context⟩ := k
  have fields := h.fields
  cases kind
  case encryptWithScheme | decryptWithScheme | initEncryption | initDecryption =>
    obtain ⟨p, rfl⟩ := fields
    exact Iff.rfl
  all_goals
    cases fields
    exact Iff.rfl

theorem IsFor.isLimited (h : k.IsFor s) (hk : k.IsPlain) : s.isLimited = false := by
  obtain ⟨kind, args, context⟩ := k
  have fields := h.fields
  cases kind
  case encryptWithPkcs11 => exact hk.elim
  case encryptWithScheme | decryptWithScheme | initEncryption | initDecryption =>
    obtain ⟨p, rfl⟩ := fields
    rfl
  all_goals
    cases fields
    rfl

theorem IsFor.direction (h : k.IsFor s) : s.direction = k.kind.side := by
  obtain ⟨kind, args, context⟩ := k
  have fields := h.fields
  cases kind
  case encryptWithScheme | decryptWithScheme | initEncryption | initDecryption =>
    obtain ⟨p, rfl⟩ := fields
    rfl
  all_goals
    cases fields
    rfl

theorem IsFor.of_scheme? (h : k.scheme? = some s) : k.IsFor s := by
  obtain ⟨kind, args, context⟩ := k
  cases kind
  case encryptWithScheme | decryptWithScheme | initEncryption | initDecryption => cases h
  all_goals
    cases h
    exact ⟨rfl, fun _ => rfl⟩

theorem admits_parameters (hk : k.kind = .initEncryption ∨ k.kind = .initDecryption)
    (h : ∃ id, k.arg 0 = .table id (k.entries 0)) :
    Admits k.context (IsMapping k.context (k.entries 0)) (MappingRaises k.context (k.entries 0))
      (rawScheme k.kind.side (k.arg 0))
      fun s c' => k.IsFor s ∧ c' = k.context.pastAll (k.entries 0) := by
  obtain ⟨id, first⟩ := h
  have made := admits_rawScheme k.context k.kind.side id (k.entries 0)
  rw [← first] at made
  refine made.mono fun s c' ⟨past, p, hs, entries⟩ => ⟨?_, past⟩
  subst hs
  obtain ⟨kind, args, context⟩ := k
  obtain rfl | rfl : kind = .initEncryption ∨ kind = .initDecryption := hk
  · exact ⟨⟨p, rfl⟩, entries⟩
  · exact ⟨⟨p, rfl⟩, entries⟩

/-- Making the scheme. A mapping has been gone through then. -/
theorem admits_scheming (h : k.IsPlain) : Admits k.context k.Readable k.ReadingStoppedBy k.scheming fun s c' =>
    k.IsFor s ∧ (k.more ≠ [] → c' = k.context.pastAll (k.entries 0)) := by
  obtain ⟨kind, args, context⟩ := k
  cases kind
  case encryptWithScheme | encryptWithPkcs11 | decryptWithScheme => exact h.elim
  case encryptWithJwe | encryptWithPkcs7 | decryptWithX509s =>
    exact (admits_oneField ..).mono fun s c' hs => ⟨.of_scheme? (congrArg some hs.symm), (absurd rfl ·)⟩
  case encryptWithGpg =>
    exact (admits_gpgRecipients ..).mono fun s c' hs => ⟨.of_scheme? (congrArg some hs.symm), (absurd rfl ·)⟩
  case decryptWithPrivateKeys | decryptWithGpgPrivateKeys | decryptWithPkcs11 =>
    exact (admits_twoFields ..).mono fun s c' hs => ⟨.of_scheme? (congrArg some hs.symm), (absurd rfl ·)⟩
  case initEncryption => exact (admits_parameters (.inl rfl) h.1).mono fun s c' hs => ⟨hs.1, fun _ => hs.2⟩
  case initDecryption => exact (admits_parameters (.inr rfl) h).mono fun s c' hs => ⟨hs.1, fun _ => hs.2⟩

/-- Only a mapping of parameters can hold more. -/
theorem exists_more (h : k.IsPlain) (hm : k.more ≠ []) : k.kind = .initEncryption ∧ ∃ id, k.arg 1 = .table id k.more := by
  unfold more at hm ⊢
  unfold IsPlain at h
  cases hk : k.kind
  case initEncryption =>
    simp only [hk] at h hm ⊢
    obtain ⟨-, none | second⟩ := h
    · exact absurd (by rw [entries, none]) hm
    · exact ⟨trivial, second⟩
  all_goals
    simp only [hk] at hm
    exact absurd rfl hm

theorem finish_of_more (h : k.IsPlain) (hm : k.more = []) (b : CryptoConfig) : k.finish b = Pure.pure b := by
  unfold finish
  unfold more at hm
  unfold IsPlain at h
  cases hk : k.kind
  case initEncryption =>
    simp only [hk] at h hm ⊢
    refine if_neg ?_
    obtain ⟨-, none | ⟨id, second⟩⟩ := h
    · rw [none]
      exact Bool.false_ne_true
    · rw [second, hm]
      exact Bool.false_ne_true
  all_goals rfl

theorem finish_of_some {id : Nat} (hk : k.kind = .initEncryption) (hm : k.more ≠ [])
    (second : k.arg 1 = .table id k.more) (hs : s.direction = .encrypt) : k.finish (.ofScheme s) =
      do return .embedding s (.ofSchemes [← rawScheme .decrypt (.table id k.more)]) := by
  have truthy : (Value.table id k.more).truthy = true := by simpa [Value.truthy] using hm
  have encrypting : CryptoConfig.ofScheme s = .encrypting s := by rw [CryptoConfig.ofScheme, hs]
  unfold finish
  simp only [hk, second]
  rw [if_pos truthy, encrypting]
  rfl

theorem IsFor.hasFields (h : k.IsFor s) : k.HasFields s s.parameters := by
  have fields := h.fields
  unfold HasFields
  split at fields
  · rwa [if_pos ‹_›]
  · obtain ⟨p, rfl⟩ := fields
    rw [if_neg ‹_›]
    rfl

/-- The bundle of a scheme alone. -/
theorem IsFor.holds (h : k.IsFor s) (none : k.more = []) : k.Holds (.ofScheme s) := by
  have side := h.direction
  unfold CryptoConfig.ofScheme
  cases hd : s.direction with
  | encrypt =>
    have made : CryptoConfig.encrypting s = ⟨⟨s.parameters, ⟨.empty, []⟩, [s]⟩, ⟨.empty, []⟩⟩ := by
      rw [← parametersOf_singleton s]
      rfl
    rw [made]
    exact .encrypting (side.symm.trans hd) h.hasFields h.parameters (fun _ => by rw [none]; rfl) (by rw [none]; rfl)
  | decrypt =>
    have made : CryptoConfig.decrypting s = ⟨⟨.empty, ⟨s.parameters, [s]⟩, []⟩, ⟨s.parameters, [s]⟩⟩ := by
      rw [← parametersOf_singleton s]
      rfl
    rw [made]
    exact .decrypting (side.symm.trans hd) h.hasFields h.parameters

theorem IsFor.holds_embedding {p : ParameterSet} (h : k.IsFor s) (hs : s.direction = .encrypt) (some : k.more ≠ [])
    (entries : Distinct k.more → p.entries = entriesIn (k.context.pastAll (k.entries 0)) k.more) :
    k.Holds (.embedding s (.ofSchemes [.custom rawKind .decrypt p])) := by
  have made : CryptoConfig.embedding s (.ofSchemes [.custom rawKind .decrypt p]) =
      ⟨⟨s.parameters, ⟨p, [.custom rawKind .decrypt p]⟩, [s]⟩, ⟨.empty, []⟩⟩ := by
    have embedded : ParameterSet.empty.merged (parametersOf [.custom rawKind .decrypt p]) = p :=
      (ParameterSet.empty_merged _).trans (parametersOf_singleton _)
    change CryptoConfig.mk ⟨parametersOf [s], ⟨ParameterSet.empty.merged (parametersOf [_]), _⟩, _⟩ _ = _
    rw [embedded, parametersOf_singleton]
    rfl
  rw [made]
  exact .encrypting (h.direction.symm.trans hs) h.hasFields h.parameters entries (if_neg (by simpa using some)).symm

theorem admits_finish (h : k.IsPlain) (hs : k.IsFor s) {c : Context} {ns : List Notice}
    (hc : k.more ≠ [] → c = (k.context.pastAll (k.entries 0)).noting ns) :
    Admits c (IsMapping (k.context.pastAll (k.entries 0)) k.more)
      (MappingRaises (k.context.pastAll (k.entries 0)) k.more) (k.finish (.ofScheme s)) fun b _ => k.Holds b := by
  by_cases hm : k.more = []
  · rw [finish_of_more h hm]
    refine (Admits.pure (hs.holds hm)).imp ?_ ?_ fun _ _ h => h
    · rw [hm]
      exact ⟨fun _ => .nil, fun _ => trivial⟩
    · rw [hm]
      exact fun _ => ⟨False.elim, nofun⟩
  · cases hc hm
    obtain ⟨hk, id, second⟩ := exists_more h hm
    have side : s.direction = .encrypt := by rw [hs.direction, hk]; rfl
    rw [finish_of_some hk hm second side]
    have made := admits_rawScheme ((k.context.pastAll (k.entries 0)).noting ns) .decrypt id k.more
    refine (made.map fun t c' ht => ?_).imp (isMapping_noting ns) (fun _ => mappingRaises_noting ns) fun _ _ h => h
    obtain ⟨-, p, rfl, entries⟩ := ht
    exact hs.holds_embedding side hm fun hd => (entries hd).trans (entriesIn_noting ns _)

end Call

end KeyBundle
