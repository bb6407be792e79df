/-
  KeyBundle.Proofs.Rebuilding — what is written out plainly is made again as it was.

  (1) A mapping that holds the names of a parameter set in their order, each with a sequence of its blobs, is read as
      that very set, in whatever context and without changing it (`exec_addEntries_of_hasEntries`). Sets are such mappings
      themselves, and so are their plain copies (`exec_asTable`).
  (2) So a set is made again from itself or from its plain copy, and a copy of a bundle is the bundle (`copied_own`).
  (3) Constructors that take parameters as they are make bundles with exactly these, on the sides that they are given
      for (`rebuilt_from_plain`). Material to embed that is empty is not looked at, and embeds just that.
-/

import KeyBundle.Proofs.Forms
import KeyBundle.Proofs.Interchange
import KeyBundle.Session.Access
import KeyBundle.Session.Copy

namespace KeyBundle

open Build

/-! ## (1) Reading what has been written out -/

/-- A sequence of just these blobs, which is still there when it has been gone through. -/
structure Stores (v : Value) (bs : List Blob) : Prop where
  isSequence (c : Context) : IsSequence c v
  blobsIn (c : Context) : blobsIn c v = bs
  past (c : Context) : c.past v = c

/-- The mapping has the entries in their order. -/
def HasEntries (es : List (Value × Value)) (entries : Entries) : Prop :=
  List.Forall₂ (fun e f => e.1 = .text f.1 ∧ Stores e.2 f.2) es entries

theorem filterMap_blob? (bs : List Blob) : (bs.map Value.bytes).filterMap Value.blob? = bs := by
  rw [List.filterMap_map]
  exact List.filterMap_some

theorem stores_list (id : Nat) (bs : List Blob) : Stores (.list id (bs.map .bytes)) bs where
  isSequence c := .items rfl rfl (by simp [Value.blob?])
  blobsIn c := filterMap_blob? bs
  past c := rfl

theorem stores_ofBlobs (bs : List Blob) : Stores (.ofBlobs bs) bs where
  isSequence c := .items rfl rfl (by simp [Value.blob?])
  blobsIn c := filterMap_blob? bs
  past c := rfl

section

variable {es : List (Value × Value)} {entries : Entries}

theorem HasEntries.isMapping (h : HasEntries es entries) (named : ∀ n ∈ entries.names, isName n = true) (c : Context) :
    IsMapping c es ∧ entriesIn c es = entries ∧ c.pastAll es = c := by
  induction h with
  | nil => exact ⟨.nil, rfl, rfl⟩
  | @cons e f _ _ here _ ih =>
    obtain ⟨k, v⟩ := e
    obtain ⟨rfl, stores⟩ : k = .text f.1 ∧ Stores v f.2 := here
    obtain ⟨first, rest⟩ := List.forall_mem_cons.mp named
    obtain ⟨mapping, entries, past⟩ := ih rest
    refine ⟨.cons first (stores.isSequence c) ?_, ?_, ?_⟩
    · rw [stores.past]
      exact mapping
    · rw [entriesIn, stores.past, stores.blobsIn, entries]
      rfl
    · rw [Context.pastAll, List.foldl_cons, stores.past]
      exact past

theorem exec_addEntries_of_hasEntries {p : ParameterSet} (h : HasEntries es p.entries) (c : Context) :
    exec (es.foldlM addEntry .empty) c = (.ok p, c) := by
  obtain ⟨mapping, entries, past⟩ := h.isMapping p.named c
  obtain ⟨q, read, made⟩ := exec_addEntries_ok mapping .empty
  have same : q = p := by
    refine ParameterSet.ext ?_
    rw [made (entries ▸ p.distinct) fun _ _ => List.not_mem_nil, entries]
    rfl
  rw [read, past, same]

theorem exec_parameterSet_of_hasEntries {p : ParameterSet} (h : HasEntries es p.entries) (id : Nat) (c : Context) :
    exec (parameterSet (.table id es)) c = (.ok p, c) := by
  rw [exec_parameterSet, exec_addEntries_of_hasEntries h]

end

theorem hasEntries_entries (p : ParameterSet) : HasEntries (p.entries.map fun e => (.text e.1, .ofBlobs e.2)) p.entries := by
  rw [HasEntries, List.forall₂_map_left_iff]
  exact List.forall₂_same.mpr fun e _ => ⟨rfl, stores_ofBlobs e.2⟩

/-- A set made of another one is that one again. -/
theorem exec_parameterSet_parameters (p : ParameterSet) (c : Context) :
    exec (parameterSet (.parameters p)) c = (.ok p, c) := by
  have entries : entriesOf (.parameters p) = .ok (p.entries.map fun e => (.text e.1, .ofBlobs e.2)) := by
    unfold entriesOf
    cases empty : p.isEmpty with
    | true => simp [Value.truthy, empty, ParameterSet.isEmpty_iff.mp empty]
    | false => simp [Value.truthy, empty]
  rw [parameterSet, entries]
  exact exec_addEntries_of_hasEntries (hasEntries_entries p) c

/-- A mapping with the names as texts in their order, and under each the blobs as bytes in a list. -/
def IsPlainCopy (p : ParameterSet) (v : Value) : Prop := ∃ id es, v = .table id es ∧
  List.Forall₂ (fun e f => e.1 = .text f.1 ∧ ∃ id, e.2 = .list id (f.2.map .bytes)) es p.entries

theorem IsPlainCopy.hasEntries {p : ParameterSet} {v : Value} (h : IsPlainCopy p v) :
    ∃ id es, v = .table id es ∧ HasEntries es p.entries := by
  obtain ⟨id, es, rfl, h⟩ := h
  refine ⟨id, es, rfl, h.imp ?_⟩
  rintro ⟨_, _⟩ ⟨n, bs⟩ ⟨rfl, id, rfl⟩
  exact ⟨rfl, stores_list id bs⟩

/-- A plain copy can be taken of every set; each of its lists is a new one. -/
theorem exec_asTable (p : ParameterSet) (c : Context) :
    ∃ t c', exec (Session.asTable p) c = (.ok t, c') ∧ IsPlainCopy p t := by
  have written (entries : Entries) (c : Context) : ∃ es c',
      exec (entries.mapM fun e => do return (Value.text e.1, Value.list (← newId) (e.2.map .bytes))) c = (.ok es, c') ∧
        List.Forall₂ (fun e f => e.1 = .text f.1 ∧ ∃ id, e.2 = .list id (f.2.map .bytes)) es entries := by
    induction entries generalizing c with
    | nil => exact ⟨[], c, rfl, .nil⟩
    | cons e entries ih =>
      obtain ⟨es, c', rest, copies⟩ := ih { c with fresh := c.fresh + 1 }
      refine ⟨(.text e.1, .list c.fresh (e.2.map .bytes)) :: es, c', ?_, .cons ⟨rfl, c.fresh, rfl⟩ copies⟩
      rw [List.mapM_cons]
      exact exec_bind_ok rest _
  obtain ⟨es, c', made, copies⟩ := written p.entries c
  exact ⟨.table c'.fresh es, { c' with fresh := c'.fresh + 1 }, exec_bind_ok made _, c'.fresh, es, rfl, copies⟩

/-! ## (2) Copies -/

section

open Session

theorem copyParameters_eq (p : ParameterSet) : copyParameters p = pure p :=
  eq_pure_of_exec (exec_parameterSet_parameters p)

theorem copyScheme_eq (s : Scheme) : copyScheme s = pure s := by
  cases s with
  | custom kind d p => rw [copyScheme, copyParameters_eq, pure_bind]
  | _ => rfl

theorem mapM_copyScheme (ss : List Scheme) : ss.mapM copyScheme = pure ss := by
  induction ss with
  | nil => rfl
  | cons s ss ih => rw [List.mapM_cons, copyScheme_eq, pure_bind, ih, pure_bind]

theorem copyDecrypt_eq (d : DecryptConfig) : copyDecrypt d = pure d := by
  rw [copyDecrypt, copyParameters_eq, pure_bind, mapM_copyScheme, pure_bind]

theorem copyEncrypt_eq (e : EncryptConfig) : copyEncrypt e = pure e := by
  rw [copyEncrypt, copyParameters_eq, pure_bind, copyDecrypt_eq, pure_bind, mapM_copyScheme, pure_bind]

theorem copyCrypto_eq (b : CryptoConfig) : copyCrypto b = pure b := by
  rw [copyCrypto, copyEncrypt_eq, pure_bind, copyDecrypt_eq, pure_bind]

variable {v : Value}

theorem copy_own (h : v.IsOwn) : copy v = pure v := by
  cases h with
  | parameters p =>
    rw [copy, copyParameters_eq]
    rfl
  | scheme s =>
    rw [copy, copyScheme_eq]
    rfl
  | decryptConfig d =>
    rw [copy, copyDecrypt_eq]
    rfl
  | encryptConfig e =>
    rw [copy, copyEncrypt_eq]
    rfl
  | cryptoConfig b =>
    rw [copy, copyCrypto_eq]
    rfl

/-- Parameters, schemes, sides and bundles are copied just as they are. -/
theorem copied_own (h : v.IsOwn) : copied v = pure v := by
  refine eq_pure_of_exec fun c => ?_
  have whole : withoutSpent c v = v := by
    cases h <;> simp [withoutSpent, Value.rebuild]
  have writable : unwritable? v = none := by
    cases h <;> rfl
  unfold copied
  rw [exec_bind_ok (exec_get c)]
  simp only [whole, writable, copy_own h]
  rfl

end

/-! ## (3) Constructors -/

section

variable {p : ParameterSet} {t : Value}

theorem asParameterSet_plainCopy (h : IsPlainCopy p t) : asParameterSet t = pure p := by
  obtain ⟨id, es, rfl, held⟩ := h.hasEntries
  exact eq_pure_of_exec (exec_parameterSet_of_hasEntries held id)

theorem rawScheme_plainCopy (h : IsPlainCopy p t) (d : Direction) : rawScheme d t = pure (.custom rawKind d p) := by
  rw [rawScheme_eq, asParameterSet_plainCopy h, pure_bind]

theorem truthy_plainCopy (h : IsPlainCopy p t) : t.truthy = !p.isEmpty := by
  obtain ⟨id, es, rfl, held⟩ := h.hasEntries
  have length : es.length = p.entries.length := held.length_eq
  cases es <;> cases hp : p.entries <;> simp_all [Value.truthy, ParameterSet.isEmpty]

/-- A call with parameters as they are gets as far as what is left to do with its bundle: there is nothing to check. -/
theorem exec_build_raw (k : Call) (raw : k.kind = .initEncryption ∨ k.kind = .initDecryption)
    (h : IsPlainCopy p (k.arg 0)) (c : Context) : ∃ c', exec (k.kind.operation.build k.args) c =
      exec (Session.bundle (k.finish (.ofScheme (.custom rawKind k.kind.side p)))) c' := by
  have scheming : k.scheming = pure (.custom rawKind k.kind.side p) := by
    obtain ⟨kind, args, context⟩ := k
    rcases raw with rfl | rfl <;> exact rawScheme_plainCopy h _
  obtain ⟨c', announced⟩ : ∃ c', exec (announce (.custom rawKind k.kind.side p) k.bound) c =
      (.ok (.ofScheme (.custom rawKind k.kind.side p)), c') := ⟨_, exec_announce_ok (exec_checkScheme_ok rfl trivial)⟩
  refine ⟨c', ?_⟩
  rw [Call.build_eq, scheming, pure_bind, Session.bundle, bind_assoc, exec_bind_ok announced]
  rfl

theorem exec_initDecryption (h : IsPlainCopy p t) (c : Context) :
    ∃ b c', exec (Session.Operation.initDecryption.build [(0, t)]) c = (.ok (.cryptoConfig b), c') ∧
      b.decryptConfig.parameters = p := by
  obtain ⟨c', made⟩ := exec_build_raw ⟨.initDecryption, [(0, t)], c⟩ (.inr rfl) h c
  exact ⟨_, c', made, parametersOf_singleton _⟩

theorem exec_initEncryption (h : IsPlainCopy p t) (c : Context) :
    ∃ b c', exec (Session.Operation.initEncryption.build [(0, t)]) c = (.ok (.cryptoConfig b), c') ∧
      b.encryptConfig.parameters = p := by
  obtain ⟨c', made⟩ := exec_build_raw ⟨.initEncryption, [(0, t)], c⟩ (.inl rfl) h c
  exact ⟨_, c', made, parametersOf_singleton _⟩

/-- Nothing to embed is embedded as what it is: there is nothing in an empty set. -/
theorem exec_initEncryption_more {q : ParameterSet} {u : Value} (h : IsPlainCopy p t) (k : IsPlainCopy q u)
    (c : Context) : ∃ b c', exec (Session.Operation.initEncryption.build [(0, t), (1, u)]) c = (.ok (.cryptoConfig b), c') ∧
      b.encryptConfig.parameters = p ∧ b.encryptConfig.decryptConfig.parameters = q ∧ b.decryption = none := by
  obtain ⟨c', made⟩ := exec_build_raw ⟨.initEncryption, [(0, t), (1, u)], c⟩ (.inl rfl) h c
  have truthy : (Session.Arguments.get [(0, t), (1, u)] 1).truthy = !q.isEmpty := truthy_plainCopy k
  cases empty : q.isEmpty with
  | true =>
    rw [empty] at truthy
    rw [Call.finish_none truthy] at made
    refine ⟨_, c', made, parametersOf_singleton _, ?_, rfl⟩
    exact (ParameterSet.isEmpty_eq_true_iff.mp empty).symm
  | false =>
    rw [empty] at truthy
    have more : rawScheme .decrypt (Session.Arguments.get [(0, t), (1, u)] 1) = pure (.custom rawKind .decrypt q) :=
      rawScheme_plainCopy k .decrypt
    rw [Call.finish_more truthy, more, pure_bind] at made
    refine ⟨_, c', made, parametersOf_singleton _, ?_, rfl⟩
    exact (ParameterSet.empty_merged _).trans (parametersOf_singleton _)

end

/-- A set that is made of another one, of its plain copy, or by copying is that set, order of names included. With its
    plain copy for parameters a bundle can be made for either side at any later time, and it has that set there. With
    two plain copies a bundle for encryption has the first and embeds the second, and decrypts nothing itself. -/
theorem rebuilt_from_plain (p q : ParameterSet) (c : Context) :
    exec (Session.Operation.parameterSet.build [(0, .parameters p)]) c = (.ok (.parameters p), c) ∧
    exec (Session.copied (.parameters p)) c = (.ok (.parameters p), c) ∧
    ∃ t c₁, exec (Session.apply (.parameters p) "as_dict" []) c = (.ok t, c₁) ∧ IsPlainCopy p t ∧
    ∃ u c₂, exec (Session.apply (.parameters q) "as_dict" []) c₁ = (.ok u, c₂) ∧ IsPlainCopy q u ∧
    ∀ c : Context,
      exec (Session.Operation.parameterSet.build [(0, t)]) c = (.ok (.parameters p), c) ∧
      (∃ b c', exec (Session.Operation.initEncryption.build [(0, t)]) c = (.ok (.cryptoConfig b), c') ∧
        b.encryptConfig.parameters = p) ∧
      (∃ b c', exec (Session.Operation.initDecryption.build [(0, t)]) c = (.ok (.cryptoConfig b), c') ∧
        b.decryptConfig.parameters = p) ∧
      ∃ b c', exec (Session.Operation.initEncryption.build [(0, t), (1, u)]) c = (.ok (.cryptoConfig b), c') ∧
        b.encryptConfig.parameters = p ∧ b.encryptConfig.decryptConfig.parameters = q ∧ b.decryption = none := by
  obtain ⟨t, c₁, written, copy⟩ := exec_asTable p c
  obtain ⟨u, c₂, written', copy'⟩ := exec_asTable q c₁
  have again : exec (Session.Operation.parameterSet.build [(0, .parameters p)]) c = (.ok (.parameters p), c) :=
    exec_bind_ok (exec_parameterSet_parameters p c) _
  have copied : exec (Session.copied (.parameters p)) c = (.ok (.parameters p), c) := by
    rw [copied_own (.parameters p)]
    rfl
  refine ⟨again, copied, t, c₁, written, copy, u, c₂, written', copy', fun c => ⟨?_, ?_, ?_, ?_⟩⟩
  · obtain ⟨id, es, rfl, held⟩ := copy.hasEntries
    exact exec_bind_ok (exec_parameterSet_of_hasEntries held id c) _
  · exact exec_initEncryption copy c
  · exact exec_initDecryption copy c
  · exact exec_initEncryption_more copy copy' c

end KeyBundle
