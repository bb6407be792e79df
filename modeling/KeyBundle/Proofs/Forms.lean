/-
  KeyBundle.Proofs.Forms — the form in which key material is given does not matter.

  Bytes may come in each of their forms, and a sequence of blobs as a tuple, a list or a stream, or as nothing when it
  is empty (`SameBlob`, `SameSequence`); a mapping may hold its sequences in any form (`SameMapping`).
  (1) Reading a field comes to the same for all forms of its value, refusals included, and leaves other streams alone
      (`alongside_field`). So does reading a mapping, entry after entry (`alongside_entries`).
  (2) So two calls whose arguments differ in form only stay alongside each other, for every constructor
      (`Call.alongside_build`), and nobody can tell what comes of them apart (`Call.same_outcome`).
-/

import KeyBundle.Proofs.Alongside
import KeyBundle.Proofs.Sameness
import KeyBundle.Value.Text

namespace KeyBundle

open Build

/-! ## Forms -/

/-- The same value, or bytes with the same content. -/
def SameBlob (v w : Value) : Prop := v = w ∨ ∃ b, v.blob? = some b ∧ w.blob? = some b

/-- The forms in which items may be given. Nothing stands for no items. -/
inductive Lists : Value → List Value → Prop
  | nothing : Lists .none []
  | tuple (xs : List Value) : Lists (.tuple xs) xs
  | list (id : Nat) (xs : List Value) : Lists (.list id xs) xs
  | stream (id : Nat) (xs : List Value) : Lists (.stream id xs) xs

/-- One blob in two forms, or forms of two sequences with the same items in their order. -/
def SameSequence (v w : Value) : Prop := SameBlob v w ∨ ∃ xs ys, Lists v xs ∧ Lists w ys ∧ List.Forall₂ SameBlob xs ys

/-- The same value, or mappings with the same keys in the same order and forms of the same sequences under them. -/
def SameMapping (v w : Value) : Prop :=
  v = w ∨ ∃ i j es fs, v = .table i es ∧ w = .table j fs ∧
    List.Forall₂ (fun e f => e.1 = f.1 ∧ SameSequence e.2 f.2) es fs

theorem SameBlob.refl (v : Value) : SameBlob v v := .inl rfl

theorem SameSequence.refl (v : Value) : SameSequence v v := .inl (.refl v)

/-- The stream that going through a value reads. -/
def Value.streams : Value → List Nat
  | .stream id _ | .generator id .. => [id]
  | _ => []

/-- The streams that reading a mapping goes through. -/
def entryStreams (es : List (Value × Value)) : List Nat := es.flatMap fun e => e.2.streams

def Value.mappingStreams : Value → List Nat
  | .table _ es => entryStreams es
  | _ => []

/-! ## (1) Reading -/

section

variable {c d : Context} {v w : Value} {xs ys : List Value} {field : String}

theorem mapM_blob_congr (h : List.Forall₂ SameBlob xs ys) (field : String) :
    xs.mapM (blob field) = ys.mapM (blob field) := by
  induction h with
  | nil => rfl
  | @cons x y xs ys hxy _ ih =>
    have same : blob field x = blob field y := by
      obtain rfl | ⟨b, hx, hy⟩ := hxy
      · rfl
      · rw [blob, blob, hx, hy]
    rw [List.mapM_cons, List.mapM_cons, ih, same]

theorem upcoming_of_lists (h : Lists v xs) (given : v ≠ .none) (unread : ∀ i ∈ v.streams, drawnFrom c i = 0) :
    upcoming c v = some xs := by
  cases h with
  | nothing => exact absurd rfl given
  | stream id xs => rw [upcoming, unread id (List.mem_singleton_self id), List.drop_zero]
  | _ => rfl

theorem result_field_of_lists (h : Lists v xs) (unread : ∀ i ∈ v.streams, drawnFrom c i = 0) (field : String) :
    (exec (Build.field field v) c).1 = (xs.mapM (blob field)).mapError (reported badArgument) := by
  by_cases given : v = .none
  · subst given
    cases h
    rfl
  · have several : isSingleValue v = false := by
      cases h with
      | nothing => exact absurd rfl given
      | _ => rfl
    have come := upcoming_of_lists h given unread
    rw [exec_field_several field given several, raising?_of_upcoming come, come]
    rfl

theorem result_field_of_blob {b : Blob} (h : v.blob? = some b) (field : String) :
    (exec (Build.field field v) c).1 = .error (badArgument (.singleValue field)) := by
  have single : isSingleValue v = true := by cases v <;> first | rfl | cases h
  rw [exec_field_single field single]

/-- Unread streams give the same items in all contexts, and raise the same after them. -/
theorem upcoming_congr (hc : ∀ i ∈ v.streams, drawnFrom c i = 0) (hd : ∀ i ∈ v.streams, drawnFrom d i = 0) :
    upcoming c v = upcoming d v ∧ raising? c v = raising? d v := by
  have same : ∀ i ∈ v.streams, drawnFrom c i = drawnFrom d i := fun i hi => (hc i hi).trans (hd i hi).symm
  cases v with
  | stream id xs | generator id _ xs =>
    have := same id (List.mem_singleton_self id)
    simp only [upcoming, raising?, this, and_self]
  | _ => exact ⟨rfl, rfl⟩

theorem result_field (h : SameSequence v w) (hv : ∀ i ∈ v.streams, drawnFrom c i = 0)
    (hw : ∀ i ∈ w.streams, drawnFrom d i = 0) (field : String) :
    (exec (Build.field field v) c).1 = (exec (Build.field field w) d).1 := by
  obtain (rfl | ⟨b, hb, hb'⟩) | ⟨xs, ys, hxs, hys, items⟩ := h
  · obtain ⟨same, ending⟩ := upcoming_congr hv hw
    by_cases given : v = .none
    · subst given
      rfl
    · cases hs : isSingleValue v with
      | true => rw [exec_field_single field hs, exec_field_single field hs]
      | false => rw [exec_field_several field given hs, exec_field_several field given hs, same, ending]
  · rw [result_field_of_blob hb, result_field_of_blob hb']
  · rw [result_field_of_lists hxs hv, result_field_of_lists hys hw, mapM_blob_congr items]

/-- Going through a value does not read other streams. -/
theorem drawnFrom_past {i : Nat} (h : i ∉ v.streams) : drawnFrom (c.past v) i = drawnFrom c i := by
  have kept (l : List (Nat × Nat)) (id : Nat) (ne : i ≠ id) : (l.filter (·.1 != id)).lookup i = l.lookup i := by
    induction l with
    | nil => rfl
    | cons e l ih =>
      obtain ⟨j, k⟩ := e
      by_cases hj : j = id
      · rw [List.filter_cons_of_neg (by simp [hj]), ih, lookup_pair_cons, if_neg (hj ▸ ne)]
      · rw [List.filter_cons_of_pos (by simp [hj]), lookup_pair_cons, lookup_pair_cons, ih]
  cases v with
  | stream id xs | generator id _ xs =>
    have ne : i ≠ id := fun same => h (same ▸ List.mem_singleton_self id)
    simp only [drawnFrom, Context.past, lookup_pair_cons, if_neg ne, kept _ _ ne]
  | _ => rfl

theorem Unread.past {rest : List Nat} (h : Unread (v.streams ++ rest) c) : Unread rest (c.past v) where
  distinct := (List.nodup_append.mp h.distinct).2.1
  untouched i hi := by
    rw [drawnFrom_past fun hv => (List.nodup_append.mp h.distinct).2.2 i hv i hi rfl]
    exact h.untouched i (List.mem_append_right _ hi)

theorem alongside_field (h : SameSequence v w) (name : String) :
    Alongside v.streams w.streams (Build.field name v) (Build.field name w) := by
  intro m n rest rest' c d between
  refine ⟨result_field h (fun i hi => between.left.untouched i (List.mem_append_left _ hi))
    (fun i hi => between.right.untouched i (List.mem_append_left _ hi)) name, ?_⟩
  rw [context_field, context_field]
  exact ⟨between.settled, between.noted, between.left.past, between.right.past⟩

theorem alongside_twoFields {v' w' : Value} (h : SameSequence v w) (h' : SameSequence v' w') (first second : String)
    (f : List Blob → List Blob → Scheme) : Alongside (v.streams ++ v'.streams) (w.streams ++ w'.streams)
      (do let (xs, ys) ← twoFields first second v v'; return f xs ys)
      (do let (xs, ys) ← twoFields first second w w'; return f xs ys) :=
  Alongside.bind_quiet ((alongside_field h first).bind fun xs => (alongside_field h' second).map fun ys => (xs, ys))
    fun both => .pure [] [] (f both.1 both.2)

theorem keyring_congr (h : SameBlob v w) : keyring v = keyring w := by
  obtain rfl | ⟨b, hv, hw⟩ := h
  · rfl
  · have read {u : Value} (hu : u.blob? = some b) : keyring u = .ok b := by
      cases u <;> cases hu <;> rfl
    rw [read hv, read hw]

theorem alongside_entries {es fs : List (Value × Value)}
    (h : List.Forall₂ (fun e f => e.1 = f.1 ∧ SameSequence e.2 f.2) es fs) (p : ParameterSet) :
    Alongside (entryStreams es) (entryStreams fs) (es.foldlM addEntry p) (fs.foldlM addEntry p) := by
  induction h generalizing p with
  | nil => exact .pure [] [] p
  | @cons e f es fs hef _ ih =>
    obtain ⟨k, v⟩ := e
    obtain ⟨_, w⟩ := f
    obtain ⟨rfl, same⟩ := hef
    rw [List.foldlM_cons, List.foldlM_cons]
    refine Alongside.bind ?_ ih
    exact (Alongside.refused badArgument (name k)).bind fun n => (alongside_field same n.val).map fun bs =>
      p.put n.val n.property bs

/-- What is no mapping has no entries if it counts as no, and is refused otherwise. -/
theorem entriesOf_other (noTable : ∀ i es, v ≠ .table i es) (noParameters : ∀ p, v ≠ .parameters p) :
    entriesOf v = .ok [] ∨ ∃ f, entriesOf v = .error f := by
  unfold entriesOf
  split
  · cases v with
    | table i es => exact absurd rfl (noTable i es)
    | parameters p => exact absurd rfl (noParameters p)
    | _ => exact .inr ⟨_, rfl⟩
  · exact .inl rfl

theorem alongside_other (noTable : ∀ i es, v ≠ .table i es) (noParameters : ∀ p, v ≠ .parameters p) :
    Alongside [] [] (asParameterSet v) (asParameterSet v) := by
  have reads : asParameterSet v = parameterSet v := by
    cases v with
    | parameters p => exact absurd rfl (noParameters p)
    | _ => rfl
  rw [reads, parameterSet]
  obtain none | ⟨f, refused⟩ := entriesOf_other noTable noParameters
  · rw [none]
    exact .pure [] [] ParameterSet.empty
  · rw [refused]
    exact .throw [] [] f

theorem alongside_asParameterSet (h : SameMapping v w) :
    Alongside v.mappingStreams w.mappingStreams (asParameterSet v) (asParameterSet w) := by
  have table {i j : Nat} {es fs : List (Value × Value)}
      (h : List.Forall₂ (fun e f => e.1 = f.1 ∧ SameSequence e.2 f.2) es fs) :
      Alongside (entryStreams es) (entryStreams fs) (asParameterSet (.table i es)) (asParameterSet (.table j fs)) := by
    intro m n rest rest' c d between
    change (exec (parameterSet (.table i es)) c).1 = (exec (parameterSet (.table j fs)) d).1 ∧
      Match m n rest rest' (exec (parameterSet (.table i es)) c).2 (exec (parameterSet (.table j fs)) d).2
    rw [exec_parameterSet, exec_parameterSet]
    exact alongside_entries h .empty m n rest rest' c d between
  obtain rfl | ⟨i, j, es, fs, rfl, rfl, entries⟩ := h
  · cases v with
    | table i es => exact table (List.forall₂_same.mpr fun e _ => ⟨rfl, .refl e.2⟩)
    | parameters p => exact .pure [] [] p
    | _ => exact alongside_other nofun nofun
  · exact table entries

theorem alongside_rawScheme (h : SameMapping v w) (side : Direction) :
    Alongside v.mappingStreams w.mappingStreams (rawScheme side v) (rawScheme side w) := by
  rw [rawScheme_eq, rawScheme_eq]
  exact (alongside_asParameterSet h).map _

theorem truthy_congr (h : SameMapping v w) : v.truthy = w.truthy := by
  obtain rfl | ⟨i, j, es, fs, rfl, rfl, entries⟩ := h
  · rfl
  · cases entries <;> rfl

end

/-! ## (2) Calls -/

/-- What an argument of a constructor is. -/
inductive Place where
  | sequence
  | keyring
  | mapping
  | other

/-- The places of the arguments of the constructors. -/
def place : Assembly.Constructor → Nat → Place
  | .encryptWithJwe, 0 | .encryptWithPkcs7, 0 | .encryptWithGpg, 0 | .encryptWithPkcs11, 0 | .encryptWithPkcs11, 1
  | .decryptWithPrivateKeys, 0 | .decryptWithPrivateKeys, 1 | .decryptWithX509s, 0 | .decryptWithGpgPrivateKeys, 0
  | .decryptWithGpgPrivateKeys, 1 | .decryptWithPkcs11, 0 | .decryptWithPkcs11, 1 => .sequence
  | .encryptWithGpg, 1 => .keyring
  | .initEncryption, 0 | .initEncryption, 1 | .initDecryption, 0 => .mapping
  | _, _ => .other

namespace Place

/-- Two values differ in their form only, as far as the form is free in this place. -/
def Same : Place → Value → Value → Prop
  | sequence => SameSequence
  | keyring => SameBlob
  | mapping => SameMapping
  | other => Eq

/-- The streams that are read in this place. -/
def streams : Place → Value → List Nat
  | sequence, v => v.streams
  | mapping, v => v.mappingStreams
  | _, _ => []

end Place

namespace Call

variable {k l : Call}

/-- Calls of one constructor with arguments that differ in their form only. -/
structure SameArguments (k l : Call) : Prop where
  kind : k.kind = l.kind
  args : ∀ n, (place k.kind n).Same (k.arg n) (l.arg n)

/-- The streams among the arguments, in the order in which they are read. -/
def streams (k : Call) : List Nat := (place k.kind 0).streams (k.arg 0) ++ (place k.kind 1).streams (k.arg 1)

theorem alongside_schemeFor (d : Direction) (v : Value) : Alongside [] [] (schemeFor d v) (schemeFor d v) := by
  unfold schemeFor
  split
  · split
    · exact .pure [] [] _
    · exact .throw [] [] _
  · exact .throw [] [] _

/-- The schemes are made alongside each other; only one constructor reads more streams afterwards. -/
theorem alongside_scheming (h : SameArguments k l) (whole : k.kind ≠ .initEncryption) :
    Alongside k.streams l.streams k.scheming l.scheming := by
  obtain ⟨kind, args, context⟩ := k
  obtain ⟨_, args', context'⟩ := l
  obtain ⟨rfl, same⟩ := h
  have first := same 0
  have second := same 1
  cases kind
  case encryptWithJwe | encryptWithPkcs7 | decryptWithX509s => exact ((alongside_field first _).map _).append_nil
  case encryptWithGpg =>
    refine Alongside.append_nil ((alongside_field first _).bind_quiet fun rs => ?_)
    rw [keyring_congr second]
    exact (Alongside.refused _ _).map _
  case encryptWithPkcs11 | decryptWithPrivateKeys | decryptWithGpgPrivateKeys | decryptWithPkcs11 =>
    exact alongside_twoFields first second _ _ _
  case encryptWithScheme | decryptWithScheme =>
    change Alongside [] [] (schemeFor _ (args.get 0)) (schemeFor _ (args'.get 0))
    rw [show args.get 0 = args'.get 0 from first]
    exact alongside_schemeFor _ _
  case initEncryption => exact absurd rfl whole
  case initDecryption => exact (alongside_rawScheme first _).append_nil

theorem bound_congr (h : SameArguments k l) : k.bound = l.bound := by
  obtain ⟨kind, args, context⟩ := k
  obtain ⟨_, args', context'⟩ := l
  obtain ⟨rfl, same⟩ := h
  cases kind
  case encryptWithScheme => exact same 1
  case encryptWithPkcs11 => exact same 2
  all_goals rfl

theorem finish_eq_pure (whole : k.kind ≠ .initEncryption) (b : CryptoConfig) : k.finish b = pure b := by
  obtain ⟨kind, args, context⟩ := k
  cases kind
  case initEncryption => exact absurd rfl whole
  all_goals rfl

section

variable {args args' : Session.Arguments} {context context' : Context}

theorem finish_more (h : (args.get 1).truthy = true) (b : CryptoConfig) : finish ⟨.initEncryption, args, context⟩ b = do
    let t ← rawScheme .decrypt (args.get 1)
    return ⟨b.encryptConfig.withDecryptConfig (.ofSchemes [t]), b.decryptConfig⟩ := if_pos h

theorem finish_none (h : (args.get 1).truthy = false) (b : CryptoConfig) :
    finish ⟨.initEncryption, args, context⟩ b = pure b := if_neg (Bool.eq_false_iff.mp h)

/-- Material to embed is read after the notice has been given. -/
theorem alongside_finish (h : SameMapping (args.get 1) (args'.get 1)) (b : CryptoConfig) :
    Alongside (args.get 1).mappingStreams (args'.get 1).mappingStreams
      (finish ⟨.initEncryption, args, context⟩ b) (finish ⟨.initEncryption, args', context'⟩ b) := by
  have same := truthy_congr h
  cases more : (args'.get 1).truthy with
  | true =>
    rw [finish_more (same.trans more), finish_more more]
    exact (alongside_rawScheme h _).map _
  | false =>
    rw [finish_none (same.trans more), finish_none more]
    exact .pure _ _ b

end

/-- Calls that differ in the form of their arguments stay alongside each other. -/
theorem alongside_build (h : SameArguments k l) :
    Alongside k.streams l.streams (k.kind.operation.build k.args) (l.kind.operation.build l.args) := by
  rw [build_eq, build_eq]
  refine Alongside.map ?_ Value.cryptoConfig
  by_cases whole : k.kind = .initEncryption
  · obtain ⟨_, args, context⟩ := k
    obtain ⟨_, args', context'⟩ := l
    cases whole
    obtain ⟨rfl, same⟩ := h
    exact (alongside_rawScheme (same 0) .encrypt).bind fun s =>
      (alongside_announce s .none).bind fun b => alongside_finish (same 1) b
  · have whole' : l.kind ≠ .initEncryption := h.kind ▸ whole
    simp only [finish_eq_pure whole, finish_eq_pure whole', bind_pure, bound_congr h]
    exact (alongside_scheming h whole).bind_quiet fun s => alongside_announce s _

/-- Nobody can tell the outcomes apart: refusals of one class with one message, or bundles that are equal and have one
    digest and one shown form. -/
inductive SameOutcome : Except Fault Value → Except Fault Value → Prop
  | refused {f g : Fault} (className : f.className = g.className) (message : f.message = g.message) :
      SameOutcome (.error f) (.error g)
  | made {a b : CryptoConfig} {digest : UInt64} (equal : Value.equal (.cryptoConfig a) (.cryptoConfig b) = true)
      (left : (Value.cryptoConfig a).digest = .ok digest) (right : (Value.cryptoConfig b).digest = .ok digest)
      (shown : (Value.cryptoConfig a).shown = (Value.cryptoConfig b).shown) :
      SameOutcome (.ok (.cryptoConfig a)) (.ok (.cryptoConfig b))

/-- Two calls of one constructor by the same settings have the same outcome and give the same notices, when their
    arguments differ only in the form of blobs and of sequences of blobs and no stream comes twice or has been read. -/
theorem same_outcome (h : SameArguments k l) (settings : k.context.settled = l.context.settled)
    (fresh : Unread k.streams k.context) (fresh' : Unread l.streams l.context) :
    SameOutcome (exec (k.kind.operation.build k.args) k.context).1 (exec (l.kind.operation.build l.args) l.context).1 ∧
      ∃ ns, (exec (k.kind.operation.build k.args) k.context).2.notices = k.context.notices ++ ns ∧
        (exec (l.kind.operation.build l.args) l.context).2.notices = l.context.notices ++ ns := by
  have start : Match k.context.notices l.context.notices (k.streams ++ []) (l.streams ++ []) k.context l.context := by
    rw [List.append_nil, List.append_nil]
    exact ⟨settings, ⟨[], by simp⟩, fresh, fresh'⟩
  obtain ⟨same, after⟩ := alongside_build h _ _ [] [] _ _ start
  refine ⟨?_, after.noted⟩
  rw [← same]
  rcases hx : exec (k.kind.operation.build k.args) k.context with ⟨f | v, c⟩
  · exact .refused rfl rfl
  · obtain ⟨b, rfl⟩ := exists_of_gives ⟨c, hx⟩
    have digest : (Value.cryptoConfig b).digest = .ok b.digest := by simp [Value.digest]
    exact .made (by rw [Value.equal_cryptoConfig, b.same_refl]) digest digest rfl

/-- A key with its password as a stream and a list, and as a tuple and a list of other bytes; and no key as nothing and
    as an empty list, which is refused because there is a password. -/
theorem same_outcome_keys :
    let call (keys passwords : Value) : Call := ⟨.decryptWithPrivateKeys, [(0, keys), (1, passwords)], .start [] .ofString⟩
    let streamed := call (.stream 0 [.bytes [1]]) (.list 1 [.bytes [2]])
    let written := call (.tuple [.buffer 2 [1]]) (.list 3 [.view 4 1 [2]])
    let nothing := call .none (.stream 0 [.bytes [2]])
    let empty := call (.list 1 []) (.tuple [.view 4 1 [2]])
    let outcome (k : Call) := (exec (k.kind.operation.build k.args) k.context).1
    (SameOutcome (outcome streamed) (outcome written) ∧ (outcome written).isOk = true) ∧
      SameOutcome (outcome nothing) (outcome empty) ∧ (outcome empty).isOk = false := by
  intro call streamed written nothing empty outcome
  have alike {v w v' w' : Value} (h : SameSequence v w) (h' : SameSequence v' w') :
      SameArguments (call v v') (call w w') := by
    refine ⟨rfl, fun n => ?_⟩
    rcases n with _ | _ | n
    · exact h
    · exact h'
    · rfl
  have keys : SameSequence (.stream 0 [.bytes [1]]) (.tuple [.buffer 2 [1]]) :=
    .inr ⟨_, _, .stream .., .tuple _, .cons (.inr ⟨_, rfl, rfl⟩) .nil⟩
  have passwords : SameSequence (.list 1 [.bytes [2]]) (.list 3 [.view 4 1 [2]]) :=
    .inr ⟨_, _, .list .., .list .., .cons (.inr ⟨_, rfl, rfl⟩) .nil⟩
  have noKeys : SameSequence .none (.list 1 []) := .inr ⟨_, _, .nothing, .list .., .nil⟩
  have password : SameSequence (.stream 0 [.bytes [2]]) (.tuple [.view 4 1 [2]]) :=
    .inr ⟨_, _, .stream .., .tuple _, .cons (.inr ⟨_, rfl, rfl⟩) .nil⟩
  have fresh (ids : List Nat) (h : ids.Nodup) : Unread ids (.start [] .ofString) := ⟨h, fun _ _ => rfl⟩
  refine ⟨⟨(same_outcome (alike keys passwords) rfl (fresh [0] (by decide)) (fresh [] (by decide))).1, by decide +kernel⟩,
    (same_outcome (alike noKeys password) rfl (fresh [0] (by decide)) (fresh [] (by decide))).1, by decide +kernel⟩

end Call

end KeyBundle
