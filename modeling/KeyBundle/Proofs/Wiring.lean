/-
  KeyBundle.Proofs.Wiring — which class of schemes fills which of the engine's parameters.

  Every field of a class of schemes has a name of its own among the names of its direction (`Wire.rows`,
  `Wire.owner_unique`). From that:
  (1) One scheme fills the names of its class, each with the blobs of the field (`Scheme.blobs_parameters`), so its
      parameters tell its class and its fields (`equal_parameters_iff`). Names without blobs count here: schemes
      of two classes with no blobs at all differ in their names only.
  (2) A sequence of schemes of one direction fills the names of the classes that occur, and under each name nothing is
      but the blobs of the schemes of one class, in the order of the sequence (`Wire.fills_parametersOf`). How the
      classes alternate makes no difference (`parameters_by_class`).
-/

import KeyBundle.Build.Bundles
import KeyBundle.Proofs.Pairing
import KeyBundle.Proofs.Sameness

namespace KeyBundle

open Build

namespace Wire

/-- A field of a class of schemes, and the name of the parameter for it. -/
structure Row where
  side : Direction
  className : String
  field : String
  name : String
  deriving DecidableEq

/-- What the engine is handed, class by class. -/
def rows : List Row := [
  ⟨.encrypt, "JweRecipients", "pubkeys", "pubkeys"⟩,
  ⟨.encrypt, "Pkcs7Recipients", "x509s", "x509s"⟩,
  ⟨.encrypt, "GpgRecipients", "recipients", "gpg-recipients"⟩,
  ⟨.encrypt, "GpgRecipients", "pubkeyring", "gpg-pubkeyringfile"⟩,
  ⟨.encrypt, "Pkcs11Recipients", "modules", "modules"⟩,
  ⟨.encrypt, "Pkcs11Recipients", "pins", "pins"⟩,
  ⟨.decrypt, "PrivateKeys", "privkeys", "privkeys"⟩,
  ⟨.decrypt, "PrivateKeys", "passwords", "privkeys-passwords"⟩,
  ⟨.decrypt, "X509Certificates", "x509s", "x509s"⟩,
  ⟨.decrypt, "GpgPrivateKeys", "privkeys", "gpg-privatekeys"⟩,
  ⟨.decrypt, "GpgPrivateKeys", "passwords", "gpg-privatekeys-passwords"⟩,
  ⟨.decrypt, "Pkcs11Modules", "modules", "modules"⟩,
  ⟨.decrypt, "Pkcs11Modules", "pins", "pins"⟩]

/-- Within a direction no name is used twice. -/
theorem owner_unique : ∀ r ∈ rows, ∀ q ∈ rows, r.side = q.side → r.name = q.name → r = q := by decide

end Wire

/-! ## (1) One scheme -/

/-- Blobs by themselves or in a sequence. -/
def Value.blobsIn : Value → List Blob
  | .tuple xs => xs.filterMap Value.blob?
  | v => v.blob?.toList

theorem Value.blobsIn_ofBlobs (bs : List Blob) : (Value.ofBlobs bs).blobsIn = bs := by
  rw [ofBlobs, blobsIn, List.filterMap_map]
  exact List.filterMap_some

theorem Value.blobsIn_bytes (b : Blob) : (Value.bytes b).blobsIn = [b] := rfl

namespace Scheme

/-- The blobs in a field. -/
def fieldBlobs (s : Scheme) (field : String) : List Blob :=
  (((Value.scheme s).fields.lookup field).map Value.blobsIn).getD []

/-- The rows of the scheme's class. -/
def rows (s : Scheme) : List Wire.Row := Wire.rows.filter fun r => r.side = s.direction ∧ r.className = s.className

theorem entries_pair {first second : String} (h : isName first = true) (xs : List Blob) (k : isName second = true)
    (ys : List Blob) (distinct : first ≠ second) :
    (pair first h xs second k ys).entries = [(first, xs), (second, ys)] := by
  simp [pair, single, ParameterSet.put, ParameterSet.empty, Entries.update, distinct]

variable {s t : Scheme} {r : Wire.Row}

theorem mem_rows : r ∈ s.rows ↔ r ∈ Wire.rows ∧ r.side = s.direction ∧ r.className = s.className := by
  simp [rows]

theorem entries_parameters (hs : s.isTyped = true) :
    s.parameters.entries = s.rows.map fun r => (r.name, s.fieldBlobs r.field) := by
  cases s with
  | custom => cases hs
  | jweRecipients | pkcs7Recipients | x509Certificates =>
    simp [rows, Wire.rows, direction, className, fieldBlobs, Value.fields, Value.blobsIn_ofBlobs]
    rfl
  | _ =>
    rw [parameters, entries_pair _ _ _ _ (by decide)]
    simp [rows, Wire.rows, direction, className, fieldBlobs, Value.fields, Value.blobsIn_ofBlobs, Value.blobsIn_bytes,
      lookup_pair_cons]
    exact ⟨rfl, rfl⟩

theorem mem_names_parameters (hs : s.isTyped = true) {n : String} :
    n ∈ s.parameters.names ↔ ∃ r ∈ s.rows, r.name = n := by
  rw [ParameterSet.names, entries_parameters hs]
  simp [Entries.names]

/-- Under a name of its direction a scheme has the blobs of the field if its class owns the name, or else nothing. -/
theorem blobs_parameters (hs : s.isTyped = true) (hr : r ∈ Wire.rows) (side : r.side = s.direction) :
    s.parameters.blobs r.name = if s.className = r.className then s.fieldBlobs r.field else [] := by
  by_cases own : s.className = r.className
  · rw [if_pos own]
    have entry : (r.name, s.fieldBlobs r.field) ∈ s.parameters.entries := by
      rw [entries_parameters hs]
      exact List.mem_map_of_mem (mem_rows.mpr ⟨hr, side, own.symm⟩)
    exact (ParameterSet.mem_entries_iff.mp entry).2
  · rw [if_neg own]
    refine Entries.blobs_of_not_mem fun filled => own ?_
    obtain ⟨q, hq, name⟩ := (mem_names_parameters hs).mp filled
    obtain ⟨hq, sideq, ownq⟩ := mem_rows.mp hq
    rw [Wire.owner_unique r hr q hq (side.trans sideq.symm) name.symm, ownq]

theorem exists_row (hs : s.isTyped = true) : ∃ r, r ∈ s.rows := by
  cases s with
  | custom => cases hs
  | _ => exact List.exists_mem_of_ne_nil _ (List.cons_ne_nil _ _)

/-- Nothing but class and fields tells schemes apart. -/
theorem eq_of_fieldBlobs (hs : s.isTyped = true) (class_eq : s.className = t.className)
    (fields : ∀ r ∈ s.rows, s.fieldBlobs r.field = t.fieldBlobs r.field) : s = t := by
  cases s with
  | custom => cases hs
  | _ =>
    cases t <;> simp [className] at class_eq
    simp [rows, Wire.rows, direction, className, fieldBlobs, Value.fields, Value.blobsIn_ofBlobs, Value.blobsIn_bytes,
      lookup_pair_cons] at fields
    simp [fields]

theorem same_iff_eq (hs : s.isTyped = true) : s.same t = true ↔ s = t := by
  rw [same_iff]
  constructor
  · rintro (rfl | ⟨_, _, _, _, rfl, -, -⟩)
    · rfl
    · cases hs
  · exact .inl

/-- Schemes of one direction that fill the same names are of one class, also where no blob is under a name. -/
theorem className_eq_of_names (hs : s.isTyped = true) (ht : t.isTyped = true) (side : s.direction = t.direction)
    (names : ∀ n, n ∈ s.parameters.names ↔ n ∈ t.parameters.names) : s.className = t.className := by
  obtain ⟨r, hr⟩ := exists_row hs
  obtain ⟨q, hq, name⟩ := (mem_names_parameters ht).mp ((names r.name).mp ((mem_names_parameters hs).mpr ⟨r, hr, rfl⟩))
  obtain ⟨hr, sider, ownr⟩ := mem_rows.mp hr
  obtain ⟨hq, sideq, ownq⟩ := mem_rows.mp hq
  have row : r = q := Wire.owner_unique r hr q hq (sider.trans (side.trans sideq.symm)) name.symm
  rw [← ownr, ← ownq, row]

theorem eq_of_parameters (hs : s.isTyped = true) (ht : t.isTyped = true) (side : s.direction = t.direction)
    (h : s.parameters.same t.parameters = true) : s = t := by
  obtain ⟨names, hb⟩ := ParameterSet.same_iff.mp h
  have class_eq := className_eq_of_names hs ht side names
  refine eq_of_fieldBlobs hs class_eq fun r hr => ?_
  obtain ⟨hr, sider, ownr⟩ := mem_rows.mp hr
  have under := hb r.name
  rwa [blobs_parameters hs hr sider, blobs_parameters ht hr (sider.trans side), if_pos ownr.symm,
    if_pos (class_eq.symm.trans ownr.symm)] at under

end Scheme

/-- Schemes of one direction are equal if their parameters are, and if their classes and their fields are. -/
theorem equal_parameters_iff {s t : Scheme} (hs : s.isTyped = true) (ht : t.isTyped = true)
    (side : s.direction = t.direction) :
    (Value.equal (.parameters s.parameters) (.parameters t.parameters) = true ↔
        Value.equal (.scheme s) (.scheme t) = true) ∧
      (Value.equal (.scheme s) (.scheme t) = true ↔
        s.className = t.className ∧ (Value.scheme s).fields = (Value.scheme t).fields) := by
  rw [Value.equal_parameters, Value.equal_scheme, Scheme.same_iff_eq hs]
  refine ⟨⟨Scheme.eq_of_parameters hs ht side, ?_⟩, ⟨?_, ?_⟩⟩
  · rintro rfl
    exact ParameterSet.same_refl _
  · rintro rfl
    exact ⟨rfl, rfl⟩
  · rintro ⟨class_eq, fields⟩
    refine Scheme.eq_of_fieldBlobs hs class_eq fun r _ => ?_
    rw [Scheme.fieldBlobs, fields, Scheme.fieldBlobs]

/-- Keys for envelopes and certificates, none of either. -/
theorem equal_parameters_iff_none :
    let s : Scheme := .jweRecipients []
    let t : Scheme := .pkcs7Recipients []
    s.isTyped = true ∧ t.isTyped = true ∧ s.direction = t.direction ∧
      (Value.equal (.parameters s.parameters) (.parameters t.parameters) = true ↔
        Value.equal (.scheme s) (.scheme t) = true) ∧
      (Value.equal (.scheme s) (.scheme t) = true ↔
        s.className = t.className ∧ (Value.scheme s).fields = (Value.scheme t).fields) :=
  ⟨rfl, rfl, rfl, equal_parameters_iff rfl rfl rfl⟩

/-! ## (2) Sequences of schemes -/

namespace Wire

/-- The parameters have the names of the classes that occur among the schemes, each the name of one class only, and
    under it the blobs in the field of the schemes of that class, one scheme after the other. -/
structure Fills (d : Direction) (ss : List Scheme) (p : ParameterSet) : Prop where
  names (n : String) : n ∈ p.names ↔ ∃ r ∈ rows, r.side = d ∧ r.name = n ∧ ∃ s ∈ ss, s.className = r.className
  owner : ∀ n ∈ p.names, ∃! r, r ∈ rows ∧ r.side = d ∧ r.name = n
  blobs : ∀ r ∈ rows, r.side = d →
    p.blobs r.name = (ss.filter (·.className = r.className)).flatMap (·.fieldBlobs r.field)

variable {d : Direction} {ss ts : List Scheme} {p q : ParameterSet}

theorem fills_parametersOf (h : ∀ s ∈ ss, s.isTyped = true ∧ s.direction = d) : Fills d ss (parametersOf ss) := by
  have names (n : String) : n ∈ (parametersOf ss).names ↔
      ∃ r ∈ rows, r.side = d ∧ r.name = n ∧ ∃ s ∈ ss, s.className = r.className := by
    rw [mem_names_parametersOf]
    constructor
    · rintro ⟨s, hs, hn⟩
      obtain ⟨r, hr, name⟩ := (Scheme.mem_names_parameters (h s hs).1).mp hn
      obtain ⟨hr, side, own⟩ := Scheme.mem_rows.mp hr
      exact ⟨r, hr, side.trans (h s hs).2, name, s, hs, own.symm⟩
    · rintro ⟨r, hr, side, name, s, hs, own⟩
      have row : r ∈ s.rows := Scheme.mem_rows.mpr ⟨hr, side.trans (h s hs).2.symm, own.symm⟩
      exact ⟨s, hs, (Scheme.mem_names_parameters (h s hs).1).mpr ⟨r, row, name⟩⟩
  refine ⟨names, fun n hn => ?_, fun r hr side => ?_⟩
  · obtain ⟨r, hr, side, name, -⟩ := (names n).mp hn
    refine ⟨r, ⟨hr, side, name⟩, fun q hq => ?_⟩
    exact owner_unique q hq.1 r hr (hq.2.1.trans side.symm) (hq.2.2.trans name.symm)
  · rw [blobs_parametersOf]
    clear names
    induction ss with
    | nil => rfl
    | cons s ss ih =>
      obtain ⟨⟨typed, direction⟩, rest⟩ := List.forall_mem_cons.mp h
      rw [List.flatMap_cons, ih rest, Scheme.blobs_parameters typed hr (side.trans direction.symm)]
      by_cases own : s.className = r.className
      · rw [if_pos own, List.filter_cons_of_pos (by simpa using own), List.flatMap_cons]
      · rw [if_neg own, List.filter_cons_of_neg (by simpa using own), List.nil_append]

/-- What is filled depends on the schemes of each class only, not on how the classes alternate. -/
theorem Fills.same (hp : Fills d ss p) (hq : Fills d ts q)
    (alike : ∀ className, ss.filter (·.className = className) = ts.filter (·.className = className)) :
    p.same q = true := by
  have occurs (us : List Scheme) (className : String) :
      (∃ s ∈ us, s.className = className) ↔ us.filter (·.className = className) ≠ [] := by
    simp [List.filter_eq_nil_iff]
  have names (n : String) : n ∈ p.names ↔ n ∈ q.names := by
    simp only [hp.names, hq.names, occurs, alike]
  refine ParameterSet.same_iff.mpr ⟨names, fun n => ?_⟩
  by_cases hn : n ∈ p.names
  · obtain ⟨r, hr, side, rfl, -⟩ := (hp.names n).mp hn
    rw [hp.blobs r hr side, hq.blobs r hr side, alike]
  · rw [ParameterSet.blobs, Entries.blobs_of_not_mem hn, ParameterSet.blobs,
      Entries.blobs_of_not_mem (mt (names n).mpr hn)]

end Wire

/-- Making a side of schemes. Only an encrypting side embeds decryption material. -/
def fromSchemes (d : Direction) (schemes : List Value) (embedded : Value) : Build Value :=
  match d with
  | .encrypt => encryptFromSchemes schemes embedded
  | .decrypt => decryptFromSchemes schemes

theorem sideOf?_ofEncrypt (p : ParameterSet) (d : Value) (ss : List Value) :
    sideOf? (.ofEncrypt p d ss) = some (p, ss) := by
  unfold Value.ofEncrypt
  split
  · rename_i c ts _ h
    rw [map_scheme_of_mapM h]
    rfl
  · rfl

/-- The first scheme of the other direction is reported. -/
theorem checkSchemes_scheme (d : Direction) (ss : List Scheme) : checkSchemes d (ss.map .scheme) =
    match ss.find? fun s => s.direction ≠ d with
    | none => .ok ss
    | some s => .error (.wrongSide s.className s.direction d) := by
  induction ss with
  | nil => rfl
  | cons s ss ih =>
    unfold checkSchemes at ih ⊢
    rw [List.map_cons, List.mapM_cons, ih]
    by_cases h : s.direction = d
    · rw [List.find?_cons_of_neg (by simpa using h)]
      simp only [if_pos h]
      cases ss.find? fun s => s.direction ≠ d <;> rfl
    · rw [List.find?_cons_of_pos (by simpa using h)]
      simp only [if_neg h]
      rfl

theorem schemesFor_of_direction {d : Direction} {ss : List Scheme} (h : ∀ s ∈ ss, s.direction = d) :
    schemesFor d (ss.map .scheme) = pure ss := by
  have none : (ss.find? fun s => s.direction ≠ d) = .none := by simpa using h
  rw [schemesFor, checkSchemes_scheme, none]

/-- Schemes of the direction make a side of it, whatever is embedded, which has their parameters and records them. -/
theorem fromSchemes_map {d : Direction} {ss : List Scheme} (h : ∀ s ∈ ss, s.direction = d) (embedded : Value) :
    ∃ v, fromSchemes d (ss.map .scheme) embedded = pure v ∧ sideOf? v = some (parametersOf ss, ss.map .scheme) := by
  have checked := schemesFor_of_direction h
  cases d with
  | encrypt =>
    refine ⟨.ofEncrypt (parametersOf ss) (if embedded.truthy then embedded else .decryptConfig .empty) (ss.map .scheme),
      ?_, sideOf?_ofEncrypt _ _ _⟩
    rw [fromSchemes, encryptFromSchemes, checked, pure_bind]
  | decrypt =>
    refine ⟨.decryptConfig (.ofSchemes ss), ?_, rfl⟩
    rw [fromSchemes, decryptFromSchemes, checked, pure_bind]

/-- Making a side of typed schemes of its direction never fails. Its parameters have the names of the classes that
    occur, and under each name the blobs in one field of the schemes of one class, in order. So schemes that come in
    another order give equal parameters if only those of each class come in the same order. -/
theorem parameters_by_class {d : Direction} {ss ts : List Scheme} (hs : ∀ s ∈ ss, s.isTyped = true ∧ s.direction = d)
    (ht : ∀ t ∈ ts, t.isTyped = true ∧ t.direction = d) (embedded embedded' : Value) :
    ∃ v w p q, fromSchemes d (ss.map .scheme) embedded = pure v ∧ sideOf? v = some (p, ss.map .scheme) ∧
      fromSchemes d (ts.map .scheme) embedded' = pure w ∧ sideOf? w = some (q, ts.map .scheme) ∧
      Wire.Fills d ss p ∧ Wire.Fills d ts q ∧
      ((∀ className, ss.filter (·.className = className) = ts.filter (·.className = className)) →
        Value.equal (.parameters p) (.parameters q) = true) := by
  obtain ⟨v, made, side⟩ := fromSchemes_map (fun s h => (hs s h).2) embedded
  obtain ⟨w, made', side'⟩ := fromSchemes_map (fun t h => (ht t h).2) embedded'
  have fills := Wire.fills_parametersOf hs
  have fills' := Wire.fills_parametersOf ht
  refine ⟨v, w, _, _, made, side, made', side', fills, fills', fun alike => ?_⟩
  rw [Value.equal_parameters]
  exact fills.same fills' alike

/-- Two schemes with keys, the second with a password less, before a certificate and around it. -/
theorem parameters_by_class_alternating :
    let keys : Scheme := .privateKeys [[1]] [[2]]
    let more : Scheme := .privateKeys [[3], [4]] [[]]
    let certificate : Scheme := .x509Certificates [[5]]
    let ss := [keys, more, certificate]
    let ts := [keys, certificate, more]
    (∀ s ∈ ss, s.isTyped = true ∧ s.direction = .decrypt) ∧ (∀ t ∈ ts, t.isTyped = true ∧ t.direction = .decrypt) ∧
      ∃ v w p q, fromSchemes .decrypt (ss.map .scheme) .none = pure v ∧ sideOf? v = some (p, ss.map .scheme) ∧
        fromSchemes .decrypt (ts.map .scheme) .none = pure w ∧ sideOf? w = some (q, ts.map .scheme) ∧
        Value.equal (.parameters p) (.parameters q) = true := by
  intro keys more certificate ss ts
  have typed : ∀ s ∈ ss, s.isTyped = true ∧ s.direction = .decrypt := by simp [ss, keys, more, certificate]; decide
  have typed' : ∀ t ∈ ts, t.isTyped = true ∧ t.direction = .decrypt := by simp [ts, keys, more, certificate]; decide
  have alike (className : String) : ss.filter (·.className = className) = ts.filter (·.className = className) := by
    by_cases certified : certificate.className = className
    · have keyless : more.className ≠ className := fun keyed => absurd (keyed.trans certified.symm) (by decide)
      simp [ss, ts, List.filter_cons, certified, keyless]
    · simp [ss, ts, List.filter_cons, certified]
  obtain ⟨v, w, p, q, made, side, made', side', -, -, equal⟩ := parameters_by_class typed typed' .none .none
  exact ⟨typed, typed', v, w, p, q, made, side, made', side', equal alike⟩

end KeyBundle
