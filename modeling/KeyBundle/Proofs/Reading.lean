/-
  KeyBundle.Proofs.Reading — what reading key material from arbitrary values comes to, also where it is
  refused.

  Nothing, and what can be gone through and gives only bytes, is a sequence of blobs (`IsSequence`). Reading
  a field gives the blobs of a sequence (`exec_field_ok`). Of the other values some raise an error of their own, which
  is passed on (`Raises`, `exec_field_raises`); the rest is refused for a reason that names the field
  (`exec_field_refused`). In each case a stream has no more items afterwards.

  A mapping is read entry after entry (`IsMapping`). What is read has the names of the mapping in its order, each
  with its blobs (`exec_parameterSet_ok`). Every other mapping raises what the first wrong entry raises
  (`exec_parameterSet_raises`), or is refused as a bad argument (`exec_parameterSet_refused`).
-/

import KeyBundle.Proofs.Calls

namespace KeyBundle

open Build

/-! ## Errors of the caller's own -/

/-- What comes of an error of the caller's own: a refusal is reported as a bad argument, any other error is passed on
    as it is. -/
def Raised.passed : Raised → Fault
  | rejection message => badArgument (.raised message)
  | r => .raised r

theorem reported_raised (r : Raised) : reported badArgument (.raised r) = r.passed := by
  cases r <;> rfl

/-- Going through a value raises this error, or copying the first of its items that cannot be copied. A type error does
    not count while items are still to come: the value is no sequence then. -/
inductive Raises (c : Context) (v : Value) : Raised → Prop
  | going {r : Raised} (raises : raising? c v = some r) (other : ∀ message, r ≠ .typeError message) : Raises c v r
  | copying {xs : List Value} {className : String} {b : Blob} {r : Raised} (several : isSingleValue v = false)
      (come : upcoming c v = some xs) (first : xs.find? (fun x => x.blob?.isNone) = some (.sealed className b r)) :
      Raises c v r

/-! ## Sequences -/

/-- Nothing, or what is no single value itself and gives only bytes when it is gone through from now on. -/
inductive IsSequence (c : Context) : Value → Prop
  | nothing : IsSequence c .none
  | items {v : Value} {xs : List Value} (several : isSingleValue v = false) (come : upcoming c v = some xs)
      (bytes : ∀ x ∈ xs, x.blob?.isSome = true) : IsSequence c v

/-- Why a value is refused as a field. -/
def refusal? (c : Context) (field : String) (v : Value) : Option Rejection :=
  match v with
  | .none => none
  | v =>
    if isSingleValue v then some (.singleValue field)
    else
      match upcoming c v with
      | none => some (.notSequence field)
      | some xs => (xs.find? fun x => x.blob?.isNone).map fun x => .notBytes field x.typeName

/-- The field that a refusal of a sequence names. -/
def Rejection.field? : Rejection → Option String
  | notBytes field _ | singleValue field | notSequence field => some field
  | _ => none

/-- The message begins with the field. -/
theorem Rejection.message_of_field? {r : Rejection} {field : String} (h : r.field? = some field) :
    ∃ rest, r.message = field ++ rest := by
  cases r with
  | notBytes f t =>
    cases h
    exact ⟨" must contain bytes-like blobs, got " ++ t, String.append_assoc ..⟩
  | singleValue f =>
    cases h
    exact ⟨_, rfl⟩
  | notSequence f =>
    cases h
    exact ⟨_, rfl⟩
  | _ => cases h

section

variable {c : Context} {field : String} {v : Value} {r : Rejection}

theorem refusal?_of_ne_none (hv : v ≠ .none) : refusal? c field v =
    if isSingleValue v then some (.singleValue field)
    else match upcoming c v with
      | none => some (.notSequence field)
      | some xs => (xs.find? fun x => x.blob?.isNone).map fun x => .notBytes field x.typeName := by
  cases v <;> first | rfl | exact absurd rfl hv

theorem refusal?_eq_none_iff : refusal? c field v = none ↔ IsSequence c v := by
  by_cases hv : v = .none
  · subst hv
    exact ⟨fun _ => .nothing, fun _ => rfl⟩
  · rw [refusal?_of_ne_none hv]
    cases hs : isSingleValue v with
    | true => exact ⟨nofun, fun h => by cases h <;> simp_all⟩
    | false =>
      cases hx : upcoming c v with
      | none => exact ⟨nofun, fun h => by cases h <;> simp_all⟩
      | some xs =>
        have all : (xs.find? fun x => x.blob?.isNone) = none ↔ ∀ x ∈ xs, x.blob?.isSome = true := by
          simp [Option.isSome_iff_ne_none]
        simp only [Bool.false_eq_true, if_false, Option.map_eq_none_iff, all]
        refine ⟨.items hs hx, fun h => ?_⟩
        cases h with
        | nothing => exact absurd rfl hv
        | items _ come bytes =>
          cases hx.symm.trans come
          exact bytes

theorem exists_refusal (h : ¬IsSequence c v) (field : String) : ∃ r, refusal? c field v = some r :=
  Option.ne_none_iff_exists'.mp (mt refusal?_eq_none_iff.mp h)

/-- A value that is refused is refused in the name of its field. -/
theorem field?_of_refusal? (h : refusal? c field v = some r) : r.field? = some field := by
  have hv : v ≠ .none := by rintro rfl; cases h
  rw [refusal?_of_ne_none hv] at h
  split at h
  · cases h
    rfl
  · split at h
    · cases h
      rfl
    · obtain ⟨x, -, rfl⟩ := Option.map_eq_some_iff.mp h
      rfl

theorem mapM_blob (field : String) (xs : List Value) : xs.mapM (blob field) =
    match xs.find? fun x => x.blob?.isNone with
    | some x => .error (noBlob field x)
    | none => .ok (xs.filterMap Value.blob?) := by
  induction xs with
  | nil => rfl
  | cons x xs ih =>
    rw [List.mapM_cons, List.find?_cons]
    cases hx : x.blob? with
    | none =>
      rw [show blob field x = .error (noBlob field x) by rw [blob, hx]]
      rfl
    | some b =>
      rw [show blob field x = .ok b by rw [blob, hx], ih, List.filterMap_cons_some hx]
      simp only [Option.isNone_some]
      cases xs.find? fun x => x.blob?.isNone <;> rfl

theorem noBlob_of_not_sealed {x : Value} (h : ∀ className b r, x ≠ .sealed className b r) (field : String) :
    noBlob field x = .rejection (.notBytes field x.typeName) := by
  cases x with
  | sealed className b r => exact absurd rfl (h className b r)
  | _ => rfl

/-- What reading a field comes to, if the value is no single one. -/
theorem exec_field_several (field : String) (hv : v ≠ .none) (hs : isSingleValue v = false) :
    exec (Build.field field v) c =
      (((sequenceItems field (itemsOr (upcoming c v) (raising? c v))).bind fun xs => xs.mapM (blob field)).mapError
        (reported badArgument), c.past v) := by
  unfold Build.field
  rw [blobs_of_ne_none _ _ hv, sequenceBlobs, hs]
  simp only [Bool.false_eq_true, if_false]
  rw [exec_bind_ok (exec_takeItems? v c)]
  cases sequenceItems field (itemsOr (upcoming c v) (raising? c v)) with
  | error f => rfl
  | ok xs => exact exec_refused badArgument (xs.mapM (blob field)) (c.past v)

/-- Text and bytes are no streams. -/
theorem exec_field_single (field : String) (hs : isSingleValue v = true) :
    exec (Build.field field v) c = (.error (badArgument (.singleValue field)), c.past v) := by
  have untouched : c.past v = c := by
    cases v <;> first | rfl | cases hs
  have given : v ≠ .none := by rintro rfl; cases hs
  rw [untouched, Build.field, blobs_of_ne_none _ _ given, sequenceBlobs, hs]
  rfl

theorem context_field (field : String) (v : Value) (c : Context) : (exec (Build.field field v) c).2 = c.past v := by
  by_cases hv : v = .none
  · subst hv
    rfl
  · cases hs : isSingleValue v with
    | true => rw [exec_field_single field hs]
    | false => rw [exec_field_several field hv hs]

theorem exec_field_ok (h : IsSequence c v) (field : String) :
    exec (Build.field field v) c = (.ok (blobsIn c v), c.past v) := by
  cases h with
  | nothing => rfl
  | @items _ xs several come bytes =>
    have given : v ≠ .none := by rintro rfl; cases come
    have all : xs.find? (fun x => x.blob?.isNone) = none := by simpa [Option.isSome_iff_ne_none] using bytes
    rw [exec_field_several field given several, raising?_of_upcoming come, blobsIn, come]
    simp only [sequenceItems, itemsOr, Option.map_some, Except.mapError, Except.bind, mapM_blob, all, Option.getD_some]

/-- An error of the caller's own is passed on. -/
theorem exec_field_raises {e : Raised} (h : Raises c v e) (field : String) :
    exec (Build.field field v) c = (.error e.passed, c.past v) := by
  cases h with
  | going raises other =>
    have given : v ≠ .none := by rintro rfl; cases raises
    have several : isSingleValue v = false := by cases v <;> first | rfl | cases raises
    have kept : sequenceFault field e = .raised e := by
      cases e with
      | typeError m => exact absurd rfl (other m)
      | _ => rfl
    rw [exec_field_several field given several, raises]
    simp only [sequenceItems, itemsOr, Except.mapError, Except.bind, kept, reported_raised]
  | copying several come first =>
    have given : v ≠ .none := by rintro rfl; cases come
    rw [exec_field_several field given several, raising?_of_upcoming come, come]
    simp only [sequenceItems, itemsOr, Option.map_some, Except.mapError, Except.bind, mapM_blob, first, noBlob,
      reported_raised]

/-- A sequence of blobs raises nothing. -/
theorem IsSequence.calm (h : IsSequence c v) (e : Raised) : ¬Raises c v e := fun raises =>
  nomatch congrArg Prod.fst ((exec_field_ok h "").symm.trans (exec_field_raises raises ""))

/-- What raises nothing is refused as a bad argument. -/
theorem exec_field_refused (h : refusal? c field v = some r) (calm : ∀ e, ¬Raises c v e) :
    exec (Build.field field v) c = (.error (badArgument r), c.past v) := by
  have given : v ≠ .none := by rintro rfl; cases h
  rw [refusal?_of_ne_none given] at h
  cases hs : isSingleValue v with
  | true =>
    rw [hs] at h
    cases h
    exact exec_field_single field hs
  | false =>
    rw [hs] at h
    simp only [Bool.false_eq_true, if_false] at h
    rw [exec_field_several field given hs]
    cases come : upcoming c v with
    | none =>
      rw [come] at h
      cases h
      cases raises : raising? c v with
      | none => rfl
      | some e =>
        -- what raises nothing but a type error is no sequence
        cases e with
        | typeError m => rfl
        | _ => exact absurd (.going raises nofun) (calm _)
    | some xs =>
      rw [come] at h
      obtain ⟨x, first, rfl⟩ := Option.map_eq_some_iff.mp h
      have foreign : ∀ className b e, x ≠ .sealed className b e := by
        rintro className b e rfl
        exact calm e (.copying hs come first)
      rw [raising?_of_upcoming come]
      simp only [sequenceItems, itemsOr, Option.map_some, Except.mapError, Except.bind, mapM_blob, first,
        noBlob_of_not_sealed foreign, reported]

/-! ### Two fields -/

variable {w : Value} {second : String}

theorem exec_twoFields_ok (h : IsSequence c v) (k : IsSequence (c.past v) w) (first second : String) :
    exec (twoFields first second v w) c = (.ok (blobsIn c v, blobsIn (c.past v) w), (c.past v).past w) := by
  rw [twoFields, exec_bind_ok (exec_field_ok h first), exec_bind_ok (exec_field_ok k second)]
  rfl

/-- The second is not looked at where the first is not read. -/
theorem exec_twoFields_first {f : Fault} (h : exec (Build.field field v) c = (.error f, c.past v)) (second : String)
    (w : Value) : exec (twoFields field second v w) c = (.error f, c.past v) := exec_bind_error h _

theorem exec_twoFields_second {f : Fault} (h : IsSequence c v)
    (k : exec (Build.field second w) (c.past v) = (.error f, (c.past v).past w)) (first : String) :
    exec (twoFields first second v w) c = (.error f, (c.past v).past w) := by
  rw [twoFields, exec_bind_ok (exec_field_ok h first)]
  exact exec_bind_error k _

end

/-! ## Mappings -/

/-- Each key is a name, and each value a sequence when its turn comes. -/
inductive IsMapping : Context → List (Value × Value) → Prop
  | nil {c : Context} : IsMapping c []
  | cons {c : Context} {name : String} {v : Value} {es : List (Value × Value)} (named : isName name = true)
      (blobs : IsSequence c v) (rest : IsMapping (c.past v) es) : IsMapping c ((.text name, v) :: es)

/-- The first entry of a mapping that is not as it should be raises this error. -/
inductive MappingRaises : Context → List (Value × Value) → Raised → Prop
  | here {c : Context} {name : String} {v : Value} {es : List (Value × Value)} {r : Raised} (named : isName name = true)
      (raises : Raises c v r) : MappingRaises c ((.text name, v) :: es) r
  | later {c : Context} {name : String} {v : Value} {es : List (Value × Value)} {r : Raised} (named : isName name = true)
      (blobs : IsSequence c v) (rest : MappingRaises (c.past v) es r) : MappingRaises c ((.text name, v) :: es) r

/-- The context once all values of a mapping have been gone through. -/
def Context.pastAll (c : Context) (es : List (Value × Value)) : Context := es.foldl (fun c e => c.past e.2) c

/-- The blobs in a mapping, under its keys and in its order. -/
def entriesIn : Context → List (Value × Value) → Entries
  | _, [] => []
  | c, (k, v) :: es => (k.plain, blobsIn c v) :: entriesIn (c.past v) es

/-- A mapping has no two keys that are the same. -/
def Distinct (es : List (Value × Value)) : Prop := es.Pairwise fun e f => e.1.same f.1 = false

/-- An entry takes the place of one with the same key. -/
theorem Distinct.putEntry {es : List (Value × Value)} (h : Distinct es) (k v : Value) : Distinct (Session.putEntry es k v) := by
  unfold Session.putEntry
  split
  · refine List.pairwise_map.mpr (h.imp fun {e f} hef => ?_)
    rw [apply_ite Prod.fst, apply_ite Prod.fst, ite_self, ite_self]
    exact hef
  · next new =>
    refine List.pairwise_append.mpr ⟨h, List.pairwise_singleton _ _, fun e he f hf => ?_⟩
    cases List.mem_singleton.mp hf
    exact Bool.eq_false_iff.mpr fun same => new (List.any_eq_true.mpr ⟨e, he, same⟩)

/-- A mapping that is written out has no two keys that are the same. -/
theorem distinct_written (es : List (Value × Value)) : Distinct (es.foldl (fun acc e => Session.putEntry acc e.1 e.2) []) :=
  List.foldlRecOn (motive := Distinct) es _ .nil fun _ h e _ => h.putEntry e.1 e.2

theorem names_entriesIn (c : Context) (es : List (Value × Value)) : (entriesIn c es).names = es.map fun e => e.1.plain := by
  induction es generalizing c with
  | nil => rfl
  | cons e es ih =>
    rw [entriesIn, Entries.names_cons, ih]
    rfl

theorem IsMapping.text_of_mem {c : Context} {es : List (Value × Value)} (h : IsMapping c es) :
    ∀ e ∈ es, ∃ s, e.1 = .text s := by
  induction h with
  | nil => exact fun e he => nomatch he
  | cons _ _ _ ih => exact List.forall_mem_cons.mpr ⟨⟨_, rfl⟩, ih⟩

/-- The keys are texts, and so two with the same plain text are the same. -/
theorem nodup_entriesIn {c : Context} {es : List (Value × Value)} (h : IsMapping c es) (hd : Distinct es) :
    (entriesIn c es).names.Nodup := by
  rw [names_entriesIn, List.Nodup, List.pairwise_map]
  refine hd.imp_of_mem fun {e f} he hf different same => ?_
  obtain ⟨s, hs⟩ := h.text_of_mem e he
  obtain ⟨t, ht⟩ := h.text_of_mem f hf
  rw [hs, ht] at same different
  cases show s = t from same
  rw [show (Value.text s).same (.text s) = (s == s) from rfl, beq_self_eq_true] at different
  cases different

theorem Entries.update_of_not_mem {name : String} {f : List Blob → List Blob} {es : Entries} (h : name ∉ es.names) :
    Entries.update name f es = es ++ [(name, f [])] := by
  induction es with
  | nil => rfl
  | cons e es ih =>
    obtain ⟨hne, hes⟩ := not_or.mp (mt List.mem_cons.mpr h)
    rw [update, if_neg fun he => hne he.symm, ih hes]
    rfl

theorem name_text {s : String} (h : isName s = true) : Build.name (.text s) = .ok ⟨s, h⟩ := by
  rw [Build.name, dif_pos h]

theorem name_error {v : Value} (h : ∀ s, v = .text s → isName s = false) :
    ∃ r, Build.name v = .error (.rejection r) := by
  cases v with
  | text s =>
    rw [Build.name, dif_neg (by simp [h s rfl])]
    split <;> exact ⟨_, rfl⟩
  | _ => exact ⟨_, rfl⟩

section

variable {c : Context} {es : List (Value × Value)}

theorem exec_addEntry_ok {name : String} {v : Value} (named : isName name = true) (blobs : IsSequence c v) (p : ParameterSet) :
    exec (addEntry p (.text name, v)) c = (.ok (p.put name named (blobsIn c v)), c.past v) := by
  rw [addEntry, name_text named]
  exact exec_bind_ok (exec_field_ok blobs name) _

theorem exec_addEntry_error {name : String} {v : Value} {f : Fault} (named : isName name = true)
    (h : exec (Build.field name v) c = (.error f, c.past v)) (p : ParameterSet) :
    exec (addEntry p (.text name, v)) c = (.error f, c.past v) := by
  rw [addEntry, name_text named]
  exact exec_bind_error h _

/-- Entries that are read go behind those there. -/
theorem exec_addEntries_ok (h : IsMapping c es) (p : ParameterSet) : ∃ q, exec (es.foldlM addEntry p) c = (.ok q, c.pastAll es) ∧
    ((entriesIn c es).names.Nodup → (∀ n ∈ (entriesIn c es).names, n ∉ p.names) →
      q.entries = p.entries ++ entriesIn c es) := by
  induction h generalizing p with
  | nil => exact ⟨p, rfl, fun _ _ => (List.append_nil _).symm⟩
  | @cons c name v es named blobs rest ih =>
    obtain ⟨q, hq, entries⟩ := ih (p.put name named (blobsIn c v))
    refine ⟨q, by rw [List.foldlM_cons, exec_bind_ok (exec_addEntry_ok named blobs p), hq]; rfl, fun distinct new => ?_⟩
    obtain ⟨once, below⟩ := Entries.nodup_names_cons.mp distinct
    have behind : (p.put name named (blobsIn c v)).entries = p.entries ++ [(name, blobsIn c v)] :=
      Entries.update_of_not_mem (new name List.mem_cons_self)
    rw [entries below, behind, List.append_assoc]
    · rfl
    · intro n hn hp
      rw [ParameterSet.names, behind, Entries.names_append] at hp
      rcases List.mem_append.mp hp with hp | hp
      · exact new n (List.mem_cons_of_mem _ hn) hp
      · cases List.mem_singleton.mp hp
        exact once hn

theorem exec_addEntries_raises {e : Raised} (h : MappingRaises c es e) (p : ParameterSet) :
    ∃ c', exec (es.foldlM addEntry p) c = (.error e.passed, c') := by
  induction h generalizing p with
  | here named raises =>
    rw [List.foldlM_cons]
    exact ⟨_, exec_bind_error (exec_addEntry_error named (exec_field_raises raises _) p) _⟩
  | later named blobs rest ih =>
    rw [List.foldlM_cons, exec_bind_ok (exec_addEntry_ok named blobs p)]
    exact ih _

theorem exec_addEntries_refused (h : ¬IsMapping c es) (calm : ∀ e, ¬MappingRaises c es e) (p : ParameterSet) :
    ∃ r c', exec (es.foldlM addEntry p) c = (.error (badArgument r), c') := by
  induction es generalizing c p with
  | nil => exact absurd .nil h
  | cons e es ih =>
    obtain ⟨k, v⟩ := e
    rw [List.foldlM_cons]
    by_cases hk : ∃ s, k = .text s ∧ isName s = true
    · obtain ⟨s, rfl, named⟩ := hk
      by_cases hv : IsSequence c v
      · rw [exec_bind_ok (exec_addEntry_ok named hv p)]
        exact ih (fun rest => h (.cons named hv rest)) (fun e rest => calm e (.later named hv rest)) _
      · obtain ⟨r, hr⟩ := exists_refusal hv s
        have refused := exec_field_refused hr fun e raises => calm e (.here named raises)
        exact ⟨r, c.past v, exec_bind_error (exec_addEntry_error named refused p) _⟩
    · obtain ⟨r, hr⟩ := name_error (v := k) fun s hs => Bool.eq_false_iff.mpr fun hn => hk ⟨s, hs, hn⟩
      refine ⟨r, c, exec_bind_error ?_ _⟩
      rw [addEntry, hr]
      rfl

/-- An empty mapping counts as no, and has no entries all the same. -/
theorem exec_parameterSet (id : Nat) (es : List (Value × Value)) (c : Context) :
    exec (parameterSet (.table id es)) c = exec (es.foldlM addEntry .empty) c := by
  cases es <;> rfl

theorem exec_parameterSet_ok (h : IsMapping c es) (id : Nat) : ∃ q, exec (parameterSet (.table id es)) c = (.ok q, c.pastAll es) ∧
    (Distinct es → q.entries = entriesIn c es) := by
  obtain ⟨q, hq, entries⟩ := exec_addEntries_ok h .empty
  exact ⟨q, by rw [exec_parameterSet, hq], fun hd => entries (nodup_entriesIn h hd) (fun _ _ => List.not_mem_nil)⟩

theorem exec_parameterSet_raises {e : Raised} (h : MappingRaises c es e) (id : Nat) :
    ∃ c', exec (parameterSet (.table id es)) c = (.error e.passed, c') := by
  rw [exec_parameterSet]
  exact exec_addEntries_raises h .empty

theorem exec_parameterSet_refused (h : ¬IsMapping c es) (calm : ∀ e, ¬MappingRaises c es e) (id : Nat) :
    ∃ r c', exec (parameterSet (.table id es)) c = (.error (badArgument r), c') := by
  rw [exec_parameterSet]
  exact exec_addEntries_refused h calm .empty

end

end KeyBundle
