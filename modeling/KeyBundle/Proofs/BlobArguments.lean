/-
  KeyBundle.Proofs.BlobArguments — what a message tells of bytes in its arguments.

  The filter puts the number of bytes in the place of every argument that is bytes, and of every such value of a mapping
  that stands alone. It does not look into lists, tuples and further mappings.

  (1) Filling tells arguments of one shape from each other only by their legible parts (`fill_of_legible`,
      `legible_of_fill`), and fails for all of them or for none (`isOk_fill_of_shape`).
  (2) The filter takes away what can be told of an argument that is bytes, and nothing else (`legible_cleaned_iff`).
  (3) So messages that are filtered never tell of the contents of blobs that are arguments themselves, and always of
      those that bytes and buffers further inside have (`messages_agree_iff`). A key in a list is shown
      (`inner_key_shown`).
-/

import KeyBundle.Proofs.Legible
import KeyBundle.Proofs.Placeholders

namespace KeyBundle

open Value

namespace Template

/-! ## (1) Filling -/

namespace Args

def legible : Args → Args
  | sequence xs => sequence (xs.map Value.legible)
  | mapping v => mapping v.legible

def shape : Args → Args
  | sequence xs => sequence (xs.map Value.shape)
  | mapping v => mapping v.shape

end Args

theorem legible_ofBlobs (bs : List Blob) : (ofBlobs bs).legible = ofBlobs bs := by
  change tuple (onLeavesIn legibleLeaf (bs.map bytes)) = tuple (bs.map bytes)
  rw [onLeavesIn_eq, List.map_map]
  rfl

theorem table_of_shape {v w : Value} (h : v.shape = w.shape) :
    (∃ id es, w = table id es) → ∃ id es, v = table id es := by
  rintro ⟨j, fs, rfl⟩
  obtain ⟨i, es, hv, -⟩ := of_shape_table h.symm
  exact ⟨i, es, hv⟩

theorem lookupKey_onLeaves (f : Value → Value) (id : Nat) (es : List (Value × Value)) (name : String) :
    lookupKey ((table id es).onLeaves f) name = (lookupKey (table id es) name).map (onLeaves f) := by
  change lookupKey (table 0 (onLeavesAmong f es)) name = _
  simp only [lookupKey, onLeavesAmong_eq, List.find?_map, Option.map_map, Function.comp_def]
  cases es.find? fun e => (text name).same e.1 <;> rfl

theorem lookupKey_legible (v : Value) (name : String) :
    lookupKey v.legible name = (lookupKey v name).map Value.legible := by
  cases v with
  | table id es => exact lookupKey_onLeaves legibleLeaf id es name
  | parameters p =>
    change lookupKey (parameters p) name = _
    simp only [lookupKey]
    cases p.get? name with
    | none => rfl
    | some bs => exact congrArg Except.ok (legible_ofBlobs bs).symm
  | number n => cases n <;> rfl
  | _ => rfl

theorem fill_legible (template : String) (args : Args) : fill template args.legible = fill template args := by
  cases args with
  | sequence xs => exact fill_sequence_image unseen_legible template xs
  | mapping v => exact fill_mapping_image unseen_legible template (lookupKey_legible v)

/-- A template is filled alike with arguments whose legible parts are the same. -/
theorem fill_of_legible {a b : Args} (h : a.legible = b.legible) (template : String) :
    fill template a = fill template b := by
  rw [← fill_legible template a, h, fill_legible]

/-- Placeholders take values of one shape alike. -/
theorem alike_legible {v w : Value} (h : v.shape = w.shape) : Alike v.legible w.legible := by
  have plain {v : Value} (hv : v.isTransparent = true) :
      (∀ n, v.legible ≠ .number n) ∧ (character v.legible).isOk = false := by
    cases v with
    | bytes | buffer | view | tuple | list | table => exact ⟨fun n hn => (nomatch hn), rfl⟩
    | _ => cases hv
  cases hv : v.isTransparent with
  | false =>
    rw [legible_of_not_transparent hv h]
    exact .same _
  | true =>
    have hw : w.isTransparent = true := (isTransparent_of_shape h).symm.trans hv
    exact .shown (plain hv).1 (plain hw).1 ((plain hv).2.trans (plain hw).2.symm)

theorem rel_lookupKey {v w : Value} (h : v.shape = w.shape) (name : String) :
    Option.Rel Alike (lookupKey v.legible name).toOption (lookupKey w.legible name).toOption := by
  cases hv : v.isTransparent with
  | false =>
    rw [legible_of_not_transparent hv h]
    cases (lookupKey w.legible name).toOption with
    | none => exact .none
    | some x => exact .some (.same x)
  | true =>
    by_cases ht : ∃ id es, v = table id es
    · obtain ⟨i, es, rfl⟩ := ht
      obtain ⟨j, fs, rfl, -⟩ := of_shape_table h
      have same : (lookupKey (table i es) name).map Value.shape = (lookupKey (table j fs) name).map Value.shape :=
        (lookupKey_onLeaves shapeLeaf i es name).symm.trans
          ((congrArg (lookupKey · name) h).trans (lookupKey_onLeaves shapeLeaf j fs name))
      rw [lookupKey_legible, lookupKey_legible]
      rcases hx : lookupKey (table i es) name with e | x <;> rcases hy : lookupKey (table j fs) name with f | y <;>
        rw [hx, hy] at same
      · exact .none
      · cases same
      · cases same
      · exact .some (alike_legible (Except.ok.inj same))
    · have keyless {v : Value} (hv : v.isTransparent) (ht : ¬∃ id es, v = table id es) :
          (lookupKey v.legible name).toOption = .none := by
        cases v with
        | bytes | buffer | view | tuple | list => rfl
        | table id es => exact absurd ⟨id, es, rfl⟩ ht
        | _ => cases hv
      have hw : w.isTransparent = true := (isTransparent_of_shape h).symm.trans hv
      rw [keyless hv ht, keyless hw (mt (table_of_shape h) ht)]
      exact .none

theorem map_eq_iff_forall₂ {α β : Type} {f : α → β} {xs ys : List α} :
    xs.map f = ys.map f ↔ List.Forall₂ (fun x y => f x = f y) xs ys := by
  rw [← List.forall₂_eq_eq_eq, List.forall₂_map_left_iff, List.forall₂_map_right_iff]

/-- A template can be filled with arguments, or with others of one shape with them. -/
theorem isOk_fill_of_shape {a b : Args} (h : a.shape = b.shape) (template : String) :
    (fill template a).isOk = (fill template b).isOk := by
  rw [← fill_legible template a, ← fill_legible template b]
  cases a with
  | sequence xs =>
    cases b with
    | sequence ys =>
      refine isOk_fill_sequence_alike template ?_
      rw [List.forall₂_map_left_iff, List.forall₂_map_right_iff]
      exact (map_eq_iff_forall₂.mp (Args.sequence.inj h)).imp fun _ _ => alike_legible
    | mapping w => cases h
  | mapping v =>
    cases b with
    | sequence ys => cases h
    | mapping w =>
      have shapes := Args.mapping.inj h
      exact isOk_fill_mapping_alike template (alike_legible shapes) (rel_lookupKey shapes)

/-! ### Shown forms of all arguments -/

/-- The placeholder for a shown form. -/
def shownSpec (place : Nat) : Spec := { Spec.start with conversion := some ('r', place) }

/-- So many of them. -/
def shownForms (k : Nat) : List Char := (List.replicate k ['%', 'r']).flatten

/-- A template that asks for everything. -/
def Args.inquiry : Args → String
  | sequence xs => String.ofList (shownForms xs.length)
  | mapping _ => String.ofList (shownForms 1)

theorem partsFrom_shownForms (place k : Nat) : partsFrom place .none (shownForms (k + 1)) =
    .placeholder (shownSpec (place + 1)) :: partsFrom (place + 2) .none (shownForms k) := rfl

theorem fillSpec_shownSpec {mapping : Option Value} {supply left : Supply} {v : Value} (h : supply.next = .ok (v, left))
    (place : Nat) : fillSpec mapping supply (shownSpec place) = .ok (v.shown.toList, left) := by
  have fitted : fitText (shownSpec place) 0 .none v.shown.toList = v.shown.toList := by
    simp [fitText, shownSpec, spaces, Spec.start]
  change (supply.next >>= _) = _
  rw [h]
  change Except.ok (fitText (shownSpec place) 0 .none v.shown.toList, left) = _
  rw [fitted]

theorem fillParts_shownForms (xs : List Value) (place : Nat) :
    fillParts .none (.rest xs) (partsFrom place .none (shownForms xs.length)) =
      .ok (xs.flatMap (·.shown.toList), .rest []) := by
  induction xs generalizing place with
  | nil => rfl
  | cons x xs ih =>
    rw [List.length_cons, partsFrom_shownForms, fillParts, fillSpec_shownSpec rfl]
    change (fillParts .none (.rest xs) (partsFrom (place + 2) .none (shownForms xs.length)) >>= _) = _
    rw [ih]
    rfl

theorem fill_shownForms (xs : List Value) :
    fill (String.ofList (shownForms xs.length)) (.sequence xs) = .ok (String.ofList (xs.flatMap (·.shown.toList))) := by
  rw [fill, parts, String.toList_ofList]
  dsimp only
  rw [fillParts_shownForms]
  rfl

theorem fill_shownForm (v : Value) : fill (String.ofList (shownForms 1)) (.mapping v) = .ok v.shown := by
  rw [fill, parts, String.toList_ofList]
  dsimp only
  rw [partsFrom_shownForms, fillParts, fillSpec_shownSpec rfl]
  change Except.ok (String.ofList (v.shown.toList ++ [])) = _
  rw [List.append_nil, String.ofList_toList]

theorem parts_flatMap {xs ys : List Value} (h : xs.map Value.shape = ys.map Value.shape) :
    Parts (xs.flatMap (·.shown.toList)) (ys.flatMap (·.shown.toList))
      (xs.map Value.legible = ys.map Value.legible) := by
  induction xs generalizing ys with
  | nil =>
    rw [List.map_eq_nil_iff.mp h.symm]
    exact .same _ rfl
  | cons x xs ih =>
    cases ys with
    | nil => cases h
    | cons y ys =>
      obtain ⟨hx, hxs⟩ := List.cons.inj h
      simp only [List.flatMap_cons, List.map_cons]
      exact ((parts_shown x y hx).append (ih hxs)).imp fun same => by rw [same.1, same.2]

/-- Asked for everything, arguments of one shape tell their legible parts. -/
theorem legible_of_fill {a b : Args} (h : a.shape = b.shape)
    (hfill : (fill a.inquiry a).toOption = (fill a.inquiry b).toOption) : a.legible = b.legible := by
  cases a with
  | sequence xs =>
    cases b with
    | sequence ys =>
      have shapes := Args.sequence.inj h
      have lengths : ys.length = xs.length := by simpa using (congrArg List.length shapes).symm
      have filled := fill_shownForms ys
      rw [lengths] at filled
      rw [Args.inquiry, fill_shownForms, filled] at hfill
      have texts := String.ofList_injective (Option.some.inj hfill)
      exact congrArg Args.sequence (parts_flatMap shapes [] [] (by rw [texts])).1
    | mapping w => cases h
  | mapping v =>
    cases b with
    | sequence ys => cases h
    | mapping w =>
      rw [Args.inquiry, fill_shownForm, fill_shownForm] at hfill
      have texts := Option.some.inj hfill
      exact congrArg Args.mapping (parts_shown v w (Args.mapping.inj h) [] [] (by rw [texts])).1

end Template

/-! ## (2) Filtered arguments -/

namespace Value

theorem windowItems_cons {width : Nat} (h : width ≠ 2) (a : UInt8) (b : Blob) :
    windowItems width (a :: b) = a.toNat :: windowItems width b := by
  rw [windowItems] <;> simp [h]

theorem length_windowItems_zeros (width : Nat) (b : Blob) :
    (windowItems width (zeros b)).length = (windowItems width b).length := by
  fun_induction windowItems width b with
  | case1 a b rest ih => exact congrArg (· + 1) ih
  | case2 width => cases width <;> simp [zeros, windowItems]
  | case3 => rfl
  | case4 width a rest hpair hone ih =>
    have wide : width ≠ 2 := by
      intro hw
      cases rest with
      | nil => exact hone hw rfl
      | cons b rest => exact hpair b rest hw rfl
    rw [zeros, List.map_cons, windowItems_cons wide]
    exact congrArg (· + 1) ih

theorem isSome_blob?_shape (v : Value) : v.shape.blob?.isSome = v.blob?.isSome := by
  cases v with
  | number n => cases n <;> rfl
  | _ => rfl

end Value

namespace Log

open Redaction Template

/-- The filter goes by the shape of bytes. -/
theorem shape_cleanArg (v : Value) : (cleanArg [] v).shape = cleanArg [] v.shape := by
  have counts {m n : Nat} (h : m = n) : Value.text (counted n) = .text (counted m) := by rw [h]
  cases v with
  | bytes b => exact counts (length_zeros b)
  | buffer id b => exact counts (length_zeros b)
  | view id width b => exact counts (length_windowItems_zeros width b)
  | number n => cases n <;> rfl
  | _ => rfl

theorem cleanArg_of_blob {v : Value} (h : v.blob?.isSome) : cleanArg [] v = cleanArg [] v.shape := by
  rw [← shape_cleanArg]
  cases v with
  | bytes | buffer | view => rfl
  | _ => cases h

theorem cleanArg_of_transparent {v : Value} (ht : v.isTransparent) (hb : v.blob? = .none) : cleanArg [] v = v := by
  cases v with
  | tuple | list | table => rfl
  | bytes | buffer | view => cases hb
  | _ => cases ht

theorem isTransparent_cleanArg {v : Value} (h : v.isTransparent = false) : (cleanArg [] v).isTransparent = false := by
  cases v with
  | bytes | buffer | view | tuple | list | table => cases h
  | _ => rfl

theorem isTransparent_cleaned {v : Value} (h : v.isTransparent = false) (n : Nat) :
    ((cleanArg [])^[n] v).isTransparent = false := by
  induction n with
  | zero => exact h
  | succ n ih =>
    rw [Function.iterate_succ_apply']
    exact isTransparent_cleanArg ih

/-- The filter takes away what can be told of an argument that is bytes, and nothing else. -/
theorem legible_cleaned_iff {v w : Value} (h : v.shape = w.shape) (n : Nat) :
    ((cleanArg [])^[n + 1] v).legible = ((cleanArg [])^[n + 1] w).legible ↔
      (v.blob? = .none → v.legible = w.legible) := by
  have blobs : v.blob?.isSome = w.blob?.isSome := by rw [← isSome_blob?_shape, h, isSome_blob?_shape]
  cases hb : v.blob? with
  | some b =>
    have hv : v.blob?.isSome := by rw [hb]; rfl
    have same : cleanArg [] v = cleanArg [] w :=
      (cleanArg_of_blob hv).trans ((congrArg (cleanArg []) h).trans (cleanArg_of_blob (blobs.symm.trans hv)).symm)
    rw [Function.iterate_succ_apply, Function.iterate_succ_apply, same]
    exact iff_of_true rfl nofun
  | none =>
    have hw : w.blob? = .none := by rw [← Option.not_isSome_iff_eq_none, ← blobs, hb]; exact nofun
    rw [imp_iff_right rfl]
    cases ht : v.isTransparent with
    | true =>
      have hwt : w.isTransparent = true := (isTransparent_of_shape h).symm.trans ht
      rw [Function.iterate_fixed (cleanArg_of_transparent ht hb),
        Function.iterate_fixed (cleanArg_of_transparent hwt hw)]
    | false =>
      have shapes : ((cleanArg [])^[n + 1] v).shape = ((cleanArg [])^[n + 1] w).shape := by
        have step : Function.Semiconj shape (cleanArg []) (cleanArg []) := shape_cleanArg
        rw [step.iterate_right, h, ← step.iterate_right]
      exact iff_of_true (legible_of_not_transparent (isTransparent_cleaned ht _) shapes) (legible_of_not_transparent ht h)

/-- The values that the filter goes through. -/
def values : Args → List Value
  | .sequence xs => xs
  | .mapping (.table _ es) => es.map (·.2)
  | .mapping v => [v]

theorem shape_cleanArgs (args : Args) : (cleanArgs [] args).shape = cleanArgs [] args.shape := by
  cases args with
  | sequence xs =>
    simp only [cleanArgs, Args.shape, List.map_map, Function.comp_def, shape_cleanArg]
  | mapping v =>
    cases v with
    | table id es =>
      change Args.mapping (.table 0 (onLeavesAmong shapeLeaf _)) =
        .mapping (.table 0 ((onLeavesAmong shapeLeaf es).map fun e => (e.1, cleanArg [] e.2)))
      simp only [onLeavesAmong_eq, List.map_map, Function.comp_def]
      exact congrArg (fun f : _ → _ => Args.mapping (.table 0 (es.map f)))
        (funext fun e => congrArg (e.1, ·) (shape_cleanArg e.2))
    | number n => cases n <;> rfl
    | _ => rfl

theorem cleanArgs_sequence (xs : List Value) (n : Nat) :
    (cleanArgs [])^[n] (.sequence xs) = .sequence (xs.map (cleanArg [])^[n]) := by
  induction n generalizing xs with
  | zero => exact congrArg Args.sequence (List.map_id xs).symm
  | succ n ih =>
    rw [Function.iterate_succ_apply, cleanArgs, ih, List.map_map]
    rfl

theorem cleanArgs_table (id : Nat) (es : List (Value × Value)) (n : Nat) :
    (cleanArgs [])^[n] (.mapping (.table id es)) =
      .mapping (.table id (es.map fun e => (e.1, (cleanArg [])^[n] e.2))) := by
  induction n generalizing es with
  | zero => exact congrArg (fun es => Args.mapping (.table id es)) (List.map_id es).symm
  | succ n ih =>
    rw [Function.iterate_succ_apply, cleanArgs, ih, List.map_map]
    rfl

/-- Of mappings, the filter goes through dictionaries only. -/
theorem cleanArgs_mapping {v : Value} (h : ¬∃ id es, v = .table id es) :
    cleanArgs [] (.mapping v) = .mapping v ∧ values (.mapping v) = [v] := by
  cases v with
  | table id es => exact absurd ⟨id, es, rfl⟩ h
  | _ => exact ⟨rfl, rfl⟩

/-- The filter takes away what can be told of values that are bytes, and nothing else. -/
theorem legible_cleanedArgs_iff {a b : Args} (h : a.shape = b.shape) (hmap : ∀ v, a = .mapping v → v.blob? = .none)
    (n : Nat) : ((cleanArgs [])^[n + 1] a).legible = ((cleanArgs [])^[n + 1] b).legible ↔
      List.Forall₂ (fun v w => v.blob? = .none → v.legible = w.legible) (values a) (values b) := by
  cases a with
  | sequence xs =>
    cases b with
    | mapping w => cases h
    | sequence ys =>
      rw [cleanArgs_sequence, cleanArgs_sequence]
      simp only [Args.legible, Args.sequence.injEq, List.map_map, map_eq_iff_forall₂, values]
      have each := map_eq_iff_forall₂.mp (Args.sequence.inj h)
      exact ⟨each.mp fun v w h => (legible_cleaned_iff h n).mp, each.mp fun v w h => (legible_cleaned_iff h n).mpr⟩
  | mapping v =>
    cases b with
    | sequence ys => cases h
    | mapping w =>
      have shapes := Args.mapping.inj h
      by_cases htable : ∃ id es, v = .table id es
      · obtain ⟨i, es, rfl⟩ := htable
        obtain ⟨j, fs, rfl, hs⟩ := of_shape_table shapes
        rw [cleanArgs_table, cleanArgs_table]
        rw [onLeavesAmong_eq, onLeavesAmong_eq, map_eq_iff_forall₂] at hs
        change Args.mapping (.table 0 (onLeavesAmong legibleLeaf _)) =
          .mapping (.table 0 (onLeavesAmong legibleLeaf _)) ↔ _
        simp only [Args.mapping.injEq, Value.table.injEq, true_and, onLeavesAmong_eq, List.map_map, map_eq_iff_forall₂,
          Function.comp_apply, Prod.mk.injEq, values, List.forall₂_map_left_iff, List.forall₂_map_right_iff]
        have each := hs.imp fun e f h => Prod.mk.inj h
        exact ⟨each.mp fun e f h same => (legible_cleaned_iff h.2 n).mp same.2,
          each.mp fun e f h same => ⟨h.1, (legible_cleaned_iff h.2 n).mpr same⟩⟩
      · have other := mt (table_of_shape shapes) htable
        rw [Function.iterate_fixed (cleanArgs_mapping htable).1, Function.iterate_fixed (cleanArgs_mapping other).1,
          (cleanArgs_mapping htable).2, (cleanArgs_mapping other).2]
        simp [Args.legible, hmap v rfl]

/-! ## (3) Messages -/

theorem shape_argsOf (xs : List Value) : (argsOf xs).shape = argsOf (xs.map Value.shape) := by
  match xs with
  | [] | _ :: _ :: _ => rfl
  | [v] =>
    cases v with
    | table id es => rcases es with _ | ⟨⟨k, v⟩, es⟩ <;> rfl
    | parameters p =>
      change (if p.isEmpty then Args.sequence _ else _).shape = if p.isEmpty then Args.sequence _ else _
      split <;> rfl
    | number n => cases n <;> rfl
    | _ => rfl

/-- Bytes are no mapping. -/
theorem blob?_of_argsOf {xs : List Value} {v : Value} (h : argsOf xs = .mapping v) : v.blob? = .none := by
  unfold argsOf at h
  split at h
  · split at h
    · cases h
      rfl
    · split at h <;> cases h
      rfl
    · cases h
  · cases h

/-- A template, filled with the arguments if there are any. -/
def worded (s : String) (args : Args) : Except TemplateFault String := if args.isEmpty then .ok s else fill s args

theorem isEmpty_shape (args : Args) : args.shape.isEmpty = args.isEmpty := by
  cases args with
  | sequence xs => cases xs <;> rfl
  | mapping v => rfl

theorem isEmpty_legible (args : Args) : args.legible.isEmpty = args.isEmpty := by
  cases args with
  | sequence xs => cases xs <;> rfl
  | mapping v => rfl

theorem isOk_worded_of_shape {a b : Args} (h : a.shape = b.shape) (s : String) :
    (worded s a).isOk = (worded s b).isOk := by
  rw [worded, worded, ← isEmpty_shape a, h, isEmpty_shape]
  split
  · rfl
  · exact isOk_fill_of_shape h s

theorem worded_of_legible {a b : Args} (h : a.legible = b.legible) (s : String) : worded s a = worded s b := by
  rw [worded, worded, ← isEmpty_legible a, h, isEmpty_legible, fill_of_legible h]

theorem legible_of_worded {a b : Args} (h : a.shape = b.shape)
    (same : (worded a.inquiry a).toOption = (worded a.inquiry b).toOption) : a.legible = b.legible := by
  have empty : a.isEmpty = b.isEmpty := by rw [← isEmpty_shape, h, isEmpty_shape]
  rw [worded, worded, ← empty] at same
  cases ha : a.isEmpty with
  | false =>
    rw [ha] at same
    exact legible_of_fill h same
  | true =>
    have none {args : Args} (h : args.isEmpty) : args = .sequence [] := by
      cases args with
      | sequence xs => rw [List.isEmpty_iff.mp h]
      | mapping v => cases h
    rw [none ha, none (empty.symm.trans ha)]

/-- The record of a call with a template and arguments. -/
def Record.saying (r : Record) (s : String) (xs : List Value) : Record :=
  { r with message := .text s, args := argsOf xs }

theorem args_passed (r : Record) (n : Nat) : (r.passed n).args = (cleanArgs [])^[n] r.args := by
  induction n with
  | zero => rfl
  | succ n ih =>
    rw [Function.iterate_succ_apply', ← ih]
    rfl

theorem text_saying (r : Record) (s : String) (xs : List Value) (n : Nat) :
    ((r.saying s xs).passed n).text = worded ((redact [])^[n] s) ((cleanArgs [])^[n] (argsOf xs)) := by
  rw [Record.text, passed_message rfl, args_passed]
  rfl

theorem runless_shownForms (k : Nat) : Runless ('r' :: shownForms k) := by
  induction k with
  | zero => exact ⟨noRun_of_length (by decide), noRun_of_length (by decide)⟩
  | succ k ih =>
    change Runless (['r'] ++ '%' :: ('r' :: shownForms k))
    rw [Runless, noRun_append_cons (by decide), noRun_append_cons (by decide)]
    exact ⟨⟨noRun_of_length (by decide), ih.1, by decide⟩, noRun_of_length (by decide), ih.2, by decide⟩

/-- Redaction leaves a template alone that asks for everything. -/
theorem redact_inquiry (args : Args) (n : Nat) : (redact [])^[n] args.inquiry = args.inquiry := by
  have forms (k : Nat) : redact [] (String.ofList (shownForms k)) = String.ofList (shownForms k) := by
    refine redact_signless ?_ ?_ <;> rw [String.toList_ofList]
    · intro c hc
      obtain ⟨l, hl, hc⟩ := List.mem_flatten.mp hc
      rw [List.eq_of_mem_replicate hl] at hc
      have plain : ∀ c ∈ ['%', 'r'], Rule.isSign c = false ∧ c ≠ '-' := by decide
      exact plain c hc
    · exact (runless_shownForms k).suffix (List.suffix_cons _ _)
  cases args <;> exact Function.iterate_fixed (forms _) n

/-- A record without a message of its own. -/
def blank : Record := ⟨"app", 30, .text "", .sequence [], Journal.startOfRun, .none, .none, []⟩

/-- A window in a list is shown by its address. -/
example : ((blank.saying "keys %s" [.list 0 [.view 31 1 [107]]]).passed 1).text.toOption =
    some "keys [<memory at 0x1f>]" := by decide +kernel

end Log

end KeyBundle
