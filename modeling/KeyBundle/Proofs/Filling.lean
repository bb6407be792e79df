/-
  KeyBundle.Proofs.Filling — what placeholders cannot tell apart.

  An argument is put into a template by its plain text, its shown form, its number, its character or its type. So a
  value and its image make no difference if those are the same (`Unseen`).

  (1) Every placeholder shows such a value and its image alike (`fillSpec_image`), also where it fails.
  (2) So a template filled from a sequence of arguments is the same for their images (`fill_sequence_image`), and so is
      one filled from a mapping, if the image has the images of the values under its keys (`fill_mapping_image`).
  (3) Masks are such images (`fill_masked`). For mappings that have masks this does not help: a template can name one
      of their values, and may get blobs.
-/

import KeyBundle.Proofs.Masking
import KeyBundle.Proofs.Steps
import KeyBundle.Template.Fill

namespace KeyBundle.Template

/-! ## (1) Placeholders -/

/-- The count that a value stands for. -/
def countIn (limits : CountLimits) (v : Value) : Except TemplateFault (Option Int) :=
  match v with
  | .number (.int n) => if n < -limits.most - 1 || limits.most < n then .error limits.taken else .ok (some n)
  | .number (.bool b) => .ok (some (if b then 1 else 0))
  | _ => .error .badWidth

/-- No placeholder tells a value from its image. -/
structure Unseen (μ : Value → Value) : Prop where
  plain (v : Value) : (μ v).plain = v.plain
  shown (v : Value) : (μ v).shown = v.shown
  whole (c : Char) (v : Value) : whole c (μ v) = whole c v
  places (c : Char) (alternate : Bool) (precision : Option Nat) (v : Value) :
    placesNumeral c alternate precision (μ v) = placesNumeral c alternate precision v
  character (v : Value) : character (μ v) = character v
  count (limits : CountLimits) (v : Value) : countIn limits (μ v) = countIn limits v

def Supply.map (μ : Value → Value) : Supply → Supply
  | rest xs => rest (xs.map μ)
  | single v taken => single (μ v) taken

/-- A mapping and its image, which has the images of its values. -/
def ImageMapping (μ : Value → Value) (m m' : Option Value) : Prop :=
  ∀ key supply, supplyFor m' key (supply.map μ) = (supplyFor m key supply).map (Supply.map μ)

section

variable {μ : Value → Value} (h : Unseen μ)

theorem next_map (supply : Supply) : (supply.map μ).next = supply.next.map fun r => (μ r.1, r.2.map μ) := by
  cases supply with
  | rest xs => cases xs <;> rfl
  | single v taken => cases taken <;> rfl

theorem countFrom_argument_eq (limits : CountLimits) (supply : Supply) : countFrom limits .argument supply =
    supply.next >>= fun r => (countIn limits r.1).map fun n => (n, r.2) := by
  rw [countFrom]
  congr 1
  funext ⟨v, supply⟩
  cases v with
  | number n =>
    cases n with
    | int i =>
      simp only [countIn]
      split <;> rfl
    | _ => rfl
  | _ => rfl

include h

theorem convert_image (s : Spec) (width : Nat) (precision : Option Nat) (c : Char) (place : Nat) (v : Value) :
    convert s width precision c place (μ v) = convert s width precision c place v := by
  unfold convert
  simp only [h.plain, h.shown, h.whole, h.places, h.character]

theorem countFrom_image (limits : CountLimits) (n : Count) (supply : Supply) :
    countFrom limits n (supply.map μ) = (countFrom limits n supply).map fun r => (r.1, r.2.map μ) := by
  cases n with
  | absent => rfl
  | digits n =>
    simp only [countFrom]
    split <;> rfl
  | argument =>
    rw [countFrom_argument_eq, countFrom_argument_eq]
    refine bind_map (next_map supply) fun r => ?_
    rw [h.count]
    cases countIn limits r.1 <;> rfl

theorem fillSpec_image {m m' : Option Value} (hm : ImageMapping μ m m') (supply : Supply) (s : Spec) :
    fillSpec m' (supply.map μ) s = (fillSpec m supply s).map fun r => (r.1, r.2.map μ) := by
  unfold fillSpec
  refine bind_map (hm s.key supply) fun supply => ?_
  refine bind_map (countFrom_image h widthLimits s.width supply) fun r => ?_
  obtain ⟨width, supply⟩ := r
  refine bind_map (countFrom_image h precisionLimits s.precision supply) fun r => ?_
  obtain ⟨precision, supply⟩ := r
  cases hc : s.conversion with
  | none => rfl
  | some place =>
    refine bind_map (next_map supply) fun r => ?_
    obtain ⟨v, supply⟩ := r
    simp only [convert_image h]
    split
    · exact bind_same fun _ => rfl
    · exact bind_same fun _ => rfl

theorem fillParts_image {m m' : Option Value} (hm : ImageMapping μ m m') (ps : List Part) (supply : Supply) :
    fillParts m' (supply.map μ) ps = (fillParts m supply ps).map fun r => (r.1, r.2.map μ) := by
  induction ps generalizing supply with
  | nil => rfl
  | cons p ps ih =>
    cases p with
    | char c => exact bind_map (ih supply) fun r => rfl
    | placeholder s => exact bind_map (fillSpec_image h hm supply s) fun r => bind_map (ih r.2) fun r => rfl

/-! ## (2) Templates -/

theorem fill_sequence_image (template : String) (xs : List Value) :
    fill template (.sequence (xs.map μ)) = fill template (.sequence xs) := by
  have keyless : ImageMapping μ none none := fun key _ => by cases key <;> rfl
  have filled := fillParts_image h keyless (parts template) (.rest xs)
  show (fillParts none ((Supply.rest xs).map μ) (parts template) >>= _) =
    (fillParts none (.rest xs) (parts template) >>= _)
  rw [filled]
  cases fillParts none (.rest xs) (parts template) with
  | error f => rfl
  | ok r =>
    obtain ⟨text, supply⟩ := r
    cases supply with
    | rest ys => cases ys <;> rfl
    | single => rfl

theorem fill_mapping_image (template : String) {v : Value}
    (hv : ∀ name, lookupKey (μ v) name = (lookupKey v name).map μ) :
    fill template (.mapping (μ v)) = fill template (.mapping v) := by
  have keys : ImageMapping μ (some v) (some (μ v)) := by
    intro key supply
    cases key with
    | absent | unclosed => rfl
    | named name => exact bind_map (hv name) fun _ => rfl
  have filled := fillParts_image h keys (parts template) (.single v false)
  show (fillParts (some (μ v)) ((Supply.single v false).map μ) (parts template) >>= _) =
    (fillParts (some v) (.single v false) (parts template) >>= _)
  rw [filled]
  cases fillParts (some v) (.single v false) (parts template) <;> rfl

end

/-! ## (3) Masks -/

theorem whole_masked (c : Char) (v : Value) : whole c v.masked = whole c v := by
  cases v with
  | scheme s => simp [Value.masked, whole, Value.typeName]
  | _ => rfl

theorem placesNumeral_masked (c : Char) (alternate : Bool) (precision : Option Nat) (v : Value) :
    placesNumeral c alternate precision v.masked = placesNumeral c alternate precision v := by
  cases v with
  | scheme s =>
    show Except.error (TemplateFault.notFloat s.masked.className) = Except.error (TemplateFault.notFloat s.className)
    rw [Scheme.className_masked]
  | _ => rfl

theorem unseen_masked : Unseen Value.masked where
  plain := Value.plain_masked
  shown := Value.shown_masked
  whole := whole_masked
  places := placesNumeral_masked
  character v := by cases v <;> rfl
  count limits v := by cases v <;> rfl

/-- A template with the masks of its arguments is filled as with the arguments themselves. -/
theorem fill_masked (template : String) (xs : List Value) :
    fill template (.sequence (xs.map .masked)) = fill template (.sequence xs) :=
  fill_sequence_image unseen_masked template xs

end KeyBundle.Template
