/-
  KeyBundle.Proofs.Placeholders — when a record can still be put into words after it has been filtered.

  The filter redacts the template of a message as it does any other text, and knows nothing of placeholders: one that
  stands where a value is expected is taken for the value.

  (1) Whether a template can be filled depends on its placeholders, and on the arguments that each of them takes
      (`taken`): the text between them adds nothing (`isOk_fill_sequence`, `isOk_fill_mapping`).
  (2) What the filter makes of the arguments never matters (`isOk_fill_cleanArgs`): a text stays a text, and one
      character stays one character; bytes were no more use to a placeholder for numbers or characters than the text is
      that stands for them.
  (3) A sequence of arguments is used up to the last (`length_of_foldlM`), so no placeholder may get lost, while
      entries of a mapping may go unused (`foldlM_of_sublist`).
  (4) So a record can be put into words after any number of runs exactly if the redacted template can be filled with the
      arguments that were given (`text_passed_iff`). A placeholder for a password gets lost (`placeholder_lost`).
-/

import KeyBundle.Proofs.Settling
import Mathlib.Algebra.GroupWithZero.Nat

namespace KeyBundle

namespace Template

/-! ## (1) Placeholders -/

/-- A placeholder, wherever it stands. -/
def Spec.unplaced (s : Spec) : Spec := { s with conversion := s.conversion.map fun c => (c.1, 0) }

def Part.spec? : Part → Option Spec
  | .char _ => none
  | .placeholder s => some s.unplaced

/-- The placeholders of a template in their order. -/
def placeholders (template : String) : List Spec := (parts template).filterMap Part.spec?

theorem isOk_bind_congr {ε α β : Type} (x : Except ε α) {f g : α → Except ε β} (h : ∀ a, (f a).isOk = (g a).isOk) :
    (x >>= f).isOk = (x >>= g).isOk := by
  cases x with
  | error e => rfl
  | ok a => exact h a

theorem isOk_bind_false {ε α β : Type} {x : Except ε α} (h : x.isOk = false) (f : α → Except ε β) :
    (x >>= f).isOk = false := by
  cases x with
  | error e => rfl
  | ok a => cases h

theorem isOk_bind_pure {ε α β : Type} (x : Except ε α) (f : α → β) : (x >>= fun a => pure (f a)).isOk = x.isOk := by
  cases x <;> rfl

theorem map_toOption_bind {ε α β γ : Type} (x : Except ε α) (f : α → Except ε β) (g : β → γ) :
    (x >>= f).toOption.map g = x.toOption.bind fun a => (f a).toOption.map g := by
  cases x <;> rfl

/-- Neither the field nor the place makes a difference to whether a value can be shown. -/
theorem isOk_convert {s t : Spec} (h : s.alternate = t.alternate) (width width' : Nat) (precision : Option Nat)
    (c : Char) (place place' : Nat) (v : Value) :
    (convert s width precision c place v).isOk = (convert t width' precision c place' v).isOk := by
  unfold convert
  rw [h]
  split
  all_goals first
    | rfl
    | exact isOk_bind_congr _ fun _ => rfl
    | (refine isOk_bind_congr _ fun _ => ?_; split <;> rfl)

/-- A conversion shows the value. -/
def shows (alternate : Bool) (precision : Option Nat) (c : Char) (v : Value) : Bool :=
  (convert { Spec.start with alternate } 0 precision c 0 v).isOk

/-- The supply that a placeholder leaves, if it can be filled. -/
def taken (mapping : Option Value) (supply : Supply) (s : Spec) : Option Supply :=
  (fillSpec mapping supply s).toOption.map (·.2)

/-- A placeholder takes its key, its width, its precision and its value, one after the other. -/
theorem taken_eq (mapping : Option Value) (supply : Supply) (s : Spec) : taken mapping supply s =
    (supplyFor mapping s.key supply).toOption.bind fun supply =>
      (countFrom widthLimits s.width supply).toOption.bind fun (width, supply) =>
        (countFrom precisionLimits s.precision supply).toOption.bind fun (precision, supply) =>
          s.conversion.bind fun (c, _) =>
            supply.next.toOption.bind fun (v, supply) =>
              if fieldWidth (width.getD 0) ≤ widest ∧ shows s.alternate (precision.map (·.toNat)) c v then some supply
              else none := by
  unfold taken fillSpec
  refine (map_toOption_bind _ _ _).trans (Option.bind_congr fun supply _ => ?_)
  refine (map_toOption_bind _ _ _).trans (Option.bind_congr fun ⟨width, supply⟩ _ => ?_)
  refine (map_toOption_bind _ _ _).trans (Option.bind_congr fun ⟨precision, supply⟩ _ => ?_)
  cases hc : s.conversion with
  | none => rfl
  | some c =>
    obtain ⟨c, place⟩ := c
    refine (map_toOption_bind _ _ _).trans (Option.bind_congr fun ⟨v, supply⟩ _ => ?_)
    dsimp only
    -- a negative width changes the alignment only
    generalize ht : (if width.getD 0 < 0 then _ else s) = t
    have alternate : t.alternate = s.alternate := by
      rw [← ht]
      split <;> rfl
    generalize precision.map (·.toNat) = p
    have shown (w : Nat) : (convert t w p c place v).isOk = shows s.alternate p c v := by
      unfold shows
      exact isOk_convert (t := { Spec.start with alternate := s.alternate }) alternate w 0 p c place 0 v
    by_cases wide : widest < fieldWidth (width.getD 0)
    · rw [if_pos wide, if_neg fun h => Nat.not_le_of_lt wide h.1]
      cases convert t 0 p c place v <;> rfl
    · rw [if_neg wide, ← shown (fieldWidth (width.getD 0))]
      cases convert t (fieldWidth (width.getD 0)) p c place v with
      | error f => rw [if_neg fun h => nomatch h.2]; rfl
      | ok piece => rw [if_pos ⟨Nat.le_of_not_lt wide, rfl⟩]; rfl

theorem taken_unplaced (mapping : Option Value) (supply : Supply) (s : Spec) :
    taken mapping supply s.unplaced = taken mapping supply s := by
  rw [taken_eq, taken_eq]
  cases hc : s.conversion <;> simp [Spec.unplaced, hc]

/-- Part after part, only the placeholders take something. -/
theorem supply_fillParts (mapping : Option Value) (supply : Supply) (ps : List Part) :
    (fillParts mapping supply ps).toOption.map (·.2) = (ps.filterMap Part.spec?).foldlM (taken mapping) supply := by
  induction ps generalizing supply with
  | nil => rfl
  | cons p ps ih =>
    cases p with
    | char c =>
      rw [List.filterMap_cons_none rfl, ← ih, fillParts, map_toOption_bind]
      cases (fillParts mapping supply ps).toOption <;> rfl
    | placeholder s =>
      have found : Part.spec? (.placeholder s) = some s.unplaced := rfl
      rw [List.filterMap_cons_some found, List.foldlM_cons, taken_unplaced, fillParts, map_toOption_bind, taken,
        Option.bind_eq_bind, Option.bind_map]
      refine Option.bind_congr fun ⟨piece, supply⟩ _ => ?_
      dsimp only [Function.comp_apply]
      rw [← ih, map_toOption_bind]
      cases (fillParts mapping supply ps).toOption <;> rfl

/-- What a placeholder that can be filled has found. -/
theorem of_taken {mapping : Option Value} {supply left : Supply} {s : Spec} (h : taken mapping supply s = some left) :
    ∃ s₁ width s₂ precision s₃ v, supplyFor mapping s.key supply = .ok s₁ ∧
      countFrom widthLimits s.width s₁ = .ok (width, s₂) ∧ countFrom precisionLimits s.precision s₂ = .ok (precision, s₃) ∧
      s₃.next = .ok (v, left) := by
  rw [taken_eq] at h
  obtain ⟨s₁, h₁, h⟩ := Option.bind_eq_some_iff.mp h
  obtain ⟨⟨width, s₂⟩, h₂, h⟩ := Option.bind_eq_some_iff.mp h
  obtain ⟨⟨precision, s₃⟩, h₃, h⟩ := Option.bind_eq_some_iff.mp h
  obtain ⟨⟨c, place⟩, -, h⟩ := Option.bind_eq_some_iff.mp h
  obtain ⟨⟨v, s₄⟩, h₄, h⟩ := Option.bind_eq_some_iff.mp h
  obtain ⟨-, hleft⟩ := Option.ite_none_right_eq_some.mp h
  cases hleft
  exact ⟨s₁, width, s₂, precision, s₃, v, eq_ok_of_toOption h₁, eq_ok_of_toOption h₂, eq_ok_of_toOption h₃,
    eq_ok_of_toOption h₄⟩

/-! ### Sequences -/

/-- How many arguments a count takes. -/
def Count.demand : Count → Nat
  | argument => 1
  | absent | digits _ => 0

/-- How many arguments a placeholder takes. -/
def Spec.demand (s : Spec) : Nat := s.width.demand + s.precision.demand + 1

theorem rest_of_next {xs : List Value} {v : Value} {left : Supply} (h : (Supply.rest xs).next = .ok (v, left)) :
    ∃ ys, left = .rest ys ∧ xs.length = ys.length + 1 := by
  cases xs with
  | nil => cases h
  | cons x xs =>
    cases h
    exact ⟨xs, rfl, rfl⟩

/-- The count that a value stands for. -/
def countOf (limits : CountLimits) : Value → Option Int
  | .number (.int n) => if n < -limits.most - 1 || limits.most < n then none else some n
  | .number (.bool b) => some (if b then 1 else 0)
  | _ => none

theorem toOption_countFrom (limits : CountLimits) (supply : Supply) :
    (countFrom limits .argument supply).toOption =
      supply.next.toOption.bind fun (v, left) => (countOf limits v).map fun n => (some n, left) := by
  rw [countFrom, toOption_bind]
  congr 1
  funext ⟨v, left⟩
  cases v with
  | number n =>
    cases n with
    | int i =>
      simp only [countOf]
      split <;> rfl
    | bool b => rfl
    | float x mark => rfl
  | _ => rfl

theorem countFrom_argument {limits : CountLimits} {supply left : Supply} {k : Option Int}
    (h : countFrom limits .argument supply = .ok (k, left)) : ∃ v, supply.next = .ok (v, left) := by
  have found := toOption_countFrom limits supply
  rw [h] at found
  obtain ⟨⟨v, s⟩, hs, hk⟩ := Option.bind_eq_some_iff.mp found.symm
  obtain ⟨n, -, hn⟩ := Option.map_eq_some_iff.mp hk
  cases hn
  exact ⟨v, eq_ok_of_toOption hs⟩

theorem rest_of_countFrom {limits : CountLimits} {n : Count} {xs : List Value} {k : Option Int} {left : Supply}
    (h : countFrom limits n (.rest xs) = .ok (k, left)) : ∃ ys, left = .rest ys ∧ xs.length = ys.length + n.demand := by
  cases n with
  | absent =>
    cases h
    exact ⟨xs, rfl, rfl⟩
  | digits n =>
    rw [countFrom] at h
    split at h
    · cases h
    · cases h
      exact ⟨xs, rfl, rfl⟩
  | argument =>
    obtain ⟨v, hv⟩ := countFrom_argument h
    exact rest_of_next hv

theorem rest_of_taken {xs : List Value} {s : Spec} {left : Supply} (h : taken none (.rest xs) s = some left) :
    ∃ ys, left = .rest ys ∧ xs.length = ys.length + s.demand := by
  obtain ⟨s₁, width, s₂, precision, s₃, v, h₁, h₂, h₃, h₄⟩ := of_taken h
  have plain : s₁ = .rest xs := by
    cases hk : s.key <;> rw [hk] at h₁ <;> cases h₁
    rfl
  subst plain
  obtain ⟨ys, rfl, hys⟩ := rest_of_countFrom h₂
  obtain ⟨zs, rfl, hzs⟩ := rest_of_countFrom h₃
  obtain ⟨ws, rfl, hws⟩ := rest_of_next h₄
  refine ⟨ws, rfl, ?_⟩
  rw [Spec.demand]
  omega

/-- Together, placeholders take as many arguments as each of them takes. -/
theorem length_of_foldlM {ss : List Spec} {xs ys : List Value}
    (h : ss.foldlM (taken none) (.rest xs) = some (.rest ys)) : xs.length = ys.length + (ss.map Spec.demand).sum := by
  induction ss generalizing xs with
  | nil =>
    cases h
    rfl
  | cons s ss ih =>
    rw [List.foldlM_cons] at h
    obtain ⟨left, hs, h⟩ := Option.bind_eq_some_iff.mp h
    obtain ⟨zs, rfl, hzs⟩ := rest_of_taken hs
    rw [List.map_cons, List.sum_cons, hzs, ih h]
    omega

theorem rest_of_foldlM {ss : List Spec} {xs : List Value} {left : Supply}
    (h : ss.foldlM (taken none) (.rest xs) = some left) : ∃ ys, left = .rest ys := by
  induction ss generalizing xs with
  | nil =>
    cases h
    exact ⟨xs, rfl⟩
  | cons s ss ih =>
    rw [List.foldlM_cons] at h
    obtain ⟨left, hs, h⟩ := Option.bind_eq_some_iff.mp h
    obtain ⟨zs, rfl, -⟩ := rest_of_taken hs
    exact ih h

/-- Without some of its placeholders, a template takes fewer arguments. -/
theorem demand_of_sublist {ss ts : List Spec} (h : ts.Sublist ss) :
    (ts.map Spec.demand).sum ≤ (ss.map Spec.demand).sum ∧
      ((ts.map Spec.demand).sum = (ss.map Spec.demand).sum → ts = ss) := by
  induction h with
  | slnil => exact ⟨Nat.le_refl _, fun _ => rfl⟩
  | cons s _ ih =>
    have : 0 < s.demand := Nat.succ_pos _
    rw [List.map_cons, List.sum_cons]
    exact ⟨by omega, fun same => by omega⟩
  | cons_cons s _ ih =>
    simp only [List.map_cons, List.sum_cons]
    exact ⟨by omega, fun same => by rw [ih.2 (by omega)]⟩

/-- A sequence is used up by the placeholders of a template that can be filled. -/
theorem isOk_fill_sequence (template : String) (xs : List Value) :
    (fill template (.sequence xs)).isOk ↔
      (placeholders template).foldlM (taken none) (.rest xs) = some (.rest []) := by
  rw [placeholders, ← supply_fillParts]
  unfold fill
  dsimp only
  cases hfill : fillParts none (.rest xs) (parts template) with
  | error f => exact ⟨nofun, nofun⟩
  | ok r =>
    obtain ⟨text, left⟩ := r
    have found : ((parts template).filterMap Part.spec?).foldlM (taken none) (.rest xs) = some left := by
      rw [← supply_fillParts, hfill]
      rfl
    obtain ⟨ys, rfl⟩ := rest_of_foldlM found
    cases ys with
    | nil => exact ⟨fun _ => rfl, fun _ => rfl⟩
    | cons y ys => exact ⟨nofun, nofun⟩

/-! ### Mappings -/

theorem isOk_fill_mapping (template : String) (v : Value) :
    (fill template (.mapping v)).isOk ↔
      ((placeholders template).foldlM (taken (some v)) (.single v false)).isSome := by
  rw [placeholders, ← supply_fillParts]
  unfold fill
  dsimp only
  cases fillParts (some v) (.single v false) (parts template) <;> exact Iff.rfl

theorem single_of_countFrom {limits : CountLimits} {n : Count} {x : Value} {used : Bool} {k : Option Int} {left : Supply}
    (h : countFrom limits n (.single x used) = .ok (k, left)) :
    left = .single x used ∨ used = false ∧ left = .single x true := by
  cases n with
  | absent =>
    cases h
    exact .inl rfl
  | digits n =>
    rw [countFrom] at h
    split at h
    · cases h
    · cases h
      exact .inl rfl
  | argument =>
    obtain ⟨v, hv⟩ := countFrom_argument h
    cases used with
    | true => cases hv
    | false =>
      cases hv
      exact .inr ⟨rfl, rfl⟩

/-- A value that stands alone is taken once. -/
theorem single_of_taken {mapping : Option Value} {s : Spec} {supply left : Supply} {x : Value} {used : Bool}
    (hkey : supplyFor mapping s.key supply = .ok (.single x used)) (h : taken mapping supply s = some left) :
    used = false ∧ left = .single x true := by
  obtain ⟨s₁, width, s₂, precision, s₃, v, h₁, h₂, h₃, h₄⟩ := of_taken h
  cases hkey.symm.trans h₁
  have next {used : Bool} {v : Value} {left : Supply} (h : (Supply.single x used).next = .ok (v, left)) :
      used = false ∧ left = .single x true := by
    cases used with
    | true => cases h
    | false =>
      cases h
      exact ⟨rfl, rfl⟩
  rcases single_of_countFrom h₂ with rfl | ⟨rfl, rfl⟩ <;> rcases single_of_countFrom h₃ with rfl | ⟨h, rfl⟩
  · exact next h₄
  · exact ⟨h, (next h₄).2⟩
  · cases (next h₄).1
  · cases h

/-- A placeholder of a mapping leaves a value that has been taken. With a key, it does not matter what has been taken
    before. -/
theorem used_of_taken {v x : Value} {used : Bool} {s : Spec} {left : Supply}
    (h : taken (some v) (.single x used) s = some left) :
    (∃ y, left = .single y true) ∧ (used = true → ∀ supply, taken (some v) supply s = some left) := by
  cases hk : s.key with
  | absent =>
    have hkey : supplyFor (some v) s.key (.single x used) = .ok (.single x used) := by rw [hk]; rfl
    obtain ⟨rfl, rfl⟩ := single_of_taken hkey h
    exact ⟨⟨x, rfl⟩, nofun⟩
  | unclosed =>
    obtain ⟨s₁, -, -, -, -, -, h₁, -⟩ := of_taken h
    rw [hk] at h₁
    cases h₁
  | named name =>
    have same (supply : Supply) : taken (some v) supply s = taken (some v) (.single x used) s := by
      rw [taken_eq, taken_eq, hk]
      rfl
    obtain ⟨s₁, -, -, -, -, -, h₁, -⟩ := of_taken h
    refine ⟨?_, fun _ supply => (same supply).trans h⟩
    rw [hk] at h₁
    cases hl : lookupKey v name with
    | error f =>
      rw [supplyFor, hl] at h₁
      cases h₁
    | ok y =>
      rw [supplyFor, hl] at h₁
      cases h₁
      have hkey : supplyFor (some v) s.key (.single x used) = .ok (.single y false) := by
        rw [hk, supplyFor, hl]
        rfl
      exact ⟨y, (single_of_taken hkey h).2⟩

theorem of_foldlM_cons {v x : Value} {used : Bool} {s : Spec} {ss : List Spec}
    (h : ((s :: ss).foldlM (taken (some v)) (.single x used)).isSome) :
    ∃ y, taken (some v) (.single x used) s = some (.single y true) ∧
      (ss.foldlM (taken (some v)) (.single y true)).isSome := by
  rw [List.foldlM_cons] at h
  cases hs : taken (some v) (.single x used) s with
  | none =>
    rw [hs] at h
    cases h
  | some left =>
    obtain ⟨⟨y, rfl⟩, -⟩ := used_of_taken hs
    rw [hs] at h
    exact ⟨y, rfl, h⟩

/-- After a value that has been taken, only placeholders with keys are filled, and those from any supply. -/
theorem foldlM_of_used {v x : Value} {ss : List Spec} (h : (ss.foldlM (taken (some v)) (.single x true)).isSome)
    (supply : Supply) : (ss.foldlM (taken (some v)) supply).isSome := by
  cases ss with
  | nil => rfl
  | cons s ss =>
    obtain ⟨y, hs, hss⟩ := of_foldlM_cons h
    rw [List.foldlM_cons, (used_of_taken hs).2 rfl supply]
    exact hss

/-- With fewer placeholders, a mapping still fills a template. -/
theorem foldlM_of_sublist {v x : Value} {used : Bool} {ss ts : List Spec} (h : ts.Sublist ss)
    (hss : (ss.foldlM (taken (some v)) (.single x used)).isSome) :
    (ts.foldlM (taken (some v)) (.single x used)).isSome := by
  induction h generalizing x used with
  | slnil => rfl
  | cons s _ ih =>
    obtain ⟨y, -, hss⟩ := of_foldlM_cons hss
    exact foldlM_of_used (ih hss) _
  | cons_cons s _ ih =>
    obtain ⟨y, hs, hss⟩ := of_foldlM_cons hss
    rw [List.foldlM_cons, hs]
    exact ih hss

/-! ## (2) Arguments -/

/-- Values that every placeholder takes or refuses alike, whatever it shows for them. -/
inductive Alike : Value → Value → Prop where
  | same (v : Value) : Alike v v
  | shown {v w : Value} (hv : ∀ n, v ≠ .number n) (hw : ∀ n, w ≠ .number n)
      (h : (character v).isOk = (character w).isOk) : Alike v w

theorem shows_alike {v w : Value} (h : Alike v w) (alternate : Bool) (precision : Option Nat) (c : Char) :
    shows alternate precision c v = shows alternate precision c w := by
  cases h with
  | same => rfl
  | shown hv hw h =>
    have whole {v : Value} (hv : ∀ n, v ≠ .number n) (c : Char) : (whole c v).isOk = false := by
      cases v with
      | number n => exact absurd rfl (hv n)
      | _ => rfl
    have places {v : Value} (hv : ∀ n, v ≠ .number n) (c : Char) :
        (placesNumeral c alternate precision v).isOk = false := by
      cases v with
      | number n => exact absurd rfl (hv n)
      | _ => rfl
    unfold shows convert
    split
    all_goals first
      | rfl
      | rw [isOk_bind_false (whole hv _), isOk_bind_false (whole hw _)]
      | rw [isOk_bind_false (places hv _), isOk_bind_false (places hw _)]
      | rw [isOk_bind_pure, isOk_bind_pure, h]

theorem countOf_alike {v w : Value} (h : Alike v w) (limits : CountLimits) : countOf limits v = countOf limits w := by
  cases h with
  | same => rfl
  | shown hv hw =>
    have none {v : Value} (hv : ∀ n, v ≠ .number n) : countOf limits v = none := by
      cases v with
      | number n => exact absurd rfl (hv n)
      | _ => rfl
    rw [none hv, none hw]

/-- Supplies of such values. -/
inductive Supply.Alike : Supply → Supply → Prop where
  | rest {xs ys : List Value} (h : List.Forall₂ Template.Alike xs ys) : Alike (.rest xs) (.rest ys)
  | single {v w : Value} (h : Template.Alike v w) (taken : Bool) : Alike (.single v taken) (.single w taken)

theorem rel_bind {α β γ δ : Type} {R : α → β → Prop} {S : γ → δ → Prop} {x : Option α} {y : Option β}
    {f : α → Option γ} {g : β → Option δ} (h : Option.Rel R x y) (hf : ∀ a b, R a b → Option.Rel S (f a) (g b)) :
    Option.Rel S (x.bind f) (y.bind g) := by
  cases h with
  | some h => exact hf _ _ h
  | none => exact .none

/-- A result that goes on with the supply. -/
def Both {α β : Type} (R : α → β → Prop) (a : α × Supply) (b : β × Supply) : Prop := R a.1 b.1 ∧ a.2.Alike b.2

theorem next_alike {supply supply' : Supply} (h : supply.Alike supply') :
    Option.Rel (Both Alike) supply.next.toOption supply'.next.toOption := by
  cases h with
  | rest h =>
    cases h with
    | nil => exact .none
    | cons hv h => exact .some ⟨hv, .rest h⟩
  | single h taken =>
    cases taken with
    | false => exact .some ⟨h, .single h true⟩
    | true => exact .none

theorem countFrom_alike (limits : CountLimits) (n : Count) {supply supply' : Supply} (h : supply.Alike supply') :
    Option.Rel (Both (· = ·)) (countFrom limits n supply).toOption (countFrom limits n supply').toOption := by
  cases n with
  | absent => exact .some ⟨rfl, h⟩
  | digits n =>
    simp only [countFrom]
    split
    · exact .none
    · exact .some ⟨rfl, h⟩
  | argument =>
    rw [toOption_countFrom, toOption_countFrom]
    refine rel_bind (next_alike h) ?_
    rintro ⟨v, supply⟩ ⟨w, supply'⟩ ⟨hv, h⟩
    simp only [countOf_alike hv]
    cases countOf limits w with
    | none => exact .none
    | some n => exact .some ⟨rfl, h⟩

/-- Mappings with such values under the same keys. -/
def AlikeMapping (m m' : Option Value) : Prop :=
  ∀ key supply supply', supply.Alike supply' →
    Option.Rel Supply.Alike (supplyFor m key supply).toOption (supplyFor m' key supply').toOption

theorem taken_alike {m m' : Option Value} (hm : AlikeMapping m m') {supply supply' : Supply}
    (h : supply.Alike supply') (s : Spec) : Option.Rel Supply.Alike (taken m supply s) (taken m' supply' s) := by
  rw [taken_eq, taken_eq]
  refine rel_bind (hm s.key supply supply' h) fun s₁ s₁' h => ?_
  refine rel_bind (countFrom_alike _ _ h) ?_
  rintro ⟨width, s₂⟩ ⟨_, s₂'⟩ ⟨rfl, h⟩
  refine rel_bind (countFrom_alike _ _ h) ?_
  rintro ⟨precision, s₃⟩ ⟨_, s₃'⟩ ⟨rfl, h⟩
  cases hc : s.conversion with
  | none => exact .none
  | some c =>
    obtain ⟨c, place⟩ := c
    simp only [Option.bind_some]
    refine rel_bind (next_alike h) ?_
    rintro ⟨v, s₄⟩ ⟨w, s₄'⟩ ⟨hv, h⟩
    simp only [shows_alike hv]
    split
    · exact .some h
    · exact .none

theorem foldlM_alike {m m' : Option Value} (hm : AlikeMapping m m') (ss : List Spec) {supply supply' : Supply}
    (h : supply.Alike supply') :
    Option.Rel Supply.Alike (ss.foldlM (taken m) supply) (ss.foldlM (taken m') supply') := by
  induction ss generalizing supply supply' with
  | nil => exact .some h
  | cons s ss ih =>
    rw [List.foldlM_cons, List.foldlM_cons]
    exact rel_bind (taken_alike hm h s) fun _ _ => ih

/-- Placeholders are filled with a sequence, or with another of values alike. -/
theorem isOk_fill_sequence_alike (template : String) {xs ys : List Value} (h : List.Forall₂ Alike xs ys) :
    (fill template (.sequence xs)).isOk = (fill template (.sequence ys)).isOk := by
  have keyless : AlikeMapping none none := by
    intro key supply supply' h
    cases key with
    | absent => exact .some h
    | named | unclosed => exact .none
  rw [Bool.eq_iff_iff, isOk_fill_sequence, isOk_fill_sequence]
  have left := foldlM_alike keyless (placeholders template) (.rest h)
  generalize (placeholders template).foldlM (taken none) (.rest xs) = a at left ⊢
  generalize (placeholders template).foldlM (taken none) (.rest ys) = b at left ⊢
  cases left with
  | none => exact Iff.rfl
  | some h =>
    cases h with
    | rest h => cases h <;> simp
    | single h taken => simp

/-- A template is filled with a mapping, or with another of values alike under the same keys. -/
theorem isOk_fill_mapping_alike (template : String) {v w : Value} (h : Alike v w)
    (hm : ∀ name, Option.Rel Alike (lookupKey v name).toOption (lookupKey w name).toOption) :
    (fill template (.mapping v)).isOk = (fill template (.mapping w)).isOk := by
  have keys : AlikeMapping (some v) (some w) := by
    intro key supply supply' h
    cases key with
    | absent => exact .some h
    | unclosed => exact .none
    | named name =>
      simp only [supplyFor]
      rw [toOption_bind, toOption_bind]
      exact rel_bind (hm name) fun _ _ h => .some (.single h false)
  rw [Bool.eq_iff_iff, isOk_fill_mapping, isOk_fill_mapping]
  have left := foldlM_alike keys (placeholders template) (.single h false)
  generalize (placeholders template).foldlM (taken (some v)) (.single v false) = a at left ⊢
  generalize (placeholders template).foldlM (taken (some w)) (.single w false) = b at left ⊢
  cases left <;> exact Iff.rfl

end Template

namespace Redaction

open Pattern Rule

/-- A rule changes no text of one character, and leaves none. -/
theorem Rewritten.one {r : Rule} (hr : r ∈ Rule.all) {b : Option Char} {t t' : List Char}
    (h : Rewritten r.pattern r.label b t t') : t' = t ∨ 1 < t'.length ∧ 1 < t.length := by
  have long : ∀ r ∈ Rule.all, 1 < r.label.length ∧ 1 < r.pattern.least := by decide
  induction h with
  | nil b => exact .inl rfl
  | copied _ _ ih =>
    refine ih.imp (congrArg _) fun h => ?_
    simp only [List.length_cons]
    omega
  | @replaced b m t t' _ hmatch _ _ =>
    have least := (of_matchAt r.pattern.within_true hmatch).1
    have := long r hr
    refine .inr ?_
    simp only [List.length_append]
    omega

theorem length_redact_eq_one (s : String) : (redact [] s).toList.length = 1 ↔ s.toList.length = 1 := by
  rw [redact_nil_toList]
  refine List.foldlRecOn (motive := fun t => t.length = 1 ↔ s.toList.length = 1) Rule.all Rule.apply Iff.rfl
    fun t ht r hr => ?_
  rw [← ht]
  rcases (Rule.rewritten hr t).one hr with same | long
  · rw [same]
  · omega

end Redaction

namespace Log

open Redaction Template

/-! ## (3) Filtered arguments -/

theorem isOk_character_text (s : String) : (character (.text s)).isOk ↔ s.toList.length = 1 := by
  unfold character
  dsimp only
  rcases s.toList with _ | ⟨c, _ | ⟨d, t⟩⟩ <;> simp [Except.isOk, Except.toBool]

theorem text_ne_number (s : String) (n : Number) : Value.text s ≠ .number n := by
  intro h
  cases h

theorem alike_cleanArg (v : Value) : Alike v (cleanArg [] v) := by
  -- what stands for bytes is longer than one character
  have counted {v : Value} (hv : ∀ n, v ≠ .number n) (hc : (character v).isOk = false) (n : Nat) :
      Alike v (.text (counted n)) := by
    refine .shown hv (text_ne_number _) ?_
    have long : ¬(counted n).toList.length = 1 := by simp [counted]
    rw [← isOk_character_text, Bool.not_eq_true] at long
    rw [hc, long]
  cases v with
  | text s =>
    refine .shown (text_ne_number s) (text_ne_number _) ?_
    change (character (.text s)).isOk = (character (.text (redact [] s))).isOk
    rw [Bool.eq_iff_iff, isOk_character_text, isOk_character_text, length_redact_eq_one]
  | bytes b | buffer id b | view id width b | sealed className b r =>
    refine counted (fun _ h => ?_) rfl _
    cases h
  | _ => exact .same _

/-- Whether a template can be filled does not depend on the filter having been over the arguments. -/
theorem isOk_fill_cleanArgs (template : String) (args : Args) :
    (fill template (cleanArgs [] args)).isOk = (fill template args).isOk := by
  cases args with
  | sequence xs =>
    refine (isOk_fill_sequence_alike template ?_).symm
    rw [List.forall₂_map_right_iff, List.forall₂_same]
    exact fun x _ => alike_cleanArg x
  | mapping v =>
    cases v with
    | table id es =>
      have tables : Alike (.table id es) (.table id (es.map fun e => (e.1, cleanArg [] e.2))) :=
        .shown (fun _ h => nomatch h) (fun _ h => nomatch h) rfl
      refine (isOk_fill_mapping_alike template tables fun name => ?_).symm
      simp only [lookupKey, List.find?_map, Option.map_map, Function.comp_def]
      cases es.find? fun e => (Value.text name).same e.1 with
      | none => exact .none
      | some e => exact .some (alike_cleanArg e.2)
    | _ => rfl

/-! ## (4) Records -/

/-- A record that goes through the filter keeps a text as its message, redacted over and over. -/
theorem passed_message {r : Record} {s : String} (hs : r.message = .text s) (n : Nat) :
    (r.passed n).message = .text ((redact [])^[n] s) := by
  induction n with
  | zero => exact hs
  | succ n ih =>
    rw [Record.passed, Record.filtered, ih, Function.iterate_succ_apply']
    rfl

theorem isEmpty_cleanArgs (args : Args) : (cleanArgs [] args).isEmpty = args.isEmpty := by
  cases args with
  | sequence xs => cases xs <;> rfl
  | mapping v => cases v <;> rfl

theorem isEmpty_passed (r : Record) (n : Nat) : (r.passed n).args.isEmpty = r.args.isEmpty := by
  induction n with
  | zero => rfl
  | succ n ih =>
    rw [← ih]
    exact isEmpty_cleanArgs _

theorem isOk_fill_passed (template : String) (r : Record) (n : Nat) :
    (fill template (r.passed n).args).isOk = (fill template r.args).isOk := by
  induction n with
  | zero => rfl
  | succ n ih =>
    rw [← ih]
    exact isOk_fill_cleanArgs template _

/-- A record that can be put into words can be so after any number of runs of the filter exactly if it has no arguments
    or the redacted template can be filled with them as they were. If redaction only takes placeholders away, that is:
    if it takes none, or the arguments are a mapping. -/
theorem text_passed_iff {r : Record} {s : String} (hs : r.message = .text s) (hr : r.text.isOk) (n : Nat) :
    let t := (redact [])^[n] s
    ((r.passed n).text.isOk ↔ r.args.isEmpty ∨ (fill t r.args).isOk) ∧
      ((placeholders t).Sublist (placeholders s) →
        ((r.passed n).text.isOk ↔ r.args.isEmpty ∨ (∃ v, r.args = .mapping v) ∨ placeholders t = placeholders s)) := by
  intro t
  have text_iff (r : Record) {s : String} (hs : r.message = .text s) :
      r.text.isOk ↔ r.args.isEmpty ∨ (fill s r.args).isOk := by
    rw [Record.text, hs]
    cases r.args.isEmpty with
    | true => exact iff_of_true rfl (.inl rfl)
    | false => exact ⟨.inr, fun h => h.resolve_left nofun⟩
  have passed : (r.passed n).text.isOk ↔ r.args.isEmpty ∨ (fill t r.args).isOk := by
    rw [text_iff _ (passed_message hs n), isEmpty_passed, isOk_fill_passed]
  refine ⟨passed, fun fewer => passed.trans (or_congr_right' fun nonempty => ?_)⟩
  have filled := ((text_iff r hs).mp hr).resolve_left nonempty
  cases hargs : r.args with
  | sequence xs =>
    rw [hargs, isOk_fill_sequence] at filled
    have all := length_of_foldlM filled
    rw [isOk_fill_sequence]
    constructor
    · intro rest
      exact .inr ((demand_of_sublist fewer).2 (Nat.add_left_cancel ((length_of_foldlM rest).symm.trans all)))
    · rintro (⟨v, hv⟩ | same)
      · cases hv
      · rw [same]
        exact filled
  | mapping v =>
    rw [hargs, isOk_fill_mapping] at filled
    rw [isOk_fill_mapping]
    exact iff_of_true (foldlM_of_sublist fewer filled) (.inl ⟨v, rfl⟩)

/-- A password is hidden in the template, and the name behind it is still put in. -/
theorem text_passed_iff_password :
    let r : Record := ⟨"app", 30, .text "pwd=x for %s", .sequence [.text "ann"], Journal.startOfRun, none, none, []⟩
    (r.passed 2).text.isOk ∧ (placeholders ((redact [])^[2] "pwd=x for %s")).Sublist (placeholders "pwd=x for %s") := by
  intro r
  have hr : r.text.isOk := by decide +kernel
  have twice : (redact [])^[2] "pwd=x for %s" = "password=[REDACTED] for %s" := by decide +kernel
  have same : placeholders ((redact [])^[2] "pwd=x for %s") = placeholders "pwd=x for %s" := by
    rw [twice]
    rfl
  have kept := (text_passed_iff (r := r) rfl hr 2).2 (by rw [same])
  exact ⟨kept.mpr (.inr (.inr same)), by rw [same]⟩

/-- A placeholder for a password is taken for the password, and the argument has no place to go. -/
theorem placeholder_lost :
    let r : Record :=
      ⟨"app", 30, .text "password=%s", .sequence [.text "hunter2"], Journal.startOfRun, none, none, []⟩
    r.text.isOk ∧ (r.passed 1).message.plain = "password=[REDACTED]" ∧ ¬(r.passed 1).text.isOk := by
  decide +kernel

end Log

end KeyBundle
