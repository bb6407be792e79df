/-
  KeyBundle.Proofs.Interchange — equal values may stand for each other.

  (1) Among parameter sets, schemes, sides and bundles equality is an equivalence, and equal values have one digest
      (`equivalence_own`, `digest_eq_of_equal`), though names may come in different orders.
  (2) Sides are equal if their slots are alike, and so are bundles (`equal_decryptSide_iff`, `equal_encryptSide_iff`,
      `equal_bundle_iff`). What is recorded as schemes may be any values.
  (3) Merging, embedding more material, making a side of schemes and combining bundles each make equal values of equal
      ones (`equal_values_interchange`). All of them add slots to slots, and slots that are alike stay so
      (`Slot.Alike.merged`).
-/

import KeyBundle.Proofs.Grouping
import KeyBundle.Proofs.Wiring

namespace KeyBundle

open Build

/-! ## (1) The library's own values -/

namespace Value

/-- The values that parameter sets, schemes, sides and bundles are. -/
inductive IsOwn : Value → Prop
  | parameters (p : ParameterSet) : IsOwn (.parameters p)
  | scheme (s : Scheme) : IsOwn (.scheme s)
  | decryptConfig (d : DecryptConfig) : IsOwn (.decryptConfig d)
  | encryptConfig (e : EncryptConfig) : IsOwn (.encryptConfig e)
  | cryptoConfig (b : CryptoConfig) : IsOwn (.cryptoConfig b)

/-- Values of one kind that are equal as things of that kind. -/
inductive Alike : Value → Value → Prop
  | parameters {p q : ParameterSet} (h : p.same q = true) : Alike (.parameters p) (.parameters q)
  | scheme {s t : Scheme} (h : s.same t = true) : Alike (.scheme s) (.scheme t)
  | decryptConfig {d d' : DecryptConfig} (h : d.same d' = true) : Alike (.decryptConfig d) (.decryptConfig d')
  | encryptConfig {e e' : EncryptConfig} (h : e.same e' = true) : Alike (.encryptConfig e) (.encryptConfig e')
  | cryptoConfig {b b' : CryptoConfig} (h : b.same b' = true) : Alike (.cryptoConfig b) (.cryptoConfig b')

variable {u v w : Value}

theorem equal_iff_alike (hv : v.IsOwn) (hw : w.IsOwn) : Value.equal v w = true ↔ v.Alike w := by
  constructor
  · intro h
    cases hv <;> cases hw <;> first
      | exact absurd h Bool.false_ne_true
      | constructor; exact h
  · rintro (h | h | h | h | h) <;> exact h

theorem Alike.symm (h : v.Alike w) : w.Alike v := by
  cases h with
  | parameters h => exact .parameters (ParameterSet.isEquality.symm h)
  | scheme h => exact .scheme (Scheme.isEquality.symm h)
  | decryptConfig h => exact .decryptConfig (DecryptConfig.isEquality.symm h)
  | encryptConfig h => exact .encryptConfig (EncryptConfig.isEquality.symm h)
  | cryptoConfig h => exact .cryptoConfig (CryptoConfig.isEquality.symm h)

theorem Alike.trans (h : u.Alike v) (k : v.Alike w) : u.Alike w := by
  cases h with
  | parameters h => cases k with | parameters k => exact .parameters (ParameterSet.isEquality.trans h k)
  | scheme h => cases k with | scheme k => exact .scheme (Scheme.isEquality.trans h k)
  | decryptConfig h => cases k with | decryptConfig k => exact .decryptConfig (DecryptConfig.isEquality.trans h k)
  | encryptConfig h => cases k with | encryptConfig k => exact .encryptConfig (EncryptConfig.isEquality.trans h k)
  | cryptoConfig h => cases k with | cryptoConfig k => exact .cryptoConfig (CryptoConfig.isEquality.trans h k)

theorem IsOwn.alike_refl (h : v.IsOwn) : v.Alike v := by
  cases h with
  | parameters p => exact .parameters (ParameterSet.same_refl p)
  | scheme s => exact .scheme (Scheme.same_refl s)
  | decryptConfig d => exact .decryptConfig (DecryptConfig.isEquality.refl d)
  | encryptConfig e => exact .encryptConfig (EncryptConfig.isEquality.refl e)
  | cryptoConfig b => exact .cryptoConfig (CryptoConfig.same_refl b)

theorem equivalence_own : Equivalence fun v w : {v : Value // v.IsOwn} => Value.equal v.1 w.1 = true where
  refl v := (equal_iff_alike v.2 v.2).mpr v.2.alike_refl
  symm {v w} h := (equal_iff_alike w.2 v.2).mpr ((equal_iff_alike v.2 w.2).mp h).symm
  trans {u v w} h k :=
    (equal_iff_alike u.2 w.2).mpr (((equal_iff_alike u.2 v.2).mp h).trans ((equal_iff_alike v.2 w.2).mp k))

theorem digest_eq_of_equal (hv : v.IsOwn) (hw : w.IsOwn) (h : Value.equal v w = true) :
    ∃ n, v.digest = .ok n ∧ w.digest = .ok n := by
  cases (equal_iff_alike hv hw).mp h with
  | @parameters p q same => exact ⟨q.digest, congrArg Except.ok (ParameterSet.isEquality.digest same), rfl⟩
  | @scheme s t same => exact ⟨t.digest, congrArg Except.ok (Scheme.isEquality.digest same), rfl⟩
  | @decryptConfig d e same => exact ⟨e.digest, congrArg Except.ok (DecryptConfig.isEquality.digest same), rfl⟩
  | @encryptConfig d e same => exact ⟨e.digest, congrArg Except.ok (EncryptConfig.isEquality.digest same), rfl⟩
  | @cryptoConfig a b same => exact ⟨b.digest, congrArg Except.ok (CryptoConfig.isEquality.digest same), rfl⟩

end Value

/-! ## (2) Slots -/

namespace Value

/-- Only schemes equal schemes. -/
theorem same_scheme_iff {s : Scheme} {v : Value} :
    same (.scheme s) v = true ↔ ∃ t, v = .scheme t ∧ s.same t = true := by
  constructor
  · intro h
    cases v with
    | scheme t => exact ⟨t, rfl, h⟩
    | record kind => cases kind <;> exact absurd h Bool.false_ne_true
    | _ => exact absurd h Bool.false_ne_true
  · rintro ⟨t, rfl, h⟩
    exact h

theorem same_scheme_right_iff {s : Scheme} {v : Value} :
    same v (.scheme s) = true ↔ ∃ t, v = .scheme t ∧ t.same s = true := by
  constructor
  · intro h
    cases v with
    | scheme t => exact ⟨t, rfl, h⟩
    | record kind => cases kind <;> exact absurd h Bool.false_ne_true
    | _ => exact absurd h Bool.false_ne_true
  · rintro ⟨t, rfl, h⟩
    exact h

theorem sameItems_iff {xs ys : List Value} :
    sameItems xs ys = true ↔ List.Forall₂ (fun x y => same x y = true) xs ys := by
  induction xs generalizing ys with
  | nil =>
    cases ys with
    | nil => exact iff_of_true rfl .nil
    | cons y ys => exact iff_of_false Bool.false_ne_true nofun
  | cons x xs ih =>
    cases ys with
    | nil => exact iff_of_false Bool.false_ne_true nofun
    | cons y ys =>
      show (same x y && sameItems xs ys) = true ↔ _
      rw [Bool.and_eq_true, ih, List.forall₂_cons]

theorem sameItems_append {xs ys xs' ys' : List Value} (h : sameItems xs xs' = true) (k : sameItems ys ys' = true) :
    sameItems (xs ++ ys) (xs' ++ ys') = true :=
  sameItems_iff.mpr (List.rel_append (sameItems_iff.mp h) (sameItems_iff.mp k))

theorem sameItems_schemes {ss ts : List Scheme} : sameItems (ss.map .scheme) (ts.map .scheme) = sameSchemes ss ts := by
  rw [Bool.eq_iff_iff, sameItems_iff, sameSchemes_iff, List.forall₂_map_left_iff, List.forall₂_map_right_iff]
  rfl

end Value

namespace Slot

variable {s s' t t' e f : Slot}

/-- Equal parameters, and equal values recorded as schemes, one by one. -/
structure Alike (s t : Slot) : Prop where
  parameters : s.parameters.same t.parameters = true
  schemes : Value.sameItems s.schemes t.schemes = true

theorem alike_iff : s.Alike t ↔ s.parameters.same t.parameters = true ∧ Value.sameItems s.schemes t.schemes = true :=
  ⟨fun h => ⟨h.1, h.2⟩, fun h => ⟨h.1, h.2⟩⟩

theorem Alike.merged (h : s.Alike s') (k : t.Alike t') : (s.merged t).Alike (s'.merged t') where
  parameters := ParameterSet.same_merged h.parameters k.parameters
  schemes := Value.sameItems_append h.schemes k.schemes

/-- Nothing but schemes is recorded. -/
def Typed (s : Slot) : Prop := ∃ ss : List Scheme, s.schemes = ss.map .scheme

theorem typed_iff_of_sameItems {p q : ParameterSet} {xs ys : List Value} (h : Value.sameItems xs ys = true) :
    Typed ⟨p, xs⟩ ↔ Typed ⟨q, ys⟩ := by
  rw [Value.sameItems_iff] at h
  induction h with
  | nil => exact Iff.rfl
  | cons h _ ih =>
    constructor
    · rintro ⟨ss, hss⟩
      obtain ⟨s, ss, rfl, rfl, rfl⟩ := List.map_eq_cons_iff.mp hss.symm
      obtain ⟨t, rfl, -⟩ := Value.same_scheme_iff.mp h
      obtain ⟨ts, rfl⟩ := ih.mp ⟨ss, rfl⟩
      exact ⟨t :: ts, rfl⟩
    · rintro ⟨ts, hts⟩
      obtain ⟨t, ts, rfl, rfl, rfl⟩ := List.map_eq_cons_iff.mp hts.symm
      obtain ⟨s, rfl, -⟩ := Value.same_scheme_right_iff.mp h
      obtain ⟨ss, rfl⟩ := ih.mpr ⟨ts, rfl⟩
      exact ⟨s :: ss, rfl⟩

theorem Alike.typed_iff (h : s.Alike t) : s.Typed ↔ t.Typed := typed_iff_of_sameItems h.schemes

/-- A comparison by cases: what records schemes only is never equal to what does not. -/
theorem same_iff_of_typed {P Q R : Prop} {same : Bool} (typed : R → (P ↔ Q)) (both : P → Q → (same = true ↔ R))
    (left : P → ¬Q → same = false) (right : ¬P → Q → same = false) (neither : ¬P → ¬Q → (same = true ↔ R)) :
    same = true ↔ R := by
  by_cases hP : P <;> by_cases hQ : Q
  · exact both hP hQ
  · exact iff_of_false (Bool.eq_false_iff.mp (left hP hQ)) fun h => hQ ((typed h).mp hP)
  · exact iff_of_false (Bool.eq_false_iff.mp (right hP hQ)) fun h => hP ((typed h).mpr hQ)
  · exact neither hP hQ

theorem decryptSide_of_not_typed (h : ¬s.Typed) :
    s.decryptSide = .record .decryptConfig [.parameters s.parameters, .tuple s.schemes] := by
  rcases decryptSide_cases s with ⟨ss, hss, -⟩ | hs
  · exact absurd ⟨ss, hss⟩ h
  · exact hs

theorem encryptSide_of_not_typed (h : ¬(s.Typed ∧ e.Typed)) :
    s.encryptSide e = .record .encryptConfig [.parameters s.parameters, e.decryptSide, .tuple s.schemes] := by
  rcases encryptSide_cases s e with ⟨ss, es, hss, hes, -⟩ | hs
  · exact absurd ⟨⟨ss, hss⟩, ⟨es, hes⟩⟩ h
  · exact hs

theorem Typed.decryptSide_eq (h : s.Typed) : ∃ ss : List Scheme, s.schemes = ss.map .scheme ∧
    s.decryptSide = .decryptConfig ⟨s.parameters, ss⟩ := by
  obtain ⟨ss, hss⟩ := h
  exact ⟨ss, hss, by rw [decryptSide, hss, ofDecrypt_typed]⟩

theorem Typed.encryptSide_eq (h : s.Typed) (k : e.Typed) : ∃ ss es : List Scheme, s.schemes = ss.map .scheme ∧
    e.schemes = es.map .scheme ∧ s.encryptSide e = .encryptConfig ⟨s.parameters, ⟨e.parameters, es⟩, ss⟩ := by
  obtain ⟨ss, hss⟩ := h
  obtain ⟨es, hes, he⟩ := k.decryptSide_eq
  exact ⟨ss, es, hss, hes, by rw [encryptSide, he, hss, Assembly.ofEncrypt_typed]⟩

/-- Decrypting sides are equal if what they hold is. One that records schemes only never equals one that does not. -/
theorem same_decryptSide_iff : Value.same s.decryptSide t.decryptSide = true ↔ s.Alike t := by
  refine same_iff_of_typed (fun h => h.typed_iff) ?_ ?_ ?_ ?_
  · intro hs ht
    obtain ⟨ss, hss, hs⟩ := hs.decryptSide_eq
    obtain ⟨ts, hts, ht⟩ := ht.decryptSide_eq
    rw [hs, ht, alike_iff, hss, hts, Value.sameItems_schemes]
    exact Bool.and_eq_true_iff
  · intro hs ht
    obtain ⟨ss, -, hs⟩ := hs.decryptSide_eq
    rw [hs, decryptSide_of_not_typed ht]
    rfl
  · intro hs ht
    obtain ⟨ts, -, ht⟩ := ht.decryptSide_eq
    rw [decryptSide_of_not_typed hs, ht]
    rfl
  · intro hs ht
    rw [decryptSide_of_not_typed hs, decryptSide_of_not_typed ht, alike_iff]
    show (s.parameters.same t.parameters && (Value.sameItems s.schemes t.schemes && true)) = true ↔ _
    rw [Bool.and_true, Bool.and_eq_true]

/-- The same of encrypting sides, where what is embedded counts as well. -/
theorem same_encryptSide_iff : Value.same (s.encryptSide e) (t.encryptSide f) = true ↔ s.Alike t ∧ e.Alike f := by
  refine same_iff_of_typed (P := s.Typed ∧ e.Typed) (Q := t.Typed ∧ f.Typed) ?_ ?_ ?_ ?_ ?_
  · rintro ⟨own, embedded⟩
    rw [own.typed_iff, embedded.typed_iff]
  · rintro ⟨hs, he⟩ ⟨ht, hf⟩
    obtain ⟨ss, es, hss, hes, hs⟩ := hs.encryptSide_eq he
    obtain ⟨ts, fs, hts, hfs, ht⟩ := ht.encryptSide_eq hf
    rw [hs, ht, alike_iff, alike_iff, hss, hes, hts, hfs, Value.sameItems_schemes, Value.sameItems_schemes]
    show (s.parameters.same t.parameters && (e.parameters.same f.parameters && sameSchemes es fs) &&
      sameSchemes ss ts) = true ↔ _
    rw [Bool.and_eq_true, Bool.and_eq_true, Bool.and_eq_true, and_right_comm]
  · rintro ⟨hs, he⟩ ht
    obtain ⟨ss, es, -, -, hs⟩ := hs.encryptSide_eq he
    rw [hs, encryptSide_of_not_typed ht]
    rfl
  · rintro hs ⟨ht, hf⟩
    obtain ⟨ts, fs, -, -, ht⟩ := ht.encryptSide_eq hf
    rw [encryptSide_of_not_typed hs, ht]
    rfl
  · intro hs ht
    rw [encryptSide_of_not_typed hs, encryptSide_of_not_typed ht, alike_iff]
    show (s.parameters.same t.parameters && (Value.same e.decryptSide f.decryptSide &&
      (Value.sameItems s.schemes t.schemes && true))) = true ↔ _
    rw [Bool.and_true, Bool.and_eq_true, Bool.and_eq_true, same_decryptSide_iff, and_assoc, and_comm (a := e.Alike f)]

end Slot

namespace Slots

variable {a b a' b' : Slots}

/-- Slot by slot. -/
structure Alike (a b : Slots) : Prop where
  encrypt : a.encrypt.Alike b.encrypt
  embedded : a.embedded.Alike b.embedded
  decrypt : a.decrypt.Alike b.decrypt

theorem Alike.merged (h : a.Alike a') (k : b.Alike b') : (a.merged b).Alike (a'.merged b') where
  encrypt := h.encrypt.merged k.encrypt
  embedded := h.embedded.merged k.embedded
  decrypt := h.decrypt.merged k.decrypt

/-- Nothing but schemes is recorded. -/
def Typed (a : Slots) : Prop := (a.encrypt.Typed ∧ a.embedded.Typed) ∧ a.decrypt.Typed

theorem Typed.bundle_eq (h : a.Typed) : ∃ e d, a.encrypt.encryptSide a.embedded = .encryptConfig e ∧
    a.decrypt.decryptSide = .decryptConfig d ∧ a.bundle = .cryptoConfig ⟨e, d⟩ := by
  obtain ⟨_, _, -, -, he⟩ := h.1.1.encryptSide_eq h.1.2
  obtain ⟨_, -, hd⟩ := h.2.decryptSide_eq
  exact ⟨_, _, he, hd, by rw [bundle, sides, he, hd, Value.ofCrypto]⟩

theorem bundle_of_not_typed (h : ¬a.Typed) :
    a.bundle = .record .cryptoConfig [a.encrypt.encryptSide a.embedded, a.decrypt.decryptSide] := by
  have loose : ¬(a.encrypt.Typed ∧ a.embedded.Typed) ∨ ¬a.decrypt.Typed := not_and_or.mp h
  rw [bundle, sides]
  rcases loose with loose | loose
  · rw [Slot.encryptSide_of_not_typed loose]
    rfl
  · rw [Slot.decryptSide_of_not_typed loose, Value.ofCrypto]
    exact fun _ _ _ h => Value.noConfusion h

theorem same_bundle_iff : Value.same a.bundle b.bundle = true ↔ a.Alike b := by
  have sides : a.Alike b ↔ Value.same (a.encrypt.encryptSide a.embedded) (b.encrypt.encryptSide b.embedded) = true ∧
      Value.same a.decrypt.decryptSide b.decrypt.decryptSide = true := by
    rw [Slot.same_encryptSide_iff, Slot.same_decryptSide_iff]
    exact ⟨fun h => ⟨⟨h.1, h.2⟩, h.3⟩, fun h => ⟨h.1.1, h.1.2, h.2⟩⟩
  refine Slot.same_iff_of_typed (P := a.Typed) (Q := b.Typed) ?_ ?_ ?_ ?_ ?_
  · intro h
    rw [Typed, Typed, h.encrypt.typed_iff, h.embedded.typed_iff, h.decrypt.typed_iff]
  · intro ha hb
    obtain ⟨e, d, he, hd, ha⟩ := ha.bundle_eq
    obtain ⟨e', d', he', hd', hb⟩ := hb.bundle_eq
    rw [sides, ha, hb, he, hd, he', hd']
    exact Bool.and_eq_true_iff
  · intro ha hb
    obtain ⟨e, d, -, -, ha⟩ := ha.bundle_eq
    rw [ha, bundle_of_not_typed hb]
    rfl
  · intro ha hb
    obtain ⟨e, d, -, -, hb⟩ := hb.bundle_eq
    rw [bundle_of_not_typed ha, hb]
    rfl
  · intro ha hb
    rw [sides, bundle_of_not_typed ha, bundle_of_not_typed hb]
    show (Value.same (a.encrypt.encryptSide a.embedded) (b.encrypt.encryptSide b.embedded) &&
      (Value.same a.decrypt.decryptSide b.decrypt.decryptSide && true)) = true ↔ _
    rw [Bool.and_true, Bool.and_eq_true]

end Slots

/-! ### Equality of sides and bundles -/

theorem equal_decryptSide_iff {s t : Slot} : Value.equal s.decryptSide t.decryptSide = true ↔ s.Alike t := by
  have not_number : Value.equal s.decryptSide t.decryptSide = Value.same s.decryptSide t.decryptSide := by
    rcases decryptSide_cases s with ⟨_, -, hs⟩ | hs <;> rw [hs] <;> rfl
  rw [not_number, Slot.same_decryptSide_iff]

theorem equal_encryptSide_iff {s e t f : Slot} :
    Value.equal (s.encryptSide e) (t.encryptSide f) = true ↔ s.Alike t ∧ e.Alike f := by
  have not_number :
      Value.equal (s.encryptSide e) (t.encryptSide f) = Value.same (s.encryptSide e) (t.encryptSide f) := by
    rcases encryptSide_cases s e with ⟨_, _, -, -, hs⟩ | hs <;> rw [hs] <;> rfl
  rw [not_number, Slot.same_encryptSide_iff]

theorem equal_bundle_iff {a b : Slots} : Value.equal a.bundle b.bundle = true ↔ a.Alike b := by
  have not_number : Value.equal a.bundle b.bundle = Value.same a.bundle b.bundle := by
    by_cases h : a.Typed
    · obtain ⟨_, _, -, -, ha⟩ := h.bundle_eq
      rw [ha]
      rfl
    · rw [Slots.bundle_of_not_typed h]
      rfl
  rw [not_number, Slots.same_bundle_iff]

/-! ## (3) Operations -/

/-- Both steps make a value, in whatever context and without changing it, and the values are equal. -/
def MakeEqual (x y : Build Value) : Prop := ∃ v w, x = pure v ∧ y = pure w ∧ Value.equal v w = true

/-- Merging equal values, each with one of two equal values or with nothing, makes equal values. -/
def MergesAlike {α : Type} (f : α → Value) : Prop := ∀ (a a' : α) (b b' : Option α),
  Value.equal (f a) (f a') = true → Value.equal (.ofOption f b) (.ofOption f b') = true →
    MakeEqual (Build.merged (f a) (.ofOption f b)) (Build.merged (f a') (.ofOption f b'))

theorem Value.equal_none_iff {v : Value} : Value.equal .none v = true ↔ v = .none := by
  constructor
  · intro h
    cases v with
    | none => rfl
    | record kind => cases kind <;> exact absurd h Bool.false_ne_true
    | _ => exact absurd h Bool.false_ne_true
  · rintro rfl
    rfl

theorem Value.equal_none_right_iff {v : Value} : Value.equal v .none = true ↔ v = .none := by
  constructor
  · intro h
    cases v with
    | none => rfl
    | record kind => cases kind <;> exact absurd h Bool.false_ne_true
    | _ => exact absurd h Bool.false_ne_true
  · rintro rfl
    rfl

section

variable {α : Type} {f : α → Value}

theorem equal_ofOption_cases (something : ∀ a, f a ≠ .none) {o o' : Option α}
    (h : Value.equal (.ofOption f o) (.ofOption f o') = true) : (o = .none ∧ o' = .none) ∨
      ∃ a a', o = some a ∧ o' = some a' ∧ Value.equal (f a) (f a') = true := by
  cases o with
  | none =>
    cases o' with
    | none => exact .inl ⟨rfl, rfl⟩
    | some a' => exact absurd (Value.equal_none_iff.mp h) (something a')
  | some a =>
    cases o' with
    | none => exact absurd (Value.equal_none_right_iff.mp h) (something a)
    | some a' => exact .inr ⟨a, a', rfl, rfl, h⟩

theorem mergesAlike [Monoid α] {alike : α → α → Prop} (hf : ∀ a b, Build.merged (f a) (f b) = pure (f (a * b)))
    (hn : ∀ a, Build.merged (f a) .none = pure (f a)) (equal : ∀ a b, Value.equal (f a) (f b) = true ↔ alike a b)
    (something : ∀ a, f a ≠ .none) (mul : ∀ {a a' b b'}, alike a a' → alike b b' → alike (a * b) (a' * b')) :
    MergesAlike f := by
  intro a a' o o' ha ho
  obtain ⟨rfl, rfl⟩ | ⟨b, b', rfl, rfl, hb⟩ := equal_ofOption_cases something ho
  · exact ⟨_, _, hn a, hn a', ha⟩
  · exact ⟨_, _, hf a b, hf a' b', (equal _ _).mpr (mul ((equal a a').mp ha) ((equal b b').mp hb))⟩

end

theorem decryptSide_ne_none (s : Slot) : s.decryptSide ≠ .none := by
  rcases decryptSide_cases s with ⟨_, -, hs⟩ | hs <;> rw [hs] <;> exact fun h => Value.noConfusion h

theorem encryptSide_ne_none (s e : Slot) : s.encryptSide e ≠ .none := by
  rcases encryptSide_cases s e with ⟨_, _, -, -, hs⟩ | hs <;> rw [hs] <;> exact fun h => Value.noConfusion h

theorem withDecryptConfig_encryptSide (s e t : Slot) :
    withDecryptConfig (s.encryptSide e) t.decryptSide = pure (s.encryptSide (e.merged t)) := by
  by_cases h : s.Typed ∧ e.Typed
  · obtain ⟨ss, es, hss, hes, hs⟩ := h.1.encryptSide_eq h.2
    have he : e.decryptSide = .decryptConfig ⟨e.parameters, es⟩ := by rw [Slot.decryptSide, hes, ofDecrypt_typed]
    have embedded := merged_decryptSide e t
    rw [he] at embedded
    by_cases ht : t.Typed
    · obtain ⟨ts, hts, ht⟩ := ht.decryptSide_eq
      have all : (e.merged t).decryptSide = .decryptConfig ⟨e.parameters.merged t.parameters, es ++ ts⟩ := by
        rw [Slot.decryptSide, Slot.merged, hes, hts, ← List.map_append, ofDecrypt_typed]
      rw [hs, ht, Slot.encryptSide, all, hss, Assembly.ofEncrypt_typed]
      rfl
    · rw [Slot.decryptSide_of_not_typed ht] at embedded ⊢
      rw [hs, withDecryptConfig, embedded, pure_bind, ← hss]
      · rfl
      · exact fun h => Value.noConfusion h
      · exact fun _ h => Value.noConfusion h
  · rw [Slot.encryptSide_of_not_typed h, withDecryptConfig]
    · simp only [hasMerged_decrypt (decryptSlot?_decryptSide e), Bool.not_true, Bool.false_eq_true, if_false,
        merged_decryptSide, pure_bind, orEmptyDecrypt_decryptSide]
      rfl
    · exact decryptSide_ne_none t

theorem withDecryptConfig_encryptSide_none (s e : Slot) :
    withDecryptConfig (s.encryptSide e) .none = pure (s.encryptSide e) := by
  rcases encryptSide_cases s e with ⟨_, _, -, -, hs⟩ | hs <;> rw [hs, withDecryptConfig]

/-! ### Schemes -/

section

variable {d : Direction} {ss ts : List Scheme}

theorem find?_of_same (h : sameSchemes ss ts = true) (d : Direction) :
    ((ss.find? fun s => s.direction ≠ d) = .none ∧ (ts.find? fun t => t.direction ≠ d) = .none) ∨
      ∃ s t, (ss.find? fun s => s.direction ≠ d) = some s ∧ (ts.find? fun t => t.direction ≠ d) = some t ∧
        s.same t = true := by
  rw [sameSchemes_iff] at h
  induction h with
  | nil => exact .inl ⟨rfl, rfl⟩
  | @cons s t _ _ same _ ih =>
    have direction := Scheme.direction_eq_of_same same
    by_cases hs : s.direction = d
    · rw [List.find?_cons_of_neg (by simpa using hs), List.find?_cons_of_neg (by simpa using direction ▸ hs)]
      exact ih
    · rw [List.find?_cons_of_pos (by simpa using hs), List.find?_cons_of_pos (by simpa using direction ▸ hs)]
      exact .inr ⟨s, t, rfl, rfl, same⟩

theorem fromSchemes_encrypt (h : ∀ s ∈ ss, s.direction = .encrypt) (o : Option Slot) :
    fromSchemes .encrypt (ss.map .scheme) (.ofOption Slot.decryptSide o) =
      pure (Slot.encryptSide ⟨parametersOf ss, ss.map .scheme⟩ (o.getD .empty)) := by
  rw [fromSchemes, encryptFromSchemes, schemesFor_of_direction h, pure_bind]
  cases o with
  | none => rfl
  | some e =>
    have truthy : e.decryptSide.truthy = true := by
      rcases decryptSide_cases e with ⟨_, -, he⟩ | he <;> rw [he] <;> rfl
    rw [Value.ofOption, truthy]
    rfl

theorem fromSchemes_decrypt (h : ∀ s ∈ ss, s.direction = .decrypt) (embedded : Value) :
    fromSchemes .decrypt (ss.map .scheme) embedded = pure (Slot.decryptSide ⟨parametersOf ss, ss.map .scheme⟩) := by
  rw [fromSchemes, decryptFromSchemes, schemesFor_of_direction h, pure_bind, Slot.decryptSide, ofDecrypt_typed]
  rfl

theorem fromSchemes_refused {s : Scheme} (h : (ss.find? fun s => s.direction ≠ d) = some s) (embedded : Value) :
    fromSchemes d (ss.map .scheme) embedded = throw (.argument (.wrongSide s.className s.direction d)) := by
  have refused : schemesFor d (ss.map .scheme) = throw (.argument (.wrongSide s.className s.direction d)) := by
    rw [schemesFor, checkSchemes_scheme, h]
  cases d with
  | encrypt =>
    rw [fromSchemes, encryptFromSchemes, refused]
    rfl
  | decrypt =>
    rw [fromSchemes, decryptFromSchemes, refused]
    rfl

end

/-! ### Equal results -/

theorem equal_parameters_iff_blobs (p q : ParameterSet) : Value.equal (.parameters p) (.parameters q) = true ↔
    (∀ n, n ∈ p.names ↔ n ∈ q.names) ∧ ∀ n ∈ p.names, p.blobs n = q.blobs n := by
  rw [Value.equal_parameters, ParameterSet.same_iff]
  refine and_congr_right fun names => ⟨fun h n _ => h n, fun h n => ?_⟩
  by_cases hn : n ∈ p.names
  · exact h n hn
  · rw [ParameterSet.blobs, Entries.blobs_of_not_mem hn, ParameterSet.blobs,
      Entries.blobs_of_not_mem (mt (names n).mpr hn)]

theorem merged_parameters_none (p : ParameterSet) : Build.merged (.parameters p) .none = pure (.parameters p) := by
  rw [Build.merged.eq_def]
  rfl

theorem withDecryptConfig_interchange {s s' e e' : Slot} {o o' : Option Slot}
    (h : Value.equal (s.encryptSide e) (s'.encryptSide e') = true)
    (more : Value.equal (.ofOption Slot.decryptSide o) (.ofOption Slot.decryptSide o') = true) :
    MakeEqual (withDecryptConfig (s.encryptSide e) (.ofOption Slot.decryptSide o))
      (withDecryptConfig (s'.encryptSide e') (.ofOption Slot.decryptSide o')) := by
  obtain ⟨rfl, rfl⟩ | ⟨t, t', rfl, rfl, ht⟩ := equal_ofOption_cases decryptSide_ne_none more
  · exact ⟨_, _, withDecryptConfig_encryptSide_none s e, withDecryptConfig_encryptSide_none s' e', h⟩
  · obtain ⟨own, embedded⟩ := equal_encryptSide_iff.mp h
    refine ⟨_, _, withDecryptConfig_encryptSide s e t, withDecryptConfig_encryptSide s' e' t', ?_⟩
    exact equal_encryptSide_iff.mpr ⟨own, embedded.merged (equal_decryptSide_iff.mp ht)⟩

theorem Slot.alike_empty : Slot.empty.Alike .empty := ⟨ParameterSet.same_refl _, rfl⟩

theorem fromSchemes_interchange {d : Direction} {ss ts : List Scheme} {o o' : Option Slot} (h : sameSchemes ss ts = true)
    (embedded : Value.equal (.ofOption Slot.decryptSide o) (.ofOption Slot.decryptSide o') = true)
    (fits : ∀ s ∈ ss, s.direction = d) : MakeEqual (fromSchemes d (ss.map .scheme) (.ofOption Slot.decryptSide o))
      (fromSchemes d (ts.map .scheme) (.ofOption Slot.decryptSide o')) := by
  have fits' : ∀ t ∈ ts, t.direction = d := by
    obtain ⟨-, none⟩ | ⟨s, -, found, -, -⟩ := find?_of_same h d
    · simpa using none
    · exact absurd (fits s (List.mem_of_find?_eq_some found)) (by simpa using List.find?_some found)
  have own : Slot.Alike ⟨parametersOf ss, ss.map .scheme⟩ ⟨parametersOf ts, ts.map .scheme⟩ :=
    ⟨same_parametersOf h, Value.sameItems_schemes.trans h⟩
  cases d with
  | encrypt =>
    refine ⟨_, _, fromSchemes_encrypt fits o, fromSchemes_encrypt fits' o', equal_encryptSide_iff.mpr ⟨own, ?_⟩⟩
    obtain ⟨rfl, rfl⟩ | ⟨e, e', rfl, rfl, he⟩ := equal_ofOption_cases decryptSide_ne_none embedded
    · exact Slot.alike_empty
    · exact equal_decryptSide_iff.mp he
  | decrypt =>
    exact ⟨_, _, fromSchemes_decrypt fits _, fromSchemes_decrypt fits' _, equal_decryptSide_iff.mpr own⟩

theorem fromSchemes_refused_alike {d : Direction} {ss ts : List Scheme} (h : sameSchemes ss ts = true)
    (embedded embedded' : Value) (misfit : ∃ s ∈ ss, s.direction ≠ d) :
    ∃ f, fromSchemes d (ss.map .scheme) embedded = throw f ∧ fromSchemes d (ts.map .scheme) embedded' = throw f := by
  obtain ⟨none, -⟩ | ⟨s, t, found, found', same⟩ := find?_of_same h d
  · obtain ⟨s, hs, hd⟩ := misfit
    exact absurd (by simpa using none) (fun fits : ∀ s ∈ ss, s.direction = d => hd (fits s hs))
  · refine ⟨_, fromSchemes_refused found embedded, ?_⟩
    rw [fromSchemes_refused found' embedded', Scheme.className_eq_of_same same, Scheme.direction_eq_of_same same]

theorem Slots.alike_foldl {as bs : List Slots} (h : List.Forall₂ Slots.Alike as bs) {a b : Slots} (start : a.Alike b) :
    (as.foldl .merged a).Alike (bs.foldl .merged b) := by
  induction h generalizing a b with
  | nil => exact start
  | cons h _ ih => exact ih (start.merged h)

theorem combine_interchange {as bs : List Slots} {x y : Value} {c d : Context}
    (h : List.Forall₂ (fun a b => Value.equal a.bundle b.bundle = true) as bs)
    (hx : upcoming c x = some (as.map Slots.bundle)) (hy : upcoming d y = some (bs.map Slots.bundle)) :
    ∃ v w c' d', exec (combine x) c = (.ok v, c') ∧ exec (combine y) d = (.ok w, d') ∧ Value.equal v w = true := by
  obtain ⟨c', made⟩ := exec_combine hx
  obtain ⟨d', made'⟩ := exec_combine hy
  refine ⟨_, _, c', d', made, made', equal_bundle_iff.mpr ?_⟩
  exact Slots.alike_foldl (h.imp fun _ _ => equal_bundle_iff.mp) ⟨Slot.alike_empty, Slot.alike_empty, Slot.alike_empty⟩

/-- Equality is by what is held. Parameter sets are equal if the same blobs are under the same names; equality is an
    equivalence, and equal values have one digest; and what is made of equal values is equal: by merging, by embedding
    more material, by making a side of schemes, which refuses equal schemes alike, and by combining bundles. -/
theorem equal_values_interchange :
    (∀ p q : ParameterSet, Value.equal (.parameters p) (.parameters q) = true ↔
      (∀ n, n ∈ p.names ↔ n ∈ q.names) ∧ ∀ n ∈ p.names, p.blobs n = q.blobs n) ∧
    (Equivalence fun v w : {v : Value // v.IsOwn} => Value.equal v.1 w.1 = true) ∧
    (∀ v w : Value, v.IsOwn → w.IsOwn → Value.equal v w = true → ∃ n, v.digest = .ok n ∧ w.digest = .ok n) ∧
    MergesAlike Value.parameters ∧ MergesAlike Slot.decryptSide ∧
    MergesAlike (fun s : Slot × Slot => s.1.encryptSide s.2) ∧
    (∀ (s s' e e' : Slot) (o o' : Option Slot), Value.equal (s.encryptSide e) (s'.encryptSide e') = true →
      Value.equal (.ofOption Slot.decryptSide o) (.ofOption Slot.decryptSide o') = true →
        MakeEqual (withDecryptConfig (s.encryptSide e) (.ofOption Slot.decryptSide o))
          (withDecryptConfig (s'.encryptSide e') (.ofOption Slot.decryptSide o'))) ∧
    (∀ (d : Direction) (ss ts : List Scheme) (o o' : Option Slot),
      List.Forall₂ (fun s t => Value.equal (.scheme s) (.scheme t) = true) ss ts →
      Value.equal (.ofOption Slot.decryptSide o) (.ofOption Slot.decryptSide o') = true →
        let made := fromSchemes d (ss.map .scheme) (.ofOption Slot.decryptSide o)
        let made' := fromSchemes d (ts.map .scheme) (.ofOption Slot.decryptSide o')
        ((∀ s ∈ ss, s.direction = d) → MakeEqual made made') ∧
          ((∃ s ∈ ss, s.direction ≠ d) → ∃ f, made = throw f ∧ made' = throw f)) ∧
    ∀ (as bs : List Slots) (x y : Value) (c d : Context),
      List.Forall₂ (fun a b => Value.equal a.bundle b.bundle = true) as bs →
      upcoming c x = some (as.map Slots.bundle) → upcoming d y = some (bs.map Slots.bundle) →
        ∃ v w c' d', exec (combine x) c = (.ok v, c') ∧ exec (combine y) d = (.ok w, d') ∧ Value.equal v w = true := by
  have schemes {ss ts : List Scheme} (h : List.Forall₂ (fun s t => Value.equal (.scheme s) (.scheme t) = true) ss ts) :
      sameSchemes ss ts = true := sameSchemes_iff.mpr (h.imp fun s t h => (Value.equal_scheme s t).symm.trans h)
  refine ⟨equal_parameters_iff_blobs, Value.equivalence_own, fun v w => Value.digest_eq_of_equal, ?_, ?_, ?_,
    fun _ _ _ _ _ _ => withDecryptConfig_interchange, fun d ss ts o o' h embedded => ?_,
    fun _ _ _ _ _ _ => combine_interchange⟩
  · exact mergesAlike merged_parameters merged_parameters_none (fun p q => by rw [Value.equal_parameters])
      (fun _ h => Value.noConfusion h) ParameterSet.same_merged
  · exact mergesAlike merged_decryptSide merged_decryptSide_none (fun _ _ => equal_decryptSide_iff) decryptSide_ne_none
      Slot.Alike.merged
  · exact mergesAlike (fun s t => merged_encryptSide s.1 s.2 t.1 t.2) (fun s => merged_encryptSide_none s.1 s.2)
      (fun _ _ => equal_encryptSide_iff) (fun s => encryptSide_ne_none s.1 s.2)
      fun h k => ⟨h.1.merged k.1, h.2.merged k.2⟩
  · exact ⟨fromSchemes_interchange (schemes h) embedded, fromSchemes_refused_alike (schemes h) _ _⟩

/-- A module and its pin in two orders, as parameters of custom schemes that are recorded along with a number, combined
    from a list and from a stream. -/
theorem equal_values_interchange_orders :
    let p : ParameterSet := (ParameterSet.empty.put "modules" (by decide) [[1]]).put "pins" (by decide) [[2]]
    let q : ParameterSet := (ParameterSet.empty.put "pins" (by decide) [[2]]).put "modules" (by decide) [[1]]
    let side (p : ParameterSet) : Slots := ⟨.empty, .empty, ⟨p, [.scheme (.custom "raw" .decrypt p), .int 5]⟩⟩
    let start : Context := .start [] .ofString
    p.names ≠ q.names ∧ Value.equal (.parameters p) (.parameters q) = true ∧
      (∃ n, (Value.parameters p).digest = .ok n ∧ (Value.parameters q).digest = .ok n) ∧
      ∃ v w c d, exec (combine (.list 0 [(side p).bundle])) start = (.ok v, c) ∧
        exec (combine (.stream 0 [(side q).bundle])) start = (.ok w, d) ∧ Value.equal v w = true := by
  intro p q side start
  obtain ⟨-, -, digest, -, -, -, -, -, combined⟩ := equal_values_interchange
  have same : p.same q = true := by decide
  have equal : Value.equal (.parameters p) (.parameters q) = true := (Value.equal_parameters p q).trans same
  have sides : Value.equal (side p).bundle (side q).bundle = true := by
    refine equal_bundle_iff.mpr ⟨Slot.alike_empty, Slot.alike_empty, same, ?_⟩
    have recorded : (Scheme.custom "raw" .decrypt p).same (.custom "raw" .decrypt q) = true :=
      Scheme.same_iff.mpr (.inr ⟨"raw", .decrypt, p, q, rfl, rfl, same⟩)
    exact Value.sameItems_iff.mpr (.cons recorded (.cons rfl .nil))
  exact ⟨by decide, equal, digest _ _ (.parameters p) (.parameters q) equal, combined [side p] [side q]
    (.list 0 [(side p).bundle]) (.stream 0 [(side q).bundle]) start start (.cons sides .nil) rfl rfl⟩

end KeyBundle
