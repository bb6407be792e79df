/-
  KeyBundle.Proofs.Grouping — merging is a monoid, so bundles may be combined in groups.

  Parameter sets, decrypting sides and encrypting sides are each merged by an associative operation
  with an empty value on either side; the slots of a bundle make the sides (`Slot.decryptSide`,
  `Slot.encryptSide`), and merging sides merges slots without a failure or a trace in the context
  (`merged_decryptSide`, `merged_encryptSide`). Equal here means equal as values: same names in the
  same order, same blobs, same schemes.

  A bundle that comes of combining others in groups, and the results in groups again (`Nests`), is
  the one that combining them all at once gives (`Nests.combined`, `exec_combine`).
-/

import Mathlib.Algebra.BigOperators.Group.List.Basic
import Mathlib.Algebra.Group.Prod
import KeyBundle.Proofs.Assembly
import KeyBundle.Proofs.Combining

namespace KeyBundle

open Build

/-! ## The number of blobs -/

namespace Entries

theorem count_update (name : String) (bs : List Blob) (es : Entries) :
    ((update name (· ++ bs) es).flatMap (·.2)).length = (es.flatMap (·.2)).length + bs.length := by
  induction es with
  | nil => simp [update]
  | cons e es ih =>
    simp only [update]
    split
    · simp only [List.flatMap_cons, List.length_append]
      omega
    · simp only [List.flatMap_cons, List.length_append, ih]
      omega

theorem count_merge (a b : Entries) :
    ((merge a b).flatMap (·.2)).length = (a.flatMap (·.2)).length + (b.flatMap (·.2)).length := by
  induction b generalizing a with
  | nil => rfl
  | cons e b ih =>
    rw [merge_cons, ih, count_update, List.flatMap_cons, List.length_append]
    omega

end Entries

theorem ParameterSet.blobCount_merged (p q : ParameterSet) :
    (p.merged q).blobCount = p.blobCount + q.blobCount := by
  unfold blobCount
  rw [entries_merged, Entries.count_merge]

/-! ## Monoids -/

instance : Monoid ParameterSet where
  mul := .merged
  one := .empty
  mul_assoc := ParameterSet.merged_assoc
  one_mul := ParameterSet.empty_merged
  mul_one := ParameterSet.merged_empty

@[simp] theorem Slot.merged_empty (s : Slot) : s.merged .empty = s := by simp [merged, empty]

@[simp] theorem Slot.empty_merged (s : Slot) : empty.merged s = s := by simp [merged, empty]

theorem Slot.merged_assoc (s t u : Slot) : (s.merged t).merged u = s.merged (t.merged u) := by
  simp [merged, ParameterSet.merged_assoc]

instance : Monoid Slot where
  mul := .merged
  one := .empty
  mul_assoc := Slot.merged_assoc
  one_mul := Slot.empty_merged
  mul_one := Slot.merged_empty

instance : Monoid Slots where
  mul := .merged
  one := .empty
  mul_assoc a b c := by
    show (a.merged b).merged c = a.merged (b.merged c)
    simp only [Slots.merged, Slot.merged_assoc]
  one_mul s := by
    show Slots.empty.merged s = s
    simp only [Slots.merged, Slots.empty, Slot.empty_merged]
  mul_one s := by
    show s.merged .empty = s
    simp only [Slots.merged, Slots.empty, Slot.merged_empty]

/-- All bundles in one, slot by slot. -/
def Slots.combined (parts : List Slots) : Slots := parts.foldl merged empty

theorem Slots.combined_eq_prod (parts : List Slots) : combined parts = parts.prod := List.prod_eq_foldl.symm

@[simp] theorem Slots.combined_singleton (s : Slots) : combined [s] = s := by
  rw [combined_eq_prod, List.prod_singleton]

/-- What is combined in groups is combined. -/
theorem Slots.combined_flatten (groups : List (List Slots)) :
    combined (groups.map combined) = combined groups.flatten := by
  have h : combined = List.prod := funext combined_eq_prod
  rw [h, List.prod_flatten]

/-! ## Slots as values -/

/-- The decrypting side with a slot. -/
def Slot.decryptSide (s : Slot) : Value := .ofDecrypt s.parameters s.schemes

/-- The encrypting side with a slot and the slot of the material embedded in it. -/
def Slot.encryptSide (s embedded : Slot) : Value := .ofEncrypt s.parameters embedded.decryptSide s.schemes

/-- Both sides of the bundle with these slots. -/
def Slots.sides (s : Slots) : Value × Value := (s.encrypt.encryptSide s.embedded, s.decrypt.decryptSide)

/-- The bundle with these slots. -/
def Slots.bundle (s : Slots) : Value := .ofCrypto s.sides.1 s.sides.2

theorem bundleOf?_bundle (s : Slots) : bundleOf? s.bundle = some s.sides := by
  unfold Slots.bundle Value.ofCrypto
  split
  · rename_i he hd
    rw [bundleOf?, ← he, ← hd]
  · rfl

theorem ofDecrypt_typed (p : ParameterSet) (ss : List Scheme) :
    Value.ofDecrypt p (ss.map .scheme) = .decryptConfig ⟨p, ss⟩ := by
  unfold Value.ofDecrypt
  rw [Assembly.mapM_scheme?]

/-- A decrypting side records schemes only, or something else with them. -/
theorem decryptSide_cases (s : Slot) :
    (∃ ss : List Scheme, s.schemes = ss.map .scheme ∧ s.decryptSide = .decryptConfig ⟨s.parameters, ss⟩) ∨
      s.decryptSide = .record .decryptConfig [.parameters s.parameters, .tuple s.schemes] := by
  unfold Slot.decryptSide Value.ofDecrypt
  split
  · rename_i ss h
    exact .inl ⟨ss, map_scheme_of_mapM h, rfl⟩
  · exact .inr rfl

/-- The same of an encrypting side; what the embedded side records counts as well. -/
theorem encryptSide_cases (s e : Slot) :
    (∃ ss es : List Scheme, s.schemes = ss.map .scheme ∧ e.schemes = es.map .scheme ∧
        s.encryptSide e = .encryptConfig ⟨s.parameters, ⟨e.parameters, es⟩, ss⟩) ∨
      s.encryptSide e = .record .encryptConfig [.parameters s.parameters, e.decryptSide, .tuple s.schemes] := by
  unfold Slot.encryptSide Value.ofEncrypt
  split
  · rename_i d ss hd h
    rcases decryptSide_cases e with ⟨es, hes, he⟩ | he
    · rw [he] at hd
      cases hd
      exact .inl ⟨ss, es, map_scheme_of_mapM h, hes, rfl⟩
    · rw [he] at hd
      cases hd
  · exact .inr rfl

theorem decryptSlot?_decryptSide (s : Slot) : decryptSlot? s.decryptSide = some s := decryptSlot?_ofDecrypt _ _

theorem encryptSlots?_encryptSide (s e : Slot) : encryptSlots? (s.encryptSide e) = some (s, e) := by
  unfold Slot.encryptSide
  rw [encryptSlots?_ofEncrypt, decryptSlot?_decryptSide]
  rfl

theorem of?_bundle (s : Slots) : Slots.of? s.bundle = some s := by
  rw [Slots.bundle, slotsOf?_ofCrypto, Slots.sides, encryptSlots?_encryptSide, decryptSlot?_decryptSide]
  rfl

theorem bundle_injective : Function.Injective Slots.bundle := fun a b h =>
  Option.some.inj (by rw [← of?_bundle, h, of?_bundle])

/-! ## Merging sides -/

theorem merged_parameters (p q : ParameterSet) :
    Build.merged (.parameters p) (.parameters q) = pure (.parameters (p.merged q)) := by
  rw [Build.merged.eq_def]
  unfold mergeParameters ParameterSet.merged
  cases hq : q.isEmpty <;> simp [Value.truthy, hq, asParameterSet]

theorem merged_decryptSide (s t : Slot) :
    Build.merged s.decryptSide t.decryptSide = pure (s.merged t).decryptSide := by
  refine eq_pure_of_exec fun c => ?_
  have hm (p : ParameterSet) (ss : List Value) := exec_mergeDecrypt (decryptSlot?_decryptSide t) p ss c
  rcases decryptSide_cases s with ⟨ss, hss, hs⟩ | hs <;> rcases decryptSide_cases t with ⟨ts, hts, ht⟩ | ht <;>
    rw [hs, ht, Build.merged.eq_def] <;> rw [ht] at hm
  · have hst : (s.merged t).decryptSide = .decryptConfig ⟨s.parameters.merged t.parameters, ss ++ ts⟩ := by
      unfold Slot.decryptSide Slot.merged
      rw [hss, hts, ← List.map_append, ofDecrypt_typed]
    rw [hst]
    rfl
  · refine (hm _ _).trans ?_
    rw [← hss]
    rfl
  · exact hm _ _
  · exact hm _ _

theorem embeddedOf?_encryptSide (s e : Slot) : embeddedOf? (s.encryptSide e) = some e.decryptSide := by
  rcases encryptSide_cases s e with ⟨ss, es, -, hes, hs⟩ | hs
  · rw [hs, Slot.decryptSide, hes, ofDecrypt_typed]
    rfl
  · rw [hs]
    rfl

theorem orEmptyDecrypt_decryptSide (s : Slot) : orEmptyDecrypt s.decryptSide = s.decryptSide := by
  rcases decryptSide_cases s with ⟨ss, -, hs⟩ | hs <;> rw [hs] <;> rfl

theorem merged_encryptSide (s e t f : Slot) :
    Build.merged (s.encryptSide e) (t.encryptSide f) = pure ((s.merged t).encryptSide (e.merged f)) := by
  refine eq_pure_of_exec fun c => ?_
  have hm (p : ParameterSet) (ss : List Value) :=
    exec_mergeSide (sideOf?_encrypt (encryptSlots?_encryptSide t f)) p ss c
  have hd := exec_embeddedIn (embeddedOf?_encryptSide t f) c
  rcases encryptSide_cases s e with ⟨ss, es, hss, hes, hs⟩ | hs
  · rcases encryptSide_cases t f with ⟨ts, fs, hts, hfs, ht⟩ | ht
    · have hst : (s.merged t).encryptSide (e.merged f) = .encryptConfig
          ⟨s.parameters.merged t.parameters, ⟨e.parameters.merged f.parameters, es ++ fs⟩, ss ++ ts⟩ := by
        unfold Slot.encryptSide Slot.decryptSide Slot.merged
        rw [hss, hts, hes, hfs, ← List.map_append, ← List.map_append, ofDecrypt_typed, Assembly.ofEncrypt_typed]
      rw [hs, ht, hst, Build.merged.eq_def]
      rfl
    · have hx := exec_mergeDecrypt (decryptSlot?_decryptSide f) e.parameters (es.map .scheme) c
      rw [ht] at hm hd
      rw [hs, ht, Build.merged.eq_def]
      refine (exec_bind_ok (hm _ _) _).trans ((exec_bind_ok hd _).trans ?_)
      rcases decryptSide_cases f with ⟨fs, -, hf⟩ | hf <;> rw [hf] at hx ⊢ <;>
        refine (exec_bind_ok hx _).trans ?_ <;> rw [← hss, ← hes] <;> rfl
  · have hx : exec (Build.merged e.decryptSide f.decryptSide) c = (.ok (e.merged f).decryptSide, c) := by
      rw [merged_decryptSide, exec_pure]
    rw [hs, Build.merged.eq_def]
    rcases encryptSide_cases t f with ⟨ts, fs, -, -, ht⟩ | ht <;> rw [ht] at hm hd ⊢ <;>
      refine (exec_bind_ok (hm _ _) _).trans ?_ <;>
      simp only [hasMerged_decrypt (decryptSlot?_decryptSide e)] <;>
      refine (exec_bind_ok hd _).trans ((exec_bind_ok hx _).trans ?_) <;>
      rw [orEmptyDecrypt_decryptSide] <;> rfl

theorem merged_decryptSide_none (s : Slot) : Build.merged s.decryptSide .none = pure s.decryptSide := by
  rcases decryptSide_cases s with ⟨ss, -, hs⟩ | hs <;> rw [hs, Build.merged.eq_def]

theorem merged_encryptSide_none (s e : Slot) : Build.merged (s.encryptSide e) .none = pure (s.encryptSide e) := by
  rcases encryptSide_cases s e with ⟨ss, es, -, -, hs⟩ | hs <;> rw [hs, Build.merged.eq_def]

/-- Merging on the values `f a`. It always makes another of them, in whatever context and without changing
    it; it is associative; and neither the empty one on either side nor nothing on the right adds anything. -/
structure MergesAsMonoid {α : Type} (f : α → Value) (empty : α) : Prop where
  merges : ∀ a b, ∃ c, Build.merged (f a) (f b) = pure (f c)
  assoc : ∀ a b c, (do Build.merged (← Build.merged (f a) (f b)) (f c)) =
    (do Build.merged (f a) (← Build.merged (f b) (f c)))
  empty_merged : ∀ a, Build.merged (f empty) (f a) = pure (f a)
  merged_empty : ∀ a, Build.merged (f a) (f empty) = pure (f a)
  merged_none : ∀ a, Build.merged (f a) .none = pure (f a)

theorem mergesAsMonoid {α : Type} [Monoid α] {f : α → Value}
    (hf : ∀ a b, Build.merged (f a) (f b) = pure (f (a * b))) (hn : ∀ a, Build.merged (f a) .none = pure (f a)) :
    MergesAsMonoid f 1 where
  merges a b := ⟨a * b, hf a b⟩
  assoc a b c := by rw [hf, hf, pure_bind, pure_bind, hf, hf, mul_assoc]
  empty_merged a := by rw [hf, one_mul]
  merged_empty a := by rw [hf, mul_one]
  merged_none := hn

/-! ## Combining in groups -/

/-- What a value is combined of, in order, and the value. A bundle by itself is combined of itself. The
    parts of a group are combined in whatever form they are handed over; there may be no part. -/
inductive Nests : List Value → Value → Prop
  | bundle (v : Value) : Nests [v] v
  | group {parts : List (List Value × Value)} {x w : Value} {c c' : Context} :
    (∀ p ∈ parts, Nests p.1 p.2) → upcoming c x = some (parts.map (·.2)) →
      exec (combine x) c = (.ok w, c') → Nests (parts.flatMap (·.1)) w

theorem addBundle_bundle (s t : Slots) : addBundle s.sides t.bundle = pure (s.merged t).sides := by
  unfold addBundle
  rw [bundleOf?_bundle]
  simp only [Slots.sides, merged_encryptSide, merged_decryptSide, pure_bind]
  rfl

theorem exec_addBundles_bundle (seen : Nat → Build Unit) (hseen : ∀ n c, ∃ c', exec (seen n) c = (.ok (), c'))
    (ts : List Slots) (n : Nat) (s : Slots) (c : Context) :
    ∃ c', exec (addBundles seen n s.sides (ts.map Slots.bundle)) c = (.ok (ts.foldl .merged s).sides, c') := by
  induction ts generalizing n s c with
  | nil =>
    obtain ⟨c', hc⟩ := hseen (n + 1) c
    exact ⟨c', exec_bind_ok hc _⟩
  | cons t ts ih =>
    obtain ⟨c₁, hc⟩ := hseen (n + 1) c
    obtain ⟨c', h⟩ := ih (n + 1) (s.merged t) c₁
    refine ⟨c', (exec_bind_ok hc _).trans ?_⟩
    rw [addBundle_bundle, pure_bind]
    exact h

/-- Bundles in a form in which they can be gone through are combined without fail. -/
theorem exec_combine {x : Value} {c : Context} {ts : List Slots} (hx : upcoming c x = some (ts.map Slots.bundle)) :
    ∃ c', exec (combine x) c = (.ok (Slots.combined ts).bundle, c') := by
  unfold combine
  rw [exec_bind_ok (exec_peekItems? hx)]
  dsimp only
  rw [exec_bind_ok (exec_ending? x c), raising?_of_upcoming hx]
  cases x with
  | stream id xs | generator id _ xs =>
    obtain ⟨c', h⟩ := exec_addBundles_bundle (setDrawn id) (fun n c => ⟨_, rfl⟩) ts
      (xs.length - (ts.map Slots.bundle).length) .empty c
    exact ⟨c', exec_bind_ok h _⟩
  | _ =>
    obtain ⟨c', h⟩ := exec_addBundles_bundle (fun _ => return ()) (fun n c => ⟨_, rfl⟩) ts 0 .empty c
    exact ⟨c', exec_bind_ok h _⟩

theorem Nests.flat {vs : List Value} {w : Value} (h : Nests vs w) (hvs : ∀ v ∈ vs, ∃ s : Slots, v = s.bundle) :
    ∃ ts : List Slots, vs = ts.map Slots.bundle ∧ w = (Slots.combined ts).bundle := by
  induction h with
  | bundle v =>
    obtain ⟨s, rfl⟩ := hvs v List.mem_cons_self
    exact ⟨[s], rfl, by rw [Slots.combined_singleton]⟩
  | @group parts x w c c' _ hx hw ih =>
    -- by the induction hypothesis each part is combined of bundles; these lists of bundles, part by part
    have groups : ∀ ps : List (List Value × Value), (∀ p ∈ ps, p ∈ parts) →
        ∃ gs : List (List Slots), ps.map (·.1) = gs.map (List.map Slots.bundle) ∧
          ps.map (·.2) = (gs.map Slots.combined).map Slots.bundle := by
      intro ps
      induction ps with
      | nil => exact fun _ => ⟨[], rfl, rfl⟩
      | cons p ps ihp =>
        intro hps
        obtain ⟨hp, hps⟩ := List.forall_mem_cons.mp hps
        obtain ⟨gs, h1, h2⟩ := ihp hps
        obtain ⟨g, hg, hw⟩ := ih p hp fun v hv => hvs v (List.mem_flatMap.mpr ⟨p, hp, hv⟩)
        exact ⟨g :: gs, by simp [h1, hg], by simp only [List.map_cons, h2, hw]⟩
    obtain ⟨gs, h1, h2⟩ := groups parts fun _ h => h
    rw [h2] at hx
    obtain ⟨c'', h⟩ := exec_combine hx
    rw [h] at hw
    cases hw
    refine ⟨gs.flatten, ?_, by rw [Slots.combined_flatten]⟩
    rw [List.flatMap_def, h1, List.map_flatten]

/-- Whatever the groups are, what comes of combining bundles is what they come to all at once. -/
theorem Nests.combined {bundles : List Slots} {w : Value} (h : Nests (bundles.map Slots.bundle) w) :
    w = (Slots.combined bundles).bundle := by
  obtain ⟨ts, hts, rfl⟩ := h.flat fun v hv => by
    obtain ⟨s, -, rfl⟩ := List.mem_map.mp hv
    exact ⟨s, rfl⟩
  rw [List.map_injective_iff.mpr bundle_injective hts]

/-- Parameter sets, decrypting sides and encrypting sides are monoids under merging, order of names
    included: a merged set has the names of the first and then the new names of the second, and as many
    blobs as both. Bundles, whatever their sides record as schemes, are combined without fail; each way of
    combining them in groups comes to the same bundle, and a single one to itself. -/
theorem merging_monoid :
    MergesAsMonoid Value.parameters .empty ∧ MergesAsMonoid Slot.decryptSide .empty ∧
    MergesAsMonoid (fun s : Slot × Slot => s.1.encryptSide s.2) (.empty, .empty) ∧
    (∀ p q : ParameterSet, ∃ r : ParameterSet,
      Build.merged (.parameters p) (.parameters q) = pure (.parameters r) ∧
        r.names = p.names ++ q.names.filter (· ∉ p.names) ∧ r.blobCount = p.blobCount + q.blobCount) ∧
    (∀ (bundles : List Slots) (x : Value) (c : Context), upcoming c x = some (bundles.map Slots.bundle) →
      ∃ (s : Slots) (c' : Context), exec (combine x) c = (.ok s.bundle, c') ∧
        (∀ w, Nests (bundles.map Slots.bundle) w → w = s.bundle) ∧ ∀ b, bundles = [b] → s.bundle = b.bundle) := by
  refine ⟨mergesAsMonoid merged_parameters fun p => ?_, mergesAsMonoid merged_decryptSide merged_decryptSide_none,
    mergesAsMonoid (fun s t => merged_encryptSide s.1 s.2 t.1 t.2) fun s => merged_encryptSide_none s.1 s.2,
    fun p q => ⟨p.merged q, merged_parameters p q, p.names_merged q, p.blobCount_merged q⟩, fun bundles x c hx => ?_⟩
  · rw [Build.merged.eq_def]
    rfl
  · obtain ⟨c', hc⟩ := exec_combine hx
    exact ⟨Slots.combined bundles, c', hc, fun w hw => hw.combined, fun b hb => by rw [hb, Slots.combined_singleton]⟩

/-- Three bundles, of which the first two are combined before the third: two with blobs under one name, and
    one on which a number stands for a scheme. -/
theorem merging_monoid_nested :
    let jwe (b : Blob) : Slots := ⟨⟨(Scheme.jweRecipients [b]).parameters, [.scheme (.jweRecipients [b])]⟩, .empty, .empty⟩
    let loose : Slots := ⟨.empty, ⟨.empty, [.int 5]⟩, .empty⟩
    let start : Context := .start [] .ofString
    ∃ s t c c', exec (combine (.tuple [(jwe [1]).bundle, loose.bundle])) start = (.ok s, c) ∧
      exec (combine (.stream 0 [s, (jwe [2]).bundle])) start = (.ok t, c') ∧
      ∃ c'', exec (combine (.list 0 [(jwe [1]).bundle, loose.bundle, (jwe [2]).bundle])) start = (.ok t, c'') := by
  intro jwe loose start
  obtain ⟨-, -, -, -, combined⟩ := merging_monoid
  obtain ⟨s, c, hs, -⟩ := combined [jwe [1], loose] (.tuple [(jwe [1]).bundle, loose.bundle]) start rfl
  obtain ⟨t, c', ht, -⟩ := combined [s, jwe [2]] (.stream 0 [s.bundle, (jwe [2]).bundle]) start rfl
  obtain ⟨u, c'', hu, flat, -⟩ := combined [jwe [1], loose, jwe [2]]
    (.list 0 [(jwe [1]).bundle, loose.bundle, (jwe [2]).bundle]) start rfl
  have two : Nests [(jwe [1]).bundle, loose.bundle] s.bundle :=
    @Nests.group [([(jwe [1]).bundle], (jwe [1]).bundle), ([loose.bundle], loose.bundle)] _ _ _ _
      (by simp [Nests.bundle]) rfl hs
  have three : Nests [(jwe [1]).bundle, loose.bundle, (jwe [2]).bundle] t.bundle :=
    @Nests.group [([(jwe [1]).bundle, loose.bundle], s.bundle), ([(jwe [2]).bundle], (jwe [2]).bundle)] _ _ _ _
      (by simp [Nests.bundle, two]) rfl ht
  refine ⟨s.bundle, t.bundle, c, c', hs, ht, c'', ?_⟩
  rw [flat _ three]
  exact hu

end KeyBundle
