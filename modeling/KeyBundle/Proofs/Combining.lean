/-
  KeyBundle.Proofs.Combining — combining bundles, slot by slot.

  A bundle has three slots: the encrypting side, the decryption material embedded there, and the
  decrypting side. Each holds parameters and the schemes that are recorded for them; what is
  recorded may be any values, not only schemes (`Slots.of?`).

  Merging two sides never fails and merges their slots (`merged_decrypt`, `merged_encrypt`). So
  combining bundles gives a bundle in each of whose slots nothing is lost, doubled or moved
  (`combine_joins`): the names are those of all bundles, the blobs under a name and the recorded
  schemes are those of the bundles one after the other. A name without blobs stays, and so does
  the material embedded in a bundle with nothing on the decrypting side.
-/

import KeyBundle.Build.Bundles
import KeyBundle.Proofs.Merging
import KeyBundle.Proofs.Steps

namespace KeyBundle

open Build

/-! ## Slots -/

/-- What a slot of a bundle holds. -/
structure Slot where
  parameters : ParameterSet
  /-- What is recorded as schemes. -/
  schemes : List Value

namespace Slot

def empty : Slot := ⟨.empty, []⟩

def merged (s t : Slot) : Slot := ⟨s.parameters.merged t.parameters, s.schemes ++ t.schemes⟩

/-- The slot holds what the parts hold, one after the other. -/
structure Joins (total : Slot) (parts : List Slot) : Prop where
  names : ∀ n, n ∈ total.parameters.names ↔ ∃ s ∈ parts, n ∈ s.parameters.names
  blobs : ∀ n, total.parameters.blobs n = parts.flatMap fun s => s.parameters.blobs n
  schemes : total.schemes = parts.flatMap (·.schemes)

theorem names_foldl (parts : List Slot) (s : Slot) (n : String) :
    n ∈ (parts.foldl merged s).parameters.names ↔
      n ∈ s.parameters.names ∨ ∃ t ∈ parts, n ∈ t.parameters.names := by
  induction parts generalizing s with
  | nil => simp
  | cons t parts ih =>
    rw [List.foldl_cons, ih]
    simp [merged, ParameterSet.mem_names_merged, or_assoc]

theorem blobs_foldl (parts : List Slot) (s : Slot) (n : String) :
    (parts.foldl merged s).parameters.blobs n =
      s.parameters.blobs n ++ parts.flatMap fun t => t.parameters.blobs n := by
  induction parts generalizing s with
  | nil => simp
  | cons t parts ih =>
    rw [List.foldl_cons, ih]
    simp [merged, ParameterSet.blobs_merged]

theorem schemes_foldl (parts : List Slot) (s : Slot) :
    (parts.foldl merged s).schemes = s.schemes ++ parts.flatMap (·.schemes) := by
  induction parts generalizing s with
  | nil => simp
  | cons t parts ih =>
    rw [List.foldl_cons, ih]
    simp [merged]

theorem joins_foldl (parts : List Slot) : Joins (parts.foldl merged empty) parts where
  names n := by
    rw [names_foldl]
    simp [empty, ParameterSet.names, ParameterSet.empty, Entries.names]
  blobs n := by
    rw [blobs_foldl]
    rfl
  schemes := by
    rw [schemes_foldl]
    rfl

end Slot

/-- The three slots of a bundle. -/
structure Slots where
  encrypt : Slot
  embedded : Slot
  decrypt : Slot

namespace Slots

def empty : Slots := ⟨.empty, .empty, .empty⟩

def merged (a b : Slots) : Slots :=
  ⟨a.encrypt.merged b.encrypt, a.embedded.merged b.embedded, a.decrypt.merged b.decrypt⟩

/-- Each slot holds what the slots of its kind hold. -/
structure Joins (total : Slots) (parts : List Slots) : Prop where
  encrypt : total.encrypt.Joins (parts.map (·.encrypt))
  embedded : total.embedded.Joins (parts.map (·.embedded))
  decrypt : total.decrypt.Joins (parts.map (·.decrypt))

theorem foldl_slot (slot : Slots → Slot) (h : ∀ a b, slot (a.merged b) = (slot a).merged (slot b))
    (parts : List Slots) (a : Slots) :
    slot (parts.foldl merged a) = (parts.map slot).foldl Slot.merged (slot a) := by
  induction parts generalizing a with
  | nil => rfl
  | cons b parts ih => rw [List.foldl_cons, ih, h, List.map_cons, List.foldl_cons]

theorem joins_foldl (parts : List Slots) : Joins (parts.foldl merged empty) parts where
  encrypt := by
    rw [foldl_slot (·.encrypt) (fun _ _ => rfl)]
    exact Slot.joins_foldl _
  embedded := by
    rw [foldl_slot (·.embedded) (fun _ _ => rfl)]
    exact Slot.joins_foldl _
  decrypt := by
    rw [foldl_slot (·.decrypt) (fun _ _ => rfl)]
    exact Slot.joins_foldl _

end Slots

/-! ## Slots of values -/

/-- The slot of a decrypting side. -/
def decryptSlot? : Value → Option Slot
  | .decryptConfig c => some ⟨c.parameters, c.schemes.map .scheme⟩
  | .record .decryptConfig [.parameters p, .tuple ss] => some ⟨p, ss⟩
  | _ => none

/-- The slots of an encrypting side: its own, and the one of the material embedded in it. -/
def encryptSlots? : Value → Option (Slot × Slot)
  | .encryptConfig c =>
    some (⟨c.parameters, c.schemes.map .scheme⟩,
      ⟨c.decryptConfig.parameters, c.decryptConfig.schemes.map .scheme⟩)
  | .record .encryptConfig [.parameters p, d, .tuple ss] =>
    (decryptSlot? d).map fun embedded => (⟨p, ss⟩, embedded)
  | _ => none

/-- The slots of a bundle with an encrypting and a decrypting side. -/
def Slots.of? (v : Value) : Option Slots := do
  let (e, d) ← bundleOf? v
  let (own, embedded) ← encryptSlots? e
  let decrypt ← decryptSlot? d
  return ⟨own, embedded, decrypt⟩

theorem map_scheme_of_mapM {vs : List Value} {ss : List Scheme} (h : vs.mapM Value.scheme? = some ss) :
    vs = ss.map .scheme := by
  induction vs generalizing ss with
  | nil =>
    cases h
    rfl
  | cons v vs ih =>
    rw [List.mapM_cons] at h
    cases v <;> simp only [Value.scheme?, Option.bind_eq_bind, Option.bind_none, Option.bind_some,
      reduceCtorEq, Option.bind_eq_some_iff] at h
    obtain ⟨ts, hts, h⟩ := h
    cases h
    rw [ih hts, List.map_cons]

theorem decryptSlot?_ofDecrypt (p : ParameterSet) (ss : List Value) :
    decryptSlot? (.ofDecrypt p ss) = some ⟨p, ss⟩ := by
  unfold Value.ofDecrypt
  split
  · rename_i ts h
    rw [map_scheme_of_mapM h]
    rfl
  · rfl

theorem encryptSlots?_ofEncrypt (p : ParameterSet) (d : Value) (ss : List Value) :
    encryptSlots? (.ofEncrypt p d ss) = (decryptSlot? d).map fun embedded => (⟨p, ss⟩, embedded) := by
  unfold Value.ofEncrypt
  split
  · rename_i c ts h
    rw [map_scheme_of_mapM h]
    rfl
  · rfl

theorem slotsOf?_ofCrypto (e d : Value) : Slots.of? (.ofCrypto e d) = (do
    let (own, embedded) ← encryptSlots? e
    let decrypt ← decryptSlot? d
    return ⟨own, embedded, decrypt⟩) := by
  unfold Value.ofCrypto
  split <;> rfl

theorem slotsOf?_eq_some {v : Value} {s : Slots} (h : Slots.of? v = some s) :
    ∃ e d, bundleOf? v = some (e, d) ∧ encryptSlots? e = some (s.encrypt, s.embedded) ∧
      decryptSlot? d = some s.decrypt := by
  simp only [Slots.of?, Option.bind_eq_bind, Option.bind_eq_some_iff, Prod.exists, Option.pure_def,
    Option.some.injEq] at h
  obtain ⟨e, d, hb, own, embedded, he, decrypt, hd, rfl⟩ := h
  exact ⟨e, d, hb, he, hd⟩

/-! ## Merging sides -/

theorem sideOf?_decrypt {v : Value} {s : Slot} (h : decryptSlot? v = some s) :
    sideOf? v = some (s.parameters, s.schemes) := by
  unfold decryptSlot? at h
  split at h <;> cases h <;> rfl

theorem sideOf?_encrypt {v : Value} {s e : Slot} (h : encryptSlots? v = some (s, e)) :
    sideOf? v = some (s.parameters, s.schemes) := by
  unfold encryptSlots? at h
  split at h
  · cases h
    rfl
  · obtain ⟨_, _, h⟩ := Option.map_eq_some_iff.mp h
    cases h
    rfl
  · cases h

theorem embeddedOf?_encrypt {v : Value} {s e : Slot} (h : encryptSlots? v = some (s, e)) :
    ∃ d, embeddedOf? v = some d ∧ decryptSlot? d = some e := by
  unfold encryptSlots? at h
  split at h
  · cases h
    exact ⟨_, rfl, rfl⟩
  · obtain ⟨_, hd, h⟩ := Option.map_eq_some_iff.mp h
    cases h
    exact ⟨_, rfl, hd⟩
  · cases h

theorem exec_mergeSide {v : Value} {t : Slot} (h : sideOf? v = some (t.parameters, t.schemes))
    (p : ParameterSet) (ss : List Value) (c : Context) :
    exec (mergeSide p ss v) c = (.ok (p.merged t.parameters, ss ++ t.schemes), c) := by
  unfold mergeSide
  rw [h]
  rfl

theorem exec_mergeDecrypt {v : Value} {t : Slot} (h : decryptSlot? v = some t) (p : ParameterSet)
    (ss : List Value) (c : Context) :
    exec (mergeDecrypt p ss v) c = (.ok (.ofDecrypt (p.merged t.parameters) (ss ++ t.schemes)), c) := by
  unfold mergeDecrypt
  rw [exec_bind_ok (exec_mergeSide (sideOf?_decrypt h) p ss c)]
  rfl

theorem exec_embeddedIn {v d : Value} (h : embeddedOf? v = some d) (c : Context) :
    exec (embeddedIn v) c = (.ok d, c) := by
  unfold embeddedIn
  rw [h]
  rfl

/-- Merging decrypting sides succeeds and merges their slots. -/
theorem merged_decrypt {a b : Value} {s t : Slot} (ha : decryptSlot? a = some s) (hb : decryptSlot? b = some t)
    (c : Context) : ∃ v, exec (Build.merged a b) c = (.ok v, c) ∧ decryptSlot? v = some (s.merged t) := by
  have hm (p : ParameterSet) (ss : List Value) := exec_mergeDecrypt hb p ss c
  unfold decryptSlot? at ha
  split at ha
  · rename_i x
    cases ha
    cases b with
    | decryptConfig y =>
      cases hb
      refine ⟨.decryptConfig (x.merged y), by rw [Build.merged.eq_def]; rfl, ?_⟩
      simp [decryptSlot?, DecryptConfig.merged, Slot.merged]
    | record => exact ⟨_, by rw [Build.merged.eq_def]; exact hm _ _, decryptSlot?_ofDecrypt _ _⟩
    | _ => cases hb
  · cases ha
    cases b with
    | decryptConfig | record =>
      exact ⟨_, by rw [Build.merged.eq_def]; exact hm _ _, decryptSlot?_ofDecrypt _ _⟩
    | _ => cases hb
  · cases ha

theorem hasMerged_decrypt {d : Value} {s : Slot} (h : decryptSlot? d = some s) : hasMerged d = true := by
  unfold decryptSlot? at h
  split at h <;> cases h <;> rfl

/-- Merging encrypting sides succeeds and merges their slots. -/
theorem merged_encrypt {a b : Value} {s e t f : Slot} (ha : encryptSlots? a = some (s, e))
    (hb : encryptSlots? b = some (t, f)) (c : Context) :
    ∃ v, exec (Build.merged a b) c = (.ok v, c) ∧ encryptSlots? v = some (s.merged t, e.merged f) := by
  have hm (p : ParameterSet) (ss : List Value) := exec_mergeSide (sideOf?_encrypt hb) p ss c
  obtain ⟨d, hd, hf⟩ := embeddedOf?_encrypt hb
  have hi := exec_embeddedIn hd c
  unfold encryptSlots? at ha
  split at ha
  · rename_i x
    cases ha
    cases b with
    | encryptConfig y =>
      cases hb
      refine ⟨.encryptConfig (x.merged y), by rw [Build.merged.eq_def]; rfl, ?_⟩
      simp [encryptSlots?, EncryptConfig.merged, DecryptConfig.merged, Slot.merged]
    | record =>
      refine ⟨.ofEncrypt _ (.ofDecrypt _ _) _, ?_, by rw [encryptSlots?_ofEncrypt, decryptSlot?_ofDecrypt]; rfl⟩
      have hx := exec_mergeDecrypt hf x.decryptConfig.parameters (x.decryptConfig.schemes.map .scheme) c
      rw [Build.merged.eq_def]
      refine (exec_bind_ok (hm _ _) _).trans ((exec_bind_ok hi _).trans ?_)
      cases d with
      | decryptConfig | record => exact exec_bind_ok hx _
      | _ => cases hf
    | _ => cases hb
  · rename_i p x ss
    obtain ⟨g, hg, ha⟩ := Option.map_eq_some_iff.mp ha
    cases ha
    obtain ⟨v, hv, hs⟩ := merged_decrypt hg hf c
    refine ⟨.ofEncrypt (p.merged t.parameters) (orEmptyDecrypt v) (ss ++ t.schemes), ?_, ?_⟩
    · rw [Build.merged.eq_def]
      cases b with
      | encryptConfig | record =>
        refine (exec_bind_ok (hm _ _) _).trans ?_
        simp only [hasMerged_decrypt hg]
        exact (exec_bind_ok hi _).trans (exec_bind_ok hv _)
      | _ => cases hb
    · have ho : orEmptyDecrypt v = v := by
        cases v <;> first | rfl | cases hs
      rw [encryptSlots?_ofEncrypt, ho, hs]
      rfl
  · cases ha

/-! ## Combining bundles -/

/-- The items that going through a value gives from now on, if nothing is raised. -/
def upcoming (c : Context) : Value → Option (List Value)
  | .stream id xs => some (xs.drop (drawnFrom c id))
  | .generator id _ xs _ => if drawnFrom c id ≤ xs.length then none else some []
  | v => itemsOf? v

/-- What going through a value raises from now on. -/
def raising? (c : Context) : Value → Option Raised
  | .generator id _ xs r => if drawnFrom c id ≤ xs.length then some r else none
  | _ => none

theorem upcoming_generator {c : Context} {id : Nat} {name : String} {xs items : List Value} {r : Raised}
    (h : upcoming c (.generator id name xs r) = some items) : xs.length < drawnFrom c id ∧ items = [] := by
  rw [upcoming] at h
  split at h
  · cases h
  · next hd =>
    cases h
    exact ⟨Nat.lt_of_not_le hd, rfl⟩

section

variable {c : Context} {v : Value} {items : List Value}

theorem exec_peekItems? (h : upcoming c v = some items) : exec (peekItems? v) c = (.ok (some items), c) := by
  cases v with
  | generator id name xs r =>
    obtain ⟨spent, rfl⟩ := upcoming_generator h
    have none : xs.drop (drawnFrom c id) = [] := List.drop_eq_nil_of_le (Nat.le_of_lt spent)
    exact congrArg (fun rest => (Except.ok (some rest), c)) none
  | _ => exact congrArg (fun rest => (Except.ok rest, c)) h

/-- What gives all its items raises nothing. -/
theorem raising?_of_upcoming (h : upcoming c v = some items) : raising? c v = none := by
  cases v with
  | generator id name xs r => exact if_neg (Nat.not_le_of_lt (upcoming_generator h).1)
  | _ => rfl

theorem exec_ending? (v : Value) (c : Context) : exec (ending? v) c = (.ok (raising? c v), c) := by
  cases v <;> rfl

end

theorem exec_addBundle {e d b : Value} {s t : Slots} (he : encryptSlots? e = some (s.encrypt, s.embedded))
    (hd : decryptSlot? d = some s.decrypt) (hb : Slots.of? b = some t) (c : Context) :
    ∃ e' d', exec (addBundle (e, d) b) c = (.ok (e', d'), c) ∧
      encryptSlots? e' = some ((s.merged t).encrypt, (s.merged t).embedded) ∧
      decryptSlot? d' = some (s.merged t).decrypt := by
  obtain ⟨x, y, hxy, hx, hy⟩ := slotsOf?_eq_some hb
  obtain ⟨e', he', hes⟩ := merged_encrypt he hx c
  obtain ⟨d', hd', hds⟩ := merged_decrypt hd hy c
  refine ⟨e', d', ?_, hes, hds⟩
  unfold addBundle
  rw [hxy]
  exact (exec_bind_ok he' _).trans (exec_bind_ok hd' _)

theorem exec_addBundles {seen : Nat → Build Unit} (hseen : ∀ n c, ∃ c', exec (seen n) c = (.ok (), c')) :
    ∀ (bundles : List Value) (slots : List Slots), bundles.mapM Slots.of? = some slots →
      ∀ (n : Nat) (e d : Value) (s : Slots) (c : Context), encryptSlots? e = some (s.encrypt, s.embedded) →
        decryptSlot? d = some s.decrypt →
        ∃ e' d' c', exec (addBundles seen n (e, d) bundles) c = (.ok (e', d'), c') ∧
          encryptSlots? e' = some ((slots.foldl Slots.merged s).encrypt, (slots.foldl Slots.merged s).embedded) ∧
          decryptSlot? d' = some (slots.foldl Slots.merged s).decrypt := by
  intro bundles
  induction bundles with
  | nil =>
    intro slots hs n e d s c he hd
    cases hs
    obtain ⟨c', hc⟩ := hseen (n + 1) c
    exact ⟨e, d, c', exec_bind_ok hc _, he, hd⟩
  | cons b bundles ih =>
    intro slots hs n e d s c he hd
    simp only [List.mapM_cons, Option.bind_eq_bind, Option.bind_eq_some_iff, Option.pure_def,
      Option.some.injEq] at hs
    obtain ⟨t, ht, ts, hts, rfl⟩ := hs
    obtain ⟨c₁, hc⟩ := hseen (n + 1) c
    obtain ⟨e₁, d₁, hadd, he₁, hd₁⟩ := exec_addBundle he hd ht c₁
    obtain ⟨e', d', c', hrest, he', hd'⟩ := ih ts hts (n + 1) e₁ d₁ _ c₁ he₁ hd₁
    exact ⟨e', d', c', (exec_bind_ok hc _).trans ((exec_bind_ok hadd _).trans hrest), he', hd'⟩

/-- Combining bundles gives a bundle that holds, slot by slot, what they hold one after the other:
    the names of all, under each name the blobs of the first, then those of the second and so on,
    and the recorded schemes in the same way. -/
theorem combine_joins {v : Value} {c : Context} {bundles : List Value} {slots : List Slots}
    (hv : upcoming c v = some bundles) (hs : bundles.mapM Slots.of? = some slots) :
    ∃ w c' total, exec (combine v) c = (.ok w, c') ∧ Slots.of? w = some total ∧ total.Joins slots := by
  have run : ∀ (seen : Nat → Build Unit) (n : Nat), (∀ n c, ∃ c', exec (seen n) c = (.ok (), c')) →
      ∃ e d c', exec (addBundles seen n (.encryptConfig .empty, .decryptConfig .empty) bundles) c = (.ok (e, d), c') ∧
        Slots.of? (.ofCrypto e d) = some (slots.foldl Slots.merged .empty) := by
    intro seen n hseen
    obtain ⟨e, d, c', hx, he, hd⟩ := exec_addBundles hseen bundles slots hs n (.encryptConfig .empty)
      (.decryptConfig .empty) .empty c rfl rfl
    refine ⟨e, d, c', hx, ?_⟩
    rw [slotsOf?_ofCrypto, he, hd]
    rfl
  unfold combine
  rw [exec_bind_ok (exec_peekItems? hv)]
  dsimp only
  rw [exec_bind_ok (exec_ending? v c), raising?_of_upcoming hv]
  cases v with
  | stream id xs | generator id _ xs =>
    obtain ⟨e, d, c', hx, hw⟩ := run (setDrawn id) (xs.length - bundles.length) fun n c => ⟨_, rfl⟩
    exact ⟨.ofCrypto e d, c', _, exec_bind_ok hx _, hw, Slots.joins_foldl slots⟩
  | _ =>
    obtain ⟨e, d, c', hx, hw⟩ := run (fun _ => return ()) 0 fun n c => ⟨_, rfl⟩
    exact ⟨.ofCrypto e d, c', _, exec_bind_ok hx _, hw, Slots.joins_foldl slots⟩

/-- A bundle that encrypts, one that decrypts with no module for its pin, one whose embedded material
    is not on its decrypting side, and one on whose decrypting side a number stands for a scheme. -/
theorem combine_joins_four :
    let loose : Value := .record .decryptConfig [.parameters .empty, .tuple [.int 5]]
    let bundles : List Value := [
      .cryptoConfig (.encrypting (.jweRecipients [[1], [2]])), .cryptoConfig (.decrypting (.pkcs11Modules [] [[3]])),
      .cryptoConfig ⟨⟨.empty, .ofSchemes [.privateKeys [[4]] [[]]], []⟩, .empty⟩,
      .record .cryptoConfig [.encryptConfig (.ofSchemes [.jweRecipients [[5]]] .empty), loose]]
    ∃ slots, upcoming (.start [] .ofString) (.list 0 bundles) = some bundles ∧
      bundles.mapM Slots.of? = some slots ∧ slots.length = 4 ∧
      ∃ w c' total, exec (combine (.list 0 bundles)) (.start [] .ofString) = (.ok w, c') ∧
        Slots.of? w = some total ∧ total.Joins slots :=
  ⟨_, rfl, rfl, rfl, combine_joins rfl rfl⟩

end KeyBundle
