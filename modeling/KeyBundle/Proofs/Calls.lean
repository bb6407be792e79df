/-
  KeyBundle.Proofs.Calls — what calls of the constructors give, and what is built of their results.

  A call (`Call`) is a constructor with its arguments and the context that it meets. A named
  constructor, one that is not handed a scheme or parameters as they are, makes the bundle of one
  scheme, and the blobs of that scheme are those in its arguments (`Call.of_gives`); how each
  argument is gone through is said by `blobsIn` and `Context.past`.

  A value is built of calls (`Built`) when it comes of combining their results, in whatever nesting.
  It is a bundle, and what holds of nothing, of the result of each call, and of two bundles merged,
  holds of it (`Built.induct`).
-/

import Mathlib.Data.List.Forall2
import KeyBundle.Proofs.Grouping
import KeyBundle.Proofs.Mirroring

namespace KeyBundle

open Build

/-! ## Blobs in arguments -/

/-- The blobs that going through a value gives from now on. -/
def blobsIn (c : Context) (v : Value) : List Blob := ((upcoming c v).getD []).filterMap Value.blob?

/-- The context once a value has been gone through: a stream has no more items then. -/
def Context.past (c : Context) (v : Value) : Context where
  __ := c
  drawn := match v with
    | .stream id xs | .generator id _ xs _ => (id, xs.length + 1) :: c.drawn.filter (·.1 != id)
    | _ => c.drawn

theorem exec_takeItems? (v : Value) (c : Context) :
    exec (takeItems? v) c = (.ok (itemsOr (upcoming c v) (raising? c v)), c.past v) := by
  cases v with
  | generator id name xs r =>
    have items : itemsOr (some (xs.drop (drawnFrom c id))) (raising? c (.generator id name xs r)) =
        itemsOr (upcoming c (.generator id name xs r)) (raising? c (.generator id name xs r)) := by
      rw [upcoming, raising?]
      split
      · rfl
      · next spent => rw [List.drop_eq_nil_of_le (Nat.le_of_not_le spent)]
    exact congrArg (fun x => (Except.ok x, c.past (.generator id name xs r))) items
  | _ => rfl

theorem exec_refused {α : Type} (report : Rejection → Fault) (r : Except Fault α) (c : Context) :
    exec (refused report r) c = (r.mapError (reported report), c) := by
  cases r <;> rfl

theorem of_exec_refused {α : Type} {report : Rejection → Fault} {r : Except Fault α} {c c' : Context} {a : α}
    (h : exec (refused report r) c = (.ok a, c')) : r = .ok a ∧ c' = c := by
  cases r with
  | error e => cases h
  | ok b =>
    cases h
    exact ⟨rfl, rfl⟩

theorem filterMap_of_mapM_blob {name : String} {vs : List Value} {bs : List Blob} (h : vs.mapM (blob name) = .ok bs) :
    vs.filterMap Value.blob? = bs := by
  induction vs generalizing bs with
  | nil =>
    cases h
    rfl
  | cons v vs ih =>
    rw [List.mapM_cons] at h
    cases hv : v.blob? with
    | none =>
      rw [show blob name v = .error (noBlob name v) by rw [blob, hv]] at h
      cases h
    | some b =>
      rw [show blob name v = .ok b by rw [blob, hv]] at h
      cases hvs : vs.mapM (blob name) with
      | error r =>
        rw [hvs] at h
        cases h
      | ok cs =>
        rw [hvs] at h
        cases h
        rw [List.filterMap_cons_some hv, ih hvs]

theorem upcoming_of_sequenceItems {c : Context} {field : String} {v : Value} {items : List Value}
    (h : sequenceItems field (itemsOr (upcoming c v) (raising? c v)) = .ok items) : upcoming c v = some items := by
  cases hr : raising? c v with
  | some r =>
    rw [hr] at h
    cases h
  | none =>
    rw [hr] at h
    cases hu : upcoming c v with
    | none =>
      rw [hu] at h
      cases h
    | some xs =>
      rw [hu] at h
      cases h
      rfl

/-- A field that is read has the blobs of its value. -/
theorem of_exec_field {name : String} {v : Value} {c c' : Context} {bs : List Blob}
    (h : exec (field name v) c = (.ok bs, c')) : bs = blobsIn c v ∧ c' = c.past v := by
  by_cases hv : v = .none
  · subst hv
    cases h
    exact ⟨rfl, rfl⟩
  · unfold field at h
    rw [blobs_of_ne_none _ _ hv, sequenceBlobs] at h
    split at h
    · cases h
    · rw [exec_bind_ok (exec_takeItems? v c)] at h
      obtain ⟨items, c₁, hx, h⟩ := of_exec_bind h
      obtain ⟨hb, rfl⟩ := of_exec_refused h
      obtain ⟨come, rfl⟩ := of_exec_refused hx
      refine ⟨?_, rfl⟩
      rw [blobsIn, upcoming_of_sequenceItems come, Option.getD_some, filterMap_of_mapM_blob hb]

/-- Schemes with one field of blobs, and with two of which the first is read first. -/
theorem of_exec_oneField {f : List Blob → Scheme} {name : String} {v : Value} {c c' : Context} {s : Scheme}
    (h : exec (do return f (← field name v)) c = (.ok s, c')) : s = f (blobsIn c v) ∧ c' = c.past v := by
  obtain ⟨bs, c₁, hb, h⟩ := of_exec_bind h
  obtain ⟨rfl, rfl⟩ := of_exec_field hb
  cases h
  exact ⟨rfl, rfl⟩

theorem of_exec_twoFields {f : List Blob → List Blob → Scheme} {first second : String} {v w : Value} {c c' : Context}
    {s : Scheme} (h : exec (do let (xs, ys) ← twoFields first second v w; return f xs ys) c = (.ok s, c')) :
    s = f (blobsIn c v) (blobsIn (c.past v) w) ∧ c' = (c.past v).past w := by
  obtain ⟨⟨xs, ys⟩, c₁, hb, h⟩ := of_exec_bind h
  obtain ⟨xs', c₂, hx, hb⟩ := of_exec_bind hb
  obtain ⟨rfl, rfl⟩ := of_exec_field hx
  obtain ⟨ys', c₃, hy, hb⟩ := of_exec_bind hb
  obtain ⟨rfl, rfl⟩ := of_exec_field hy
  cases hb
  cases h
  exact ⟨rfl, rfl⟩

theorem of_keyring {v : Value} {b : Blob} (h : keyring v = .ok b) : b = (v.blob?).getD [] := by
  cases v <;> cases h <;> rfl

theorem of_exec_gpgRecipients {v w : Value} {c c' : Context} {s : Scheme} (h : exec (gpgRecipients v w) c = (.ok s, c')) :
    s = .gpgRecipients (blobsIn c v) ((w.blob?).getD []) ∧ c' = c.past v := by
  obtain ⟨bs, c₁, hb, hrest⟩ := of_exec_bind h
  obtain ⟨rfl, rfl⟩ := of_exec_field hb
  obtain ⟨ring, c₂, hr, hs⟩ := of_exec_bind hrest
  obtain ⟨hring, rfl⟩ := of_exec_refused hr
  cases hs
  exact ⟨by rw [of_keyring hring], rfl⟩

/-! ## Bundles of one scheme -/

/-- The bundle of a scheme, on the side of its direction. -/
def CryptoConfig.ofScheme (s : Scheme) : CryptoConfig :=
  match s.direction with
  | .encrypt => .encrypting s
  | .decrypt => .decrypting s

/-- What a scheme has to pass; the limit counts for modules to encrypt with. -/
def checkScheme (s : Scheme) (limit : Value) : Build Unit :=
  match s.direction with
  | .encrypt => checkEncrypting s limit
  | .decrypt => checkDecrypting s

theorem of_exec_bundle {b : Build CryptoConfig} {c c' : Context} {v : Value}
    (h : exec (Session.bundle b) c = (.ok v, c')) : ∃ x, v = .cryptoConfig x ∧ exec b c = (.ok x, c') := by
  obtain ⟨x, c₁, hx, h⟩ := of_exec_bind h
  cases h
  exact ⟨x, rfl, hx⟩

theorem of_exec_schemeFor {d : Direction} {v : Value} {c c' : Context} {s : Scheme}
    (h : exec (schemeFor d v) c = (.ok s, c')) : v = .scheme s ∧ s.direction = d ∧ c' = c := by
  unfold schemeFor at h
  split at h
  · split at h
    · cases h
      exact ⟨rfl, ‹_›, rfl⟩
    · cases h
  · cases h

/-- The two sides are alike: a scheme for the side is checked and reported, and gives its bundle. -/
theorem of_exec_forSide {d : Direction} {check : Scheme → Build Unit} {notice : Scheme → Notice}
    {make : Scheme → CryptoConfig} {v : Value} {c c' : Context} {b : CryptoConfig}
    (h : exec (do
      let s ← schemeFor d v
      check s
      notify (notice s)
      return make s) c = (.ok b, c')) :
    ∃ s, v = .scheme s ∧ s.direction = d ∧ b = make s ∧ ∃ c₁, exec (check s) c = (.ok (), c₁) := by
  obtain ⟨s, c₁, hs, hrest⟩ := of_exec_bind h
  obtain ⟨rfl, hd, rfl⟩ := of_exec_schemeFor hs
  obtain ⟨_, c₂, hc, hnotice⟩ := of_exec_bind hrest
  obtain ⟨_, c₃, -, hb⟩ := of_exec_bind hnotice
  cases hb
  exact ⟨s, rfl, hd, rfl, c₂, hc⟩

theorem of_exec_encryptWithScheme {v limit : Value} {c c' : Context} {b : CryptoConfig}
    (h : exec (encryptWithScheme v limit) c = (.ok b, c')) :
    ∃ s, v = .scheme s ∧ b = .ofScheme s ∧ ∃ c₁, exec (checkScheme s limit) c = (.ok (), c₁) := by
  obtain ⟨s, rfl, hd, rfl, hc⟩ := of_exec_forSide h
  refine ⟨s, rfl, ?_, ?_⟩
  · rw [CryptoConfig.ofScheme, hd]
  · rwa [checkScheme, hd]

theorem of_exec_decryptWithScheme {v : Value} {c c' : Context} {b : CryptoConfig}
    (h : exec (decryptWithScheme v) c = (.ok b, c')) :
    ∃ s, v = .scheme s ∧ b = .ofScheme s ∧ ∃ c₁, exec (checkScheme s .none) c = (.ok (), c₁) := by
  obtain ⟨s, rfl, hd, rfl, hc⟩ := of_exec_forSide h
  refine ⟨s, rfl, ?_, ?_⟩
  · rw [CryptoConfig.ofScheme, hd]
  · rwa [checkScheme, hd]

/-- A scheme is made, and then its bundle. -/
theorem of_exec_make {b : Build Scheme} {make : Value → Build CryptoConfig} {limit v : Value} {c c' : Context}
    (hmake : ∀ {w c x c'}, exec (make w) c = (.ok x, c') →
      ∃ s, w = .scheme s ∧ x = .ofScheme s ∧ ∃ c₁, exec (checkScheme s limit) c = (.ok (), c₁))
    (h : exec (Session.bundle (b >>= fun s => make (.scheme s))) c = (.ok v, c')) :
    ∃ s c₁ c₂, exec b c = (.ok s, c₁) ∧ v = .cryptoConfig (.ofScheme s) ∧ exec (checkScheme s limit) c₁ = (.ok (), c₂) := by
  obtain ⟨x, rfl, hx⟩ := of_exec_bundle h
  obtain ⟨s, c₁, hs, hb⟩ := of_exec_bind hx
  obtain ⟨t, ht, rfl, c₂, hc⟩ := hmake hb
  cases ht
  exact ⟨s, c₁, c₂, hs, rfl, hc⟩

/-! ## Calls -/

/-- A constructor, its arguments, and the context that they meet: the settings, and how far each stream
    has been read. -/
structure Call where
  kind : Assembly.Constructor
  args : Session.Arguments
  context : Context

namespace Call

def arg (k : Call) (n : Nat) : Value := k.args.get n

/-- The call succeeds with a value. -/
def Gives (k : Call) (v : Value) : Prop := ∃ c, exec (k.kind.operation.build k.args) k.context = (.ok v, c)

/-- The blobs in the first argument. -/
def first (k : Call) : List Blob := blobsIn k.context (k.arg 0)

/-- The blobs in the second argument, which is gone through after the first. -/
def second (k : Call) : List Blob := blobsIn (k.context.past (k.arg 0)) (k.arg 1)

/-- The scheme that a named constructor makes of its arguments. -/
def scheme? (k : Call) : Option Scheme :=
  match k.kind with
  | .encryptWithJwe => some (.jweRecipients k.first)
  | .encryptWithPkcs7 => some (.pkcs7Recipients k.first)
  | .encryptWithGpg => some (.gpgRecipients k.first ((k.arg 1).blob?.getD []))
  | .encryptWithPkcs11 => some (.pkcs11Recipients k.first k.second)
  | .decryptWithPrivateKeys => some (.privateKeys k.first k.second)
  | .decryptWithX509s => some (.x509Certificates k.first)
  | .decryptWithGpgPrivateKeys => some (.gpgPrivateKeys k.first k.second)
  | .decryptWithPkcs11 => some (.pkcs11Modules k.first k.second)
  | .encryptWithScheme | .decryptWithScheme | .initEncryption | .initDecryption => none

/-- The limit of modules that the call is given. -/
def limit (k : Call) : Value :=
  match k.kind with
  | .encryptWithPkcs11 => k.arg 2
  | _ => .none

/-- A named constructor that succeeds gives the bundle of the scheme of its arguments, which has passed
    its check in a context where only streams have been read. -/
theorem of_gives {k : Call} {s : Scheme} {v : Value} (hs : k.scheme? = some s) (h : k.Gives v) :
    v = .cryptoConfig (.ofScheme s) ∧
      ∃ drawn c', exec (checkScheme s k.limit) { k.context with drawn } = (.ok (), c') := by
  obtain ⟨kind, args, context⟩ := k
  obtain ⟨c, h⟩ := h
  cases kind
  case encryptWithJwe | encryptWithPkcs7 =>
    cases hs
    obtain ⟨s, c₁, c₂, hb, rfl, hc⟩ := of_exec_make of_exec_encryptWithScheme h
    obtain ⟨rfl, rfl⟩ := of_exec_oneField hb
    exact ⟨rfl, _, _, hc⟩
  case encryptWithGpg =>
    cases hs
    obtain ⟨s, c₁, c₂, hb, rfl, hc⟩ := of_exec_make of_exec_encryptWithScheme h
    obtain ⟨rfl, rfl⟩ := of_exec_gpgRecipients hb
    exact ⟨rfl, _, _, hc⟩
  case encryptWithPkcs11 =>
    cases hs
    obtain ⟨s, c₁, c₂, hb, rfl, hc⟩ := of_exec_make of_exec_encryptWithScheme h
    obtain ⟨rfl, rfl⟩ := of_exec_twoFields hb
    exact ⟨rfl, _, _, hc⟩
  case decryptWithX509s =>
    cases hs
    obtain ⟨s, c₁, c₂, hb, rfl, hc⟩ := of_exec_make of_exec_decryptWithScheme h
    obtain ⟨rfl, rfl⟩ := of_exec_oneField hb
    exact ⟨rfl, _, _, hc⟩
  case decryptWithPrivateKeys | decryptWithGpgPrivateKeys | decryptWithPkcs11 =>
    cases hs
    obtain ⟨s, c₁, c₂, hb, rfl, hc⟩ := of_exec_make of_exec_decryptWithScheme h
    obtain ⟨rfl, rfl⟩ := of_exec_twoFields hb
    exact ⟨rfl, _, _, hc⟩
  case encryptWithScheme | decryptWithScheme | initEncryption | initDecryption => cases hs

/-- Every constructor gives a bundle whose fields are of their usual types. -/
theorem exists_of_gives {k : Call} {v : Value} (h : k.Gives v) : ∃ b, v = .cryptoConfig b := by
  obtain ⟨kind, args, context⟩ := k
  obtain ⟨c, h⟩ := h
  cases kind <;> exact (of_exec_bundle h).imp fun _ hb => hb.1

/-- Whether a call succeeds can be computed. -/
theorem gives_of_isOk {k : Call} (h : (exec (k.kind.operation.build k.args) k.context).1.isOk = true) :
    ∃ v, k.Gives v := by
  rcases hx : exec (k.kind.operation.build k.args) k.context with ⟨f | v, c⟩
  · rw [hx] at h
    cases h
  · exact ⟨v, c, hx⟩

end Call

/-! ## What is built of calls -/

/-- The value comes of combining the results of the calls, in their order and in whatever nesting. A call
    whose result is combined twice is there twice. -/
def Built (calls : List Call) (v : Value) : Prop := ∃ results, List.Forall₂ Call.Gives calls results ∧ Nests results v

def CryptoConfig.slots (b : CryptoConfig) : Slots where
  encrypt := ⟨b.encryptConfig.parameters, b.encryptConfig.schemes.map .scheme⟩
  embedded := ⟨b.encryptConfig.decryptConfig.parameters, b.encryptConfig.decryptConfig.schemes.map .scheme⟩
  decrypt := ⟨b.decryptConfig.parameters, b.decryptConfig.schemes.map .scheme⟩

theorem CryptoConfig.bundle_slots (b : CryptoConfig) : b.slots.bundle = .cryptoConfig b := by
  simp only [Slots.bundle, Slots.sides, slots, Slot.encryptSide, Slot.decryptSide, ofDecrypt_typed,
    Assembly.ofEncrypt_typed]
  rfl

theorem CryptoConfig.map_cryptoConfig (bs : List CryptoConfig) :
    bs.map Value.cryptoConfig = (bs.map slots).map Slots.bundle := by
  simp only [List.map_map, Function.comp_def, bundle_slots]

theorem CryptoConfig.slots_merged (a b : CryptoConfig) : (a.merged b).slots = a.slots.merged b.slots := by
  simp [slots, merged, Slots.merged, Slot.merged, EncryptConfig.merged, DecryptConfig.merged]

theorem CryptoConfig.combined_slots (bs : List CryptoConfig) :
    Slots.combined (bs.map slots) = (combine bs).slots := by
  have general (a : CryptoConfig) : (bs.map slots).foldl .merged a.slots = (bs.foldl merged a).slots := by
    induction bs generalizing a with
    | nil => rfl
    | cons b bs ih => rw [List.map_cons, List.foldl_cons, List.foldl_cons, ← slots_merged, ih]
  exact general .empty

/-- What is nested of bundles with fields of their usual types is all of them combined. -/
theorem Nests.cryptoConfig {bs : List CryptoConfig} {v : Value} (h : Nests (bs.map .cryptoConfig) v) :
    v = .cryptoConfig (.combine bs) := by
  rw [CryptoConfig.map_cryptoConfig] at h
  rw [h.combined, CryptoConfig.combined_slots, CryptoConfig.bundle_slots]

/-- What holds of nothing, of the result of each call and of two bundles merged holds of all that is built. -/
theorem Built.induct {P : List Call → CryptoConfig → Prop} (nothing : P [] .empty)
    (call : ∀ k b, k.Gives (.cryptoConfig b) → P [k] b)
    (merged : ∀ ks ls a b, P ks a → P ls b → P (ks ++ ls) (a.merged b)) {calls : List Call} {v : Value}
    (h : Built calls v) : ∃ b, v = .cryptoConfig b ∧ P calls b := by
  obtain ⟨results, hr, hn⟩ := h
  obtain ⟨bs, rfl, hb⟩ : ∃ bs : List CryptoConfig, results = bs.map .cryptoConfig ∧
      List.Forall₂ (fun k b => k.Gives (.cryptoConfig b)) calls bs := by
    clear hn
    induction hr with
    | nil => exact ⟨[], rfl, .nil⟩
    | cons hk _ ih =>
      obtain ⟨bs, rfl, hbs⟩ := ih
      obtain ⟨b, rfl⟩ := Call.exists_of_gives hk
      exact ⟨b :: bs, rfl, .cons hk hbs⟩
  refine ⟨.combine bs, hn.cryptoConfig, ?_⟩
  -- the bundles are merged from the left, onto what the calls before them have come to
  have general : ∀ ks a, P ks a → P (ks ++ calls) (bs.foldl .merged a) := by
    clear hn hr
    induction hb with
    | nil =>
      intro ks a ha
      rwa [List.append_nil]
    | @cons k b calls bs hk _ ih =>
      intro ks a ha
      have h := ih (ks ++ [k]) (a.merged b) (merged ks [k] a b ha (call k b hk))
      rwa [List.append_assoc] at h
  exact general [] .empty nothing

theorem Built.call {k : Call} {v : Value} (h : k.Gives v) : Built [k] v := ⟨[v], .cons h .nil, .bundle v⟩

/-- What is built is a bundle, and each of the calls has given one. -/
theorem Built.gives {calls : List Call} {v : Value} (h : Built calls v) :
    (∃ b, v = .cryptoConfig b) ∧ ∀ k ∈ calls, ∃ b, k.Gives (.cryptoConfig b) := by
  obtain ⟨b, rfl, hg⟩ := h.induct (P := fun ks _ => ∀ k ∈ ks, ∃ b, k.Gives (.cryptoConfig b))
    (fun _ hk => nomatch hk)
    (fun k b hg => List.forall_mem_singleton.mpr ⟨b, hg⟩)
    (fun _ _ _ _ ha hb => List.forall_mem_append.mpr ⟨ha, hb⟩)
  exact ⟨⟨b, rfl⟩, hg⟩

/-- What is built can be combined, in whatever form it is handed over, and that gives something built. -/
theorem Built.combine {parts : List (List Call × Value)} {x : Value} {c : Context} (h : ∀ p ∈ parts, Built p.1 p.2)
    (hx : upcoming c x = some (parts.map (·.2))) :
    ∃ w c', exec (Build.combine x) c = (.ok w, c') ∧ Built (parts.flatMap (·.1)) w := by
  have split : ∀ ps : List (List Call × Value), (∀ p ∈ ps, Built p.1 p.2) →
      ∃ (qs : List (List Value × Value)) (bs : List CryptoConfig), ps.map (·.2) = qs.map (·.2) ∧
        ps.map (·.2) = bs.map .cryptoConfig ∧
        List.Forall₂ Call.Gives (ps.flatMap (·.1)) (qs.flatMap (·.1)) ∧ ∀ q ∈ qs, Nests q.1 q.2 := by
    intro ps
    induction ps with
    | nil => exact fun _ => ⟨[], [], rfl, rfl, .nil, by simp⟩
    | cons p ps ih =>
      intro hps
      obtain ⟨hp, hps⟩ := List.forall_mem_cons.mp hps
      obtain ⟨qs, bs, hq, hb, hg, hn⟩ := ih hps
      obtain ⟨⟨b, hpb⟩, -⟩ := hp.gives
      obtain ⟨results, hr, hnp⟩ := hp
      exact ⟨(results, p.2) :: qs, b :: bs, by simp [hq], by simp [hb, hpb], List.rel_append hr hg,
        List.forall_mem_cons.mpr ⟨hnp, hn⟩⟩
  obtain ⟨qs, bs, hq, hb, hg, hn⟩ := split parts h
  obtain ⟨c', hc⟩ := exec_combine (hx.trans (by rw [hb, CryptoConfig.map_cryptoConfig]))
  exact ⟨_, c', hc, _, hg, .group hn (hq ▸ hx) hc⟩

end KeyBundle
