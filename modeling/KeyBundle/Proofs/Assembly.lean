/-
  KeyBundle.Proofs.Assembly — bundles assembled step by step from key material.

  A bundle is assembled by moves (`Move`): one of the constructors on any arguments, a side from
  schemes, a side of a bundle, and the merging, pairing and combining of what earlier moves have
  made. A move may fail; the later ones go on with what there is. No move sets parameters and
  schemes of a slot by themselves.

  Whatever is made this way is accounted for (`assemble_accounted`): in each slot the parameters
  are those of the recorded schemes merged from left to right, order of names included, and the
  schemes all have the direction of the slot. One move keeps that (`take_accounted`); for the
  merging moves this is `Accounted.merged`, and with it `parametersOf_append`.
-/

import KeyBundle.Proofs.Merging
import KeyBundle.Proofs.Steps
import KeyBundle.Session.Operation

namespace KeyBundle

open Build

/-! ## Slots accounted for -/

/-- The parameters are those of the schemes, and the schemes have one direction. -/
structure Accounted (d : Direction) (p : ParameterSet) (ss : List Scheme) : Prop where
  parameters : p = parametersOf ss
  directions : ∀ s ∈ ss, s.direction = d

namespace Accounted

variable {d : Direction} {p q : ParameterSet} {ss ts : List Scheme}

theorem empty : Accounted d .empty [] := ⟨rfl, fun _ h => nomatch h⟩

theorem ofSchemes (h : ∀ s ∈ ss, s.direction = d) : Accounted d (parametersOf ss) ss := ⟨rfl, h⟩

theorem merged (h : Accounted d p ss) (k : Accounted d q ts) : Accounted d (p.merged q) (ss ++ ts) where
  parameters := by rw [parametersOf_append, ← h.parameters, ← k.parameters]
  directions s hs := (List.mem_append.mp hs).elim (h.directions s) (k.directions s)

end Accounted

def DecryptConfig.Accounted (c : DecryptConfig) : Prop := KeyBundle.Accounted .decrypt c.parameters c.schemes

structure EncryptConfig.Accounted (c : EncryptConfig) : Prop where
  own : KeyBundle.Accounted .encrypt c.parameters c.schemes
  embedded : c.decryptConfig.Accounted

structure CryptoConfig.Accounted (c : CryptoConfig) : Prop where
  encrypting : c.encryptConfig.Accounted
  decrypting : c.decryptConfig.Accounted

/-- A bundle or a side of one that is accounted for in all its slots. -/
def Value.Accounted : Value → Prop
  | .decryptConfig c => c.Accounted
  | .encryptConfig c => c.Accounted
  | .cryptoConfig c => c.Accounted
  | _ => False

theorem DecryptConfig.accounted_empty : DecryptConfig.empty.Accounted := KeyBundle.Accounted.empty

theorem EncryptConfig.accounted_empty : EncryptConfig.empty.Accounted := ⟨.empty, DecryptConfig.accounted_empty⟩

theorem DecryptConfig.Accounted.merged {a b : DecryptConfig} (ha : a.Accounted) (hb : b.Accounted) :
    (a.merged b).Accounted := KeyBundle.Accounted.merged ha hb

theorem EncryptConfig.Accounted.merged {a b : EncryptConfig} (ha : a.Accounted) (hb : b.Accounted) :
    (a.merged b).Accounted := ⟨ha.own.merged hb.own, ha.embedded.merged hb.embedded⟩

theorem EncryptConfig.Accounted.withDecryptConfig {a : EncryptConfig} {d : DecryptConfig} (ha : a.Accounted)
    (hd : d.Accounted) : (a.withDecryptConfig d).Accounted := ⟨ha.own, ha.embedded.merged hd⟩

theorem CryptoConfig.accounted_encrypting {s : Scheme} (h : s.direction = .encrypt) :
    (CryptoConfig.encrypting s).Accounted :=
  ⟨⟨.ofSchemes (by simpa using h), DecryptConfig.accounted_empty⟩, DecryptConfig.accounted_empty⟩

theorem CryptoConfig.accounted_decrypting {s : Scheme} (h : s.direction = .decrypt) :
    (CryptoConfig.decrypting s).Accounted := by
  have hd : (DecryptConfig.ofSchemes [s]).Accounted := .ofSchemes (by simpa using h)
  exact ⟨⟨.empty, hd⟩, hd⟩

namespace Assembly

/-! ## Moves -/

/-- The ways from key material to a bundle. -/
inductive Constructor where
  | encryptWithScheme
  | encryptWithJwe
  | encryptWithPkcs7
  | encryptWithGpg
  | encryptWithPkcs11
  | decryptWithScheme
  | decryptWithPrivateKeys
  | decryptWithX509s
  | decryptWithGpgPrivateKeys
  | decryptWithPkcs11
  | initEncryption
  | initDecryption

def Constructor.operation : Constructor → Session.Operation
  | encryptWithScheme => .encryptWithScheme
  | encryptWithJwe => .encryptWithJwe
  | encryptWithPkcs7 => .encryptWithPkcs7
  | encryptWithGpg => .encryptWithGpg
  | encryptWithPkcs11 => .encryptWithPkcs11
  | decryptWithScheme => .decryptWithScheme
  | decryptWithPrivateKeys => .decryptWithPrivateKeys
  | decryptWithX509s => .decryptWithX509s
  | decryptWithGpgPrivateKeys => .decryptWithGpgPrivateKeys
  | decryptWithPkcs11 => .decryptWithPkcs11
  | initEncryption => .initEncryption
  | initDecryption => .initDecryption

/-- The forms in which bundles to be combined are handed over. -/
inductive Gathering where
  | tuple
  | list (id : Nat)
  | stream (id : Nat)

def Gathering.hold (xs : List Value) : Gathering → Value
  | tuple => .tuple xs
  | list id => .list id xs
  | stream id => .stream id xs

/-- One step of assembling. Numbers stand for what the moves of those numbers have made; none stands
    for an operand that is not given. -/
inductive Move where
  | construct (k : Constructor) (args : Session.Arguments)
  | decryptFromSchemes (schemes : List Value)
  | encryptFromSchemes (schemes : List Value) (embedded : Option Nat)
  | encryptSide (bundle : Nat)
  | decryptSide (bundle : Nat)
  /-- The material embedded in an encrypting side. -/
  | embedded (side : Nat)
  | pair (encrypt decrypt : Option Nat)
  | mergeDecrypt (side : Nat) (other : Option Nat)
  | mergeEncrypt (side : Nat) (other : Option Nat)
  | withDecryptConfig (side : Nat) (more : Option Nat)
  | combine (form : Gathering) (bundles : List Nat)

/-- What the moves so far have come to. -/
abbrev Made := List (Except Fault Value)

def decrypt? : Value → Option DecryptConfig
  | .decryptConfig c => some c
  | _ => none

def encrypt? : Value → Option EncryptConfig
  | .encryptConfig c => some c
  | _ => none

def crypto? : Value → Option CryptoConfig
  | .cryptoConfig c => some c
  | _ => none

section

variable {α : Type} (kind? : Value → Option α) (made : Made)

/-- What a move has made, if it is of the kind wanted. -/
def pieceAt? (i : Nat) : Option α :=
  match made[i]? with
  | some (.ok v) => kind? v
  | _ => none

def pieceAt (i : Nat) : Build α :=
  match pieceAt? kind? made i with
  | some a => return a
  | none => throw (.unbound (toString i))

/-- The same where the operand may be left out. -/
def optionalAt : Option Nat → Build (Option α)
  | none => return none
  | some i => do return some (← pieceAt kind? made i)

end

def Move.build (made : Made) : Move → Build Value
  | construct k args => k.operation.build args
  | decryptFromSchemes schemes => Build.decryptFromSchemes schemes
  | encryptFromSchemes schemes i => do
    let d ← optionalAt decrypt? made i
    Build.encryptFromSchemes schemes (.ofOption .decryptConfig d)
  | encryptSide i => do
    let c ← pieceAt crypto? made i
    return .encryptConfig c.encryptConfig
  | decryptSide i => do
    let c ← pieceAt crypto? made i
    return .decryptConfig c.decryptConfig
  | embedded i => do
    let c ← pieceAt encrypt? made i
    return .decryptConfig c.decryptConfig
  | pair i j => do
    let e ← optionalAt encrypt? made i
    let d ← optionalAt decrypt? made j
    return Build.cryptoConfig (.ofOption .encryptConfig e) (.ofOption .decryptConfig d)
  | mergeDecrypt i j => do
    let a ← pieceAt decrypt? made i
    let b ← optionalAt decrypt? made j
    merged (.decryptConfig a) (.ofOption .decryptConfig b)
  | mergeEncrypt i j => do
    let a ← pieceAt encrypt? made i
    let b ← optionalAt encrypt? made j
    merged (.encryptConfig a) (.ofOption .encryptConfig b)
  | withDecryptConfig i j => do
    let a ← pieceAt encrypt? made i
    let d ← optionalAt decrypt? made j
    Build.withDecryptConfig (.encryptConfig a) (.ofOption .decryptConfig d)
  | combine form is => do
    let bundles ← is.mapM (pieceAt crypto? made)
    Build.combine (form.hold (bundles.map .cryptoConfig))

/-! ## Assembling -/

structure Bench where
  context : Context
  /-- Move by move what has been made, or why it has not. -/
  made : Made

def Bench.take (b : Bench) (m : Move) : Bench :=
  let (r, c) := exec (m.build b.made) b.context
  ⟨c, b.made ++ [r]⟩

def assemble (c : Context) (ms : List Move) : Bench := ms.foldl Bench.take ⟨c, []⟩

/-! ## Constructors -/

theorem gives_schemeFor (d : Direction) (v : Value) : Gives (fun s : Scheme => s.direction = d) (schemeFor d v) := by
  unfold schemeFor
  split
  · split
    · exact .pure ‹_›
    · exact .throw _
  · exact .throw _

theorem gives_encryptWithScheme (v maxModules : Value) :
    Gives CryptoConfig.Accounted (encryptWithScheme v maxModules) :=
  .bind (gives_schemeFor .encrypt v) fun _ hs => .bind (.anything _) fun _ _ => .bind (.anything _) fun _ _ =>
    .pure (CryptoConfig.accounted_encrypting hs)

theorem gives_decryptWithScheme (v : Value) : Gives CryptoConfig.Accounted (decryptWithScheme v) :=
  .bind (gives_schemeFor .decrypt v) fun _ hs => .bind (.anything _) fun _ _ => .bind (.anything _) fun _ _ =>
    .pure (CryptoConfig.accounted_decrypting hs)

/-- A custom scheme has the direction it is given. -/
theorem gives_customScheme (kind values : Value) (d : Direction) :
    Gives (fun s : Scheme => s.direction = d) (customScheme kind (.direction d) values) := by
  cases kind with
  | text k =>
    simp only [customScheme]
    split
    · exact .bind (Q := fun _ => False) (.throw _) fun _ h => h.elim
    · exact .bind (.anything _) fun _ _ => .pure rfl
  | _ => exact .throw _

theorem gives_initEncryption (parameters decryptParameters : Value) :
    Gives CryptoConfig.Accounted (initEncryption parameters decryptParameters) := by
  refine .bind (.anything _) fun s _ => .bind (gives_encryptWithScheme _ _) fun c hc => ?_
  split
  · refine .bind (gives_customScheme _ _ _) fun t ht => .pure ⟨hc.encrypting.withDecryptConfig ?_, hc.decrypting⟩
    exact .ofSchemes (by simpa using ht)
  · exact .pure hc

theorem gives_bundle {b : Build CryptoConfig} (h : Gives CryptoConfig.Accounted b) :
    Gives Value.Accounted (Session.bundle b) := .bind h fun _ hc => .pure hc

theorem gives_construct (k : Constructor) (args : Session.Arguments) :
    Gives Value.Accounted (k.operation.build args) := by
  cases k with
  | encryptWithScheme => exact gives_bundle (gives_encryptWithScheme _ _)
  | decryptWithScheme => exact gives_bundle (gives_decryptWithScheme _)
  | initEncryption => exact gives_bundle (gives_initEncryption _ _)
  | encryptWithJwe | encryptWithPkcs7 | encryptWithGpg | encryptWithPkcs11 =>
    exact gives_bundle (.bind (.anything _) fun _ _ => gives_encryptWithScheme _ _)
  | decryptWithPrivateKeys | decryptWithX509s | decryptWithGpgPrivateKeys | decryptWithPkcs11 | initDecryption =>
    exact gives_bundle (.bind (.anything _) fun _ _ => gives_decryptWithScheme _)

/-! ## Sides from schemes -/

theorem mem_of_mapM_ok {ε α β : Type} {f : α → Except ε β} {l : List α} {bs : List β} (h : l.mapM f = .ok bs) :
    ∀ b ∈ bs, ∃ a ∈ l, f a = .ok b := by
  induction l generalizing bs with
  | nil =>
    cases h
    simp
  | cons a l ih =>
    rw [List.mapM_cons] at h
    cases ha : f a with
    | error e =>
      rw [ha] at h
      cases h
    | ok b =>
      cases hl : l.mapM f with
      | error e =>
        rw [ha, hl] at h
        cases h
      | ok cs =>
        rw [ha, hl] at h
        cases h
        intro x hx
        rcases List.mem_cons.mp hx with rfl | hx
        · exact ⟨a, List.mem_cons_self, ha⟩
        · obtain ⟨y, hy, hxy⟩ := ih hl x hx
          exact ⟨y, List.mem_cons_of_mem _ hy, hxy⟩

theorem gives_schemesFor (d : Direction) (vs : List Value) :
    Gives (fun ss : List Scheme => ∀ s ∈ ss, s.direction = d) (schemesFor d vs) := by
  unfold schemesFor
  split
  · rename_i ss h
    refine .pure fun s hs => ?_
    obtain ⟨v, -, hv⟩ := mem_of_mapM_ok h s hs
    split at hv
    · split at hv
      · cases hv
        assumption
      · cases hv
    · cases hv
  · exact .throw _

theorem gives_decryptFromSchemes (vs : List Value) : Gives Value.Accounted (decryptFromSchemes vs) :=
  .bind (gives_schemesFor .decrypt vs) fun _ hs => .pure (.ofSchemes hs)

theorem mapM_scheme? (ss : List Scheme) : (ss.map Value.scheme).mapM Value.scheme? = some ss := by
  induction ss with
  | nil => rfl
  | cons s ss ih =>
    rw [List.map_cons, List.mapM_cons, ih]
    rfl

theorem ofEncrypt_typed (p : ParameterSet) (d : DecryptConfig) (ss : List Scheme) :
    Value.ofEncrypt p (.decryptConfig d) (ss.map .scheme) = .encryptConfig ⟨p, d, ss⟩ := by
  unfold Value.ofEncrypt
  rw [mapM_scheme?]

theorem encryptFromSchemes_typed (vs : List Value) (d : Option DecryptConfig) :
    encryptFromSchemes vs (.ofOption .decryptConfig d) =
      (do return .encryptConfig (.ofSchemes (← schemesFor .encrypt vs) (d.getD .empty))) := by
  unfold encryptFromSchemes
  cases d <;>
    simp only [Value.ofOption, Value.truthy, Bool.false_eq_true, if_false, if_true, ofEncrypt_typed] <;> rfl

theorem gives_encryptFromSchemes (vs : List Value) {d : Option DecryptConfig} (hd : ∀ x, d = some x → x.Accounted) :
    Gives Value.Accounted (encryptFromSchemes vs (.ofOption .decryptConfig d)) := by
  rw [encryptFromSchemes_typed]
  refine .bind (gives_schemesFor .encrypt vs) fun ss hs => .pure ⟨.ofSchemes hs, ?_⟩
  cases d with
  | none => exact DecryptConfig.accounted_empty
  | some x => exact hd x rfl

/-- What is left out of a pair is empty. -/
theorem cryptoConfig_typed (e : Option EncryptConfig) (d : Option DecryptConfig) :
    Build.cryptoConfig (.ofOption .encryptConfig e) (.ofOption .decryptConfig d) =
      .cryptoConfig ⟨e.getD .empty, d.getD .empty⟩ := by
  cases e <;> cases d <;> rfl

/-! ## Merging -/

theorem merged_decryptConfig (a : DecryptConfig) (b : Option DecryptConfig) :
    merged (.decryptConfig a) (.ofOption .decryptConfig b) = pure (.decryptConfig (b.elim a a.merged)) := by
  cases b <;> rw [Build.merged.eq_def] <;> rfl

theorem merged_encryptConfig (a : EncryptConfig) (b : Option EncryptConfig) :
    merged (.encryptConfig a) (.ofOption .encryptConfig b) = pure (.encryptConfig (b.elim a a.merged)) := by
  cases b <;> rw [Build.merged.eq_def] <;> rfl

theorem withDecryptConfig_encryptConfig (a : EncryptConfig) (d : Option DecryptConfig) :
    withDecryptConfig (.encryptConfig a) (.ofOption .decryptConfig d) =
      pure (.encryptConfig (d.elim a a.withDecryptConfig)) := by
  cases d <;> rfl

theorem addBundle_typed (a b : CryptoConfig) :
    addBundle (.encryptConfig a.encryptConfig, .decryptConfig a.decryptConfig) (.cryptoConfig b) =
      pure (.encryptConfig (a.merged b).encryptConfig, .decryptConfig (a.merged b).decryptConfig) := by
  have he := merged_encryptConfig a.encryptConfig (some b.encryptConfig)
  have hd := merged_decryptConfig a.decryptConfig (some b.decryptConfig)
  simp only [Value.ofOption, Option.elim] at he hd
  simp only [addBundle, bundleOf?, he, hd]
  rfl

theorem gives_addBundles (seen : Nat → Build Unit) (n : Nat) {a : CryptoConfig} (ha : a.Accounted)
    {bs : List CryptoConfig} (hbs : ∀ b ∈ bs, b.Accounted) :
    Gives (fun sides : Value × Value => Value.Accounted (.ofCrypto sides.1 sides.2))
      (addBundles seen n (.encryptConfig a.encryptConfig, .decryptConfig a.decryptConfig) (bs.map .cryptoConfig)) := by
  induction bs generalizing n a with
  | nil => exact .bind (.anything _) fun _ _ => .pure ha
  | cons b bs ih =>
    obtain ⟨hb, hbs⟩ := List.forall_mem_cons.mp hbs
    rw [List.map_cons, addBundles, addBundle_typed]
    refine .bind (.anything _) fun _ _ => ?_
    exact ih _ ⟨ha.encrypting.merged hb.encrypting, ha.decrypting.merged hb.decrypting⟩ hbs

/-- What is still to come of bundles handed over in some form is the end of them. -/
theorem gives_peekItems? (form : Gathering) (vs : List Value) :
    Gives (fun items : Option (List Value) => ∃ n, items = some (vs.drop n)) (peekItems? (form.hold vs)) := by
  cases form with
  | tuple | list => exact .pure ⟨0, rfl⟩
  | stream id => exact .bind (.anything _) fun c _ => .pure ⟨drawnFrom c id, rfl⟩

theorem gives_combine (form : Gathering) {bs : List CryptoConfig} (hbs : ∀ b ∈ bs, b.Accounted) :
    Gives Value.Accounted (combine (form.hold (bs.map .cryptoConfig))) := by
  refine .bind (gives_peekItems? form _) fun items hi => ?_
  obtain ⟨n, rfl⟩ := hi
  have hrest : ∀ b ∈ bs.drop n, b.Accounted := fun b hb => hbs b (List.mem_of_mem_drop hb)
  have h0 : CryptoConfig.empty.Accounted := ⟨EncryptConfig.accounted_empty, DecryptConfig.accounted_empty⟩
  rw [← List.map_drop]
  refine .bind (.anything _) fun _ _ => ?_
  cases form with
  | tuple | list | stream =>
    exact .bind (gives_addBundles _ _ h0 hrest) fun sides h => .bind (.anything _) fun _ _ => .pure h

/-! ## One move, and all of them -/

def AllAccounted (made : Made) : Prop := ∀ v, .ok v ∈ made → v.Accounted

section

variable {α : Type} {kind? : Value → Option α} {P : α → Prop} {made : Made}

theorem mem_of_pieceAt? {i : Nat} {a : α} (h : pieceAt? kind? made i = some a) :
    ∃ v, .ok v ∈ made ∧ kind? v = some a := by
  unfold pieceAt? at h
  split at h
  · exact ⟨_, List.mem_of_getElem? ‹_›, h⟩
  · cases h

theorem gives_pieceAt (h : AllAccounted made) (hk : ∀ v a, v.Accounted → kind? v = some a → P a) (i : Nat) :
    Gives P (pieceAt kind? made i) := by
  unfold pieceAt
  split
  · obtain ⟨v, hv, ha⟩ := mem_of_pieceAt? ‹_›
    exact .pure (hk v _ (h v hv) ha)
  · exact .throw _

theorem gives_optionalAt (h : AllAccounted made) (hk : ∀ v a, v.Accounted → kind? v = some a → P a)
    (i : Option Nat) : Gives (fun a : Option α => ∀ x, a = some x → P x) (optionalAt kind? made i) := by
  cases i with
  | none => exact .pure fun x hx => nomatch hx
  | some i =>
    refine .bind (gives_pieceAt h hk i) fun a ha => .pure fun x hx => ?_
    cases hx
    exact ha

end

theorem accounted_of_decrypt? (v : Value) (c : DecryptConfig) (h : v.Accounted) (hc : decrypt? v = some c) :
    c.Accounted := by
  cases v <;> cases hc
  exact h

theorem accounted_of_encrypt? (v : Value) (c : EncryptConfig) (h : v.Accounted) (hc : encrypt? v = some c) :
    c.Accounted := by
  cases v <;> cases hc
  exact h

theorem accounted_of_crypto? (v : Value) (c : CryptoConfig) (h : v.Accounted) (hc : crypto? v = some c) :
    c.Accounted := by
  cases v <;> cases hc
  exact h

/-- Every move on pieces that are accounted for makes one that is. -/
theorem gives_build {made : Made} (h : AllAccounted made) (m : Move) : Gives Value.Accounted (m.build made) := by
  have decryptAt := gives_pieceAt h accounted_of_decrypt?
  have encryptAt := gives_pieceAt h accounted_of_encrypt?
  have cryptoAt := gives_pieceAt h accounted_of_crypto?
  have decryptMaybe := gives_optionalAt h accounted_of_decrypt?
  have encryptMaybe := gives_optionalAt h accounted_of_encrypt?
  cases m with
  | construct k args => exact gives_construct k args
  | decryptFromSchemes schemes => exact gives_decryptFromSchemes schemes
  | encryptFromSchemes schemes i => exact .bind (decryptMaybe i) fun d hd => gives_encryptFromSchemes schemes hd
  | encryptSide i => exact .bind (cryptoAt i) fun c hc => .pure hc.encrypting
  | decryptSide i => exact .bind (cryptoAt i) fun c hc => .pure hc.decrypting
  | embedded i => exact .bind (encryptAt i) fun c hc => .pure hc.embedded
  | pair i j =>
    refine .bind (encryptMaybe i) fun e he => .bind (decryptMaybe j) fun d hd => ?_
    rw [cryptoConfig_typed]
    refine .pure ⟨?_, ?_⟩
    · cases e with
      | none => exact EncryptConfig.accounted_empty
      | some e => exact he e rfl
    · cases d with
      | none => exact DecryptConfig.accounted_empty
      | some d => exact hd d rfl
  | mergeDecrypt i j =>
    refine .bind (decryptAt i) fun a ha => .bind (decryptMaybe j) fun b hb => ?_
    rw [merged_decryptConfig]
    cases b with
    | none => exact .pure ha
    | some b => exact .pure (ha.merged (hb b rfl))
  | mergeEncrypt i j =>
    refine .bind (encryptAt i) fun a ha => .bind (encryptMaybe j) fun b hb => ?_
    rw [merged_encryptConfig]
    cases b with
    | none => exact .pure ha
    | some b => exact .pure (ha.merged (hb b rfl))
  | withDecryptConfig i j =>
    refine .bind (encryptAt i) fun a ha => .bind (decryptMaybe j) fun d hd => ?_
    rw [withDecryptConfig_encryptConfig]
    cases d with
    | none => exact .pure ha
    | some d => exact .pure (ha.withDecryptConfig (hd d rfl))
  | combine form is => exact .bind (.mapM cryptoAt is) fun bs hbs => gives_combine form hbs

theorem take_accounted {b : Bench} (h : AllAccounted b.made) (m : Move) : AllAccounted (b.take m).made := by
  intro v hv
  rcases List.mem_append.mp hv with hv | hv
  · exact h v hv
  · exact gives_build h m b.context v _ (Prod.ext (List.mem_singleton.mp hv).symm rfl)

theorem foldl_accounted (ms : List Move) (b : Bench) (h : AllAccounted b.made) :
    AllAccounted (ms.foldl Bench.take b).made := by
  induction ms generalizing b with
  | nil => exact h
  | cons m ms ih => exact ih _ (take_accounted h m)

/-- Whatever moves have been made, in whatever order and from whatever start: each bundle and each side
    of one has in every slot the parameters of the schemes recorded there, merged from left to right,
    and records encrypting schemes on the encrypting side and decrypting ones in the other two slots. -/
theorem assemble_accounted {c : Context} {ms : List Move} {v : Value} (h : .ok v ∈ (assemble c ms).made) :
    v.Accounted := foldl_accounted ms _ (fun _ h => absurd h List.not_mem_nil) v h

/-- A bundle for public keys gets the material embedded that another bundle decrypts with; both and a
    pair of their sides are combined. -/
theorem assemble_accounted_combined :
    let keys : Move := .construct .encryptWithJwe [(0, .list 0 [.bytes [1], .view 3 1 [2]])]
    let raw : Move := .construct .initDecryption [(0, .table 1 [(.text "pins", .tuple [.bytes [3]]), (.text "x", .none)])]
    let moves := [keys, raw, .encryptSide 0, .decryptSide 1, .withDecryptConfig 2 (some 3), .mergeDecrypt 3 (some 3),
      .pair (some 4) (some 5), .combine (.stream 2) [0, 6, 1]]
    ∃ v, .ok v ∈ (assemble (.start [] .ofString) moves).made ∧
      (crypto? v).any (fun c => c.decryptConfig.schemes.length == 3) ∧ v.Accounted := by
  intro keys raw moves
  have made : (pieceAt? some (assemble (.start [] .ofString) moves).made 7).any
      (fun v => (crypto? v).any fun c => c.decryptConfig.schemes.length == 3) := by decide +kernel
  obtain ⟨v, hv, hc⟩ := (Option.any_eq_true _ _).mp made
  obtain ⟨w, hw, hwv⟩ := mem_of_pieceAt? hv
  cases hwv
  exact ⟨v, hw, hc, assemble_accounted hw⟩

end Assembly

end KeyBundle
