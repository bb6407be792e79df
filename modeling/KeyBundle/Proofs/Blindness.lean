/-
  KeyBundle.Proofs.Blindness — nothing that is seen of an assembly depends on the content of a blob.

  Seen are the shown forms of what the moves make, the kinds and messages of the errors that they
  fail with, and the records of the log: level, message, scheme and direction. Every move
  mirrors itself on masks (`mirrors_build`), so masking the moves masks the bench that
  they end with (`masked_assemble`), and a bench and its mask are seen alike (`seen_masked`).

  So two assemblies whose moves differ in the content of blobs only are seen alike
  (`seen_eq_of_masked_eq`), whatever the constructors, their arguments and the later moves are,
  and also where moves fail.
-/

import KeyBundle.Proofs.Assembly
import KeyBundle.Proofs.Filling
import KeyBundle.Proofs.Mirroring
import KeyBundle.Session.Run

namespace KeyBundle

open Build

/-! ## Notices -/

theorem argsOf_sequence {xs : List Value} (h : ∀ v, xs ≠ [v]) : Log.argsOf xs = .sequence xs := by
  match xs with
  | [] => rfl
  | [v] => exact absurd rfl (h v)
  | _ :: _ :: _ => rfl

/-- The message of a notice is that of its mask. -/
theorem noticeText_masked (n : Notice) : Session.noticeText n.masked = Session.noticeText n := by
  unfold Session.noticeText Notice.masked
  split
  · rfl
  · rename_i h
    rw [argsOf_sequence h]
    show Template.fill n.template (Log.argsOf (n.args.map .masked)) = _
    rw [argsOf_sequence, Template.fill_masked]
    intro v hv
    obtain ⟨w, hw, -⟩ := List.map_eq_singleton_iff.mp hv
    exact h w hw

namespace Assembly

/-! ## Masks of moves -/

/-- How the argument at a position of a constructor is masked: a scheme, a mapping, a keyring, a sequence
    of blobs, or what holds no blobs. -/
def Constructor.maskAt : Constructor → Nat → Value → Value
  | encryptWithScheme, 0 | decryptWithScheme, 0 => Value.masked
  | initEncryption, 0 | initEncryption, 1 | initDecryption, 0 => maskMapping
  | encryptWithGpg, 1 => maskItem
  | encryptWithJwe, 0 | encryptWithPkcs7, 0 | encryptWithGpg, 0 | decryptWithX509s, 0 => maskSequence
  | encryptWithPkcs11, 0 | encryptWithPkcs11, 1 | decryptWithPkcs11, 0 | decryptWithPkcs11, 1 => maskSequence
  | decryptWithPrivateKeys, 0 | decryptWithPrivateKeys, 1 => maskSequence
  | decryptWithGpgPrivateKeys, 0 | decryptWithGpgPrivateKeys, 1 => maskSequence
  | _, _ => id

def Constructor.maskArgs (k : Constructor) (args : Session.Arguments) : Session.Arguments :=
  args.map fun a => (a.1, k.maskAt a.1 a.2)

/-- The move with every blob in its arguments masked. -/
def Move.masked : Move → Move
  | construct k args => construct k (k.maskArgs args)
  | decryptFromSchemes schemes => decryptFromSchemes (schemes.map .masked)
  | encryptFromSchemes schemes i => encryptFromSchemes (schemes.map .masked) i
  | m => m

def Made.masked (made : Made) : Made := made.map (Except.map .masked)

def Bench.masked (b : Bench) : Bench := ⟨b.context.masked, Made.masked b.made⟩

/-! ## Constructors -/

theorem maskAt_none (k : Constructor) (n : Nat) : k.maskAt n .none = .none := by
  unfold Constructor.maskAt
  split <;> rfl

theorem get_maskArgs (k : Constructor) (args : Session.Arguments) (n : Nat) :
    (k.maskArgs args).get n = k.maskAt n (args.get n) := by
  unfold Session.Arguments.get Constructor.maskArgs
  induction args with
  | nil => exact (maskAt_none k n).symm
  | cons a args ih =>
    obtain ⟨m, v⟩ := a
    by_cases h : n = m
    · subst h
      simp
    · simpa [List.lookup_cons, beq_false_of_ne h] using ih

theorem mirrors_bundle {b b' : Build CryptoConfig} (h : Mirrors CryptoConfig.masked b b') :
    Mirrors Value.masked (Session.bundle b) (Session.bundle b') := .bind h fun _ => .pure rfl

/-- A constructor makes of masked arguments the mask of what it makes of them. -/
theorem mirrors_construct (k : Constructor) (args : Session.Arguments) :
    Mirrors Value.masked (k.operation.build args) (k.operation.build (k.maskArgs args)) := by
  have encrypting (s : Scheme) (given : Value) := mirrors_encryptWithScheme (.scheme s) given
  have decrypting (s : Scheme) := mirrors_decryptWithScheme (.scheme s)
  cases k <;> simp only [Constructor.operation, Session.Operation.build, get_maskArgs, Constructor.maskAt] <;>
    refine mirrors_bundle ?_
  case encryptWithScheme => exact mirrors_encryptWithScheme _ _
  case encryptWithJwe => exact .bind (mirrors_jweRecipients _) fun s => encrypting s _
  case encryptWithPkcs7 => exact .bind (mirrors_pkcs7Recipients _) fun s => encrypting s _
  case encryptWithGpg => exact .bind (mirrors_gpgRecipients _ _) fun s => encrypting s _
  case encryptWithPkcs11 => exact .bind (mirrors_pkcs11Recipients _ _) fun s => encrypting s _
  case decryptWithScheme => exact mirrors_decryptWithScheme _
  case decryptWithPrivateKeys => exact .bind (mirrors_privateKeys _ _) decrypting
  case decryptWithX509s => exact .bind (mirrors_x509Certificates _) decrypting
  case decryptWithGpgPrivateKeys => exact .bind (mirrors_gpgPrivateKeys _ _) decrypting
  case decryptWithPkcs11 => exact .bind (mirrors_pkcs11Modules _ _) decrypting
  case initEncryption => exact mirrors_initEncryption _ _
  case initDecryption => exact mirrors_initDecryption _

/-! ## Sides from schemes -/

theorem mirrors_schemesFor (d : Direction) (vs : List Value) :
    Mirrors (List.map Scheme.masked) (schemesFor d vs) (schemesFor d (vs.map .masked)) := by
  have h : checkSchemes d (vs.map .masked) = (checkSchemes d vs).map (List.map Scheme.masked) := by
    refine mapM_map (fun v => ?_) vs
    cases v with
    | scheme s =>
      simp only [Value.masked, Scheme.direction_masked, Scheme.className_masked]
      split <;> rfl
    | _ => rfl
  unfold schemesFor
  rw [h]
  cases checkSchemes d vs with
  | error f => exact .throw _
  | ok ss => exact .pure rfl

theorem mirrors_decryptFromSchemes (vs : List Value) :
    Mirrors Value.masked (decryptFromSchemes vs) (decryptFromSchemes (vs.map .masked)) :=
  .bind (mirrors_schemesFor .decrypt vs) fun ss => .pure (by simp [Value.masked, DecryptConfig.masked_ofSchemes])

theorem mirrors_encryptFromSchemes (vs : List Value) (d : Option DecryptConfig) :
    Mirrors Value.masked (encryptFromSchemes vs (.ofOption .decryptConfig d))
      (encryptFromSchemes (vs.map .masked) (.ofOption .decryptConfig (d.map .masked))) := by
  rw [encryptFromSchemes_typed, encryptFromSchemes_typed]
  refine .bind (mirrors_schemesFor .encrypt vs) fun ss => .pure ?_
  cases d <;>
    simp [Value.masked, EncryptConfig.ofSchemes, EncryptConfig.masked, masked_parametersOf, DecryptConfig.masked,
      DecryptConfig.empty]

/-! ## Combining -/

theorem mirrors_addBundles {seen : Nat → Build Unit} (hseen : ∀ n, Mirrors id (seen n) (seen n)) (n : Nat)
    (a : CryptoConfig) (bs : List CryptoConfig) :
    Mirrors Value.masked
      (addBundles seen n (.encryptConfig a.encryptConfig, .decryptConfig a.decryptConfig) (bs.map .cryptoConfig) >>=
        fun sides => pure (.ofCrypto sides.1 sides.2))
      (addBundles seen n (.encryptConfig a.masked.encryptConfig, .decryptConfig a.masked.decryptConfig)
        ((bs.map .masked).map .cryptoConfig) >>= fun sides => pure (.ofCrypto sides.1 sides.2)) := by
  induction bs generalizing n a with
  | nil =>
    simp only [List.map_nil, addBundles, bind_assoc]
    exact .bind (hseen _) fun _ => .pure rfl
  | cons b bs ih =>
    simp only [List.map_cons, addBundles, bind_assoc, addBundle_typed, pure_bind]
    refine .bind (hseen _) fun _ => ?_
    rw [← CryptoConfig.masked_merged]
    exact ih _ _

theorem mirrors_combine (form : Gathering) (bs : List CryptoConfig) :
    Mirrors Value.masked (combine (form.hold (bs.map .cryptoConfig)))
      (combine (form.hold ((bs.map .masked).map .cryptoConfig))) := by
  cases form with
  | tuple | list => exact mirrors_addBundles (fun _ => .pure rfl) 0 .empty bs
  | stream key =>
    -- how far the stream has been read is told by the context, which both runs share
    intro c
    have hd : drawnFrom c.masked key = drawnFrom c key := rfl
    have unfolded (vs : List Value) (c' : Context) : exec (combine (.stream key vs)) c' =
        exec (addBundles (setDrawn key) (vs.length - (vs.drop (drawnFrom c' key)).length)
          (.encryptConfig .empty, .decryptConfig .empty) (vs.drop (drawnFrom c' key)) >>=
            fun sides => pure (.ofCrypto sides.1 sides.2)) c' := rfl
    simp only [Gathering.hold, unfolded, hd, List.length_drop, List.length_map, ← List.map_drop]
    exact mirrors_addBundles (fun _ => mirrors_setDrawn key rfl) _ .empty _ c

/-! ## Moves -/

section

variable {α : Type} {kind? : Value → Option α} {μ : α → α}

theorem mirrors_pieceAt (h : ∀ v, kind? v.masked = (kind? v).map μ) (made : Made) (i : Nat) :
    Mirrors μ (pieceAt kind? made i) (pieceAt kind? made.masked i) := by
  have hp : pieceAt? kind? made.masked i = (pieceAt? kind? made i).map μ := by
    unfold pieceAt? Made.masked
    rw [List.getElem?_map]
    rcases made[i]? with _ | _ | v
    · rfl
    · rfl
    · exact h v
  unfold pieceAt
  rw [hp]
  cases pieceAt? kind? made i with
  | none => exact .throw _
  | some a => exact .pure rfl

theorem mirrors_optionalAt (h : ∀ v, kind? v.masked = (kind? v).map μ) (made : Made) (i : Option Nat) :
    Mirrors (Option.map μ) (optionalAt kind? made i) (optionalAt kind? made.masked i) := by
  cases i with
  | none => exact .pure rfl
  | some i => exact .bind (mirrors_pieceAt h made i) fun _ => .pure rfl

end

theorem decrypt?_masked (v : Value) : decrypt? v.masked = (decrypt? v).map .masked := by cases v <;> rfl

theorem encrypt?_masked (v : Value) : encrypt? v.masked = (encrypt? v).map .masked := by cases v <;> rfl

theorem crypto?_masked (v : Value) : crypto? v.masked = (crypto? v).map .masked := by cases v <;> rfl

/-- A masked move on masked pieces makes the mask of what the move makes. -/
theorem mirrors_build (made : Made) (m : Move) : Mirrors Value.masked (m.build made) (m.masked.build made.masked) := by
  have decryptAt := mirrors_pieceAt decrypt?_masked made
  have encryptAt := mirrors_pieceAt encrypt?_masked made
  have cryptoAt := mirrors_pieceAt crypto?_masked made
  have decryptMaybe := mirrors_optionalAt decrypt?_masked made
  have encryptMaybe := mirrors_optionalAt encrypt?_masked made
  cases m with
  | construct k args => exact mirrors_construct k args
  | decryptFromSchemes schemes => exact mirrors_decryptFromSchemes schemes
  | encryptFromSchemes schemes i => exact .bind (decryptMaybe i) fun d => mirrors_encryptFromSchemes schemes d
  | encryptSide i => exact .bind (cryptoAt i) fun _ => .pure rfl
  | decryptSide i => exact .bind (cryptoAt i) fun _ => .pure rfl
  | embedded i => exact .bind (encryptAt i) fun _ => .pure rfl
  | pair i j =>
    refine .bind (encryptMaybe i) fun e => .bind (decryptMaybe j) fun d => ?_
    rw [cryptoConfig_typed, cryptoConfig_typed]
    cases e <;> cases d <;> exact .pure rfl
  | mergeDecrypt i j =>
    refine .bind (decryptAt i) fun a => .bind (decryptMaybe j) fun b => ?_
    rw [merged_decryptConfig, merged_decryptConfig]
    cases b with
    | none => exact .pure rfl
    | some b => exact .pure (congrArg Value.decryptConfig (DecryptConfig.masked_merged a b).symm)
  | mergeEncrypt i j =>
    refine .bind (encryptAt i) fun a => .bind (encryptMaybe j) fun b => ?_
    rw [merged_encryptConfig, merged_encryptConfig]
    cases b with
    | none => exact .pure rfl
    | some b => exact .pure (congrArg Value.encryptConfig (EncryptConfig.masked_merged a b).symm)
  | withDecryptConfig i j =>
    refine .bind (encryptAt i) fun a => .bind (decryptMaybe j) fun d => ?_
    rw [withDecryptConfig_encryptConfig, withDecryptConfig_encryptConfig]
    cases d with
    | none => exact .pure rfl
    | some d => exact .pure (congrArg Value.encryptConfig (EncryptConfig.masked_withDecryptConfig a d).symm)
  | combine form is => exact .bind (.mapM cryptoAt is) fun bs => mirrors_combine form bs

/-! ## Assemblies -/

theorem masked_take (b : Bench) (m : Move) : (b.take m).masked = b.masked.take m.masked := by
  have h := mirrors_build b.made m b.context
  simp only [Bench.take, Bench.masked, h]
  simp [Made.masked]

theorem masked_foldl (ms : List Move) (b : Bench) :
    (ms.foldl Bench.take b).masked = (ms.map .masked).foldl Bench.take b.masked := by
  induction ms generalizing b with
  | nil => rfl
  | cons m ms ih => rw [List.foldl_cons, ih, masked_take, List.map_cons, List.foldl_cons]

/-- Assembling from masks gives the masks of all that is assembled. -/
theorem masked_assemble (c : Context) (ms : List Move) :
    (assemble c ms).masked = assemble c.masked (ms.map .masked) := masked_foldl ms ⟨c, []⟩

/-! ## What is seen -/

/-- A result as it is seen: the shown form, or the kind and the message of the error. -/
def seenResult (r : Except Fault Value) : Except (String × String) String :=
  match r with
  | .ok v => .ok v.shown
  | .error f => .error (f.className, f.message)

/-- A record of the log as it is seen. -/
structure Seen where
  level : Nat
  message : Except TemplateFault String
  scheme : String
  direction : Direction

def seenNotice (n : Notice) : Seen := ⟨n.level, Session.noticeText n, n.scheme, n.direction⟩

/-- What is seen of an assembly: the result of each move, and the records of the log. -/
def Bench.seen (b : Bench) : List (Except (String × String) String) × List Seen :=
  (b.made.map seenResult, b.context.notices.map seenNotice)

theorem seen_masked (b : Bench) : b.masked.seen = b.seen := by
  have results (r : Except Fault Value) : seenResult (r.map .masked) = seenResult r := by
    cases r with
    | error f => rfl
    | ok v => exact congrArg Except.ok (Value.shown_masked v)
  have records (n : Notice) : seenNotice n.masked = seenNotice n := by
    unfold seenNotice
    rw [noticeText_masked]
    unfold Notice.masked
    split <;> rfl
  unfold Bench.seen Bench.masked Made.masked Context.masked
  simp only [List.map_map, Function.comp_def, results, records]

/-- Two assemblies from one start, whose moves have one mask: the same constructors and the same later
    moves, with arguments that differ in the content of blobs only. Move by move they fail alike or
    show alike, and they give the same records to the log. -/
theorem seen_eq_of_masked_eq {ms ns : List Move} (h : ms.map Move.masked = ns.map Move.masked) (c : Context) :
    (assemble c ms).seen = (assemble c ns).seen := by
  rw [← seen_masked, masked_assemble, h, ← masked_assemble, seen_masked]

/-- Private keys with passwords and a keyring, once with one content and once with another; a pair of
    different lengths is refused both times. -/
theorem seen_eq_of_masked_eq_keys :
    let moves (a b : Blob) : List Move := [
      .construct .decryptWithPrivateKeys [(0, .list 0 [.bytes a]), (1, .tuple [.buffer 1 b])],
      .construct .encryptWithGpg [(0, .tuple [.bytes b, .view 5 1 a]), (1, .bytes a)],
      .construct .decryptWithPkcs11 [(0, .tuple [.bytes a]), (1, .none)],
      .construct .encryptWithPkcs11 [(0, .tuple [.bytes a]), (1, .none)],
      .construct .initEncryption [(0, .table 2 [(.text "x", .list 3 [.bytes a])])],
      .combine (.list 4) [0, 1, 2, 4]]
    (moves [1, 2] [3]).map Move.masked = (moves [] [4, 5, 6]).map Move.masked ∧
      ∀ c, (assemble c (moves [1, 2] [3])).seen = (assemble c (moves [] [4, 5, 6])).seen := by
  intro moves
  have h : (moves [1, 2] [3]).map Move.masked = (moves [] [4, 5, 6]).map Move.masked := rfl
  exact ⟨h, seen_eq_of_masked_eq h⟩

end Assembly

end KeyBundle
