/-
  KeyBundle.Proofs.Announcing — the steps that every constructor goes through.

  A constructor makes a scheme of its arguments (`Call.scheming`), has it checked, gives notice of its bundle
  (`announce`), and is then done, except that it may still have more to embed (`Call.finish`).
  `Call.build_eq` says that this is all that any of them does, in this order. The notice is given only of
  what has passed its check (`exec_announce_ok`). Where a scheme has no limit to keep to, the check is passed
  by what is even and reports the pairs that need not be (`exec_checkScheme_ok`).
-/

import KeyBundle.Proofs.Pairing

namespace KeyBundle

open Build

theorem bind_congr_of_gives {ε σ α β : Type} {P : α → Prop} {b : ExceptT ε (StateM σ) α}
    {f g : α → ExceptT ε (StateM σ) β} (hb : Gives P b) (h : ∀ a, P a → f a = g a) : b >>= f = b >>= g := by
  refine funext fun s => ?_
  change exec (b >>= f) s = exec (b >>= g) s
  rcases hx : exec b s with ⟨e | a, t⟩
  · rw [exec_bind_error hx, exec_bind_error hx]
  · rw [exec_bind_ok hx, exec_bind_ok hx, h a (hb s a t hx)]

/-! ## Checking and giving notice -/

/-- A scheme is checked, and notice is given of its bundle. -/
def announce (s : Scheme) (limit : Value) : Build CryptoConfig := do
  checkScheme s limit
  notify (builtNotice s s.parameters)
  return .ofScheme s

def Context.noting (c : Context) (ns : List Notice) : Context := { c with notices := c.notices ++ ns }

theorem exec_announce_ok {s : Scheme} {limit : Value} {c c' : Context} (h : exec (checkScheme s limit) c = (.ok (), c')) :
    exec (announce s limit) c = (.ok (.ofScheme s), c'.noting [builtNotice s s.parameters]) := by
  rw [announce, exec_bind_ok h]
  rfl

theorem exec_announce_error {s : Scheme} {limit : Value} {c c' : Context} {f : Fault}
    (h : exec (checkScheme s limit) c = (.error f, c')) : exec (announce s limit) c = (.error f, c') :=
  exec_bind_error h _

theorem encryptWithScheme_eq (v limit : Value) :
    encryptWithScheme v limit = schemeFor .encrypt v >>= fun s => announce s limit := by
  refine bind_congr_of_gives (Assembly.gives_schemeFor .encrypt v) fun s hs => ?_
  simp only [announce, checkScheme, CryptoConfig.ofScheme, hs]
  simp only [CryptoConfig.encrypting, EncryptConfig.ofSchemes, parametersOf_singleton]

theorem decryptWithScheme_eq (v : Value) :
    decryptWithScheme v = schemeFor .decrypt v >>= fun s => announce s .none := by
  refine bind_congr_of_gives (Assembly.gives_schemeFor .decrypt v) fun s hs => ?_
  simp only [announce, checkScheme, CryptoConfig.ofScheme, hs]
  simp only [CryptoConfig.decrypting, DecryptConfig.ofSchemes, parametersOf_singleton]

theorem schemeFor_scheme {s : Scheme} {d : Direction} (h : s.direction = d) : schemeFor d (.scheme s) = pure s := by
  rw [schemeFor, if_pos h]

/-- Constructors that make a scheme for their side themselves. -/
theorem encryptWith_eq {b : Build Scheme} (h : Gives (fun s : Scheme => s.direction = .encrypt) b) (limit : Value) :
    (b >>= fun s => encryptWithScheme (.scheme s) limit) = b >>= fun s => announce s limit :=
  bind_congr_of_gives h fun s hs => by rw [encryptWithScheme_eq, schemeFor_scheme hs, pure_bind]

theorem decryptWith_eq {b : Build Scheme} (h : Gives (fun s : Scheme => s.direction = .decrypt) b) :
    (b >>= fun s => decryptWithScheme (.scheme s)) = b >>= fun s => announce s .none :=
  bind_congr_of_gives h fun s hs => by rw [decryptWithScheme_eq, schemeFor_scheme hs, pure_bind]

/-! ## What a check reports -/

/-- The warning about two sequences of different lengths. -/
def unevenNotice (s : Scheme) (first second : String) (xs ys : List Blob) : Notice where
  level := warningLevel
  template := "%s decrypt config has %d %s but %d %s; pairing is not enforced"
  args := [.text s.kind, .int xs.length, .text first, .int ys.length, .text second]
  scheme := s.kind
  direction := s.direction

namespace Scheme

/-- What is reported of a scheme whose pairs are not enforced. -/
def warnings : Scheme → List Notice
  | gpgPrivateKeys privkeys passwords =>
    if privkeys.length = passwords.length then []
    else [unevenNotice (gpgPrivateKeys privkeys passwords) "privkeys" "passwords" privkeys passwords]
  | pkcs11Modules modules pins =>
    if modules.length = pins.length then []
    else [unevenNotice (pkcs11Modules modules pins) "modules" "pins" modules pins]
  | _ => []

/-- There is a limit to what the scheme may have. -/
def isLimited : Scheme → Bool
  | pkcs11Recipients .. => true
  | _ => false

end Scheme

@[simp] theorem Context.noting_nil (c : Context) : c.noting [] = c := by
  rw [noting, List.append_nil]

theorem Context.noting_noting (c : Context) (ms ns : List Notice) : (c.noting ms).noting ns = c.noting (ms ++ ns) := by
  simp only [noting, List.append_assoc]

theorem exec_warnUnpaired (s : Scheme) (first second : String) (xs ys : List Blob) (c : Context) :
    exec (warnUnpaired s first second xs ys) c =
      (.ok (), c.noting (if xs.length = ys.length then [] else [unevenNotice s first second xs ys])) := by
  unfold warnUnpaired
  by_cases h : xs.length = ys.length
  · rw [if_pos h, if_neg (by simp [h]), Context.noting_nil]
    rfl
  · rw [if_neg h, if_pos (by simp [h])]
    rfl

theorem exec_requirePaired (first second : String) (xs ys : List Blob) (c : Context) :
    exec (requirePaired first second xs ys) c =
      (if xs.length = ys.length then .ok () else .error (badArgument (.lengthsDiffer first second xs.length ys.length)), c) := by
  unfold requirePaired checkPaired
  split <;> rfl

section

variable {s : Scheme} {limit : Value} {c : Context}

/-- Where there is no limit, the settings are not asked for. -/
theorem exec_checkScheme_ok (hs : s.isLimited = false) (even : s.Even) :
    exec (checkScheme s limit) c = (.ok (), c.noting s.warnings) := by
  have nothing : (Except.ok (), c) = ((.ok (), c.noting []) : Except Fault Unit × Context) := by rw [Context.noting_nil]
  cases s with
  | pkcs11Recipients => cases hs
  | privateKeys ks ps =>
    change ks.length = ps.length at even
    refine (exec_requirePaired _ _ ks ps c).trans ?_
    rw [if_pos even]
    exact nothing
  | gpgPrivateKeys | pkcs11Modules => exact exec_warnUnpaired _ _ _ _ _ c
  | custom kind d values => cases d <;> exact nothing
  | _ => exact nothing

theorem exec_checkScheme_error (hs : s.isLimited = false) (uneven : ¬s.Even) :
    ∃ r, exec (checkScheme s limit) c = (.error (badArgument r), c) := by
  cases s with
  | pkcs11Recipients => cases hs
  | privateKeys ks ps =>
    change ¬ks.length = ps.length at uneven
    exact ⟨_, (exec_requirePaired _ _ ks ps c).trans (by rw [if_neg uneven])⟩
  | _ => exact absurd trivial uneven

end

/-! ## Constructors -/

/-- Parameters as they are become the parameters of a scheme. -/
theorem rawScheme_eq (d : Direction) (v : Value) :
    rawScheme d v = do return .custom rawKind d (← asParameterSet v) := rfl

/-- The side of the schemes that a constructor makes. -/
def Assembly.Constructor.side : Assembly.Constructor → Direction
  | encryptWithScheme | encryptWithJwe | encryptWithPkcs7 | encryptWithGpg | encryptWithPkcs11 | initEncryption => .encrypt
  | decryptWithScheme | decryptWithPrivateKeys | decryptWithX509s | decryptWithGpgPrivateKeys | decryptWithPkcs11
  | initDecryption => .decrypt

namespace Call

/-- The scheme of a call, made of its arguments or among them. -/
def scheming (k : Call) : Build Scheme :=
  match k.kind with
  | .encryptWithScheme => schemeFor .encrypt (k.arg 0)
  | .encryptWithJwe => jweRecipients (k.arg 0)
  | .encryptWithPkcs7 => pkcs7Recipients (k.arg 0)
  | .encryptWithGpg => gpgRecipients (k.arg 0) (k.arg 1)
  | .encryptWithPkcs11 => pkcs11Recipients (k.arg 0) (k.arg 1)
  | .decryptWithScheme => schemeFor .decrypt (k.arg 0)
  | .decryptWithPrivateKeys => privateKeys (k.arg 0) (k.arg 1)
  | .decryptWithX509s => x509Certificates (k.arg 0)
  | .decryptWithGpgPrivateKeys => gpgPrivateKeys (k.arg 0) (k.arg 1)
  | .decryptWithPkcs11 => pkcs11Modules (k.arg 0) (k.arg 1)
  | .initEncryption => rawScheme .encrypt (k.arg 0)
  | .initDecryption => rawScheme .decrypt (k.arg 0)

/-- The limit that a call is given for modules to encrypt with. -/
def bound (k : Call) : Value :=
  match k.kind with
  | .encryptWithScheme => k.arg 1
  | .encryptWithPkcs11 => k.arg 2
  | _ => .none

/-- What is left to do with the bundle. -/
def finish (k : Call) (b : CryptoConfig) : Build CryptoConfig :=
  match k.kind with
  | .initEncryption =>
    if (k.arg 1).truthy then do
      let t ← rawScheme .decrypt (k.arg 1)
      return ⟨b.encryptConfig.withDecryptConfig (.ofSchemes [t]), b.decryptConfig⟩
    else return b
  | _ => return b

theorem gives_scheming (k : Call) : KeyBundle.Gives (fun s : Scheme => s.direction = k.kind.side) k.scheming := by
  obtain ⟨kind, args, context⟩ := k
  cases kind
  case encryptWithScheme | decryptWithScheme => exact Assembly.gives_schemeFor _ _
  case initEncryption => exact Assembly.gives_customScheme (.text rawKind) (args.get 0) .encrypt
  case initDecryption => exact Assembly.gives_customScheme (.text rawKind) (args.get 0) .decrypt
  case encryptWithGpg => exact .bind (.anything _) fun _ _ => .bind (.anything _) fun _ _ => .pure rfl
  all_goals exact .bind (.anything _) fun _ _ => .pure rfl

/-- A constructor makes a scheme, has it checked and announced, and finishes the bundle. -/
theorem build_eq (k : Call) : k.kind.operation.build k.args =
    Session.bundle (do
      let s ← k.scheming
      let b ← announce s k.bound
      k.finish b) := by
  have side := k.gives_scheming
  obtain ⟨kind, args, context⟩ := k
  cases kind <;> refine congrArg Session.bundle ?_ <;> simp only [finish, bind_pure]
  case encryptWithScheme => exact encryptWithScheme_eq _ _
  case decryptWithScheme => exact decryptWithScheme_eq _
  case encryptWithJwe | encryptWithPkcs7 | encryptWithGpg | encryptWithPkcs11 => exact encryptWith_eq side _
  case decryptWithPrivateKeys | decryptWithX509s | decryptWithGpgPrivateKeys | decryptWithPkcs11 | initDecryption =>
    exact decryptWith_eq side
  case initEncryption =>
    refine bind_congr_of_gives side fun s (hs : s.direction = .encrypt) => ?_
    rw [encryptWithScheme_eq, schemeFor_scheme hs, pure_bind]
    rfl

end Call

end KeyBundle
