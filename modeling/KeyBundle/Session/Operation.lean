/-
  KeyBundle.Session.Operation — the operations of the library by name, applied to arbitrary
  values. An argument that is not given has its standard value.
-/

import KeyBundle.Build.Constructors
import KeyBundle.Build.Settings
import KeyBundle.Log.Setup
import KeyBundle.Session.Term

namespace KeyBundle.Session

inductive Operation where
  | validateBlob
  | validateBlobSequence
  | validatePairedLengths
  | validateParameterName
  | isSensitiveKey
  | parseBool
  | parameterSet
  | direction
  /-- The common base of all schemes, which is no scheme itself. -/
  | scheme
  | jweRecipients
  | pkcs7Recipients
  | gpgRecipients
  | pkcs11Recipients
  | privateKeys
  | x509Certificates
  | gpgPrivateKeys
  | pkcs11Modules
  | customScheme
  | customSchemeOf
  | decryptConfig
  | encryptConfig
  | cryptoConfig
  | decryptFromSchemes
  /-- With so many schemes; the embedded material comes after them. -/
  | encryptFromSchemes (schemes : Nat)
  | combine
  | encryptWithScheme
  | encryptWithJwe
  | encryptWithPkcs7
  | encryptWithGpg
  | encryptWithPkcs11
  | decryptWithScheme
  | decryptWithPrivateKeys
  | decryptWithX509s
  | decryptWithGpgPrivateKeys
  | decryptWithPkcs11
  | initEncryption
  | initDecryption
  | limits
  | logging
  | settings
  | loadSettings
  | sharedSettings
  | forgetSettings
  | secureLogger
  | configureLogging
  | logger
  /-- An error of the library as a value. -/
  | error (className : String)

/-- Arguments by their positions. -/
abbrev Arguments := List (Nat × Value)

/-- The argument at a position, or a standard value. -/
def Arguments.get (args : Arguments) (n : Nat) (standard : Value := .none) : Value :=
  (args.lookup n).getD standard

open Build

/-! ## Validation -/

/-- A check whose refusal is reported as such. -/
def asRejection {α : Type} (r : Except Fault α) : Build α := refused .rejection r

def lengthOf (v : Value) : Except Fault Nat :=
  match v.length? with
  | some n => .ok n
  | none => .error (.type (.noLength v.typeName))

def validatePairedLengths (first second firstName secondName : Value) : Build Value := do
  let m ← ofExcept (lengthOf first)
  let n ← ofExcept (lengthOf second)
  asRejection (checkPaired firstName.plain secondName.plain m n)
  return .none

def sensitiveKey (v : Value) : Except Fault Value :=
  match v with
  | .text s => .ok (.bool (KeyBundle.isSensitiveKey s))
  | .bytes _ | .buffer .. | .sealed .. => .error (.type (.needsBytes "str"))
  | v => .error (v.noAttribute "rsplit")

def readBool (v : Value) : Except Fault Value :=
  match v with
  | .text s => .ok (.bool (KeyBundle.parseBool s))
  | .bytes _ | .sealed .. => .ok (.bool false)
  | .buffer .. => .error (.type (.unhashable v.typeName))
  | v => .error (v.noAttribute "strip")

def readDirection (v : Value) : Except Fault Value :=
  let unknown := .error (.notMember v.shown "Direction")
  match v with
  | .direction _ => .ok v
  | .text s => (Direction.ofText? s).elim unknown fun d => .ok (.direction d)
  | _ => unknown

/-! ## Operations on values -/

def bundle (b : Build CryptoConfig) : Build Value := do return .cryptoConfig (← b)

def schemeValue (b : Build Scheme) : Build Value := do return .scheme (← b)

/-- No blobs. -/
def noBlobs : Value := .tuple []

/-- The operations that need no loggers. -/
def Operation.build (op : Operation) (args : Arguments) : Build Value :=
  let arg := fun n => args.get n
  let blobsAt := fun n => args.get n noBlobs
  match op with
  | validateBlob => do
    return .bytes (← asRejection (blob (args.get 1 (.text "value")).plain (arg 0)))
  | validateBlobSequence => do
    return .ofBlobs (← blobs .rejection (args.get 1 (.text "value")).plain (arg 0))
  | validatePairedLengths => Session.validatePairedLengths (arg 0) (arg 1) (arg 2) (arg 3)
  | validateParameterName => do return .text (← asRejection (name (arg 0))).val
  | isSensitiveKey => ofExcept (sensitiveKey (arg 0))
  | parseBool => ofExcept (readBool (arg 0))
  | direction => ofExcept (readDirection (arg 0))
  | parameterSet => do return .parameters (← Build.parameterSet (arg 0))
  | scheme => throw (.type .abstractScheme)
  | jweRecipients => schemeValue (Build.jweRecipients (blobsAt 0))
  | pkcs7Recipients => schemeValue (Build.pkcs7Recipients (blobsAt 0))
  | gpgRecipients => schemeValue (Build.gpgRecipients (blobsAt 0) (args.get 1 (.bytes [])))
  | pkcs11Recipients => schemeValue (Build.pkcs11Recipients (blobsAt 0) (blobsAt 1))
  | privateKeys => schemeValue (Build.privateKeys (blobsAt 0) (blobsAt 1))
  | x509Certificates => schemeValue (Build.x509Certificates (blobsAt 0))
  | gpgPrivateKeys => schemeValue (Build.gpgPrivateKeys (blobsAt 0) (blobsAt 1))
  | pkcs11Modules => schemeValue (Build.pkcs11Modules (blobsAt 0) (blobsAt 1))
  | customScheme =>
    schemeValue (Build.customScheme (arg 0) (arg 1) (args.get 2 (.parameters .empty)))
  | customSchemeOf => schemeValue (Build.customSchemeOf (arg 0) (arg 1) (arg 2))
  | decryptConfig => Build.decryptConfig (args.get 0 (.parameters .empty)) (args.get 1 noBlobs)
  | encryptConfig =>
    Build.encryptConfig (args.get 0 (.parameters .empty)) (arg 1) (args.get 2 noBlobs)
  | cryptoConfig => return Build.cryptoConfig (arg 0) (arg 1)
  | decryptFromSchemes => Build.decryptFromSchemes (args.map (·.2))
  | encryptFromSchemes n =>
    Build.encryptFromSchemes ((args.filter (·.1 < n)).map (·.2)) (arg n)
  | combine => Build.combine (arg 0)
  | encryptWithScheme => bundle (Build.encryptWithScheme (arg 0) (arg 1))
  | encryptWithJwe => bundle (Build.encryptWithJwe (arg 0))
  | encryptWithPkcs7 => bundle (Build.encryptWithPkcs7 (arg 0))
  | encryptWithGpg => bundle (Build.encryptWithGpg (arg 0) (arg 1))
  | encryptWithPkcs11 => bundle (Build.encryptWithPkcs11 (arg 0) (arg 1) (arg 2))
  | decryptWithScheme => bundle (Build.decryptWithScheme (arg 0))
  | decryptWithPrivateKeys => bundle (Build.decryptWithPrivateKeys (arg 0) (arg 1))
  | decryptWithX509s => bundle (Build.decryptWithX509s (arg 0))
  | decryptWithGpgPrivateKeys => bundle (Build.decryptWithGpgPrivateKeys (arg 0) (arg 1))
  | decryptWithPkcs11 => bundle (Build.decryptWithPkcs11 (arg 0) (arg 1))
  | initEncryption => bundle (Build.initEncryption (arg 0) (arg 1))
  | initDecryption => bundle (Build.initDecryption (arg 0))
  | limits => ofExcept (Build.limits (args.get 0 (.int Wire.defaultModuleLimit)))
  | logging =>
    let standard := LoggingConfig.default
    ofExcept (Build.logging (args.get 0 (.text standard.level)) (args.get 1 (.bool true)) (arg 2)
      (args.get 3 (.bool false)))
  | settings => Build.settings (arg 0) (arg 1)
  | loadSettings => Build.loadSettings (args.get 0 (.text standardPrefix))
  | sharedSettings => do
    let (id, s) ← Build.sharedSettings
    return .settings id s
  | forgetSettings => do
    Build.forgetSettings
    return .none
  | error className => return .error (← newId) className (args.map (·.2))
  | secureLogger | configureLogging | logger => return .none

end KeyBundle.Session
