/-
  KeyBundle.Build.Constructors — bundles from key material, one constructor per scheme.

  An encrypting constructor fills the encrypting side and leaves the other empty. A decrypting
  constructor fills the decrypting side and embeds the same material in the encrypting side.
  Pairs are enforced for private keys and for encryption modules, and only reported elsewhere.
  Every success gives one debug notice, which names the scheme and counts its blobs.
-/

import KeyBundle.Build.Bundles
import KeyBundle.Build.Schemes

namespace KeyBundle.Build

/-! ## Checks -/

/-- The levels of notices. -/
def debugLevel : Nat := 10

def warningLevel : Nat := 30

def requirePaired (first second : String) (xs ys : List Blob) : Build Unit :=
  refused badArgument (checkPaired first second xs.length ys.length)

/-- The number of modules allowed: the caller's, or that of the shared settings. -/
def moduleLimit (given : Value) : Build Number := do
  match given with
  | .none => return (← sharedSettings).2.limits.maxModules
  | .number n => if n.less (.int 1) then throw (.argument .limitBelowOne) else return n
  | v => throw (.type (.notOrdered "<" v.typeName "int"))

/-- Pins pair with modules, and there are between one and the allowed number of modules. -/
def checkEncrypting (s : Scheme) (given : Value) : Build Unit := do
  match s with
  | .pkcs11Recipients modules pins =>
    requirePaired "modules" "pins" modules pins
    let limit ← moduleLimit given
    if modules.isEmpty then throw (.support .noModule)
    if limit.less (.int modules.length) then
      throw (.support (.tooManyModules limit modules.length))
  | _ => return ()

/-- Reports two sequences of different lengths. -/
def warnUnpaired (s : Scheme) (first second : String) (xs ys : List Blob) : Build Unit := do
  if xs.length != ys.length then
    notify {
      level := warningLevel
      template := "%s decrypt config has %d %s but %d %s; pairing is not enforced"
      args := [.text s.kind, .int xs.length, .text first, .int ys.length, .text second]
      scheme := s.kind
      direction := s.direction }

def checkDecrypting (s : Scheme) : Build Unit :=
  match s with
  | .privateKeys privkeys passwords => requirePaired "privkeys" "passwords" privkeys passwords
  | .gpgPrivateKeys privkeys passwords => warnUnpaired s "privkeys" "passwords" privkeys passwords
  | .pkcs11Modules modules pins => warnUnpaired s "modules" "pins" modules pins
  | _ => return ()

/-! ## From schemes -/

/-- The notice about a finished bundle. -/
def builtNotice (s : Scheme) (p : ParameterSet) : Notice where
  level := debugLevel
  template := "Built " ++ s.direction.text ++ " config for %s: %r"
  args := [.text s.kind, .parameters p]
  scheme := s.kind
  direction := s.direction

/-- The value as a scheme of the wanted direction. -/
def schemeFor (wanted : Direction) (v : Value) : Build Scheme :=
  match v with
  | .scheme s =>
    if s.direction = wanted then return s
    else throw (.argument (.notForSide s.className wanted))
  | v => throw (.argument (.notForSide v.typeName wanted))

def encryptWithScheme (v maxModules : Value) : Build CryptoConfig := do
  let s ← schemeFor .encrypt v
  checkEncrypting s maxModules
  let c := CryptoConfig.encrypting s
  notify (builtNotice s c.encryptConfig.parameters)
  return c

def decryptWithScheme (v : Value) : Build CryptoConfig := do
  let s ← schemeFor .decrypt v
  checkDecrypting s
  let c := CryptoConfig.decrypting s
  notify (builtNotice s c.decryptConfig.parameters)
  return c

/-! ## From key material -/

def encryptWithJwe (pubkeys : Value) : Build CryptoConfig := do
  encryptWithScheme (.scheme (← jweRecipients pubkeys)) .none

def encryptWithPkcs7 (x509s : Value) : Build CryptoConfig := do
  encryptWithScheme (.scheme (← pkcs7Recipients x509s)) .none

def encryptWithGpg (recipients pubkeyring : Value) : Build CryptoConfig := do
  encryptWithScheme (.scheme (← gpgRecipients recipients pubkeyring)) .none

def encryptWithPkcs11 (modules pins maxModules : Value) : Build CryptoConfig := do
  encryptWithScheme (.scheme (← pkcs11Recipients modules pins)) maxModules

def decryptWithPrivateKeys (privkeys passwords : Value) : Build CryptoConfig := do
  decryptWithScheme (.scheme (← privateKeys privkeys passwords))

def decryptWithX509s (x509s : Value) : Build CryptoConfig := do
  decryptWithScheme (.scheme (← x509Certificates x509s))

def decryptWithGpgPrivateKeys (privkeys passwords : Value) : Build CryptoConfig := do
  decryptWithScheme (.scheme (← gpgPrivateKeys privkeys passwords))

def decryptWithPkcs11 (modules pins : Value) : Build CryptoConfig := do
  decryptWithScheme (.scheme (← pkcs11Modules modules pins))

/-! ## From parameters -/

/-- The label of bundles made from parameters as they are. -/
def rawKind : String := "parameters"

def rawScheme (d : Direction) (parameters : Value) : Build Scheme :=
  customScheme (.text rawKind) (.direction d) parameters

/-- Encryption with given parameters, and with material for data that is already encrypted. -/
def initEncryption (parameters decryptParameters : Value) : Build CryptoConfig := do
  let c ← encryptWithScheme (.scheme (← rawScheme .encrypt parameters)) .none
  if decryptParameters.truthy then
    let s ← rawScheme .decrypt decryptParameters
    return ⟨c.encryptConfig.withDecryptConfig (.ofSchemes [s]), c.decryptConfig⟩
  return c

def initDecryption (parameters : Value) : Build CryptoConfig := do
  decryptWithScheme (.scheme (← rawScheme .decrypt parameters))

end KeyBundle.Build
