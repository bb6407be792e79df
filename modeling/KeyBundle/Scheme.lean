/-
  KeyBundle.Scheme — the ways to manage keys. Each scheme knows whether it encrypts or decrypts
  and writes itself as the parameters that the encryption engine understands.
-/

import KeyBundle.ParameterSet
import KeyBundle.Wire

namespace KeyBundle

/-- Which side of a bundle a scheme fills. -/
inductive Direction where
  | encrypt
  | decrypt
  deriving DecidableEq, Hashable

namespace Direction

def text : Direction → String
  | encrypt => "encrypt"
  | decrypt => "decrypt"

/-- The name of the direction as a constant. -/
def label : Direction → String
  | encrypt => "ENCRYPT"
  | decrypt => "DECRYPT"

def ofText? (s : String) : Option Direction :=
  if s = "encrypt" then some encrypt else if s = "decrypt" then some decrypt else none

end Direction

inductive Scheme where
  /-- Encryption for the holders of public keys. -/
  | jweRecipients (pubkeys : List Blob)
  /-- Encryption for the holders of certificates. -/
  | pkcs7Recipients (x509s : List Blob)
  /-- Encryption for recipients whose keys are in a keyring. -/
  | gpgRecipients (recipients : List Blob) (pubkeyring : Blob)
  /-- Encryption through hardware modules; each pin unlocks the module at its position. -/
  | pkcs11Recipients (modules pins : List Blob)
  /-- Decryption with private keys; each password unlocks the key at its position. -/
  | privateKeys (privkeys passwords : List Blob)
  /-- Certificates that go with private keys. -/
  | x509Certificates (x509s : List Blob)
  /-- Decryption with the private keys of a keyring and their passwords. -/
  | gpgPrivateKeys (privkeys passwords : List Blob)
  /-- Decryption through hardware modules and their pins. -/
  | pkcs11Modules (modules pins : List Blob)
  /-- Parameters that no other scheme covers. -/
  | custom (kind : String) (direction : Direction) (values : ParameterSet)

namespace Scheme

def className : Scheme → String
  | jweRecipients .. => "JweRecipients"
  | pkcs7Recipients .. => "Pkcs7Recipients"
  | gpgRecipients .. => "GpgRecipients"
  | pkcs11Recipients .. => "Pkcs11Recipients"
  | privateKeys .. => "PrivateKeys"
  | x509Certificates .. => "X509Certificates"
  | gpgPrivateKeys .. => "GpgPrivateKeys"
  | pkcs11Modules .. => "Pkcs11Modules"
  | custom .. => "CustomScheme"

/-- The label used in logs. -/
def kind : Scheme → String
  | jweRecipients .. => "jwe"
  | pkcs7Recipients .. => "pkcs7"
  | gpgRecipients .. => "gpg"
  | pkcs11Recipients .. => "pkcs11"
  | privateKeys .. => "privkeys"
  | x509Certificates .. => "x509"
  | gpgPrivateKeys .. => "gpg-privkeys"
  | pkcs11Modules .. => "pkcs11"
  | custom kind _ _ => kind

def direction : Scheme → Direction
  | jweRecipients .. | pkcs7Recipients .. | gpgRecipients .. | pkcs11Recipients .. => .encrypt
  | privateKeys .. | x509Certificates .. | gpgPrivateKeys .. | pkcs11Modules .. => .decrypt
  | custom _ direction _ => direction

/-- Blobs under one name. -/
def single (name : String) (h : isName name = true) (blobs : List Blob) : ParameterSet :=
  ParameterSet.empty.put name h blobs

/-- Blobs under two names. -/
def pair (first : String) (h : isName first = true) (xs : List Blob)
    (second : String) (k : isName second = true) (ys : List Blob) : ParameterSet :=
  (single first h xs).put second k ys

/-- The parameters for the engine. -/
def parameters : Scheme → ParameterSet
  | jweRecipients pubkeys => single Wire.pubkeys (by decide) pubkeys
  | pkcs7Recipients x509s => single Wire.x509s (by decide) x509s
  | gpgRecipients recipients pubkeyring =>
    pair Wire.gpgRecipients (by decide) recipients Wire.gpgKeyring (by decide) [pubkeyring]
  | pkcs11Recipients modules pins =>
    pair Wire.modules (by decide) modules Wire.pins (by decide) pins
  | privateKeys privkeys passwords =>
    pair Wire.privateKeys (by decide) privkeys Wire.privatePasswords (by decide) passwords
  | x509Certificates x509s => single Wire.x509s (by decide) x509s
  | gpgPrivateKeys privkeys passwords =>
    pair Wire.gpgPrivateKeys (by decide) privkeys Wire.gpgPasswords (by decide) passwords
  | pkcs11Modules modules pins =>
    pair Wire.modules (by decide) modules Wire.pins (by decide) pins
  | custom _ _ values => values

def shown (s : Scheme) : String := s.className ++ "(" ++ s.parameters.shown ++ ")"

/-- The same scheme with the same fields; custom parameters in whatever order. -/
def same : Scheme → Scheme → Bool
  | jweRecipients a, jweRecipients b => a == b
  | pkcs7Recipients a, pkcs7Recipients b => a == b
  | gpgRecipients a r, gpgRecipients b s => a == b && r == s
  | pkcs11Recipients a r, pkcs11Recipients b s => a == b && r == s
  | privateKeys a r, privateKeys b s => a == b && r == s
  | x509Certificates a, x509Certificates b => a == b
  | gpgPrivateKeys a r, gpgPrivateKeys b s => a == b && r == s
  | pkcs11Modules a r, pkcs11Modules b s => a == b && r == s
  | custom k d p, custom l e q => k == l && d == e && p.same q
  | _, _ => false

/-- A number that equal schemes share. -/
def digest : Scheme → UInt64
  | jweRecipients a | pkcs7Recipients a | x509Certificates a => hash a
  | gpgRecipients a r => mixHash (hash a) (hash r)
  | pkcs11Recipients a r | privateKeys a r | gpgPrivateKeys a r | pkcs11Modules a r =>
    mixHash (hash a) (hash r)
  | custom k d p => mixHash (mixHash (hash k) (hash d)) p.digest

end Scheme

end KeyBundle
