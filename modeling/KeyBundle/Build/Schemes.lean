/-
  KeyBundle.Build.Schemes — schemes from arbitrary values. Fields are read in their order; a
  scheme copies what it is given and checks nothing else than that it is blobs.
-/

import KeyBundle.Build.Blobs

namespace KeyBundle.Build

/-- A field of a scheme. -/
def field (name : String) (v : Value) : Build (List Blob) := blobs badArgument name v

def jweRecipients (pubkeys : Value) : Build Scheme :=
  return .jweRecipients (← field "pubkeys" pubkeys)

def pkcs7Recipients (x509s : Value) : Build Scheme :=
  return .pkcs7Recipients (← field "x509s" x509s)

/-- The keyring is one blob; nothing stands for an empty one. -/
def keyring : Value → Except Fault Blob
  | .none => .ok []
  | v => blob "pubkeyring" v

def gpgRecipients (recipients pubkeyring : Value) : Build Scheme := do
  let rs ← field "recipients" recipients
  let ring ← refused badArgument (keyring pubkeyring)
  return .gpgRecipients rs ring

/-- Two sequences, the first read first. -/
def twoFields (first second : String) (v w : Value) : Build (List Blob × List Blob) := do
  let xs ← field first v
  let ys ← field second w
  return (xs, ys)

def pkcs11Recipients (modules pins : Value) : Build Scheme := do
  let (ms, ps) ← twoFields "modules" "pins" modules pins
  return .pkcs11Recipients ms ps

def privateKeys (privkeys passwords : Value) : Build Scheme := do
  let (ks, ps) ← twoFields "privkeys" "passwords" privkeys passwords
  return .privateKeys ks ps

def x509Certificates (x509s : Value) : Build Scheme :=
  return .x509Certificates (← field "x509s" x509s)

def gpgPrivateKeys (privkeys passwords : Value) : Build Scheme := do
  let (ks, ps) ← twoFields "privkeys" "passwords" privkeys passwords
  return .gpgPrivateKeys ks ps

def pkcs11Modules (modules pins : Value) : Build Scheme := do
  let (ms, ps) ← twoFields "modules" "pins" modules pins
  return .pkcs11Modules ms ps

/-- A scheme with a label and parameters of the caller's own. -/
def customScheme (kind direction values : Value) : Build Scheme := do
  let .text k := kind | throw (.argument .kindEmpty)
  if k == "" then throw (.argument .kindEmpty)
  let .direction d := direction | throw (.argument (.notDirection direction.shown))
  return .custom k d (← asParameterSet values)

/-- The same from a plain mapping, which is read before anything else. -/
def customSchemeOf (kind direction values : Value) : Build Scheme := do
  let p ← parameterSet values
  customScheme kind direction (.parameters p)

end KeyBundle.Build
