/-
  KeyBundle.Value.Basic — the values that a caller may hand in or get back.

  Plain data (numbers, text, bytes, sequences, mappings), the library's own types, and records of
  the library that hold something else than their type foresees. What can change in place or run
  dry carries an identity, and so does what shows where it lies: lists, mappings, byte buffers,
  windows on bytes, streams. Two values with one identity are one thing. Things of the caller's own
  may raise something when they are gone through or copied.
-/

import KeyBundle.Bundle
import KeyBundle.Fault

namespace KeyBundle

/-- A record of the library whose fields are not of their usual types. -/
inductive RecordKind where
  | decryptConfig
  | encryptConfig
  | cryptoConfig
  | loggingConfig
  /-- Settings are told apart by identity, and keep the identification of the text that their
  fields had when they were made. -/
  | settings (id : Nat) (hash : String)
  deriving DecidableEq

namespace RecordKind

def className : RecordKind → String
  | decryptConfig => "DecryptConfig"
  | encryptConfig => "EncryptConfig"
  | cryptoConfig => "CryptoConfig"
  | loggingConfig => "LoggingConfig"
  | settings .. => "LayerCryptConfig"

def fieldNames : RecordKind → List String
  | decryptConfig => ["parameters", "schemes"]
  | encryptConfig => ["parameters", "decrypt_config", "schemes"]
  | cryptoConfig => ["encrypt_config", "decrypt_config"]
  | loggingConfig => ["level", "enable_console", "log_dir", "enable_json"]
  | settings .. => ["limits", "logging"]

end RecordKind

inductive Value where
  | none
  | number (n : Number)
  | text (s : String)
  | bytes (b : Blob)
  /-- Bytes that can be changed in place. -/
  | buffer (id : Nat) (b : Blob)
  /-- A window on bytes, with items of so many bytes each. -/
  | view (id : Nat) (width : Nat) (b : Blob)
  /-- Bytes of a class of the caller's own, and what copying them raises. To what reads blobs, a
  window that has been released is one of these. -/
  | sealed (className : String) (b : Blob) (fault : Raised)
  | tuple (xs : List Value)
  | list (id : Nat) (xs : List Value)
  | table (id : Nat) (entries : List (Value × Value))
  /-- A set without order, of one item at most. -/
  | fixedSet (xs : List Value)
  /-- Items that can be gone through once. -/
  | stream (id : Nat) (items : List Value)
  /-- Items that a running function gives once, and what it raises after them. -/
  | generator (id : Nat) (name : String) (items : List Value) (fault : Raised)
  /-- A thing without any content. -/
  | object (id : Nat)
  /-- An error of the library, made but not reported. -/
  | error (id : Nat) (className : String) (args : List Value)
  | path (p : Path)
  | direction (d : Direction)
  | parameters (p : ParameterSet)
  | scheme (s : Scheme)
  | decryptConfig (c : DecryptConfig)
  | encryptConfig (c : EncryptConfig)
  | cryptoConfig (c : CryptoConfig)
  | limits (l : Limits)
  | logging (c : LoggingConfig)
  | settings (id : Nat) (s : Settings)
  /-- A logger, with the level from which on it makes records. -/
  | logger (name : String) (level : Int)
  /-- An operation of a thing, not applied yet. The owner is the identity of the thing. -/
  | method (owner : Nat) (receiver : Value) (name : String)
  | record (kind : RecordKind) (fields : List Value)

namespace Value

def bool (b : Bool) : Value := .number (.bool b)

def int (n : Int) : Value := .number (.int n)

/-- Blobs as a sequence of bytes. -/
def ofBlobs (bs : List Blob) : Value := .tuple (bs.map .bytes)

def ofOption {α : Type} (f : α → Value) : Option α → Value
  | .none => .none
  | some a => f a

/-- Data that is of no type of the library. -/
def isPlain : Value → Bool
  | none | number _ | text _ | bytes _ | buffer .. | view .. | sealed .. => true
  | tuple _ | list .. | table .. | fixedSet _ | stream .. | generator .. | object _ => true
  | _ => false

/-- The name of the logger above all loggers. -/
def rootLogger : String := "root"

/-- The name of the type, as error messages give it. -/
def typeName : Value → String
  | none => "NoneType"
  | number n => n.typeName
  | text _ => "str"
  | bytes _ => "bytes"
  | buffer .. => "bytearray"
  | view .. => "memoryview"
  | sealed className _ _ => className
  | tuple _ => "tuple"
  | list .. => "list"
  | table .. => "dict"
  | fixedSet _ => "frozenset"
  | stream .. => "list_iterator"
  | generator .. => "generator"
  | object _ => "object"
  | error _ className _ => className
  | path _ => "PosixPath"
  | direction _ => "Direction"
  | parameters _ => "ParameterSet"
  | scheme s => s.className
  | decryptConfig _ => "DecryptConfig"
  | encryptConfig _ => "EncryptConfig"
  | cryptoConfig _ => "CryptoConfig"
  | limits _ => "LimitsConfig"
  | logging _ => "LoggingConfig"
  | settings .. => "LayerCryptConfig"
  | logger name _ => if name == rootLogger then "RootLogger" else "Logger"
  | method _ receiver _ => if receiver.isPlain then "builtin_function_or_method" else "method"
  | record kind _ => kind.className

/-- Whether the value counts as yes: numbers other than zero, and whatever is not empty. -/
def truthy : Value → Bool
  | none => false
  | number n => n.truthy
  | text s => s != ""
  | bytes b | buffer _ b | view _ _ b | sealed _ b _ => !b.isEmpty
  | tuple xs | list _ xs | fixedSet xs => !xs.isEmpty
  | table _ es => !es.isEmpty
  | parameters p => !p.isEmpty
  | _ => true

/-- A copy of bytes in any of the three forms. -/
def blob? : Value → Option Blob
  | bytes b | buffer _ b | view _ _ b => some b
  | _ => .none

/-- The content of bytes, also of those that cannot be copied. -/
def content? : Value → Option Blob
  | sealed _ b _ => some b
  | v => v.blob?

/-- The identity of what can be told apart from its equals. -/
def identity? : Value → Option Nat
  | buffer id _ | view id .. | list id _ | table id _ | stream id _ | generator id .. => some id
  | object id | error id .. => some id
  | settings id _ | record (.settings id _) _ => some id
  | _ => .none

def scheme? : Value → Option Scheme
  | scheme s => some s
  | _ => .none

def bool? : Value → Option Bool
  | number (.bool b) => some b
  | _ => .none

/-- The numbers that a window with items of so many bytes shows, low byte first. -/
def windowItems : Nat → Blob → List Nat
  | 2, a :: b :: rest => (a.toNat + 256 * b.toNat) :: windowItems 2 rest
  | _, [] => []
  | 2, [_] => []
  | width, a :: rest => a.toNat :: windowItems width rest

/-- How many items the value has. -/
def length? : Value → Option Nat
  | text s => some s.length
  | bytes b | buffer _ b | sealed _ b _ => some b.length
  | view _ width b => some (windowItems width b).length
  | tuple xs | list _ xs | fixedSet xs => some xs.length
  | table _ es => some es.length
  | parameters p => some p.size
  | _ => .none

/-! ## Records -/

/-- A decrypting side, typed when every scheme is one. -/
def ofDecrypt (p : ParameterSet) (schemes : List Value) : Value :=
  match schemes.mapM scheme? with
  | some ss => decryptConfig ⟨p, ss⟩
  | .none => record .decryptConfig [parameters p, tuple schemes]

/-- An encrypting side, typed when its fields are of their usual types. -/
def ofEncrypt (p : ParameterSet) (embedded : Value) (schemes : List Value) : Value :=
  match embedded, schemes.mapM scheme? with
  | decryptConfig d, some ss => encryptConfig ⟨p, d, ss⟩
  | _, _ => record .encryptConfig [parameters p, embedded, tuple schemes]

def ofCrypto (e d : Value) : Value :=
  match e, d with
  | encryptConfig e, decryptConfig d => cryptoConfig ⟨e, d⟩
  | _, _ => record .cryptoConfig [e, d]

def ofLogging (level : String) (enableConsole : Value) (logDir : Option Path) (enableJson : Value) :
    Value :=
  match enableConsole.bool?, enableJson.bool? with
  | some console, some json => logging ⟨level, console, logDir, json⟩
  | _, _ => record .loggingConfig [text level, enableConsole, ofOption path logDir, enableJson]

/-- Settings; `hash` identifies them if their fields are not of the usual types. -/
def ofSettings (id : Nat) (hash : String) (l c : Value) : Value :=
  match l, c with
  | limits l, logging c => settings id ⟨l, c⟩
  | _, _ => record (.settings id hash) [l, c]

/-- The fields of a record of the library by name. -/
def fields : Value → List (String × Value)
  | decryptConfig c =>
    [("parameters", parameters c.parameters), ("schemes", tuple (c.schemes.map scheme))]
  | encryptConfig c =>
    [("parameters", parameters c.parameters), ("decrypt_config", decryptConfig c.decryptConfig),
      ("schemes", tuple (c.schemes.map scheme))]
  | cryptoConfig c =>
    [("encrypt_config", encryptConfig c.encryptConfig),
      ("decrypt_config", decryptConfig c.decryptConfig)]
  | limits l => [("max_pkcs11_encrypt_modules", number l.maxModules)]
  | logging c =>
    [("level", text c.level), ("enable_console", bool c.enableConsole),
      ("log_dir", ofOption path c.logDir), ("enable_json", bool c.enableJson)]
  | settings _ s => [("limits", limits s.limits), ("logging", logging s.logging)]
  | scheme s =>
    match s with
    | .jweRecipients pubkeys => [("pubkeys", ofBlobs pubkeys)]
    | .pkcs7Recipients x509s | .x509Certificates x509s => [("x509s", ofBlobs x509s)]
    | .gpgRecipients recipients pubkeyring =>
      [("recipients", ofBlobs recipients), ("pubkeyring", bytes pubkeyring)]
    | .pkcs11Recipients modules pins | .pkcs11Modules modules pins =>
      [("modules", ofBlobs modules), ("pins", ofBlobs pins)]
    | .privateKeys privkeys passwords | .gpgPrivateKeys privkeys passwords =>
      [("privkeys", ofBlobs privkeys), ("passwords", ofBlobs passwords)]
    | .custom kind d values =>
      [("kind", text kind), ("direction", direction d), ("values", parameters values)]
  | record kind fs => kind.fieldNames.zip fs
  | _ => []

end Value

end KeyBundle
