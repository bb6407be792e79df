/-
  KeyBundle.Bundle — the configuration handed to the encryption engine: what to encrypt for and
  what to decrypt with. The encrypting side embeds decryption material of its own, for adding
  recipients to data that is already encrypted. Both sides are always there; one that holds
  neither schemes nor parameters counts as not configured.
-/

import KeyBundle.Scheme

namespace KeyBundle

/-- The parameters of all schemes, merged in order. -/
def parametersOf (schemes : List Scheme) : ParameterSet :=
  schemes.foldl (fun p s => p.merged s.parameters) .empty

/-! ## What to decrypt with -/

structure DecryptConfig where
  parameters : ParameterSet
  /-- The schemes that gave the parameters, in order. -/
  schemes : List Scheme

namespace DecryptConfig

def empty : DecryptConfig := ⟨.empty, []⟩

def ofSchemes (schemes : List Scheme) : DecryptConfig := ⟨parametersOf schemes, schemes⟩

def isConfigured (c : DecryptConfig) : Bool := !c.schemes.isEmpty || !c.parameters.isEmpty

def merged (a b : DecryptConfig) : DecryptConfig :=
  ⟨a.parameters.merged b.parameters, a.schemes ++ b.schemes⟩

def shown (c : DecryptConfig) : String :=
  Text.recordText "DecryptConfig"
    [("parameters", c.parameters.shown), ("schemes", Text.tupleText (c.schemes.map (·.shown)))]

end DecryptConfig

/-- The same schemes in the same order. -/
def sameSchemes (a b : List Scheme) : Bool :=
  a.length == b.length && (a.zip b).all fun p => p.1.same p.2

def digestSchemes (a : List Scheme) : UInt64 := a.foldl (fun h s => mixHash h s.digest) 7

def DecryptConfig.same (a b : DecryptConfig) : Bool :=
  a.parameters.same b.parameters && sameSchemes a.schemes b.schemes

def DecryptConfig.digest (a : DecryptConfig) : UInt64 :=
  mixHash a.parameters.digest (digestSchemes a.schemes)

/-! ## What to encrypt for -/

structure EncryptConfig where
  parameters : ParameterSet
  /-- Material for data that is already encrypted. -/
  decryptConfig : DecryptConfig
  schemes : List Scheme

namespace EncryptConfig

def empty : EncryptConfig := ⟨.empty, .empty, []⟩

def ofSchemes (schemes : List Scheme) (decryptConfig : DecryptConfig) : EncryptConfig :=
  ⟨parametersOf schemes, decryptConfig, schemes⟩

def isConfigured (c : EncryptConfig) : Bool := !c.schemes.isEmpty || !c.parameters.isEmpty

def merged (a b : EncryptConfig) : EncryptConfig :=
  ⟨a.parameters.merged b.parameters, a.decryptConfig.merged b.decryptConfig,
    a.schemes ++ b.schemes⟩

/-- The same configuration with more embedded decryption material. -/
def withDecryptConfig (a : EncryptConfig) (d : DecryptConfig) : EncryptConfig :=
  { a with decryptConfig := a.decryptConfig.merged d }

def shown (c : EncryptConfig) : String :=
  Text.recordText "EncryptConfig"
    [("parameters", c.parameters.shown), ("decrypt_config", c.decryptConfig.shown),
      ("schemes", Text.tupleText (c.schemes.map (·.shown)))]

def same (a b : EncryptConfig) : Bool :=
  a.parameters.same b.parameters && a.decryptConfig.same b.decryptConfig
    && sameSchemes a.schemes b.schemes

def digest (a : EncryptConfig) : UInt64 :=
  mixHash (mixHash a.parameters.digest a.decryptConfig.digest) (digestSchemes a.schemes)

end EncryptConfig

/-! ## Both sides -/

structure CryptoConfig where
  encryptConfig : EncryptConfig
  decryptConfig : DecryptConfig

namespace CryptoConfig

def empty : CryptoConfig := ⟨.empty, .empty⟩

/-- The encrypting side, if something configured it. -/
def encryption (c : CryptoConfig) : Option EncryptConfig :=
  if c.encryptConfig.isConfigured then some c.encryptConfig else none

/-- The decrypting side, if something configured it. -/
def decryption (c : CryptoConfig) : Option DecryptConfig :=
  if c.decryptConfig.isConfigured then some c.decryptConfig else none

def isEmpty (c : CryptoConfig) : Bool := c.encryption.isNone && c.decryption.isNone

/-- Slot by slot: encrypting side, the material embedded there, decrypting side. -/
def merged (a b : CryptoConfig) : CryptoConfig :=
  ⟨a.encryptConfig.merged b.encryptConfig, a.decryptConfig.merged b.decryptConfig⟩

/-- All bundles in one. -/
def combine (bundles : List CryptoConfig) : CryptoConfig := bundles.foldl merged empty

/-- A bundle that encrypts with one scheme. -/
def encrypting (s : Scheme) : CryptoConfig := ⟨.ofSchemes [s] .empty, .empty⟩

/-- A bundle that decrypts with one scheme; it embeds the same material on the encrypting side. -/
def decrypting (s : Scheme) : CryptoConfig :=
  let d := DecryptConfig.ofSchemes [s]
  ⟨⟨.empty, d, []⟩, d⟩

def shown (c : CryptoConfig) : String :=
  Text.recordText "CryptoConfig"
    [("encrypt_config", c.encryptConfig.shown), ("decrypt_config", c.decryptConfig.shown)]

def same (a b : CryptoConfig) : Bool :=
  a.encryptConfig.same b.encryptConfig && a.decryptConfig.same b.decryptConfig

def digest (a : CryptoConfig) : UInt64 := mixHash a.encryptConfig.digest a.decryptConfig.digest

end CryptoConfig

end KeyBundle
