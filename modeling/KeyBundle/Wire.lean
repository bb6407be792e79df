/-
  KeyBundle.Wire — the parameter names that the encryption engine understands, and the built-in
  limit. The names are a contract with the engine.
-/

namespace KeyBundle.Wire

/-- Keys of envelope recipients. -/
def pubkeys : String := "pubkeys"

/-- Certificates, of recipients and for decryption alike. -/
def x509s : String := "x509s"

def gpgRecipients : String := "gpg-recipients"

def gpgKeyring : String := "gpg-pubkeyringfile"

def gpgPrivateKeys : String := "gpg-privatekeys"

def gpgPasswords : String := "gpg-privatekeys-passwords"

def privateKeys : String := "privkeys"

def privatePasswords : String := "privkeys-passwords"

def modules : String := "modules"

def pins : String := "pins"

/-- How many modules an encryption may use unless the settings say otherwise. -/
def defaultModuleLimit : Nat := 1

def version : String := "0.1.0"

/-- The published names of the engine's parameter names. -/
def published : List (String × String) := [
  ("PUBKEYS", pubkeys), ("X509S", x509s), ("GPG_RECIPIENTS", gpgRecipients),
  ("GPG_PUBKEYRING_FILE", gpgKeyring), ("GPG_PRIVATE_KEYS", gpgPrivateKeys),
  ("GPG_PRIVATE_KEYS_PASSWORDS", gpgPasswords), ("PRIVKEYS", privateKeys),
  ("PRIVKEYS_PASSWORDS", privatePasswords), ("PKCS11_MODULES", modules), ("PKCS11_PINS", pins)]

/-- The published name of the built-in limit. -/
def publishedLimit : String := "DEFAULT_MAX_PKCS11_ENCRYPT_MODULES"

end KeyBundle.Wire
