/-
  KeyBundle.Value.Refusal — how values refuse what they do not have: an attribute, or a shown form.
-/

import KeyBundle.Fault
import KeyBundle.Value.Text

namespace KeyBundle.Value

/-- The type whose attributes an operation of a thing of the library has: that of the function
behind it. -/
def operationType : String := "function"

/-- The type whose attributes a value has. -/
def attributeType : Value → String
  | v@(method _ receiver _) => if receiver.isPlain then v.typeName else operationType
  | v => v.typeName

def noAttribute (v : Value) (name : String) : Fault := .noAttribute v.attributeType name

/-- A value that has a shown form. -/
def checkShown (v : Value) : Except Fault Unit :=
  match v.looseLimits? with
  | some l => .error (l.noAttribute "max_pkcs11_encrypt_modules")
  | .none => .ok ()

end KeyBundle.Value
