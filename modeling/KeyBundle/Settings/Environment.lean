/-
  KeyBundle.Settings.Environment — settings from environment variables.

  A variable whose name starts with the capital form of a prefix and an underscore is an
  override; the rest of its name in small letters, with each double underscore read as a dot, is
  its key. Overrides whose last part has a sensitive word in it are passed over. Five keys are
  settings; the others have no effect.
-/

import KeyBundle.Settings.Basic
import KeyBundle.Text.Split

namespace KeyBundle

/-- Variables and their values, in the order in which they were set first. -/
abbrev Environment := List (String × String)

/-- A value under a name: in its old place, or at the end under a new name. -/
def Environment.set (env : Environment) (name value : String) : Environment :=
  if env.any (·.1 == name) then env.map fun v => if v.1 == name then (name, value) else v
  else env ++ [(name, value)]

def Environment.unset (env : Environment) (name : String) : Environment :=
  env.filter (·.1 != name)

def Environment.ofPairs (pairs : List (String × String)) : Environment :=
  pairs.foldl (fun env v => env.set v.1 v.2) []

/-! ## Keys -/

/-- The words that make a key sensitive. -/
def sensitiveWords : List String :=
  ["password", "passwd", "secret", "key", "token", "pin", "credential"]

/-- What follows the last dot. -/
def leafOf (key : String) : String :=
  String.ofList (((Text.pieces '.' key.toList).getLast?).getD [])

/-- A word between underscores of the last part of the key is sensitive. -/
def isSensitiveKey (key : String) : Bool :=
  (Text.pieces '_' (Text.lower (leafOf key)).toList).any fun part =>
    sensitiveWords.contains (String.ofList part)

/-- Each double underscore, from the left, as a dot. -/
def dotted : List Char → List Char
  | '_' :: '_' :: rest => '.' :: dotted rest
  | c :: rest => c :: dotted rest
  | [] => []

/-- The key of a variable name, if it starts as an override does. -/
def overrideKey? (opening name : String) : Option String :=
  if opening.toList.isPrefixOf name.toList then
    let rest := name.toList.drop opening.toList.length
    some (String.ofList (dotted (Text.lower (String.ofList rest)).toList))
  else none

/-- What the name of an override starts with. -/
def openingOf (pre : String) : String := Text.upper pre ++ "_"

/-- One variable taken into the overrides. -/
def addOverride (opening : String) (found : Environment) (entry : String × String) :
    Environment :=
  match overrideKey? opening entry.1 with
  | none => found
  | some key => if isSensitiveKey key then found else found.set key entry.2

/-- The overrides of an environment by their keys; of two with one key the later counts. -/
def overrides (env : Environment) (opening : String) : Environment :=
  env.foldl (addOverride opening) []

/-! ## Values -/

def trueWords : List String := ["1", "true", "yes", "on"]

/-- The texts that mean yes, in any case and with blanks around. -/
def parseBool (text : String) : Bool :=
  trueWords.contains (Text.lower (String.ofList (Text.trim text.toList)))

def limitKey : String := "limits.max_pkcs11_encrypt_modules"

def levelKey : String := "logging.level"

def consoleKey : String := "logging.enable_console"

def logDirKey : String := "logging.log_dir"

def jsonKey : String := "logging.enable_json"

def readLimit (text : String) : Except SettingFault Int :=
  match Number.readInt text with
  | .ok n => .ok n
  | .error fault => .error (.badLimit fault)

/-- How the text of a path is read. -/
abbrev PathReader := String → Path

/-- The settings that overrides describe. The text of the limit is read first; then the limit,
the level and the directory are checked in this order. -/
def Settings.ofOverrides (readPath : PathReader) (found : Environment) :
    Except SettingFault Settings := do
  let limit ← (found.lookup limitKey).mapM readLimit
  let limits ← limit.elim (pure Limits.default) fun n => Limits.make (.int n)
  let standard := LoggingConfig.default
  let logging ← LoggingConfig.make
    ((found.lookup levelKey).elim standard.level Text.upper)
    ((found.lookup consoleKey).elim standard.enableConsole parseBool)
    ((found.lookup logDirKey).elim standard.logDir fun text => some (readPath text))
    ((found.lookup jsonKey).elim standard.enableJson parseBool)
  return ⟨limits, logging⟩

/-- The prefix of the library's own variables. -/
def standardPrefix : String := "LAYERCRYPT"

/-- The settings that an environment describes under a prefix. -/
def Settings.load (readPath : PathReader) (env : Environment) (pre : String) :
    Except SettingFault Settings :=
  Settings.ofOverrides readPath (overrides env (openingOf pre))

end KeyBundle
