/-
  KeyBundle.Settings.Basic — the settings of the library itself: how many hardware modules an
  encryption may use, and where and how log lines are written. Settings are identified by the
  first sixteen digits of the SHA-256 digest of their text.
-/

import KeyBundle.Digest
import KeyBundle.Number.Basic
import KeyBundle.Number.Literal
import KeyBundle.Path
import KeyBundle.Text.Case
import KeyBundle.Text.Layout
import KeyBundle.Wire

namespace KeyBundle

/-- Why settings are refused. -/
inductive SettingFault where
  | limitBelowOne
  | badLevel (level : String)
  | relativeLogDir (path : Path)
  | badLimit (fault : Number.LiteralFault)

def SettingFault.message : SettingFault → String
  | limitBelowOne => "max_pkcs11_encrypt_modules must be at least 1"
  | badLevel level => "Invalid log level: " ++ level
  | relativeLogDir path => "log_dir must be an absolute path: " ++ path.text
  | badLimit fault => fault.message

/-! ## Limits -/

structure Limits where
  maxModules : Number

namespace Limits

def default : Limits := ⟨.int Wire.defaultModuleLimit⟩

/-- A limit below one is refused. -/
def make (maxModules : Number) : Except SettingFault Limits :=
  if maxModules.less (.int 1) then .error .limitBelowOne else .ok ⟨maxModules⟩

def shown (l : Limits) : String :=
  Text.recordText "LimitsConfig" [("max_pkcs11_encrypt_modules", l.maxModules.text)]

end Limits

/-! ## Logging -/

structure LoggingConfig where
  level : String
  enableConsole : Bool
  logDir : Option Path
  enableJson : Bool
  deriving DecidableEq

/-- The five levels that settings may name. -/
def levelNames : List String := ["DEBUG", "INFO", "WARNING", "ERROR", "CRITICAL"]

/-- The level counts by its capital form and is kept as it was given. -/
def checkLevel (level : String) : Except SettingFault Unit :=
  if levelNames.contains (Text.upper level) then .ok () else .error (.badLevel level)

def checkLogDir : Option Path → Except SettingFault Unit
  | none => .ok ()
  | some path => if path.isAbsolute then .ok () else .error (.relativeLogDir path)

namespace LoggingConfig

def default : LoggingConfig := ⟨"WARNING", true, none, false⟩

def make (level : String) (enableConsole : Bool) (logDir : Option Path) (enableJson : Bool) :
    Except SettingFault LoggingConfig := do
  checkLevel level
  checkLogDir logDir
  return { level, enableConsole, logDir, enableJson }

def boolText (b : Bool) : String := if b then "True" else "False"

def pathText : Option Path → String
  | none => "None"
  | some path => "PosixPath(" ++ Text.quoted path.text ++ ")"

def shown (c : LoggingConfig) : String :=
  Text.recordText "LoggingConfig"
    [("level", Text.quoted c.level), ("enable_console", boolText c.enableConsole),
      ("log_dir", pathText c.logDir), ("enable_json", boolText c.enableJson)]

end LoggingConfig

/-! ## Both together -/

structure Settings where
  limits : Limits
  logging : LoggingConfig

namespace Settings

def default : Settings := ⟨.default, .default⟩

/-- The identification of a text of settings. -/
def identify (text : String) : String :=
  String.ofList ((Digest.sha256Hex text.toUTF8.toList).take 16)

/-- The text that identifies settings. -/
def identity (s : Settings) : String := s.limits.shown ++ "|" ++ s.logging.shown

def hash (s : Settings) : String := identify s.identity

/-- The shown form of settings with this identification and limit. -/
def shownWith (hash limit : String) : String :=
  "LayerCryptConfig(hash=" ++ hash ++ ", max_pkcs11_encrypt_modules=" ++ limit ++ ")"

def shown (s : Settings) : String := shownWith s.hash s.limits.maxModules.text

end Settings

end KeyBundle
