/-
  KeyBundle.Settings.Undecoded — settings whose directory is named by raw text, as a variable of the
  system may give it, and the text that identifies them.
-/

import KeyBundle.Settings.Basic
import KeyBundle.Text.CodePoint

namespace KeyBundle

open Text RawText

/-- A path made of raw text. -/
structure RawPath where
  root : PathRoot
  parts : List RawText
  deriving DecidableEq

namespace RawPath

def slash : CodePoint := .ofChar '/'

/-- Parts with slashes between them. -/
def joined (parts : List RawText) : RawText := [slash].intercalate parts

def text (p : RawPath) : RawText :=
  match p.root, p.parts with
  | .relative, [] => ofString "."
  | .scratch, part :: parts => joined (ofString PathRoot.scratch.text :: part :: parts)
  | root, parts => ofString root.text ++ joined parts

def isAbsolute (p : RawPath) : Bool := p.root != .relative

def ofPath (p : Path) : RawPath := ⟨p.root, p.parts.map ofString⟩

end RawPath

@[ext]
structure RawLogging where
  level : String
  enableConsole : Bool
  logDir : Option RawPath
  enableJson : Bool
  deriving DecidableEq

namespace RawLogging

/-- The shown form of a directory with this text. -/
def dirText : Option RawText → RawText
  | none => ofString "None"
  | some text => List.flatten [ofString "PosixPath(", RawText.quoted text, ofString ")"]

def shown (c : RawLogging) : RawText := List.flatten
  [ofString "LoggingConfig(level=", RawText.quoted (ofString c.level),
    ofString ", enable_console=", ofString (LoggingConfig.boolText c.enableConsole),
    ofString ", log_dir=", dirText (c.logDir.map RawPath.text),
    ofString ", enable_json=", ofString (LoggingConfig.boolText c.enableJson), ofString ")"]

def ofLogging (c : LoggingConfig) : RawLogging :=
  ⟨c.level, c.enableConsole, c.logDir.map .ofPath, c.enableJson⟩

end RawLogging

structure RawSettings where
  limits : Limits
  logging : RawLogging

namespace RawSettings

/-- The text that identifies settings. -/
def identity (s : RawSettings) : RawText := ofString (s.limits.shown ++ "|") ++ s.logging.shown

def ofSettings (s : Settings) : RawSettings := ⟨s.limits, .ofLogging s.logging⟩

end RawSettings

end KeyBundle
