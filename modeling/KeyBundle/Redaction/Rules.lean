/-
  KeyBundle.Redaction.Rules — what counts as secret in a log text, and its redaction.

  Four rules find a keyword with its value (`pin=1234`, `password: "x"`), one a block between
  dashed BEGIN and END lines, two a long run of base64 or hexadecimal characters. The rules are
  applied one after the other, each to the result of the one before, and then the caller's own
  literal texts; what they find is replaced by a label.
-/

import KeyBundle.Redaction.Pattern

namespace KeyBundle.Redaction

open KeyBundle.Text

/-- A named pattern; the name goes into the label. -/
structure Rule where
  name : String
  pattern : Pattern

def mark : String := "[REDACTED]"

/-- The name, an equals sign and the mark. -/
def Rule.label (r : Rule) : List Char := (r.name ++ "=" ++ mark).toList

namespace Rule

/-- A character of a value: anything but blanks, quotes and commas. -/
def isValueChar (c : Char) : Bool := !(isBlank c || c == '"' || c == '\'' || c == ',')

/-- At most one quote. -/
def quote? : Pattern := .many "\"'".toList.contains 0 (some 1)

/-- The rest of an assignment: a sign between blanks, and a value that may stand in quotes. -/
def assigned : Pattern :=
  .seqs [.many isBlank 0 none, .oneOf "=:", .many isBlank 0 none, quote?,
    .many isValueChar 1 none, quote?]

def isBase64 (c : Char) : Bool := c.isAlphanum || c == '+' || c == '/'

def isHexDigit (c : Char) : Bool :=
  c.isDigit || ('a' ≤ c && c ≤ 'f') || ('A' ≤ c && c ≤ 'F')

/-- A character of the label in a dashed line. -/
def isBlockLabel (c : Char) : Bool := c.isUpper || c.isDigit || c == ' '

/-- A dashed line that opens with the given word. -/
def dashed (opening : String) : Pattern :=
  .seqs [.exactly ("-----" ++ opening ++ " ").toList, .many isBlockLabel 1 none,
    .exactly "-----".toList]

def password : Rule :=
  ⟨"password", .seq (.alts [.word "password", .word "passwd", .word "pwd"]) assigned⟩

def pin : Rule :=
  ⟨"pin", .seqs [.boundary, .word "pin", .opt (.word "s"), assigned]⟩

def token : Rule :=
  ⟨"token", .seq (.alts [.word "token", .word "bearer"]) assigned⟩

def secret : Rule :=
  ⟨"secret", .seq
    (.alt (.word "secret")
      (.seqs [.word "priv", .opt (.word "ate"), .opt (.oneOf "_-"), .word "key", .opt (.word "s")]))
    assigned⟩

/-- From an opening line to the nearest closing line, or to the end. -/
def block : Rule :=
  ⟨"pem", .seqs [dashed "BEGIN", .few fun _ => true, .alt (dashed "END") .atEnd]⟩

/-- Forty or more characters, with the padding that follows them. -/
def base64 : Rule :=
  ⟨"base64_secret", .seq (.many isBase64 40 none) (.many (· == '=') 0 (some 2))⟩

/-- Thirty-two or more digits, with the sign of base sixteen before them. -/
def hexadecimal : Rule :=
  ⟨"hex_secret", .seq (.opt (.word "0x")) (.many isHexDigit 32 none)⟩

/-- The rules in the order of their application. -/
def all : List Rule := [password, pin, token, secret, block, base64, hexadecimal]

end Rule

/-- One rule applied to a text. -/
def Rule.apply (text : List Char) (r : Rule) : List Char := r.pattern.replaceAll r.label text

/-- Every occurrence of a literal text replaced by the mark. The empty text occurs before every
character and at the end. -/
def hideLiteral (text literal : List Char) : List Char :=
  (Pattern.exactly literal).replaceAll mark.toList text

/-- All rules, then the literals. -/
def redactChars (literals : List (List Char)) (text : List Char) : List Char :=
  literals.foldl hideLiteral (Rule.all.foldl Rule.apply text)

def redact (literals : List String) (text : String) : String :=
  String.ofList (redactChars (literals.map (·.toList)) text.toList)

end KeyBundle.Redaction
