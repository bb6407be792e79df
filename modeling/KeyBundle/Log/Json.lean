/-
  KeyBundle.Log.Json — values as JSON text in ASCII: everything beyond it is written by its
  UTF-16 units. Values that JSON does not have are written as their plain text.
-/

import KeyBundle.Fault
import KeyBundle.Value.Text

namespace KeyBundle.Log.Json

/-- A UTF-16 unit by number. -/
def unit (n : Nat) : List Char := '\\' :: 'u' :: Text.hexFixed 4 n

def escapeChar (c : Char) : List Char :=
  if c == '"' || c == '\\' then ['\\', c]
  else if c == '\n' then ['\\', 'n']
  else if c == '\r' then ['\\', 'r']
  else if c == '\t' then ['\\', 't']
  else if c == '\x08' then ['\\', 'b']
  else if c == '\x0c' then ['\\', 'f']
  else if 0x20 ≤ c.toNat && c.toNat < 0x7F then [c]
  else if c.toNat < 0x10000 then unit c.toNat
  else
    let n := c.toNat - 0x10000
    unit (0xD800 + n / 0x400) ++ unit (0xDC00 + n % 0x400)

/-- A text between quotes. -/
def textChars (s : List Char) : List Char := '"' :: s.flatMap escapeChar ++ ['"']

def text (s : String) : String := String.ofList (textChars s.toList)

/-- A number; floats that are none or not finite have names. -/
def number : Number → String
  | .bool true => "true"
  | .bool false => "false"
  | .int n => toString n
  | .float x _ =>
    match Binary.ofFloat x with
    | .nan => "NaN"
    | .infinite false => "Infinity"
    | .infinite true => "-Infinity"
    | .finite .. => Number.floatText x

/-- A key as text; numbers and nothing are written as they are elsewhere. -/
def key : Value → Except Fault String
  | .text s => .ok (text s)
  | .number n => .ok (text (number n))
  | .none => .ok (text "null")
  | v => .error (.log (.keyNotText v.typeName))

def array (items : List String) : String := "[" ++ Text.commaSeparated items ++ "]"

/-- Members of a mapping, each a key and a value already written. -/
def object (members : List (String × String)) : String :=
  "\x7b" ++ Text.commaSeparated (members.map fun m => m.1 ++ ": " ++ m.2) ++ "\x7d"

mutual

def value : Value → Except Fault String
  | .none => .ok "null"
  | .number n => .ok (number n)
  | .text s => .ok (text s)
  | .tuple xs => (items xs).map array
  | .list _ xs => (items xs).map array
  | .table _ es => (members es).map object
  | v => .ok (text v.plain)

def items : List Value → Except Fault (List String)
  | [] => .ok []
  | x :: xs => do
    let t ← value x
    let ts ← items xs
    return t :: ts

def members : List (Value × Value) → Except Fault (List (String × String))
  | [] => .ok []
  | (k, v) :: es => do
    let name ← key k
    let t ← value v
    let ts ← members es
    return (name, t) :: ts

end

end KeyBundle.Log.Json
