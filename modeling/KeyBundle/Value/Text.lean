/-
  KeyBundle.Value.Text — the shown form of values, as it stands inside other values, and their
  plain text. The two differ for text, paths, directions and errors only.
-/

import KeyBundle.Log.Level
import KeyBundle.Value.Basic

namespace KeyBundle.Value

/-- The text of the limit in settings. -/
def limitText : Value → String
  | limits l => l.maxModules.text
  | _ => ""

/-- The full name of an operation of a value. -/
def operationName (receiver : Value) (name : String) : String :=
  match receiver with
  | parameters _ =>
    let ofMappings := ["keys", "items", "values", "get"]
    (if ofMappings.contains name then "Mapping" else "ParameterSet") ++ "." ++ name
  | v => v.typeName ++ "." ++ name

mutual

def shown : Value → String
  | none => "None"
  | number n => n.text
  | text s => Text.quoted s
  | bytes b | sealed _ b _ => Text.quotedBytes b
  | buffer _ b => Text.bufferText b
  | view id _ _ => "<memory at " ++ Text.address id ++ ">"
  | tuple xs => Text.tupleText (shownItems xs)
  | list _ xs => "[" ++ Text.commaSeparated (shownItems xs) ++ "]"
  | table _ es => "\x7b" ++ Text.commaSeparated (shownEntries es) ++ "\x7d"
  | fixedSet [] => "frozenset()"
  | fixedSet xs => "frozenset(\x7b" ++ Text.commaSeparated (shownItems xs) ++ "\x7d)"
  | stream id _ => "<list_iterator object at " ++ Text.address id ++ ">"
  | generator id name _ _ => "<generator object " ++ name ++ " at " ++ Text.address id ++ ">"
  | object id => "<object object at " ++ Text.address id ++ ">"
  | error _ className [x] => className ++ "(" ++ shown x ++ ")"
  | error _ className args => className ++ Text.tupleText (shownItems args)
  | path p => "PosixPath(" ++ Text.quoted p.text ++ ")"
  | direction d => "<Direction." ++ d.label ++ ": " ++ Text.quoted d.text ++ ">"
  | parameters p => p.shown
  | scheme s => s.shown
  | decryptConfig c => c.shown
  | encryptConfig c => c.shown
  | cryptoConfig c => c.shown
  | limits l => l.shown
  | logging c => c.shown
  | settings _ s => s.shown
  | logger name level =>
    "<" ++ (logger name level).typeName ++ " " ++ name ++ " (" ++ Log.levelName level ++ ")>"
  | method owner receiver name =>
    if receiver.isPlain then
      "<built-in method " ++ name ++ " of " ++ receiver.typeName ++ " object at "
        ++ Text.address owner ++ ">"
    else "<bound method " ++ operationName receiver name ++ " of " ++ shown receiver ++ ">"
  | record (.settings _ hash) [l, _] => Settings.shownWith hash (limitText l)
  | record kind fs => Text.recordText kind.className (kind.fieldNames.zip (shownItems fs))

def shownItems : List Value → List String
  | [] => []
  | x :: xs => shown x :: shownItems xs

def shownEntries : List (Value × Value) → List String
  | [] => []
  | (k, v) :: es => (shown k ++ ": " ++ shown v) :: shownEntries es

end

mutual

/-- What settings within the value hold in the place of limits. A value with such settings has no
shown form, because settings show their limit; the first one that its text would come to counts. -/
def looseLimits? : Value → Option Value
  | tuple xs | list _ xs | fixedSet xs | error _ _ xs => looseLimitsIn? xs
  | table _ es => looseLimitsAmong? es
  | method _ receiver _ => if receiver.isPlain then .none else looseLimits? receiver
  | record (.settings ..) [limits _, _] => .none
  | record (.settings ..) [l, _] => some l
  | record _ fs => looseLimitsIn? fs
  | _ => .none

def looseLimitsIn? : List Value → Option Value
  | [] => .none
  | x :: xs => (looseLimits? x).or (looseLimitsIn? xs)

def looseLimitsAmong? : List (Value × Value) → Option Value
  | [] => .none
  | (k, v) :: es => ((looseLimits? k).or (looseLimits? v)).or (looseLimitsAmong? es)

end

/-- The plain text of a value that is no error. -/
def plainData : Value → String
  | text s => s
  | path p => p.text
  | direction d => "Direction." ++ d.label
  | v => v.shown

/-- The plain text of a value. An error says what it was made with. -/
def plain : Value → String
  | error _ _ [] => ""
  | error _ _ [x] => plainData x
  | error _ _ args => Text.tupleText (shownItems args)
  | v => plainData v

end KeyBundle.Value
