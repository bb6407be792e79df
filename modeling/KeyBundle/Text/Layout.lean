/-
  KeyBundle.Text.Layout — how composite values are laid out on one line.
-/

namespace KeyBundle.Text

def commaSeparated (items : List String) : String := ", ".intercalate items

/-- Round brackets; a single item keeps a comma after it. -/
def tupleText : List String → String
  | [item] => "(" ++ item ++ ",)"
  | items => "(" ++ commaSeparated items ++ ")"

/-- The name of a record and its fields with their values. -/
def recordText (name : String) (fields : List (String × String)) : String :=
  name ++ "(" ++ commaSeparated (fields.map fun f => f.1 ++ "=" ++ f.2) ++ ")"

end KeyBundle.Text
