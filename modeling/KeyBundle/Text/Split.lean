/-
  KeyBundle.Text.Split — a text cut at a separator. There is always one piece more than there
  are separators.
-/

namespace KeyBundle.Text

/-- The pieces between the separators, empty ones among them. -/
def pieces (separator : Char) : List Char → List (List Char)
  | [] => [[]]
  | c :: cs =>
    if c == separator then [] :: pieces separator cs
    else
      match pieces separator cs with
      | [] => [[c]]
      | piece :: more => (c :: piece) :: more

end KeyBundle.Text
