/-
  KeyBundle.Text.Ranges — a set of characters given by ranges of code points.
-/

namespace KeyBundle.Text

/-- Closed ranges of code points, in increasing order. -/
abbrev Ranges := List (Nat × Nat)

/-- Some range holds the code point. -/
def Ranges.holds (rs : Ranges) (n : Nat) : Bool :=
  rs.any fun r => r.1 ≤ n && n ≤ r.2

end KeyBundle.Text
