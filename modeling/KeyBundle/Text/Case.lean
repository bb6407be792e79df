/-
  KeyBundle.Text.Case — capital and small forms of a text by the full case mappings: one
  letter may become several, and a capital sigma at the end of a word becomes the final one.
-/

import KeyBundle.Text.CaseTable

namespace KeyBundle.Text

/-- The image of a code point, when it lies on the run. -/
def CaseRun.map? (r : CaseRun) (n : Nat) : Option Nat :=
  if r.first ≤ n && n ≤ r.last && (n - r.first) % r.step == 0 then some (n + r.shift).toNat
  else none

/-- The mapping by specials first, then by runs; a character in neither is its own image. -/
def mapCase (specials : List (Nat × List Nat)) (runs : List CaseRun) (c : Char) : List Char :=
  match specials.lookup c.toNat with
  | some ns => ns.map Char.ofNat
  | none =>
    match runs.findSome? (·.map? c.toNat) with
    | some n => [Char.ofNat n]
    | none => [c]

def upperChar (c : Char) : List Char :=
  if c.toNat < 0x80 then [c.toUpper] else mapCase upperSpecials upperRuns c

def lowerChar (c : Char) : List Char :=
  if c.toNat < 0x80 then [c.toLower] else mapCase lowerSpecials lowerRuns c

/-- The nearest character that is not passed over has case. -/
def nextIsCased (s : List Char) : Bool :=
  ((s.dropWhile fun c => ignoredRanges.holds c.toNat).head?.map
    fun c => casedRanges.holds c.toNat).getD false

/-- Small forms, knowing the characters already passed (nearest first): a capital sigma with a
letter before it and none after it takes the final form. -/
def lowerAfter (passed : List Char) : List Char → List Char
  | [] => []
  | c :: rest =>
    let image :=
      if c == 'Σ' then [if nextIsCased passed && !nextIsCased rest then 'ς' else 'σ']
      else lowerChar c
    image ++ lowerAfter (c :: passed) rest

def upper (s : String) : String := String.ofList (s.toList.flatMap upperChar)

def lower (s : String) : String := String.ofList (lowerAfter [] s.toList)

end KeyBundle.Text
