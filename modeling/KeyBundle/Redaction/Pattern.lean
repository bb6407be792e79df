/-
  KeyBundle.Redaction.Pattern — text patterns, and the replacement of everything they match.

  A pattern is matched at one place of a text; of the ways it can match there the first one
  counts, in the order of the alternatives, long repetitions before short ones (or short before
  long, where the pattern says so). `Pattern.replaceAll` goes through a text from left to right and
  puts a label in the place of every match.
-/

import KeyBundle.Text.Class

namespace KeyBundle.Redaction

open KeyBundle.Text

inductive Pattern where
  /-- Nothing at all. -/
  | empty
  /-- One character of a class. -/
  | one (accepts : Char → Bool)
  /-- One pattern after the other. -/
  | seq (p q : Pattern)
  /-- The first pattern or, where it leads nowhere, the second. -/
  | alt (p q : Pattern)
  /-- Characters of a class, between `least` and `most` of them: as many as possible first. -/
  | many (accepts : Char → Bool) (least : Nat) (most : Option Nat)
  /-- Any number of characters of a class, as few as possible first. -/
  | few (accepts : Char → Bool)
  /-- Between a word character and something else. -/
  | boundary
  /-- At the end, or before a line break that ends the text. -/
  | atEnd

/-- A place in a text: the character before it, what follows, and how many characters of the
match lie before it. -/
structure Place where
  before : Option Char
  rest : List Char
  used : Nat

namespace Place

/-- The place after the next character. -/
def step (p : Place) : Option Place :=
  match p.rest with
  | [] => none
  | c :: cs => some ⟨some c, cs, p.used + 1⟩

/-- One side of the place is a word character and the other is not. -/
def isBoundary (p : Place) : Bool := p.before.any isWord != p.rest.head?.any isWord

def isLast (p : Place) : Bool := p.rest == [] || p.rest == ['\n']

end Place

/-- The places reached over at most `most` characters of a class, farthest first. -/
def reach (accepts : Char → Bool) :
    (most : Option Nat) → Place → List Char → List Place → List Place
  | _, here, [], found => here :: found
  | some 0, here, _ :: _, found => here :: found
  | most, here, c :: cs, found =>
    if accepts c then
      reach accepts (most.map (· - 1)) ⟨some c, cs, here.used + 1⟩ cs (here :: found)
    else here :: found

/-- The length of the first match at a place for which the remaining pattern `k` matches too. -/
def Pattern.run : Pattern → Place → (Place → Option Nat) → Option Nat
  | .empty, here, k => k here
  | .one accepts, here, k =>
    match here.rest with
    | [] => none
    | c :: cs => if accepts c then k ⟨some c, cs, here.used + 1⟩ else none
  | .seq p q, here, k => p.run here fun next => q.run next k
  | .alt p q, here, k =>
    match p.run here k with
    | some n => some n
    | none => q.run here k
  | .many accepts least most, here, k =>
    ((reach accepts most here here.rest []).filter (here.used + least ≤ ·.used)).findSome? k
  | .few accepts, here, k => (reach accepts none here here.rest []).reverse.findSome? k
  | .boundary, here, k => if here.isBoundary then k here else none
  | .atEnd, here, k => if here.isLast then k here else none

/-- How many characters the first match takes that starts here. -/
def Pattern.matchAt (p : Pattern) (before : Option Char) (rest : List Char) : Option Nat :=
  p.run ⟨before, rest, 0⟩ fun last => some last.used

/-- Replacement from a place on; the first `skip` characters belong to a match already
replaced. -/
def Pattern.replaceFrom (p : Pattern) (label : List Char) :
    (skip : Nat) → (before : Option Char) → List Char → List Char
  | _, before, [] => if (p.matchAt before []).isSome then label else []
  | skip + 1, _, c :: cs => p.replaceFrom label skip (some c) cs
  | 0, before, c :: cs =>
    match p.matchAt before (c :: cs) with
    | some (n + 1) => label ++ p.replaceFrom label n (some c) cs
    | some 0 => label ++ c :: p.replaceFrom label 0 (some c) cs
    | none => c :: p.replaceFrom label 0 (some c) cs

/-- The text with every match replaced by the label. -/
def Pattern.replaceAll (p : Pattern) (label text : List Char) : List Char :=
  p.replaceFrom label 0 none text

namespace Pattern

def seqs : List Pattern → Pattern
  | [] => empty
  | [p] => p
  | p :: ps => seq p (seqs ps)

def alts : List Pattern → Pattern
  | [] => one fun _ => false
  | [p] => p
  | p :: ps => alt p (alts ps)

def opt (p : Pattern) : Pattern := alt p empty

/-- Exactly this text. -/
def exactly (s : List Char) : Pattern := seqs (s.map fun c => one (· == c))

/-- The small letter `letter` in either case. Three letters have further forms: i without or
with a dot as a capital, the long s, and the sign for kelvin. -/
def isForm (letter c : Char) : Bool :=
  c.toLower == letter
    || (letter == 'i' && (c == 'İ' || c == 'ı'))
    || (letter == 's' && c == 'ſ')
    || (letter == 'k' && c == '\u212A')

/-- A word given in small letters, in any case. -/
def word (s : String) : Pattern := seqs (s.toList.map fun c => one (isForm c))

def oneOf (s : String) : Pattern := one s.toList.contains

end Pattern

end KeyBundle.Redaction
