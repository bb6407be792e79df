/-
  KeyBundle.Template.Spec — templates of log messages, read into their parts.

  Two percent signs stand for one. A single one opens a placeholder: a key in round brackets,
  flags, a width, a precision, a size letter without effect, and the conversion. Width and
  precision may be asterisks, which stand for arguments. A template that ends inside a
  placeholder is read too; filling it fails.
-/

namespace KeyBundle.Template

/-- A width or a precision. -/
inductive Count where
  | absent
  | digits (n : Nat)
  /-- Taken from the arguments. -/
  | argument
  deriving DecidableEq

/-- The key of a placeholder. -/
inductive Key where
  | absent
  | named (name : String)
  /-- The template ends before the closing bracket. -/
  | unclosed
  deriving DecidableEq

structure Spec where
  key : Key
  leftAligned : Bool
  signed : Bool
  spaced : Bool
  alternate : Bool
  zeroFilled : Bool
  width : Count
  precision : Count
  /-- The conversion and its place in the template; none when the template ends before it. -/
  conversion : Option (Char × Nat)

def Spec.start : Spec := ⟨.absent, false, false, false, false, false, .absent, .absent, none⟩

inductive Part where
  | char (c : Char)
  | placeholder (s : Spec)

/-- Where reading stands inside a placeholder. -/
inductive Phase where
  | opened
  /-- Inside the key, with so many brackets open and the key so far, last character first. -/
  | key (depth : Nat) (soFar : List Char)
  | flags
  | widthDigits
  | widthDone
  | pointSeen
  | precisionDigits
  | precisionDone
  | sizeSeen

/-- What one character does to a placeholder. -/
inductive Step where
  | more (phase : Phase) (s : Spec)
  | finished (s : Spec)

def flag? (c : Char) (s : Spec) : Option Spec :=
  match c with
  | '-' => some { s with leftAligned := true }
  | '+' => some { s with signed := true }
  | ' ' => some { s with spaced := true }
  | '#' => some { s with alternate := true }
  | '0' => some { s with zeroFilled := true }
  | _ => none

def Count.extend (n : Count) (c : Char) : Count :=
  let d := c.toNat - '0'.toNat
  match n with
  | digits m => digits (m * 10 + d)
  | _ => digits d

def finish (s : Spec) (place : Nat) (c : Char) : Step :=
  .finished { s with conversion := some (c, place) }

def afterPrecision (s : Spec) (place : Nat) (c : Char) : Step :=
  if c == 'h' || c == 'l' || c == 'L' then .more .sizeSeen s else finish s place c

def afterWidth (s : Spec) (place : Nat) (c : Char) : Step :=
  if c == '.' then .more .pointSeen { s with precision := .digits 0 } else afterPrecision s place c

def afterKey (s : Spec) (place : Nat) (c : Char) : Step :=
  match flag? c s with
  | some t => .more .flags t
  | none =>
    if c == '*' then .more .widthDone { s with width := .argument }
    else if c.isDigit then .more .widthDigits { s with width := s.width.extend c }
    else afterWidth s place c

/-- One character at a place of the template, inside a placeholder. -/
def step (phase : Phase) (s : Spec) (place : Nat) (c : Char) : Step :=
  match phase with
  | .opened => if c == '(' then .more (.key 1 []) s else afterKey s place c
  | .key depth soFar =>
    if c == ')' && depth == 1 then
      .more .flags { s with key := .named (String.ofList soFar.reverse) }
    else if c == ')' then .more (.key (depth - 1) (c :: soFar)) s
    else if c == '(' then .more (.key (depth + 1) (c :: soFar)) s
    else .more (.key depth (c :: soFar)) s
  | .flags => afterKey s place c
  | .widthDigits =>
    if c.isDigit then .more .widthDigits { s with width := s.width.extend c }
    else afterWidth s place c
  | .widthDone => afterWidth s place c
  | .pointSeen =>
    if c == '*' then .more .precisionDone { s with precision := .argument }
    else if c.isDigit then .more .precisionDigits { s with precision := s.precision.extend c }
    else afterPrecision s place c
  | .precisionDigits =>
    if c.isDigit then .more .precisionDigits { s with precision := s.precision.extend c }
    else afterPrecision s place c
  | .precisionDone => afterPrecision s place c
  | .sizeSeen => finish s place c

/-- The placeholder of a template that ends inside it. -/
def cutOff (phase : Phase) (s : Spec) : Spec :=
  match phase with
  | .key .. => { s with key := .unclosed }
  | _ => s

/-- The parts from a place on; `inside` is the placeholder that is being read. -/
def partsFrom : Nat → (inside : Option (Phase × Spec)) → List Char → List Part
  | _, none, [] => []
  | _, some (phase, s), [] => [.placeholder (cutOff phase s)]
  | place, none, '%' :: '%' :: cs => .char '%' :: partsFrom (place + 2) none cs
  | place, none, c :: cs =>
    if c == '%' then partsFrom (place + 1) (some (.opened, .start)) cs
    else .char c :: partsFrom (place + 1) none cs
  | place, some (phase, s), c :: cs =>
    match step phase s place c with
    | .more phase s => partsFrom (place + 1) (some (phase, s)) cs
    | .finished s => .placeholder s :: partsFrom (place + 1) none cs

/-- The parts of a template. -/
def parts (template : String) : List Part := partsFrom 0 none template.toList

end KeyBundle.Template
