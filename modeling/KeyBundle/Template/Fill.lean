/-
  KeyBundle.Template.Fill — templates filled with arguments. Arguments are a sequence, taken one
  after the other and all to be used, or one mapping, whose values are taken by key and which
  may go unused.
-/

import KeyBundle.Fault
import KeyBundle.Number.Places
import KeyBundle.Template.Spec
import KeyBundle.Value.Equality
import KeyBundle.Value.Text

namespace KeyBundle.Template

inductive Args where
  | sequence (xs : List Value)
  | mapping (v : Value)

/-- No arguments at all: the template stays as it is. -/
def Args.isEmpty : Args → Bool
  | sequence xs => xs.isEmpty
  | mapping _ => false

/-! ## Conversions -/

/-- The pieces of a number: its sign, what stands before the digits, and the digits. -/
structure Numeral where
  negative : Bool
  opening : List Char
  digits : List Char

def spaces (n : Nat) : List Char := List.replicate n ' '

/-- Text in a field; the precision cuts it. -/
def fitText (s : Spec) (width : Nat) (precision : Option Nat) (text : List Char) : List Char :=
  let shown := precision.elim text text.take
  if s.leftAligned then shown ++ spaces (width - shown.length)
  else spaces (width - shown.length) ++ shown

/-- A number in a field: zeros go between the sign and the digits, blanks outside. -/
def fitNumeral (s : Spec) (width : Nat) (n : Numeral) : List Char :=
  let sign :=
    if n.negative then ['-'] else if s.signed then ['+'] else if s.spaced then [' '] else []
  let head := sign ++ n.opening
  let gap := width - (head.length + n.digits.length)
  if s.leftAligned then head ++ n.digits ++ spaces gap
  else if s.zeroFilled then head ++ List.replicate gap '0' ++ n.digits
  else spaces gap ++ head ++ n.digits

def upperAscii (s : List Char) : List Char := s.map (·.toUpper)

/-- A whole number for a conversion. -/
def wholeNumeral (c : Char) (alternate : Bool) (precision : Option Nat) (n : Int) : Numeral :=
  let base := if c == 'o' then 8 else if c == 'x' || c == 'X' then 16 else 10
  let plain := Nat.toDigits base n.natAbs
  let digits := List.replicate (precision.getD 0 - plain.length) '0' ++ plain
  let opening := if alternate && (c == 'o' || c == 'x' || c == 'X') then ['0', c] else []
  ⟨n < 0, opening, if c == 'X' then upperAscii digits else digits⟩

/-- The whole part of a number. -/
def wholePart (n : Number) : Except TemplateFault Int :=
  match n.exact with
  | .nan => .error .nanToInteger
  | .negInfinity | .posInfinity => .error .infinityToInteger
  | .ratio num den => .ok (num.tdiv den)

/-- The number of digits that a whole number may be asked to have. -/
def mostWholeDigits : Nat := 2147483644

/-- The whole number that a conversion shows. -/
def whole (c : Char) (v : Value) : Except TemplateFault Int :=
  let inBase := c == 'o' || c == 'x' || c == 'X'
  match v with
  | .number (.float x mark) =>
    if inBase then .error (.notInteger c "float") else wholePart (.float x mark)
  | .number n => wholePart n
  | v => .error (if inBase then .notInteger c v.typeName else .notReal c v.typeName)

/-- A number of any size for the conversions with places. -/
def placesNumeral (c : Char) (alternate : Bool) (precision : Option Nat) (v : Value) :
    Except TemplateFault Numeral := do
  let .number n := v | throw (.notFloat v.typeName)
  let places := precision.getD 6
  let small := c.toLower
  let cased := fun (s : List Char) => if c.isUpper then upperAscii s else s
  let negativeZero := match n with
    | .float x _ => x.toBits ≥ 0x8000000000000000
    | _ => false
  match n.exact with
  | .nan => return ⟨false, [], cased "nan".toList⟩
  | .posInfinity => return ⟨false, [], cased "inf".toList⟩
  | .negInfinity => return ⟨true, [], cased "inf".toList⟩
  | .ratio num den =>
    let size := match n with
      | .float .. => num.natAbs
      | _ => Number.toBinaryPlaces num.natAbs
    if Nat.pow 2 1024 ≤ size / den then throw .integerTooLarge
    let digits :=
      if small == 'f' then Number.fixedText places alternate size den
      else if small == 'e' then Number.scientificText places alternate 'e' size den
      else Number.generalText places alternate 'e' size den
    return ⟨num < 0 || negativeZero, [], cased digits⟩

/-- The character that a value stands for. -/
def character (v : Value) : Except TemplateFault Char :=
  match v with
  | .text s =>
    match s.toList with
    | [c] => .ok c
    | _ => .error .notChar
  | .number (.float ..) => .error .notChar
  | .number n => do
    let i ← wholePart n
    if i < 0 || 0x110000 ≤ i then throw .charOutOfRange
    return Char.ofNat i.toNat
  | _ => .error .notChar

/-- Everything beyond ASCII by number. -/
def asciiOnly (s : List Char) : List Char :=
  s.flatMap fun c => if c.toNat < 0x80 then [c] else Text.Quoted.byNumber c

/-- One argument as a placeholder shows it. -/
def convert (s : Spec) (width : Nat) (precision : Option Nat) (c : Char) (place : Nat) (v : Value) :
    Except TemplateFault (List Char) :=
  match c with
  | 's' => .ok (fitText s width precision v.plain.toList)
  | 'r' => .ok (fitText s width precision v.shown.toList)
  | 'a' => .ok (fitText s width precision (asciiOnly v.shown.toList))
  | 'd' | 'i' | 'u' | 'o' | 'x' | 'X' => do
    let n ← whole c v
    if precision.any (mostWholeDigits < ·) then throw .precisionTooLarge
    return fitNumeral s width (wholeNumeral c s.alternate precision n)
  | 'e' | 'E' | 'f' | 'F' | 'g' | 'G' => do
    return fitNumeral s width (← placesNumeral c s.alternate precision v)
  | 'c' => do return fitText s width none [← character v]
  | c => .error (.unsupported c place)

/-! ## Arguments -/

/-- The arguments still to be taken. -/
inductive Supply where
  | rest (xs : List Value)
  /-- One value, and whether it has been taken. -/
  | single (v : Value) (taken : Bool)

def Supply.next : Supply → Except TemplateFault (Value × Supply)
  | rest (x :: xs) => .ok (x, rest xs)
  | single v false => .ok (v, single v true)
  | _ => .error .tooFew

/-- The value under a key. -/
def lookupKey (mapping : Value) (name : String) : Except TemplateFault Value :=
  let found := match mapping with
    | .table _ es => (es.find? fun e => (Value.text name).same e.1).map (·.2)
    | .parameters p => (p.get? name).map .ofBlobs
    | _ => none
  match found with
  | some v => .ok v
  | none => .error (.missingKey (Text.quoted name))

/-- The supply for a placeholder: with a key, the value under it. -/
def supplyFor (mapping : Option Value) (key : Key) (supply : Supply) :
    Except TemplateFault Supply :=
  match key, mapping with
  | .absent, _ => .ok supply
  | _, none => .error .needsMapping
  | .unclosed, some _ => .error .incompleteKey
  | .named name, some m => do return .single (← lookupKey m name) false

/-- The limits of a count: the greatest one, and the faults of a greater one that is written in
the template or taken from the arguments. -/
structure CountLimits where
  most : Nat
  written : TemplateFault
  taken : TemplateFault

def widthLimits : CountLimits := ⟨9223372036854775807, .widthTooBig, .widthOutOfRange⟩

def precisionLimits : CountLimits := ⟨2147483647, .precisionTooBig, .precisionOutOfRange⟩

/-- A width or precision, and the supply left: negative numbers are kept as they are. -/
def countFrom (limits : CountLimits) (n : Count) (supply : Supply) :
    Except TemplateFault (Option Int × Supply) :=
  match n with
  | .absent => .ok (none, supply)
  | .digits n => if limits.most < n then .error limits.written else .ok (some n, supply)
  | .argument => do
    let (v, supply) ← supply.next
    match v with
    | .number (.int n) =>
      if n < -limits.most - 1 || limits.most < n then throw limits.taken
      return (some n, supply)
    | .number (.bool b) => return (some (if b then 1 else 0), supply)
    | _ => throw .badWidth

/-- The width of a field from a count, of which only the size matters. The lowest count has no
opposite and stands for no width. -/
def fieldWidth (count : Int) : Nat := if count < -widthLimits.most then 0 else count.natAbs

/-- No memory holds a field that is wider. -/
def widest : Nat := Nat.pow 2 40

/-- One placeholder filled, and the supply left. -/
def fillSpec (mapping : Option Value) (supply : Supply) (s : Spec) :
    Except TemplateFault (List Char × Supply) := do
  let supply ← supplyFor mapping s.key supply
  let (width, supply) ← countFrom widthLimits s.width supply
  let (precision, supply) ← countFrom precisionLimits s.precision supply
  let some (c, place) := s.conversion | throw .incomplete
  let (v, supply) ← supply.next
  let count := width.getD 0
  let s := if count < 0 then { s with leftAligned := true } else s
  let shown := fun (width : Nat) => convert s width (precision.map (·.toNat)) c place v
  if widest < fieldWidth count then
    let _ ← shown 0
    throw .outOfMemory
  return (← shown (fieldWidth count), supply)

/-- Part after part, with the supply left at the end. -/
def fillParts (mapping : Option Value) : Supply → List Part →
    Except TemplateFault (List Char × Supply)
  | supply, [] => .ok ([], supply)
  | supply, .char c :: ps => do
    let (text, supply) ← fillParts mapping supply ps
    return (c :: text, supply)
  | supply, .placeholder s :: ps => do
    let (piece, supply) ← fillSpec mapping supply s
    let (text, supply) ← fillParts mapping supply ps
    return (piece ++ text, supply)

/-- The template with its placeholders filled. -/
def fill (template : String) (args : Args) : Except TemplateFault String := do
  match args with
  | .sequence xs =>
    let (text, supply) ← fillParts none (.rest xs) (parts template)
    match supply with
    | .rest (_ :: _) => throw .tooMany
    | _ => return String.ofList text
  | .mapping v =>
    let (text, _) ← fillParts (some v) (.single v false) (parts template)
    return String.ofList text

end KeyBundle.Template
