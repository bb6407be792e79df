/-
  KeyBundle.Proofs.JsonTexts — what JSON texts stand for.

  (1) A JSON text is read from left to right, and anything that is no JSON text is refused (`parse`). The characters of
      a text are given by UTF-16 units, two for a character beyond the first 65536.
  (2) So a text is read back from the way it is written: each character is written by its units
      (`readText_textChars`), in printable ASCII (`isPrintable_textChars`).
  (3) And an object of texts is read back with its members in order (`parse_object`).
-/

import KeyBundle.Log.Json

namespace KeyBundle.Log.Json

/-! ## (1) Reading -/

/-- What a JSON text stands for. Numbers are kept as they are written, and the members of an object in order. -/
inductive Data where
  | null
  | bool (b : Bool)
  | number (written : String)
  | text (s : String)
  | array (items : List Data)
  | object (members : List (String × Data))

def isBlank (c : Char) : Bool := c == ' ' || c == '\t' || c == '\n' || c == '\r'

def skip (s : List Char) : List Char := s.dropWhile isBlank

def hexValue? (c : Char) : Option Nat :=
  if '0' ≤ c && c ≤ '9' then some (c.toNat - '0'.toNat)
  else if 'a' ≤ c && c ≤ 'f' then some (c.toNat - 'a'.toNat + 10)
  else if 'A' ≤ c && c ≤ 'F' then some (c.toNat - 'A'.toNat + 10)
  else none

def unitOf? (digits : List Char) : Option Nat := (digits.mapM hexValue?).map fun ds => ds.foldl (16 * · + ·) 0

/-- The UTF-16 units of a character. -/
def unitsOf (c : Char) : List Nat :=
  if c.toNat < 0x10000 then [c.toNat]
  else [0xD800 + (c.toNat - 0x10000) / 0x400, 0xDC00 + (c.toNat - 0x10000) % 0x400]

def isHigh (u : Nat) : Bool := 0xD800 ≤ u && u < 0xDC00

def isLow (u : Nat) : Bool := 0xDC00 ≤ u && u < 0xE000

/-- The characters of UTF-16 units. Half a pair stands for none. -/
def charsOf : List Nat → Option (List Char)
  | [] => some []
  | u :: rest =>
    if isHigh u then
      match rest with
      | [] => none
      | v :: rest =>
        if isLow v then
          (charsOf rest).map (Char.ofNat (0x10000 + (u - 0xD800) * 0x400 + (v - 0xDC00)) :: ·)
        else none
    else if isLow u then none
    else (charsOf rest).map (Char.ofNat u :: ·)

/-- What a letter behind a backslash stands for. -/
def escapes : List (Char × Char) :=
  [('"', '"'), ('\\', '\\'), ('/', '/'), ('b', '\x08'), ('f', '\x0c'), ('n', '\n'), ('r', '\r'), ('t', '\t')]

def prepend (us : List Nat) (r? : Option (List Nat × List Char)) : Option (List Nat × List Char) :=
  r?.map fun r => (us ++ r.1, r.2)

/-- The units up to the quote that closes a text, and what follows it. -/
def readUnits : List Char → Option (List Nat × List Char)
  | [] => none
  | '"' :: rest => some ([], rest)
  | '\\' :: 'u' :: a :: b :: c :: d :: rest => (unitOf? [a, b, c, d]).bind fun u => prepend [u] (readUnits rest)
  | '\\' :: c :: rest => (escapes.lookup c).bind fun d => prepend (unitsOf d) (readUnits rest)
  | c :: rest => if c.toNat < 0x20 then none else prepend (unitsOf c) (readUnits rest)

/-- A text whose first quote has been read. -/
def readText (s : List Char) : Option (String × List Char) := do
  let (us, rest) ← readUnits s
  return (String.ofList (← charsOf us), rest)

def afterDigits : List Char → Option (List Char)
  | c :: rest => if c.isDigit then some (rest.dropWhile Char.isDigit) else none
  | [] => none

/-- A number does not start with a zero, unless that is all before the point. -/
def afterWhole : List Char → Option (List Char)
  | '0' :: rest => some rest
  | s => afterDigits s

def afterFraction : List Char → Option (List Char)
  | '.' :: rest => afterDigits rest
  | s => some s

def afterExponent : List Char → Option (List Char)
  | c :: rest =>
    if c == 'e' || c == 'E' then
      afterDigits (if rest.head? = some '+' || rest.head? = some '-' then rest.tail else rest)
    else some (c :: rest)
  | [] => some []

def readNumber (s : List Char) : Option (Data × List Char) := do
  let rest ← afterWhole (if s.head? = some '-' then s.tail else s)
  let rest ← afterExponent (← afterFraction rest)
  return (.number (String.ofList (s.take (s.length - rest.length))), rest)

def words : List (String × Data) := [("null", .null), ("true", .bool true), ("false", .bool false)]

def readWord (s : List Char) : Option (Data × List Char) :=
  words.findSome? fun w => if w.1.toList.isPrefixOf s then some (w.2, s.drop w.1.length) else none

section

variable {α : Type}

/-- One item after the other, with commas between them, up to the bracket that closes them; `count` is how many there
    can be. -/
def readMany (item : List Char → Option (α × List Char)) (close : Char) : Nat → List Char →
    Option (List α × List Char)
  | 0, _ => none
  | count + 1, s => do
    let (x, rest) ← item (skip s)
    match skip rest with
    | [] => none
    | c :: rest =>
      if c == close then return ([x], rest)
      if c != ',' then none
      let (xs, rest) ← readMany item close count rest
      return (x :: xs, rest)

/-- The items in brackets of which the first has been read. There are no more items than characters. -/
def readList (item : List Char → Option (α × List Char)) (close : Char) (s : List Char) :
    Option (List α × List Char) :=
  match skip s with
  | [] => none
  | c :: rest => if c == close then some ([], rest) else readMany item close s.length (c :: rest)

/-- A name in quotes, and the value behind a colon. -/
def readMember (value : List Char → Option (α × List Char)) : List Char → Option ((String × α) × List Char)
  | '"' :: s => do
    let (name, rest) ← readText s
    match skip rest with
    | ':' :: rest =>
      let (x, rest) ← value (skip rest)
      return ((name, x), rest)
    | _ => none
  | _ => none

end

/-- A value, with brackets in brackets down to some depth. -/
def readValue : Nat → List Char → Option (Data × List Char)
  | 0, _ => none
  | _ + 1, '"' :: rest => (readText rest).map fun r => (.text r.1, r.2)
  | depth + 1, '[' :: rest => (readList (readValue depth) ']' rest).map fun r => (.array r.1, r.2)
  | depth + 1, '\x7b' :: rest =>
    (readList (readMember (readValue depth)) '\x7d' rest).map fun r => (.object r.1, r.2)
  | _ + 1, s => (readWord s).or (readNumber s)

/-- What a whole text stands for. Brackets are no deeper than there are characters. -/
def parse (s : String) : Option Data := do
  let (d, rest) ← readValue s.length (skip s.toList)
  if rest.all isBlank then some d else none

example : ["\x7b\"a\": [-1.5e+2, \"\\ud83d\\uDE00\"], \"b\" : \x7b \x7d\x7d\n", "[1, 2,]", "01", "\"\\ud83d\"", "1 2"].map
    (fun s => (parse s).isSome) = [true, false, false, false, false] := by
  decide +kernel

/-! ## (2) Texts -/

section

variable {u v : Nat} {us : List Nat} {c : Char} {s rest : List Char}

theorem charsOf_single (high : isHigh u = false) (low : isLow u = false) (us : List Nat) :
    charsOf (u :: us) = (charsOf us).map (Char.ofNat u :: ·) := by
  cases us <;> simp [charsOf, high, low]

theorem charsOf_pair (high : isHigh u = true) (low : isLow v = true) (us : List Nat) : charsOf (u :: v :: us) =
    (charsOf us).map (Char.ofNat (0x10000 + (u - 0xD800) * 0x400 + (v - 0xDC00)) :: ·) := by
  simp [charsOf, high, low]

theorem isHigh_eq_false (h : u < 0xD800 ∨ 0xDC00 ≤ u) : isHigh u = false := by
  simp only [isHigh, Bool.and_eq_false_iff, decide_eq_false_iff_not]
  omega

theorem isLow_eq_false (h : u < 0xDC00 ∨ 0xE000 ≤ u) : isLow u = false := by
  simp only [isLow, Bool.and_eq_false_iff, decide_eq_false_iff_not]
  omega

theorem toNat_lt (c : Char) : c.toNat < 0x110000 :=
  c.valid.elim (fun h => Nat.lt_trans h (by decide)) And.right

theorem unitsOf_lt (c : Char) : ∀ u ∈ unitsOf c, u < 0x10000 := by
  have bound := toNat_lt c
  unfold unitsOf
  split
  · simpa
  · simp only [List.mem_cons, List.not_mem_nil, or_false]
    rintro u (hu | hu) <;> omega

/-- Units tell the characters: none of the first 65536 is half of a pair. -/
theorem charsOf_unitsOf (c : Char) (us : List Nat) : charsOf (unitsOf c ++ us) = (charsOf us).map (c :: ·) := by
  unfold unitsOf
  split
  · next short =>
    have whole : c.toNat < 0xD800 ∨ 0xDFFF < c.toNat := c.valid.imp_right And.left
    have high : isHigh c.toNat = false := isHigh_eq_false (by omega)
    have low : isLow c.toNat = false := isLow_eq_false (by omega)
    rw [List.singleton_append, charsOf_single high low, Char.ofNat_toNat]
  · next long =>
    have bound := toNat_lt c
    have high : isHigh (0xD800 + (c.toNat - 0x10000) / 0x400) = true := by
      simp only [isHigh, Bool.and_eq_true, decide_eq_true_eq]
      omega
    have low : isLow (0xDC00 + (c.toNat - 0x10000) % 0x400) = true := by
      simp only [isLow, Bool.and_eq_true, decide_eq_true_eq]
      omega
    have sum : 0x10000 + (0xD800 + (c.toNat - 0x10000) / 0x400 - 0xD800) * 0x400 +
        (0xDC00 + (c.toNat - 0x10000) % 0x400 - 0xDC00) = c.toNat := by
      omega
    rw [List.cons_append, List.singleton_append, charsOf_pair high low, sum, Char.ofNat_toNat]

theorem charsOf_flatMap (s : List Char) : charsOf (s.flatMap unitsOf) = some s := by
  induction s with
  | nil => rfl
  | cons c s ih => rw [List.flatMap_cons, charsOf_unitsOf, ih, Option.map_some]

theorem prepend_append (us vs : List Nat) (r? : Option (List Nat × List Char)) :
    prepend us (prepend vs r?) = prepend (us ++ vs) r? := by
  cases r? <;> simp [prepend]

theorem hexValue?_digitChar (h : u < 16) : hexValue? (Text.digitChar u) = some u := by
  have each : ∀ u < 16, hexValue? (Text.digitChar u) = some u := by decide
  exact each u h

theorem hexFixed_four (n : Nat) : Text.hexFixed 4 n =
    [Text.digitChar (n / 4096 % 16), Text.digitChar (n / 256 % 16), Text.digitChar (n / 16 % 16),
      Text.digitChar (n % 16)] := by
  simp [Text.hexFixed, Nat.div_div_eq_div_mul]

theorem readUnits_unit (h : u < 0x10000) (rest : List Char) :
    readUnits (unit u ++ rest) = prepend [u] (readUnits rest) := by
  have digit (n : Nat) : hexValue? (Text.digitChar (n % 16)) = some (n % 16) :=
    hexValue?_digitChar (Nat.mod_lt _ (by decide))
  have sum : 16 * (16 * (16 * (16 * 0 + u / 4096 % 16) + u / 256 % 16) + u / 16 % 16) + u % 16 = u := by omega
  rw [unit, hexFixed_four]
  simp only [List.cons_append, List.nil_append, readUnits, unitOf?, List.mapM_cons, List.mapM_nil, digit]
  simp only [Option.pure_def, Option.bind_eq_bind, Option.bind_some, Option.map_some, List.foldl_cons, List.foldl_nil,
    sum]

theorem readUnits_units (h : ∀ u ∈ us, u < 0x10000) (rest : List Char) :
    readUnits (us.flatMap unit ++ rest) = prepend us (readUnits rest) := by
  induction us with
  | nil => simp [prepend]
  | cons u us ih =>
    rw [List.forall_mem_cons] at h
    rw [List.flatMap_cons, List.append_assoc, readUnits_unit h.1, ih h.2, prepend_append, List.singleton_append]

theorem readUnits_escape {d : Char} (other : d ≠ 'u') (h : escapes.lookup d = some c) (rest : List Char) :
    readUnits ('\\' :: d :: rest) = prepend (unitsOf c) (readUnits rest) := by
  rw [readUnits]
  · rw [h]
    rfl
  · exact fun _ _ _ _ _ same => absurd same other

theorem readUnits_plain (control : 0x20 ≤ c.toNat) (quote : c ≠ '"') (backslash : c ≠ '\\') (rest : List Char) :
    readUnits (c :: rest) = prepend (unitsOf c) (readUnits rest) := by
  rw [readUnits, if_neg (by omega)]
  · exact quote
  · exact fun _ _ _ _ _ same => absurd same backslash
  · exact fun _ _ same => absurd same backslash

/-- A character is written by a letter of its own, as it is, or by its units. -/
theorem escapeChar_cases (c : Char) :
    (∃ d, escapes.lookup d = some c ∧ d ≠ 'u' ∧ escapeChar c = ['\\', d]) ∨
      (0x20 ≤ c.toNat ∧ c.toNat < 0x7F ∧ c ≠ '"' ∧ c ≠ '\\' ∧ escapeChar c = [c]) ∨
      escapeChar c = (unitsOf c).flatMap unit := by
  unfold escapeChar
  split
  · next h =>
    obtain rfl | rfl : c = '"' ∨ c = '\\' := by simpa using h
    · exact .inl ⟨_, by decide, by decide, rfl⟩
    · exact .inl ⟨_, by decide, by decide, rfl⟩
  · next marked =>
    have marked : ¬(c = '"' ∨ c = '\\') := by simpa using marked
    iterate 5
      split
      · next h => exact .inl ⟨_, beq_iff_eq.mp h ▸ by decide, by decide, rfl⟩
    split
    · next h =>
      simp only [Bool.and_eq_true, decide_eq_true_eq] at h
      exact .inr (.inl ⟨h.1, h.2, fun quote => marked (.inl quote), fun slash => marked (.inr slash), rfl⟩)
    · refine .inr (.inr ?_)
      unfold unitsOf
      split <;> simp

/-- However a character is written, its units are read back. -/
theorem readUnits_escapeChar (c : Char) (rest : List Char) :
    readUnits (escapeChar c ++ rest) = prepend (unitsOf c) (readUnits rest) := by
  obtain ⟨d, letter, other, h⟩ | ⟨control, -, quote, backslash, h⟩ | h := escapeChar_cases c <;> rw [h]
  · exact readUnits_escape other letter rest
  · exact readUnits_plain control quote backslash rest
  · exact readUnits_units (unitsOf_lt c) rest

theorem readUnits_flatMap (s rest : List Char) :
    readUnits (s.flatMap escapeChar ++ '"' :: rest) = some (s.flatMap unitsOf, rest) := by
  induction s with
  | nil => simp [readUnits]
  | cons c s ih =>
    rw [List.flatMap_cons, List.append_assoc, readUnits_escapeChar, ih]
    rfl

/-- A text is read back from the way it is written. -/
theorem readText_textChars (t : String) (rest : List Char) :
    ∃ written, textChars t.toList ++ rest = '"' :: written ∧ readText written = some (t, rest) := by
  refine ⟨t.toList.flatMap escapeChar ++ '"' :: rest, by simp [textChars], ?_⟩
  rw [readText, readUnits_flatMap]
  simp only [Option.bind_eq_bind, Option.bind_some, charsOf_flatMap, Option.pure_def, String.ofList_toList]

/-- Printable ASCII. -/
def isPrintable (c : Char) : Bool := 0x20 ≤ c.toNat && c.toNat < 0x7F

theorem isPrintable_unit (n : Nat) : ∀ c ∈ unit n, isPrintable c := by
  have digits : ∀ d < 16, isPrintable (Text.digitChar d) := by decide
  have digit (n : Nat) : isPrintable (Text.digitChar (n % 16)) := digits _ (Nat.mod_lt _ (by decide))
  have marks : isPrintable '\\' ∧ isPrintable 'u' := by decide
  rw [unit, hexFixed_four]
  simp [digit, marks]

theorem isPrintable_escapeChar (c : Char) : ∀ d ∈ escapeChar c, isPrintable d := by
  have letters : ∀ e ∈ escapes, isPrintable e.1 := by decide
  have backslash : isPrintable '\\' := by decide
  obtain ⟨d, letter, -, h⟩ | ⟨low, high, -, -, h⟩ | h := escapeChar_cases c <;> rw [h]
  · obtain ⟨before, after, whole, -⟩ := List.lookup_eq_some_iff.mp letter
    simpa [backslash] using letters (d, c) (by simp [whole])
  · simp [isPrintable, low, high]
  · simp only [List.mem_flatMap]
    rintro d ⟨u, -, hd⟩
    exact isPrintable_unit u d hd

theorem isPrintable_textChars (s : List Char) : ∀ c ∈ textChars s, isPrintable c := by
  have quote : isPrintable '"' := by decide
  simp only [textChars, List.mem_append, List.mem_cons, List.mem_flatMap, List.not_mem_nil, or_false]
  rintro c ((rfl | ⟨d, -, h⟩) | rfl)
  · exact quote
  · exact isPrintable_escapeChar d c h
  · exact quote

end

/-! ## (3) Objects -/

section

variable {α : Type} {item : List Char → Option (α × List Char)} {close c : Char} {s rest : List Char}

theorem skip_eq (h : isBlank c = false) (s : List Char) : skip (c :: s) = c :: s := by
  rw [skip, List.dropWhile_cons, if_neg (by simp [h])]

theorem skip_blank (h : isBlank c = true) (s : List Char) : skip (c :: s) = skip s := by
  rw [skip, List.dropWhile_cons, if_pos h]
  rfl

theorem readMany_blank (h : isBlank c = true) (count : Nat) (s : List Char) :
    readMany item close count (c :: s) = readMany item close count s := by
  cases count with
  | zero => rfl
  | succ count => rw [readMany, readMany, skip_blank h]

/-- More items, each behind a comma and a blank. -/
def others {β : Type} (written : β → List Char) (xs : List β) : List Char :=
  xs.flatMap fun x => ',' :: ' ' :: written x

theorem intercalate_eq_others {β : Type} (written : β → List Char) (x : β) (xs : List β) :
    [',', ' '].intercalate ((x :: xs).map written) = written x ++ others written xs := by
  induction xs generalizing x with
  | nil => simp [others]
  | cons y ys ih =>
    have more := ih y
    rw [List.map_cons] at more
    rw [List.map_cons, List.map_cons, List.intercalate_cons_cons, more, others, others, List.flatMap_cons]
    simp

theorem length_le_others {β : Type} (written : β → List Char) (xs : List β) :
    xs.length ≤ (others written xs).length := by
  induction xs with
  | nil => exact Nat.zero_le _
  | cons x xs ih =>
    rw [others, List.flatMap_cons, ← others, List.length_append]
    simp only [List.length_cons]
    omega

/-- Items that are read back each by itself are read back one after the other. -/
theorem readMany_others {β : Type} {f : β → α} {written : β → List Char} (solid : isBlank close = false)
    (noComma : close ≠ ',') (shown : ∀ x rest, skip (written x ++ rest) = written x ++ rest)
    (each : ∀ x rest, item (written x ++ rest) = some (f x, rest)) (x : β) {xs : List β} {count : Nat}
    (enough : xs.length < count) :
    readMany item close count (written x ++ (others written xs ++ close :: rest)) = some (f x :: xs.map f, rest) := by
  induction xs generalizing x count with
  | nil =>
    obtain ⟨count, rfl⟩ := Nat.exists_eq_succ_of_ne_zero (Nat.ne_of_gt enough)
    simp [readMany, shown, each, others, skip_eq solid]
  | cons y ys ih =>
    obtain ⟨count, rfl⟩ := Nat.exists_eq_succ_of_ne_zero (Nat.ne_of_gt (Nat.zero_lt_of_lt enough))
    have more := ih y (Nat.lt_of_succ_lt_succ enough)
    have comma : isBlank ',' = false := by decide
    have blank : isBlank ' ' = true := by decide
    rw [readMany, shown, each, others, List.flatMap_cons, ← others]
    simp [skip_eq comma, noComma.symm, readMany_blank blank, more]

/-- A member whose value is a text, as it is written. -/
def memberChars (m : String × String) : List Char := textChars m.1.toList ++ ':' :: ' ' :: textChars m.2.toList

theorem skip_memberChars (m : String × String) (rest : List Char) :
    skip (memberChars m ++ rest) = memberChars m ++ rest :=
  skip_eq (by decide) _

theorem readMember_memberChars (m : String × String) (depth : Nat) (rest : List Char) :
    readMember (readValue (depth + 1)) (memberChars m ++ rest) = some ((m.1, .text m.2), rest) := by
  obtain ⟨value, hvalue, readsValue⟩ := readText_textChars m.2 rest
  obtain ⟨name, hname, readsName⟩ := readText_textChars m.1 (':' :: ' ' :: (textChars m.2.toList ++ rest))
  have colon : isBlank ':' = false := by decide
  have blank : isBlank ' ' = true := by decide
  have quote : isBlank '"' = false := by decide
  rw [memberChars, List.append_assoc, List.cons_append, List.cons_append, hname, readMember]
  simp only [readsName, Option.bind_eq_bind, Option.bind_some, skip_eq colon, skip_blank blank, hvalue, skip_eq quote,
    readValue, readsValue, Option.map_some, Option.pure_def]

variable {m : String × String} {ms : List (String × String)}

theorem toList_object : (object ((m :: ms).map fun m => (text m.1, text m.2))).toList =
    '\x7b' :: (memberChars m ++ (others memberChars ms ++ ['\x7d'])) := by
  have member (m : String × String) : (text m.1 ++ ": " ++ text m.2).toList = memberChars m := by
    simp [text, memberChars]
  have members : (((m :: ms).map fun m => (text m.1, text m.2)).map fun m => m.1 ++ ": " ++ m.2).map String.toList =
      (m :: ms).map memberChars := by
    rw [List.map_map, List.map_map]
    exact List.map_congr_left fun m _ => member m
  have between : (", " : String).toList = [',', ' '] := by decide
  have brackets : ("\x7b" : String).toList = ['\x7b'] ∧ ("\x7d" : String).toList = ['\x7d'] := by decide
  rw [object, Text.commaSeparated, String.toList_append, String.toList_append, String.toList_intercalate, members,
    between, brackets.1, brackets.2, intercalate_eq_others, List.singleton_append, List.cons_append, List.append_assoc]

theorem readList_members (depth : Nat) :
    readList (readMember (readValue (depth + 1))) '\x7d' (memberChars m ++ (others memberChars ms ++ ['\x7d'])) =
      some ((m :: ms).map fun m => (m.1, .text m.2), []) := by
  have enough : ms.length < (memberChars m ++ (others memberChars ms ++ ['\x7d'])).length := by
    have commas := length_le_others memberChars ms
    simp only [List.length_append, List.length_singleton]
    omega
  have many : readMany (readMember (readValue (depth + 1))) '\x7d' _
      (memberChars m ++ (others memberChars ms ++ ['\x7d'])) = some ((m :: ms).map fun m => (m.1, .text m.2), []) :=
    readMany_others (by decide) (by decide) skip_memberChars (readMember_memberChars · depth) m enough
  -- a member starts with a quote, so it does not close the object
  rw [readList, skip_memberChars]
  exact many

/-- An object of texts is read back. -/
theorem parse_object : parse (object ((m :: ms).map fun m => (text m.1, text m.2))) =
    some (.object ((m :: ms).map fun m => (m.1, .text m.2))) := by
  have bracket : isBlank '\x7b' = false := by decide
  obtain ⟨depth, deep⟩ : ∃ depth, (object ((m :: ms).map fun m => (text m.1, text m.2))).length = depth + 2 := by
    rw [← String.length_toList, toList_object]
    exact ⟨_, by simp only [List.length_cons, List.length_append, List.length_nil]; rfl⟩
  rw [parse, deep, toList_object, skip_eq bracket, readValue, readList_members]
  rfl

theorem isPrintable_object :
    ∀ c ∈ (object ((m :: ms).map fun m => (text m.1, text m.2))).toList, isPrintable c := by
  have marks : ∀ c ∈ ['\x7b', '\x7d', ',', ' ', ':'], isPrintable c := by decide
  simp only [List.forall_mem_cons] at marks
  obtain ⟨opening, closing, comma, blank, colon, -⟩ := marks
  have member (m : String × String) : ∀ c ∈ memberChars m, isPrintable c := by
    rw [memberChars, List.forall_mem_append, List.forall_mem_cons, List.forall_mem_cons]
    exact ⟨isPrintable_textChars _, colon, blank, isPrintable_textChars _⟩
  have more : ∀ c ∈ others memberChars ms, isPrintable c := by
    intro c hc
    obtain ⟨n, -, hc⟩ := List.mem_flatMap.mp hc
    obtain rfl | rfl | hc : c = ',' ∨ c = ' ' ∨ c ∈ memberChars n := by simpa using hc
    · exact comma
    · exact blank
    · exact member n c hc
  rw [toList_object, List.forall_mem_cons, List.forall_mem_append, List.forall_mem_append]
  exact ⟨opening, member m, more, by simp [closing]⟩

end

end KeyBundle.Log.Json
