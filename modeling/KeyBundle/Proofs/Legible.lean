/-
  KeyBundle.Proofs.Legible — what the shown form of a value tells of the bytes in it.

  Bytes that a value holds at any depth stand in its shown form, but for those that a window looks at: of a window it
  tells where it lies. Nothing else in a shown form tells which bytes those are.

  (1) Two things are said of a value: its legible part, without what windows look at and without identities but for
      those of windows; and its shape, in which bytes are zeros and windows lie anywhere (`legible`, `shape`).
  (2) No placeholder tells a value from its legible part (`unseen_legible`).
  (3) Where texts begin with the shown forms of two values of one shape, they agree only if the legible parts of the
      values do (`parts_shown`): the form of a byte ends where it ends, whatever follows (`readByte_escapeChar`), and
      so does an address before its bracket (`parts_address`).
-/

import KeyBundle.Proofs.Filling
import Mathlib.Tactic.SplitIfs

namespace KeyBundle

namespace Value

/-! ## (1) Legible parts and shapes -/

mutual

/-- The value with everything but its lists, tuples and mappings changed. Keys stay as they are, and which list or
    mapping it is gets lost. -/
def onLeaves (f : Value → Value) : Value → Value
  | tuple xs => tuple (onLeavesIn f xs)
  | list _ xs => list 0 (onLeavesIn f xs)
  | table _ es => table 0 (onLeavesAmong f es)
  | v => f v

def onLeavesIn (f : Value → Value) : List Value → List Value
  | [] => []
  | x :: xs => onLeaves f x :: onLeavesIn f xs

def onLeavesAmong (f : Value → Value) : List (Value × Value) → List (Value × Value)
  | [] => []
  | (k, v) :: es => (k, onLeaves f v) :: onLeavesAmong f es

end

def zeros (b : Blob) : Blob := b.map fun _ => 0

def legibleLeaf : Value → Value
  | number (.float x _) => number (.float x 0)
  | buffer _ b => buffer 0 b
  | view id width b => view id width (zeros b)
  | v => v

def shapeLeaf : Value → Value
  | bytes b => bytes (zeros b)
  | buffer _ b => buffer 0 (zeros b)
  | view _ width b => view 0 width (zeros b)
  | v => legibleLeaf v

/-- The value without its identity and those of its parts, and without the bytes that windows look at. A window
    keeps its identity. -/
def legible (v : Value) : Value := v.onLeaves legibleLeaf

/-- The same without any bytes: only how many there are. -/
def shape (v : Value) : Value := v.onLeaves shapeLeaf

theorem onLeavesIn_eq (f : Value → Value) (xs : List Value) : onLeavesIn f xs = xs.map (onLeaves f) := by
  induction xs with
  | nil => rfl
  | cons x xs ih => rw [onLeavesIn, ih, List.map_cons]

theorem onLeavesAmong_eq (f : Value → Value) (es : List (Value × Value)) :
    onLeavesAmong f es = es.map fun e => (e.1, onLeaves f e.2) := by
  induction es with
  | nil => rfl
  | cons e es ih => rw [onLeavesAmong, ih, List.map_cons]

/-! ## (2) Placeholders -/

mutual

theorem shown_legible (v : Value) : v.legible.shown = v.shown := by
  cases v with
  | tuple xs => exact congrArg Text.tupleText (shownItems_legible xs)
  | list id xs => exact congrArg (fun ss => "[" ++ Text.commaSeparated ss ++ "]") (shownItems_legible xs)
  | table id es => exact congrArg (fun ss => "\x7b" ++ Text.commaSeparated ss ++ "\x7d") (shownEntries_legible es)
  | number n => cases n <;> rfl
  | _ => rfl

theorem shownItems_legible (xs : List Value) : shownItems (onLeavesIn legibleLeaf xs) = shownItems xs := by
  cases xs with
  | nil => rfl
  | cons x xs =>
    show x.legible.shown :: shownItems (onLeavesIn legibleLeaf xs) = x.shown :: shownItems xs
    rw [shown_legible, shownItems_legible]

theorem shownEntries_legible (es : List (Value × Value)) :
    shownEntries (onLeavesAmong legibleLeaf es) = shownEntries es := by
  cases es with
  | nil => rfl
  | cons e es =>
    show (e.1.shown ++ ": " ++ e.2.legible.shown) :: shownEntries (onLeavesAmong legibleLeaf es) =
      (e.1.shown ++ ": " ++ e.2.shown) :: shownEntries es
    rw [shown_legible, shownEntries_legible]

end

end Value

namespace Template

theorem unseen_legible : Unseen Value.legible where
  plain v := by
    cases v with
    | tuple | list | table => exact Value.shown_legible _
    | number n => cases n <;> rfl
    | _ => rfl
  shown := Value.shown_legible
  whole c v := by
    cases v with
    | number n => cases n <;> rfl
    | _ => rfl
  places c alternate precision v := by
    cases v with
    | number n => cases n <;> rfl
    | _ => rfl
  character v := by
    cases v with
    | number n => cases n <;> rfl
    | _ => rfl
  count limits v := by
    cases v with
    | number n => cases n <;> rfl
    | _ => rfl

end Template

/-! ## (3) Shown forms -/

/-- Where texts that begin with these agree, this holds, and what follows agrees, too. -/
def Parts (a b : List Char) (P : Prop) : Prop := ∀ s t, a ++ s = b ++ t → P ∧ s = t

namespace Parts

variable {a b c d : List Char} {P Q : Prop}

theorem same (a : List Char) (h : P) : Parts a a P := fun _ _ hst => ⟨h, List.append_cancel_left hst⟩

theorem imp (h : Parts a b P) (hPQ : P → Q) : Parts a b Q := fun s t hst => (h s t hst).imp_left hPQ

theorem append (h : Parts a b P) (k : Parts c d Q) : Parts (a ++ c) (b ++ d) (P ∧ Q) := by
  intro s t hst
  rw [List.append_assoc, List.append_assoc] at hst
  obtain ⟨hP, hrest⟩ := h _ _ hst
  obtain ⟨hQ, hst⟩ := k _ _ hrest
  exact ⟨⟨hP, hQ⟩, hst⟩

/-- Between texts that are the same on both sides. -/
theorem between (h : Parts a b P) (u v : List Char) : Parts (u ++ a ++ v) (u ++ b ++ v) P :=
  (((same u trivial).append h).append (same v trivial)).imp fun hs => hs.1.2

end Parts

namespace Text.Quoted

/-! ### Bytes -/

def hexValue (c : Char) : Nat := "0123456789abcdef".toList.idxOf c

/-- The byte behind a backslash, and the rest of the text. -/
def readEscaped : List Char → Option (Nat × List Char)
  | 'x' :: a :: b :: t => some (16 * hexValue a + hexValue b, t)
  | 'x' :: _ | [] => none
  | 't' :: t => some (9, t)
  | 'n' :: t => some (10, t)
  | 'r' :: t => some (13, t)
  | c :: t => some (c.toNat, t)

/-- The byte that a text begins with, and the rest of the text. -/
def readByte : List Char → Option (Nat × List Char)
  | [] => none
  | c :: t => if c = '\\' then readEscaped t else some (c.toNat, t)

theorem readEscaped_append {w t rest : List Char} {n : Nat} (h : readEscaped w = some (n, rest)) :
    readEscaped (w ++ t) = some (n, rest ++ t) := by
  fun_cases readEscaped w <;> simp_all [readEscaped]

theorem readByte_append {w t rest : List Char} {n : Nat} (h : readByte w = some (n, rest)) :
    readByte (w ++ t) = some (n, rest ++ t) := by
  cases w with
  | nil => cases h
  | cons c w =>
    rw [readByte] at h
    rw [List.cons_append, readByte]
    split at h
    · exact (if_pos ‹_›).trans (readEscaped_append h)
    · cases h
      exact if_neg ‹_›

/-- The form of a byte is read back, whichever bytes stand for themselves. -/
theorem readByte_escapeChar {q : Char} (hq : q ∈ ['\'', '"']) (shown : Char → Bool) {n : Nat} (hn : n < 256) :
    readByte (escapeChar q shown (Char.ofNat n)) = some (n, []) := by
  have numbers : ∀ n ∈ List.range 256,
      (Char.ofNat n).toNat = n ∧ readByte (byNumber (Char.ofNat n)) = some (n, []) := by
    decide +kernel
  have escaped : ∀ c ∈ ['\'', '"', '\\'], readByte ['\\', c] = some (c.toNat, []) := by decide
  obtain ⟨code, number⟩ := numbers n (List.mem_range.mpr hn)
  generalize Char.ofNat n = c at code number
  subst code
  unfold escapeChar
  split_ifs with hself htab hline hreturn hshown
  · refine escaped c ?_
    simp only [Bool.or_eq_true, beq_iff_eq] at hself
    rcases hself with rfl | rfl
    · exact List.mem_append_left ['\\'] hq
    · decide
  · rw [beq_iff_eq.mp htab]
    rfl
  · rw [beq_iff_eq.mp hline]
    rfl
  · rw [beq_iff_eq.mp hreturn]
    rfl
  · have : c ≠ '\\' := fun he => hself (by simp [he])
    rw [readByte, if_neg this]
  · exact number

/-- The form of a byte ends where it ends, whatever follows. -/
theorem parts_byte {q : Char} (hq : q ∈ ['\'', '"']) (x y : UInt8) :
    Parts (escapeChar q isPrintableAscii (Char.ofNat x.toNat)) (escapeChar q isPrintableAscii (Char.ofNat y.toNat))
      (x = y) := by
  have read (x : UInt8) (s : List Char) :
      readByte (escapeChar q isPrintableAscii (Char.ofNat x.toNat) ++ s) = some (x.toNat, s) :=
    readByte_append (readByte_escapeChar hq isPrintableAscii x.toNat_lt)
  intro s t hst
  have same := (read x s).symm.trans ((congrArg readByte hst).trans (read y t))
  simp only [Option.some.injEq, Prod.mk.injEq] at same
  exact ⟨UInt8.toNat_inj.mp same.1, same.2⟩

theorem parts_charsOf {q : Char} (hq : q ∈ ['\'', '"']) {a b : List UInt8} (h : a.length = b.length) :
    Parts ((charsOf a).flatMap (escapeChar q isPrintableAscii)) ((charsOf b).flatMap (escapeChar q isPrintableAscii))
      (a = b) := by
  induction a generalizing b with
  | nil =>
    rw [List.length_eq_zero_iff.mp h.symm]
    exact .same _ rfl
  | cons x a ih =>
    cases b with
    | nil => cases h
    | cons y b =>
      simp only [charsOf, List.map_cons, List.flatMap_cons]
      exact ((parts_byte hq x y).append (ih (Nat.succ.inj h))).imp fun hs => by rw [hs.1, hs.2]

theorem quoteFor_mem (s : List Char) : quoteFor s ∈ ['\'', '"'] := by
  unfold quoteFor
  split <;> decide

theorem parts_encodeBytes {a b : List UInt8} (h : a.length = b.length) :
    Parts (encodeBytes a) (encodeBytes b) (a = b) := by
  intro s t hst
  simp only [encodeBytes, encodeWith, List.cons_append, List.cons.injEq, true_and, List.append_assoc] at hst
  obtain ⟨hq, hst⟩ := hst
  rw [← hq] at hst
  obtain ⟨same, hst⟩ := parts_charsOf (quoteFor_mem _) h _ _ hst
  exact ⟨same, (List.cons.inj hst).2⟩

theorem parts_encodeBuffer {a b : List UInt8} (h : a.length = b.length) :
    Parts (encodeBuffer a) (encodeBuffer b) (a = b) := by
  intro s t hst
  simp only [encodeBuffer, List.cons_append, List.cons.injEq, true_and, List.append_assoc] at hst
  obtain ⟨hq, hst⟩ := hst
  obtain ⟨same, hst⟩ := parts_charsOf (by decide) h _ _ hst
  exact ⟨same, (List.cons.inj hst).2⟩

/-! ### Addresses -/

theorem hexValue_digitChar {d : Nat} (hd : d < 16) : hexValue d.digitChar = d := by
  have digits : ∀ d ∈ List.range 16, hexValue d.digitChar = d := by decide +kernel
  exact digits d (List.mem_range.mpr hd)

/-- The number that digits write. -/
def readHex (ds : List Char) : Nat := ds.foldl (fun n c => 16 * n + hexValue c) 0

theorem readHex_hex (n : Nat) : readHex (hex n) = n := by
  induction n using Nat.strongRecOn with
  | ind n ih =>
    rw [hex, Nat.toDigits_eq_if (by decide)]
    split
    · next small => exact (Nat.zero_add _).trans (hexValue_digitChar small)
    · next large =>
      have last : hexValue (n % 16).digitChar = n % 16 := hexValue_digitChar (Nat.mod_lt n (by decide))
      rw [readHex, List.foldl_append, ← readHex, ← hex, ih (n / 16) (by omega), List.foldl_cons, List.foldl_nil, last]
      exact Nat.div_add_mod n 16

theorem hexValue_of_mem_hex {n : Nat} {c : Char} (h : c ∈ hex n) : hexValue c < 16 := by
  induction n using Nat.strongRecOn with
  | ind n ih =>
    rw [hex, Nat.toDigits_eq_if (by decide)] at h
    split at h
    · next small =>
      rw [List.mem_singleton.mp h, hexValue_digitChar small]
      exact small
    · next large =>
      rcases List.mem_append.mp h with h | h
      · exact ih (n / 16) (by omega) h
      · rw [List.mem_singleton.mp h, hexValue_digitChar (Nat.mod_lt n (by decide))]
        exact Nat.mod_lt n (by decide)

/-- An address ends before the bracket that closes it. -/
theorem parts_address (i j : Nat) :
    Parts ((address i).toList ++ ['>']) ((address j).toList ++ ['>']) (i = j) := by
  have upTo (n : Nat) (s : List Char) : (hex n ++ '>' :: s).takeWhile (· != '>') = hex n := by
    have noBracket : ∀ c ∈ hex n, (c != '>') = true := by
      intro c hc
      refine bne_iff_ne.mpr ?_
      rintro rfl
      exact absurd (hexValue_of_mem_hex hc) (by decide)
    rw [List.takeWhile_append_of_pos noBracket, List.takeWhile_cons_of_neg (by decide), List.append_nil]
  intro s t hst
  simp only [address, String.toList_append, String.toList_ofList, List.append_assoc, List.append_cancel_left_eq] at hst
  have digits : hex i = hex j := by rw [← upTo i s, ← upTo j t]; exact congrArg _ hst
  rw [digits] at hst
  exact ⟨by rw [← readHex_hex i, digits, readHex_hex], (List.cons.inj (List.append_cancel_left hst)).2⟩

end Text.Quoted

namespace Value

/-! ### Values -/

/-- Values of this form may have one shape and be shown in different ways. -/
def isTransparent : Value → Bool
  | bytes _ | buffer .. | view .. | tuple _ | list .. | table .. => true
  | _ => false

theorem isTransparent_shape (v : Value) : v.shape.isTransparent = v.isTransparent := by
  cases v with
  | number n => cases n <;> rfl
  | _ => rfl

theorem isTransparent_of_shape {v w : Value} (h : v.shape = w.shape) : v.isTransparent = w.isTransparent := by
  rw [← isTransparent_shape, h, isTransparent_shape]

theorem shape_eq_legible {v : Value} (h : v.isTransparent = false) : v.shape = v.legible := by
  cases v with
  | bytes | buffer | view | tuple | list | table => cases h
  | _ => rfl

theorem length_zeros (b : Blob) : (zeros b).length = b.length := List.length_map _

theorem length_eq_of_zeros {a b : Blob} (h : zeros a = zeros b) : a.length = b.length := by
  rw [← length_zeros a, h, length_zeros]

theorem of_shape_bytes {a : Blob} {w : Value} (h : (bytes a).shape = w.shape) :
    ∃ b, w = bytes b ∧ a.length = b.length := by
  cases w with
  | bytes b => exact ⟨b, rfl, length_eq_of_zeros (bytes.inj h)⟩
  | number n => cases n <;> cases h
  | _ => cases h

theorem of_shape_buffer {i : Nat} {a : Blob} {w : Value} (h : (buffer i a).shape = w.shape) :
    ∃ j b, w = buffer j b ∧ a.length = b.length := by
  cases w with
  | buffer j b => exact ⟨j, b, rfl, length_eq_of_zeros (buffer.inj h).2⟩
  | number n => cases n <;> cases h
  | _ => cases h

theorem of_shape_view {i width : Nat} {a : Blob} {w : Value} (h : (view i width a).shape = w.shape) :
    ∃ j b, w = view j width b ∧ zeros a = zeros b := by
  cases w with
  | view j width' b =>
    obtain ⟨-, rfl, hb⟩ := view.inj h
    exact ⟨j, b, rfl, hb⟩
  | number n => cases n <;> cases h
  | _ => cases h

theorem of_shape_tuple {xs : List Value} {w : Value} (h : (tuple xs).shape = w.shape) :
    ∃ ys, w = tuple ys ∧ onLeavesIn shapeLeaf xs = onLeavesIn shapeLeaf ys := by
  cases w with
  | tuple ys => exact ⟨ys, rfl, tuple.inj h⟩
  | number n => cases n <;> cases h
  | _ => cases h

theorem of_shape_list {i : Nat} {xs : List Value} {w : Value} (h : (list i xs).shape = w.shape) :
    ∃ j ys, w = list j ys ∧ onLeavesIn shapeLeaf xs = onLeavesIn shapeLeaf ys := by
  cases w with
  | list j ys => exact ⟨j, ys, rfl, (list.inj h).2⟩
  | number n => cases n <;> cases h
  | _ => cases h

theorem of_shape_table {i : Nat} {es : List (Value × Value)} {w : Value} (h : (table i es).shape = w.shape) :
    ∃ j fs, w = table j fs ∧ onLeavesAmong shapeLeaf es = onLeavesAmong shapeLeaf fs := by
  cases w with
  | table j fs => exact ⟨j, fs, rfl, (table.inj h).2⟩
  | number n => cases n <;> cases h
  | _ => cases h

/-- The shape tells all of any other value. -/
theorem legible_of_not_transparent {v w : Value} (hv : v.isTransparent = false) (h : v.shape = w.shape) :
    v.legible = w.legible := by
  rw [← shape_eq_legible hv, ← shape_eq_legible ((isTransparent_of_shape h).symm.trans hv), h]

theorem parts_not_transparent {v w : Value} (hv : v.isTransparent = false) (h : v.shape = w.shape) :
    Parts v.shown.toList w.shown.toList (v.legible = w.legible) := by
  have same := legible_of_not_transparent hv h
  rw [← shown_legible v, ← shown_legible w, same]
  exact .same _ rfl

/-- Items one after the other. -/
def listed (ss : List String) : List Char := (Text.commaSeparated ss).toList

theorem listed_cons_cons (s t : String) (ss : List String) :
    listed (s :: t :: ss) = s.toList ++ ", ".toList ++ listed (t :: ss) := by
  simp [listed, Text.commaSeparated, String.toList_intercalate]

theorem listed_singleton (s : String) : listed [s] = s.toList := by
  simp [listed, Text.commaSeparated]

theorem toList_tupleText (ss : List String) :
    (Text.tupleText ss).toList = "(".toList ++ listed ss ++ (if ss.length = 1 then ",)".toList else ")".toList) := by
  unfold Text.tupleText
  split
  · simp [listed_singleton]
  · next h =>
    have : ss.length ≠ 1 := fun hl => by
      obtain ⟨s, rfl⟩ := List.length_eq_one_iff.mp hl
      exact h s rfl
    simp [listed, this]

theorem length_shownItems {f : Value → Value} {xs ys : List Value} (h : onLeavesIn f xs = onLeavesIn f ys) :
    (shownItems xs).length = (shownItems ys).length := by
  have length (xs : List Value) : (shownItems xs).length = (onLeavesIn f xs).length := by
    induction xs with
    | nil => rfl
    | cons x xs ih => rw [shownItems, List.length_cons, ih, onLeavesIn, List.length_cons]
  rw [length, length, h]

mutual

/-- Where texts begin with the shown forms of two values of one shape, they agree only if the legible parts do. -/
theorem parts_shown (v w : Value) (h : v.shape = w.shape) :
    Parts v.shown.toList w.shown.toList (v.legible = w.legible) := by
  cases v with
  | bytes a =>
    obtain ⟨b, rfl, hl⟩ := of_shape_bytes h
    change Parts (Text.quotedBytes a).toList (Text.quotedBytes b).toList _
    simp only [Text.quotedBytes, String.toList_ofList]
    exact (Text.Quoted.parts_encodeBytes hl).imp fun same => by rw [same]
  | buffer i a =>
    obtain ⟨j, b, rfl, hl⟩ := of_shape_buffer h
    change Parts (Text.bufferText a).toList (Text.bufferText b).toList _
    simp only [Text.bufferText, String.toList_append, String.toList_ofList]
    exact ((Text.Quoted.parts_encodeBuffer hl).between _ _).imp fun same => by rw [same]; rfl
  | view i width a =>
    obtain ⟨j, b, rfl, hz⟩ := of_shape_view h
    change Parts ("<memory at " ++ Text.address i ++ ">").toList ("<memory at " ++ Text.address j ++ ">").toList _
    simp only [String.toList_append, List.append_assoc]
    exact ((Parts.same _ trivial).append (Text.Quoted.parts_address i j)).imp fun same => by
      rw [same.2]
      exact congrArg (view j width) hz
  | tuple xs =>
    obtain ⟨ys, rfl, hs⟩ := of_shape_tuple h
    change Parts (Text.tupleText (shownItems xs)).toList (Text.tupleText (shownItems ys)).toList _
    simp only [toList_tupleText, length_shownItems hs]
    exact ((parts_items xs ys hs).between _ _).imp fun same => congrArg tuple same
  | list i xs =>
    obtain ⟨j, ys, rfl, hs⟩ := of_shape_list h
    change Parts ("[" ++ Text.commaSeparated (shownItems xs) ++ "]").toList
      ("[" ++ Text.commaSeparated (shownItems ys) ++ "]").toList _
    simp only [String.toList_append]
    exact ((parts_items xs ys hs).between _ _).imp fun same => congrArg (list 0) same
  | table i es =>
    obtain ⟨j, fs, rfl, hs⟩ := of_shape_table h
    change Parts ("\x7b" ++ Text.commaSeparated (shownEntries es) ++ "\x7d").toList
      ("\x7b" ++ Text.commaSeparated (shownEntries fs) ++ "\x7d").toList _
    simp only [String.toList_append]
    exact ((parts_entries es fs hs).between _ _).imp fun same => congrArg (table 0) same
  | _ => exact parts_not_transparent rfl h

theorem parts_items (xs ys : List Value) (h : onLeavesIn shapeLeaf xs = onLeavesIn shapeLeaf ys) :
    Parts (listed (shownItems xs)) (listed (shownItems ys))
      (onLeavesIn legibleLeaf xs = onLeavesIn legibleLeaf ys) := by
  match xs, ys with
  | [], [] => exact .same _ rfl
  | [x], [y] =>
    simp only [shownItems, listed_singleton]
    exact (parts_shown x y (List.cons.inj h).1).imp fun same => congrArg ([·]) same
  | x :: x' :: xs, y :: y' :: ys =>
    obtain ⟨hx, hxs⟩ := List.cons.inj h
    have rest := parts_items (x' :: xs) (y' :: ys) hxs
    simp only [shownItems, listed_cons_cons] at rest ⊢
    refine (((parts_shown x y hx).append (.same _ trivial)).append rest).imp fun same => ?_
    exact (congrArg (· :: _) same.1.1).trans (congrArg (_ :: ·) same.2)
  | [], _ :: _ | _ :: _, [] => cases h
  | [_], _ :: _ :: _ | _ :: _ :: _, [_] => cases (List.cons.inj h).2

theorem parts_entries (es fs : List (Value × Value)) (h : onLeavesAmong shapeLeaf es = onLeavesAmong shapeLeaf fs) :
    Parts (listed (shownEntries es)) (listed (shownEntries fs))
      (onLeavesAmong legibleLeaf es = onLeavesAmong legibleLeaf fs) := by
  have entry {k : Value} {v w : Value} (hp : Parts v.shown.toList w.shown.toList (v.legible = w.legible)) :
      Parts (k.shown ++ ": " ++ v.shown).toList (k.shown ++ ": " ++ w.shown).toList (v.legible = w.legible) := by
    simp only [String.toList_append]
    exact ((Parts.same (k.shown.toList ++ ": ".toList) trivial).append hp).imp And.right
  match es, fs with
  | [], [] => exact .same _ rfl
  | [(k, v)], [(l, w)] =>
    obtain ⟨rfl, hv⟩ := Prod.mk.inj (List.cons.inj h).1
    simp only [shownEntries, listed_singleton]
    exact (entry (parts_shown v w hv)).imp fun same => congrArg (fun x => [(k, x)]) same
  | (k, v) :: e :: es, (l, w) :: f :: fs =>
    obtain ⟨hhead, htail⟩ := List.cons.inj h
    obtain ⟨rfl, hv⟩ := Prod.mk.inj hhead
    have rest := parts_entries (e :: es) (f :: fs) htail
    simp only [shownEntries, listed_cons_cons] at rest ⊢
    refine (((entry (parts_shown v w hv)).append (.same _ trivial)).append rest).imp fun same => ?_
    exact (congrArg (fun x => (k, x) :: _) same.1.1).trans (congrArg (_ :: ·) same.2)
  | [], _ :: _ | _ :: _, [] => cases h
  | [_], _ :: _ :: _ | _ :: _ :: _, [_] => cases (List.cons.inj h).2

end

end Value

end KeyBundle
