/-
  KeyBundle.ParameterSet — named sequences of opaque blobs, in the order in which the names came.

  Every name is non-empty text without NUL and occurs once. Merging keeps the order: names of the
  first set, then new names of the second; under a shared name the blobs of the first come first.
  Two sets are equal when they hold the same blobs under the same names, in whatever order of
  names. The shown form gives the number of blobs and never a blob.
-/

import KeyBundle.Text.Layout

namespace KeyBundle

/-- A sequence of bytes whose content is never looked at. -/
abbrev Blob := List UInt8

/-- Named blob sequences. -/
abbrev Entries := List (String × List Blob)

/-- What a parameter may be called. -/
def isName (s : String) : Bool := s != "" && !s.toList.contains '\x00'

namespace Entries

def names (es : Entries) : List String := es.map (·.1)

/-- Changes the blobs under a name; a new name goes to the end with nothing under it before. -/
def update (name : String) (f : List Blob → List Blob) : Entries → Entries
  | [] => [(name, f [])]
  | e :: es => if e.1 = name then (e.1, f e.2) :: es else e :: update name f es

/-- Adds every entry of the second sequence to the first. -/
def merge (a b : Entries) : Entries := b.foldl (fun acc e => update e.1 (· ++ e.2) acc) a

theorem names_update (name : String) (f : List Blob → List Blob) (es : Entries) :
    names (update name f es) = if name ∈ names es then names es else names es ++ [name] := by
  induction es with
  | nil => simp [names, update]
  | cons e es ih =>
    simp only [names, update] at ih ⊢
    by_cases h : e.1 = name
    · simp [h]
    · have h' : ¬name = e.1 := fun k => h k.symm
      simp only [h, if_false, List.map_cons, ih, List.mem_cons, h', false_or]
      split <;> rename_i hm <;> simp [hm]

theorem nodup_update {name : String} {f : List Blob → List Blob} {es : Entries}
    (h : (names es).Nodup) : (names (update name f es)).Nodup := by
  rw [names_update]
  split
  · exact h
  · rename_i hn
    rw [List.nodup_append]
    exact ⟨h, by simp, fun a ha b hb => by simp at hb; subst hb; exact fun e => hn (e ▸ ha)⟩

theorem mem_names_update {name : String} {f : List Blob → List Blob} {es : Entries} {n : String}
    (h : n ∈ names (update name f es)) : n = name ∨ n ∈ names es := by
  rw [names_update] at h
  split at h
  · exact Or.inr h
  · simpa [or_comm] using h

theorem nodup_merge (a b : Entries) (h : (names a).Nodup) : (names (merge a b)).Nodup := by
  induction b generalizing a with
  | nil => exact h
  | cons e b ih => exact ih _ (nodup_update h)

theorem mem_names_merge {a b : Entries} {n : String} (h : n ∈ names (merge a b)) :
    n ∈ names a ∨ n ∈ names b := by
  induction b generalizing a with
  | nil => exact Or.inl h
  | cons e b ih =>
    rcases ih h with h | h
    · rcases mem_names_update h with rfl | h
      · exact Or.inr (by simp [names])
      · exact Or.inl h
    · exact Or.inr (by simp [names] at h ⊢; exact Or.inr h)

end Entries

structure ParameterSet where
  entries : Entries
  distinct : entries.names.Nodup
  named : ∀ n ∈ entries.names, isName n = true

namespace ParameterSet

def empty : ParameterSet := ⟨[], by simp [Entries.names], by simp [Entries.names]⟩

/-- Puts blobs under a name, in the place of those there. -/
def put (p : ParameterSet) (name : String) (h : isName name = true) (blobs : List Blob) :
    ParameterSet where
  entries := p.entries.update name fun _ => blobs
  distinct := Entries.nodup_update p.distinct
  named n hn := by
    rcases Entries.mem_names_update hn with rfl | hn
    · exact h
    · exact p.named n hn

def names (p : ParameterSet) : List String := p.entries.names

def get? (p : ParameterSet) (name : String) : Option (List Blob) := p.entries.lookup name

def size (p : ParameterSet) : Nat := p.entries.length

def isEmpty (p : ParameterSet) : Bool := p.entries.isEmpty

/-- Entry after entry of the second set added to the first. -/
def joined (p q : ParameterSet) : ParameterSet where
  entries := p.entries.merge q.entries
  distinct := Entries.nodup_merge _ _ p.distinct
  named n hn := (Entries.mem_names_merge hn).elim (p.named n) (q.named n)

/-- Both sets together, the blobs of the first before those of the second. Where one of them is
empty the other is taken as it is. -/
def merged (p q : ParameterSet) : ParameterSet :=
  if q.isEmpty then p else if p.isEmpty then q else p.joined q

/-- The number of blobs under all names. -/
def blobCount (p : ParameterSet) : Nat := (p.entries.flatMap (·.2)).length

/-- Each name with the number of its blobs in square brackets. -/
def shown (p : ParameterSet) : String :=
  "ParameterSet(" ++ Text.commaSeparated
    (p.entries.map fun e => e.1 ++ "[" ++ toString e.2.length ++ "]") ++ ")"

/-- The same blobs under the same names. -/
def same (p q : ParameterSet) : Bool :=
  p.size == q.size && p.entries.all fun e => q.get? e.1 == some e.2

/-- A number that equal sets share: the sum over the entries, whatever their order. -/
def digest (p : ParameterSet) : UInt64 :=
  (p.entries.map fun e => hash e).foldr (· + ·) 0

end ParameterSet

end KeyBundle
