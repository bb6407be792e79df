/-
  KeyBundle.Proofs.Appending — what a handler does to the texts of a volume.

  A text goes by its number, whatever names its file gets. Making folders, opening, renaming,
  removing and rotating files change names only (`SameTexts`, one lemma for each operation). So an
  attempt to write a line leaves every text as it is, or adds the line to the end of it, and does
  the former where it fails (`adds_write`).
-/

import KeyBundle.Log.Logger
import KeyBundle.Proofs.Lookup
import KeyBundle.Proofs.Steps

namespace KeyBundle.Log

/-! ## Texts -/

theorem textOf_append (v : Volume) (n m : Nat) (s : String) :
    (v.append n s).textOf m = v.textOf m ∨ (v.append n s).textOf m = v.textOf m ++ s := by
  unfold Volume.append Volume.textOf
  simp only [lookup_change n (· ++ s)]
  by_cases h : m = n
  · rw [if_pos h]
    cases v.texts.lookup m with
    | none => exact .inl rfl
    | some t => exact .inr rfl
  · rw [if_neg h]
    exact .inl rfl

/-- The texts are those under the numbers, as told beforehand. -/
def Reads (t : Nat → String) (v : Volume) : Prop := ∀ n, v.textOf n = t n

namespace Disk

variable {t : Nat → String}

theorem reads_refuse {α : Type} (p : Path) (refusal : FileRefusal) : Keeps (Reads t) (refuse (α := α) p refusal) :=
  .throw _

theorem reads_find (p : Path) : Keeps (Reads t) (find p) := by
  refine .bind .get fun v => ?_
  split
  · exact .pure _
  · exact reads_refuse _ _

theorem reads_openFile (p : Path) : Keeps (Reads t) (openFile p) := by
  refine .bind (reads_find p) fun found => .get_bind fun v hv => ?_
  split
  · exact .pure _
  · have made : Reads t ⟨v.files ++ [(p, v.next)], v.texts ++ [(v.next, "")], v.folders, v.next + 1⟩ := by
      intro n
      rw [← hv n]
      unfold Volume.textOf
      rw [lookup_concat]
      cases v.texts.lookup n with
      | some s => rfl
      | none =>
        rw [Option.none_or]
        split <;> rfl
    split
    · exact .throw_bind _ _
    · exact .bind (.set made) fun _ => .pure _

theorem reads_remove (p : Path) : Keeps (Reads t) (remove p) := by
  refine .bind (reads_find p) fun found => ?_
  split
  · exact .throw_bind _ _
  · refine .bind .get fun v => ?_
    split
    · exact .throw_bind _ _
    · exact .update fun _ h => h

theorem reads_rename (source target : Path) : Keeps (Reads t) (rename source target) := by
  refine .bind (reads_find source) fun found => ?_
  split
  · exact .throw_bind _ _
  · refine .bind (reads_find target) fun taken => ?_
    split
    · exact .throw_bind _ _
    · exact .update fun _ h => h

theorem reads_shift (source target : Path) : Keeps (Reads t) (shift source target) := by
  refine .bind .get fun v => ?_
  split
  · refine .bind .get fun v => ?_
    split
    · exact .bind (reads_remove target) fun _ => reads_rename source target
    · exact reads_rename source target
  · exact .pure _

theorem reads_rotate (p : Path) (backups : Nat) : Keeps (Reads t) (rotate p backups) := by
  unfold rotate
  split
  · exact .pure _
  · refine .bind (.forM (fun n => reads_shift _ _) _) fun _ => .bind .get fun v => ?_
    have last : Keeps (Reads t) (do if (← get).holds p then rename p (keptName p 1)) := by
      refine .bind .get fun w => ?_
      split
      · exact reads_rename _ _
      · exact .pure _
    split
    · exact .bind (reads_remove _) fun _ => last
    · exact last

end Disk

/-! ## Attempts -/

namespace Attempt

variable {α β : Type}

/-- The attempt leaves every text as it is. -/
def Quiet (a : Attempt α) : Prop := ∀ s n, (a.run.run s).2.2.textOf n = s.2.textOf n

theorem Quiet.pure (a : α) : Quiet (Pure.pure a) := fun _ _ => rfl

theorem Quiet.fail : Quiet (failure : Attempt α) := fun _ _ => rfl

theorem Quiet.get : Quiet (MonadState.get : Attempt (Target × Volume)) := fun _ _ => rfl

theorem Quiet.update {f : Target × Volume → Target × Volume} (h : ∀ s n, (f s).2.textOf n = s.2.textOf n) :
    Quiet (modify f) := h

theorem run_bind (a : Attempt α) (f : α → Attempt β) (s : Target × Volume) :
    (a >>= f).run.run s = match a.run.run s with
      | (some x, t) => (f x).run.run t
      | (none, t) => (none, t) := by
  simp only [OptionT.run_bind, Option.elimM, StateT.run_bind]
  rcases a.run.run s with ⟨_ | _, _⟩ <;> rfl

theorem Quiet.bind {a : Attempt α} {f : α → Attempt β} (ha : Quiet a) (hf : ∀ x, Quiet (f x)) : Quiet (a >>= f) := by
  intro s n
  have h := ha s n
  rw [run_bind]
  rcases hx : a.run.run s with ⟨_ | x, t⟩ <;> rw [hx] at h
  · exact h
  · exact (hf x t n).trans h

theorem run_onDisk (d : Disk α) (t : Target) (v : Volume) :
    ((onDisk d).run.run (t, v)).2 = (t, (exec d v).2) := by
  have got : (get : Attempt (Target × Volume)).run.run (t, v) = (some (t, v), t, v) := rfl
  rcases hx : exec d v with ⟨r, w⟩
  have ran : d.run v = (r, w) := hx
  unfold onDisk
  rw [run_bind, got]
  simp only [ran]
  cases r <;> rfl

theorem quiet_onDisk {d : Disk α} (h : ∀ t, Keeps (Reads t) d) : Quiet (onDisk d) := by
  intro s n
  rw [run_onDisk]
  exact h s.2.textOf s.2 (fun _ => rfl) n

theorem quiet_openText : Quiet openText := by
  refine .bind .get fun s => ?_
  obtain ⟨t, v⟩ := s
  dsimp only
  split
  · exact .pure _
  · exact .bind (quiet_onDisk fun _ => Disk.reads_openFile _) fun n => .bind (.update fun _ _ => rfl) fun _ => .pure _

theorem quiet_turnOver : Quiet turnOver := by
  refine .bind (.update fun _ _ => rfl) fun _ => .bind .get fun s => ?_
  have reopened : Quiet (do let _ ← openText) := .bind quiet_openText fun _ => .pure _
  obtain ⟨t, v⟩ := s
  dsimp only
  split
  · exact .bind .fail fun _ => reopened
  · exact .bind (quiet_onDisk fun _ => Disk.reads_rotate _ _) fun _ => reopened

/-- The attempt adds the line to a text or leaves it as it is. It fails without a line, and where it fails it
    leaves all texts as they are. -/
structure Adds (text? : Option String) (a : Attempt α) : Prop where
  line : ∀ s, (a.run.run s).1.isSome → text?.isSome
  texts : ∀ s n, (a.run.run s).2.2.textOf n = s.2.textOf n ∨
    ∃ text, text? = some text ∧ (a.run.run s).1.isSome ∧ (a.run.run s).2.2.textOf n = s.2.textOf n ++ text

theorem Quiet.bind_adds {a : Attempt α} {f : α → Attempt β} {text? : Option String} (ha : Quiet a)
    (hf : ∀ x, Adds text? (f x)) : Adds text? (a >>= f) where
  line s h := by
    rw [run_bind] at h
    rcases hx : a.run.run s with ⟨_ | x, t⟩ <;> rw [hx] at h
    · cases h
    · exact (hf x).line t h
  texts s n := by
    have h := ha s n
    rw [run_bind]
    rcases hx : a.run.run s with ⟨_ | x, t⟩ <;> rw [hx] at h
    · exact .inl h
    · rw [← h]
      exact (hf x).texts t n

theorem adds_addText (text? : Option String) : Adds text? (addText text?) := by
  refine quiet_openText.bind_adds fun n => ?_
  cases text? with
  | none => exact ⟨fun _ h => (nomatch h), fun _ _ => .inl rfl⟩
  | some text =>
    refine ⟨fun _ _ => rfl, fun s m => ?_⟩
    rcases textOf_append s.2 n m text with h | h
    · exact .inl h
    · exact .inr ⟨text, rfl, rfl, h⟩

theorem adds_write (text? : Option String) : Adds text? (write text?) := by
  refine Quiet.get.bind_adds fun s => ?_
  obtain ⟨t, v⟩ := s
  dsimp only
  split
  · refine quiet_openText.bind_adds fun n => ?_
    cases text? with
    | none => exact Quiet.bind_adds .fail fun _ => adds_addText none
    | some text =>
      refine Quiet.get.bind_adds fun s => ?_
      split
      · exact quiet_turnOver.bind_adds fun _ => adds_addText (some text)
      · exact adds_addText (some text)
  · exact adds_addText text?

end Attempt

end KeyBundle.Log
