/-
  KeyBundle.Proofs.Opening — files that have been opened stay open to be opened again.

  (1) Whether a name can be told depends on the folders above it alone (`Volume.find_eq_ok_iff`), so folders and files
      that come to be make no name unreachable.
  (2) A folder that has been made is there, and so is a file that has been opened; to make or open it once more changes
      nothing (`exec_makeFolder`, `exec_openFile`).
  (3) So a log file that has been opened is opened again with the same text, and no logger is touched
      (`of_openTarget`, `exec_openTarget`).
-/

import KeyBundle.Log.Setup
import KeyBundle.Proofs.Lookup
import KeyBundle.Proofs.Steps

namespace KeyBundle.Log

/-! ## (1) Names -/

namespace Volume

/-- The way to a name is there: it is not too long, and the folders above it are there. -/
structure Reaches (v : Volume) (p : Path) : Prop where
  path : p.text.utf8ByteSize ≤ maxPathBytes
  above : ∀ q ∈ p.above, hasLongName q = false ∧ v.isFolder q = true
  name : hasLongName p = false

variable {v w : Volume} {p : Path} {b : Bool}

theorem blockedAbove_eq_none_iff :
    v.blockedAbove p = none ↔ ∀ q ∈ p.above, hasLongName q = false ∧ v.isFolder q = true := by
  rw [blockedAbove, List.findSome?_eq_none_iff]
  refine forall₂_congr fun q _ => ?_
  cases hasLongName q <;> cases v.isFolder q <;> cases v.isFile q <;> simp

theorem find_eq_ok_iff : v.find p = .ok b ↔ v.Reaches p ∧ b = (v.isFile p || v.isFolder p) := by
  unfold find
  split
  · next long => exact ⟨nofun, fun h => absurd h.1.path (by omega)⟩
  · next short =>
    cases blocked : v.blockedAbove p with
    | some refusal =>
      refine ⟨nofun, fun h => ?_⟩
      rw [blockedAbove_eq_none_iff.mpr h.1.above] at blocked
      cases blocked
    | none =>
      dsimp only
      split
      · next long => exact ⟨nofun, fun h => by rw [h.1.name] at long; cases long⟩
      · next name =>
        have reaches : v.Reaches p :=
          ⟨Nat.le_of_not_lt short, blockedAbove_eq_none_iff.mp blocked, Bool.eq_false_iff.mpr name⟩
        simp [reaches, eq_comm]

/-- More folders make no name unreachable. -/
theorem Reaches.mono (h : v.Reaches p) (more : v.folders ⊆ w.folders) : w.Reaches p := by
  refine ⟨h.path, fun q hq => ⟨(h.above q hq).1, ?_⟩, h.name⟩
  have there := (h.above q hq).2
  simp only [isFolder, Bool.or_eq_true, List.contains_iff_mem] at there ⊢
  exact there.imp_right (more ·)

end Volume

/-! ## (2) Folders and files -/

section

variable {v w : Volume} {p : Path} {n : Nat}

theorem exec_find (p : Path) (v : Volume) : exec (Disk.find p) v =
    ((v.find p).mapError (⟨·, p⟩), v) := by
  unfold Disk.find
  rw [exec_bind_ok (exec_get _)]
  cases v.find p <;> rfl

/-- The name is that of a folder, and can be reached. -/
def Volume.HasFolder (v : Volume) (p : Path) : Prop := v.Reaches p ∧ v.isFolder p = true

/-- The name is that of a file with this text, and can be reached. -/
def Volume.HasFile (v : Volume) (p : Path) (n : Nat) : Prop := v.Reaches p ∧ v.fileAt? p = some n

theorem Volume.HasFolder.find (h : v.HasFolder p) : v.find p = .ok true :=
  find_eq_ok_iff.mpr ⟨h.1, by rw [h.2, Bool.or_true]⟩

theorem Volume.HasFile.find (h : v.HasFile p n) : v.find p = .ok true :=
  find_eq_ok_iff.mpr ⟨h.1, by rw [isFile, h.2]; rfl⟩

theorem of_ensureFolder (h : exec (Disk.ensureFolder p) v = (.ok (), w)) : w.HasFolder p := by
  unfold Disk.ensureFolder at h
  obtain ⟨found, v', hfind, hrest⟩ := of_exec_bind h
  rw [exec_find] at hfind
  cases hv : v.find p with
  | error refusal =>
    rw [hv] at hfind
    cases hfind
  | ok b =>
    rw [hv] at hfind
    cases hfind
    obtain ⟨reaches, -⟩ := Volume.find_eq_ok_iff.mp hv
    cases found with
    | true =>
      simp only [if_true] at hrest
      rw [exec_bind_ok (exec_get _)] at hrest
      split at hrest
      · cases hrest
      · next there =>
        cases hrest
        exact ⟨reaches, by simpa using there⟩
    | false =>
      cases hrest
      exact ⟨reaches.mono (List.subset_append_left _ _), by simp [Volume.isFolder]⟩

theorem exec_ensureFolder (h : v.HasFolder p) : exec (Disk.ensureFolder p) v = (.ok (), v) := by
  unfold Disk.ensureFolder
  rw [exec_bind_ok (by rw [exec_find, h.find]; rfl), if_pos rfl, exec_bind_ok (exec_get _), h.2]
  rfl

theorem of_makeFolder (h : exec (Disk.makeFolder p) v = (.ok (), w)) : w.HasFolder p := by
  obtain ⟨root, parts⟩ := p
  unfold Disk.makeFolder at h
  cases hparts : parts.reverse with
  | nil =>
    rw [hparts] at h
    cases List.reverse_eq_nil_iff.mp hparts
    exact of_ensureFolder h
  | cons part rest =>
    -- whatever is made above, the folder itself comes last
    rw [hparts, Disk.ensureFrom, ← hparts, List.reverse_reverse] at h
    obtain ⟨v', v'', -, h⟩ := of_exec_bind h
    split at h
    · obtain ⟨_, u, -, h⟩ := of_exec_bind h
      exact of_ensureFolder h
    · exact of_ensureFolder h

theorem exec_makeFolder (h : v.HasFolder p) : exec (Disk.makeFolder p) v = (.ok (), v) := by
  obtain ⟨root, parts⟩ := p
  unfold Disk.makeFolder
  cases hparts : parts.reverse with
  | nil =>
    cases List.reverse_eq_nil_iff.mp hparts
    exact exec_ensureFolder h
  | cons part rest =>
    rw [Disk.ensureFrom, ← hparts, List.reverse_reverse, exec_bind_ok (exec_get _), h.find]
    exact exec_ensureFolder h

theorem of_openFile (h : exec (Disk.openFile p) v = (.ok n, w)) : w.HasFile p n ∧ w.folders = v.folders := by
  unfold Disk.openFile at h
  obtain ⟨found, v', hfind, h⟩ := of_exec_bind h
  rw [exec_find] at hfind
  cases hv : v.find p with
  | error refusal =>
    rw [hv] at hfind
    cases hfind
  | ok b =>
    rw [hv] at hfind
    cases hfind
    obtain ⟨reaches, -⟩ := Volume.find_eq_ok_iff.mp hv
    rw [exec_bind_ok (exec_get _)] at h
    split at h
    · next there =>
      cases h
      exact ⟨⟨reaches, there⟩, rfl⟩
    · next absent =>
      split at h
      · cases h
      · cases h
        refine ⟨⟨reaches.mono (List.Subset.refl _), ?_⟩, rfl⟩
        rw [Volume.fileAt?] at absent ⊢
        rw [lookup_concat, absent, if_pos rfl]
        rfl

theorem exec_openFile (h : v.HasFile p n) : exec (Disk.openFile p) v = (.ok n, v) := by
  unfold Disk.openFile
  rw [exec_bind_ok (by rw [exec_find, h.find]; rfl), exec_bind_ok (exec_get _), h.2]
  rfl

end

/-! ## (3) Targets -/

section

variable {path : Path} {maxFileSize backupCount : Value} {t : Target} {j k : Journal}

theorem exec_onVolume {α : Type} (d : Disk α) (j : Journal) : exec (onVolume d) j =
    ((exec d j.volume).1.mapError .file, { j with volume := (exec d j.volume).2 }) := by
  unfold onVolume
  rw [exec_bind_ok (exec_get _)]
  change exec (ofExcept ((exec d j.volume).1.mapError .file) : Setup α) { j with volume := (exec d j.volume).2 } = _
  rw [exec_ofExcept]

theorem of_exec_onVolume {α : Type} {d : Disk α} {a : α} (h : exec (onVolume d) j = (.ok a, k)) :
    exec d j.volume = (.ok a, k.volume) ∧ k = { j with volume := k.volume } := by
  rw [exec_onVolume, Prod.mk.injEq] at h
  obtain ⟨ha, rfl⟩ := h
  refine ⟨?_, rfl⟩
  rcases hd : exec d j.volume with ⟨f | b, v⟩
  · rw [hd] at ha
    cases ha
  · rw [hd] at ha
    cases ha
    rfl

/-- What there is to say of a log file that has been opened at a path. -/
structure Opened (v : Volume) (path : Path) (maxFileSize backupCount : Value) (t : Target) : Prop where
  level : path.climbs = false
  noNul : '\x00' ∉ (resolved path).text.toList
  size : sizeOf maxFileSize = .ok t.maxBytes
  place : t.path = resolved path
  backups : t.backups = backupCount
  folder : v.HasFolder (resolved path).parent
  file : ∃ n, t.file? = some n ∧ v.HasFile (resolved path) n

theorem of_openTarget (h : exec (openTarget path maxFileSize backupCount) j = (.ok t, k)) :
    k = { j with volume := k.volume } ∧ Opened k.volume path maxFileSize backupCount t := by
  unfold openTarget at h
  split at h
  · cases h
  · next level =>
    dsimp only at h
    split at h
    · cases h
    · next noNul =>
      obtain ⟨_, j₁, hmake, h⟩ := of_exec_bind h
      obtain ⟨_, j₂, hsize, h⟩ := of_exec_bind h
      obtain ⟨n, j₃, hopen, h⟩ := of_exec_bind h
      cases h
      obtain ⟨hmake, first⟩ := of_exec_onVolume hmake
      obtain ⟨size, rfl⟩ := eq_ok_of_exec_ofExcept hsize
      obtain ⟨hopen, second⟩ := of_exec_onVolume hopen
      obtain ⟨file, folders⟩ := of_openFile hopen
      have folder := of_makeFolder hmake
      refine ⟨by rw [second, first], by simpa using level, by simpa using noNul, size, rfl, rfl, ⟨?_, ?_⟩, n, rfl, file⟩
      · exact folder.1.mono (by rw [folders]; exact List.Subset.refl _)
      · rw [Volume.isFolder, folders]
        exact folder.2

/-- A log file that has been opened is opened again, and nothing changes. -/
theorem exec_openTarget (h : Opened j.volume path maxFileSize backupCount t) :
    exec (openTarget path maxFileSize backupCount) j = (.ok t, j) := by
  obtain ⟨n, hn, file⟩ := h.file
  unfold openTarget
  rw [if_neg (by simp [h.level])]
  dsimp only
  rw [if_neg (by simp [h.noNul]), exec_bind_ok (by rw [exec_onVolume, exec_makeFolder h.folder]; rfl),
    exec_bind_ok (by rw [exec_ofExcept, h.size]), exec_bind_ok (by rw [exec_onVolume, exec_openFile file]; rfl)]
  obtain ⟨path', file?, maxBytes, backups⟩ := t
  cases h.place
  cases h.backups
  cases hn
  rfl

end

end KeyBundle.Log
