/-
  KeyBundle.Proofs.Handlers — which handlers a logger has.

  A set-up gives a logger without handlers the console handler and the file handler that are wanted, in this order.
  It leaves one with handlers alone, so handlers are never added to others that are there already; where the file
  cannot be opened, the console handler stays alone, as if no file had been wanted.

  (1) The handlers of a logger are at all times those that some set-up wants (`Equipped`), also after set-ups that fail
      half way (`keeps_equipped`). There is little more to say of them (`Orderly`).
  (2) So in every session a logger has one console handler and one file handler at most, the console handler first,
      and each of them takes everything from the level of debugging on and filters it once (`handlers_orderly`).
-/

import KeyBundle.Proofs.Sessions

namespace KeyBundle

namespace Log

/-! ## (1) What handlers there are -/

section

variable {j k : Journal}

/-- Each logger has the handlers that some set-up wants, and no others. -/
def Journal.Equipped (j : Journal) : Prop := ∀ name, ∃ w : Wanted, j.outlines name = w.outlines

theorem lasting_equipped : Lasting Journal.Equipped :=
  .of_profile fun _ _ same h name => (h name).imp fun _ hw => (congrArg (·.2.1) (same name)).trans hw

/-- A logger without handlers is what a set-up wants that wants none. -/
theorem exists_wanted_nil : ∃ w : Wanted, w.outlines = [] :=
  ⟨⟨.none, .none, .none, .none, .none, .none, .none⟩, rfl⟩

theorem Journal.Equipped.update (h : j.Equipped) {l : Logger} (hl : ∃ w : Wanted, l.outlines = w.outlines)
    (hk : k.logger = Function.update j.logger name l) : k.Equipped := by
  intro m
  unfold Journal.outlines
  rw [hk, Function.update_apply]
  split
  · exact hl
  · exact h m

theorem keeps_equipped (w : Wanted) : Keeps Journal.Equipped (setUp w) := by
  intro j hj
  obtain same | ⟨name, l, fitted, changed⟩ := setUp_cases w j
  · intro m
    rw [Journal.outlines, same]
    exact hj m
  · exact hj.update fitted.wanted changed

theorem equipped_clearPackageLogger : Keeps Journal.Equipped clearPackageLogger := by
  intro j hj
  obtain ⟨w, hw⟩ := exists_wanted_nil
  exact hj.update (l := { j.logger packageLogger with handlers := [] }) ⟨w, hw.symm⟩ (logger_update _ _ _)

/-- What there is to say of the handlers of a logger, as they stand. -/
structure Orderly (hs : List Handler) : Prop where
  level : ∀ h ∈ hs, levels.lookup "DEBUG" = some h.level
  filters : ∀ h ∈ hs, h.filters = [.secure]
  console : (hs.filter (·.sink.isConsole)).length ≤ 1
  file : (hs.filter (!·.sink.isConsole)).length ≤ 1
  first : hs.Pairwise fun g h => h.sink.isConsole → g.sink.isConsole

theorem orderly_of_outlines {hs : List Handler} {w : Wanted} (h : hs.map (·.outline) = w.outlines) : Orderly hs := by
  have console : w.onConsole = [] ∨ w.onConsole = [⟨true, 10, [.secure], .console⟩] := by
    unfold Wanted.onConsole
    split
    · exact .inr rfl
    · exact .inl rfl
  have file : w.inFile = [] ∨ ∃ format, w.inFile = [⟨false, 10, [.secure], format⟩] := by
    unfold Wanted.inFile
    split
    · exact .inr ⟨_, rfl⟩
    · exact .inl rfl
  have one {h : Handler} {b : Bool} {format : LineFormat} (ho : h.outline = ⟨b, 10, [.secure], format⟩) :
      h.sink.isConsole = b ∧ h.level = 10 ∧ h.filters = [.secure] := by
    simp only [Handler.outline, Outline.mk.injEq] at ho
    exact ⟨ho.1, ho.2.1, ho.2.2.1⟩
  have debug : levels.lookup "DEBUG" = some 10 := by decide
  unfold Wanted.outlines at h
  rcases console with hc | hc <;> rcases file with hf | ⟨format, hf⟩ <;> rw [hc, hf] at h
  · rw [List.map_eq_nil_iff.mp h]
    constructor <;> simp
  · obtain ⟨f, rfl, hf⟩ := List.map_eq_singleton_iff.mp h
    constructor <;> simp [one hf, debug]
  · obtain ⟨c, rfl, hc⟩ := List.map_eq_singleton_iff.mp h
    constructor <;> simp [one hc, debug]
  · obtain ⟨c, fs, rfl, hc, hfs⟩ := List.map_eq_cons_iff.mp h
    obtain ⟨f, rfl, hf⟩ := List.map_eq_singleton_iff.mp hfs
    constructor <;> simp [one hc, one hf, debug]

end

end Log

namespace Session

open Log

/-! ## (2) Sessions -/

theorem equipped_after (mode : Mode) (env : Environment) (entries : List Entry) :
    (after entries (start mode env)).journal.Equipped := by
  refine List.foldlRecOn (motive := Has Journal.Equipped) entries (fun s e => (runEntry e s).2) ?_ fun s hs e _ => ?_
  · intro name
    obtain ⟨w, hw⟩ := exists_wanted_nil
    exact ⟨w, (outlines_start mode env name).trans hw.symm⟩
  · exact has_runEntry lasting_equipped (keeps_step lasting_equipped e.step
      (fun op args _ given => keeps_perform keeps_equipped (fun _ => equipped_clearPackageLogger) given) s hs)

/-- In every session, whatever set-ups succeed or fail in it, each handler takes everything from the level of
    debugging on and filters it once, and a logger has one console handler and one file handler at most, the console
    handler first. -/
theorem handlers_orderly (mode : Mode) (env : Environment) (entries : List Entry) (name : String) :
    Orderly ((after entries (start mode env)).journal.logger name).handlers := by
  obtain ⟨w, hw⟩ := equipped_after mode env entries name
  exact orderly_of_outlines hw

end Session

end KeyBundle
