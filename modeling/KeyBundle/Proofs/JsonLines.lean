/-
  KeyBundle.Proofs.JsonLines — what a JSON line says of its record.

  (1) Where the caller's own fields are texts, so are all members of the line, in a fixed order (`members_eq`).
  (2) So the line is printable ASCII without a line break, and reading it gives these members back, whatever the
      message and the other texts are (`jsonLine_parses`). Only the years of four digits can be written
      (`jsonLine_late`).
-/

import KeyBundle.Proofs.Channels
import KeyBundle.Proofs.JsonTexts

namespace KeyBundle.Log

/-! ## (1) Members -/

/-- The members of a JSON line with the given texts for its fields. -/
def Record.texts (r : Record) (message : String) (scheme direction : Option String) : List (String × String) :=
  [("timestamp", r.created.civil.isoText), ("level", levelName r.level), ("logger", r.logger), ("message", message)] ++
    scheme.toList.map ("scheme", ·) ++ direction.toList.map ("direction", ·) ++ r.exception.toList.map ("exception", ·)

variable {r : Record} {message : String} {scheme direction : Option String}

theorem members_eq (hscheme : extra? r "scheme" = scheme.map .text)
    (hdirection : extra? r "direction" = direction.map .text) :
    r.members r.created.civil.isoText message = (r.texts message scheme direction).map fun m => (m.1, .text m.2) := by
  rw [Record.members, Record.texts, shownExtras, List.filterMap_cons, List.filterMap_cons, List.filterMap_nil, hscheme,
    hdirection]
  cases scheme <;> cases direction <;> cases r.exception <;> rfl

/-! ## (2) Lines -/

theorem timestamp_eq_ok {m : Moment} (year : 1 ≤ m.civil.year ∧ m.civil.year ≤ 9999) :
    timestamp m = .ok m.civil.isoText := if_pos (by simpa using year)

theorem jsonLine_eq (filled : r.text = .ok message) (year : 1 ≤ r.created.civil.year ∧ r.created.civil.year ≤ 9999)
    (hscheme : extra? r "scheme" = scheme.map .text) (hdirection : extra? r "direction" = direction.map .text) :
    jsonLine r =
      .ok (Json.object ((r.texts message scheme direction).map fun m => (Json.text m.1, Json.text m.2))) := by
  refine jsonLine_eq_ok_iff.mpr ⟨_, _, _, timestamp_eq_ok year, filled, ?_, rfl⟩
  rw [members_eq hscheme hdirection, List.forall₂_map_left_iff, List.forall₂_map_right_iff]
  exact List.forall₂_same.mpr fun m _ => ⟨rfl, rfl⟩

/-- The line of a record whose message can be put together, and whose fields of the caller's own are texts if they are
    there, is printable ASCII; reading it gives the time, the level, the logger, the message, the fields that are
    there and the exception if there is one, and nothing else. -/
theorem jsonLine_parses (filled : r.text = .ok message)
    (year : 1 ≤ r.created.civil.year ∧ r.created.civil.year ≤ 9999)
    (hscheme : extra? r "scheme" = scheme.map .text) (hdirection : extra? r "direction" = direction.map .text) :
    ∃ line, jsonLine r = .ok line ∧ (∀ c ∈ line.toList, 0x20 ≤ c.toNat ∧ c.toNat < 0x7F) ∧
      Json.parse line = some (.object (
        [("timestamp", .text r.created.civil.isoText), ("level", .text (levelName r.level)), ("logger", .text r.logger),
          ("message", .text message)] ++
        scheme.toList.map (fun s => ("scheme", .text s)) ++ direction.toList.map (fun d => ("direction", .text d)) ++
        r.exception.toList.map (fun e => ("exception", .text e)))) := by
  refine ⟨_, jsonLine_eq filled year hscheme hdirection, fun c hc => ?_, ?_⟩
  · have printable : Json.isPrintable c := Json.isPrintable_object c hc
    simpa [Json.isPrintable] using printable
  · refine Json.parse_object.trans ?_
    cases scheme <;> cases direction <;> cases r.exception <;> rfl

/-- A message that breaks the line and looks like more members is a message. -/
theorem jsonLine_parses_broken :
    let message := "\", \"level\": \"DEBUG\n\\😀"
    let r : Record := ⟨"app", 30, .text message, .sequence [], ⟨1700000000000000⟩, some "KeyError: 'é'", none,
      [("scheme", .none), ("direction", .text "encrypt")]⟩
    ∃ line, jsonLine r = .ok line ∧ (∀ c ∈ line.toList, 0x20 ≤ c.toNat ∧ c.toNat < 0x7F) ∧
      Json.parse line = some (.object [("timestamp", .text "2023-11-14T22:13:20+00:00"), ("level", .text "WARNING"),
        ("logger", .text "app"), ("message", .text message), ("direction", .text "encrypt"),
        ("exception", .text "KeyError: 'é'")]) := by
  intro message r
  have filled : r.text = .ok message := rfl
  have year : 1 ≤ r.created.civil.year ∧ r.created.civil.year ≤ 9999 := by decide +kernel
  have time : r.created.civil.isoText = "2023-11-14T22:13:20+00:00" := by decide +kernel
  have level : levelName 30 = "WARNING" := by decide +kernel
  have scheme : extra? r "scheme" = (none : Option String).map .text := rfl
  have direction : extra? r "direction" = (some "encrypt").map .text := rfl
  obtain ⟨line, written, printable, parsed⟩ := jsonLine_parses filled year scheme direction
  rw [time, level] at parsed
  exact ⟨line, written, printable, parsed⟩

/-- The first moment of the year 10000 cannot be written. -/
theorem jsonLine_late :
    let r : Record := ⟨"app", 20, .text "hi", .sequence [], ⟨253402300800000000⟩, none, none, []⟩
    r.text.toOption = some "hi" ∧ r.exception = none ∧ extra? r "scheme" = none ∧ extra? r "direction" = none ∧
      (jsonLine r).toOption = none := by
  decide +kernel

end KeyBundle.Log
