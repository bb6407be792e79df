/-
  KeyBundle.Proofs.Identity — what the text that identifies settings says of them.

  The name of a directory stands between quotes in the middle of that text, and may imitate what follows it.

  (1) The text of an absolute path tells the path (`RawPath.text_inj`), be it of raw text or not (`RawPath.text_ofPath`).
  (2) The form of each field ends by itself, the limit's at the bracket behind its digits (`delimited_decimal`), the
      directory's with its quotes (`delimited_dirText`). So the text tells the fields (`RawSettings.identity_inj`).
  (3) So settings have one text exactly if they agree, and whatever the directory is, that text can be written in UTF-8
      (`identity_identifies`).
-/

import KeyBundle.Build.Settings
import KeyBundle.Proofs.Exporting
import KeyBundle.Proofs.RawTexts
import KeyBundle.Settings.Undecoded

namespace KeyBundle

open Text RawText

/-! ## (1) Paths -/

namespace RawPath

variable {p q : RawPath}

/-- The parts are such as stand between slashes. -/
def IsSplit (p : RawPath) : Prop := ∀ part ∈ p.parts, part ≠ [] ∧ slash ∉ part

/-- How many slashes stand first, and what stands between the slashes behind them. -/
def layout (p : RawPath) : Nat × List RawText :=
  match p.root with
  | .relative => (0, p.parts)
  | .slash => (1, p.parts)
  | .doubleSlash => (2, p.parts)
  | .scratch => (0, ofString PathRoot.scratch.text :: p.parts)

theorem text_eq (h : p.isAbsolute = true) : p.text = List.replicate p.layout.1 slash ++ joined p.layout.2 := by
  obtain ⟨root, parts⟩ := p
  cases root with
  | relative => cases h
  | slash => exact congrArg (· ++ joined parts) (by decide : ofString PathRoot.slash.text = [slash])
  | doubleSlash => exact congrArg (· ++ joined parts) (by decide : ofString PathRoot.doubleSlash.text = [slash, slash])
  | scratch => cases parts <;> rfl

theorem split_layout (h : p.IsSplit) : ∀ part ∈ p.layout.2, part ≠ [] ∧ slash ∉ part := by
  obtain ⟨root, parts⟩ := p
  cases root with
  | scratch => exact List.forall_mem_cons.mpr ⟨by decide, h⟩
  | _ => exact h

theorem layout_inj (hp : p.isAbsolute = true) (hq : q.isAbsolute = true) (same : p.layout = q.layout) : p = q := by
  obtain ⟨root, parts⟩ := p
  obtain ⟨root', parts'⟩ := q
  cases root <;> cases root' <;> simp_all [layout, isAbsolute]

theorem text_inj (hp : p.isAbsolute = true) (hq : q.isAbsolute = true) (split : p.IsSplit) (split' : q.IsSplit)
    (same : p.text = q.text) : p = q := by
  rw [text_eq hp, text_eq hq] at same
  obtain ⟨slashes, parts⟩ := separated_inj (split_layout split) (split_layout split') same
  exact layout_inj hp hq (Prod.ext slashes parts)

theorem joined_ofString (parts : List String) : joined (parts.map ofString) = ofString ("/".intercalate parts) := by
  induction parts with
  | nil => rfl
  | cons first rest ih =>
    cases rest with
    | nil => rw [List.map_singleton, joined, List.intercalate_singleton, String.intercalate_singleton]
    | cons second rest =>
      rw [String.intercalate_cons_cons, ofString_append, ofString_append, ← ih]
      exact List.intercalate_cons_cons

theorem text_ofPath (p : Path) : (ofPath p).text = ofString p.text := by
  obtain ⟨root, parts⟩ := p
  cases root with
  | relative =>
    cases parts with
    | nil => rfl
    | cons first rest => exact (congrArg _ (joined_ofString _)).trans (ofString_append _ _).symm
  | scratch =>
    cases parts with
    | nil => rfl
    | cons first rest => exact joined_ofString (PathRoot.scratch.text :: first :: rest)
  | _ => exact (congrArg _ (joined_ofString _)).trans (ofString_append _ _).symm

theorem ofPath_injective : Function.Injective ofPath := by
  rintro ⟨root, parts⟩ ⟨root', parts'⟩ same
  obtain ⟨roots, parts⟩ := RawPath.mk.inj same
  exact congrArg₂ Path.mk roots (ofString_injective.list_map parts)

end RawPath

namespace Session

/-- What a session reads as a path has plain parts. -/
theorem plain_reader (mode : Mode) (t : String) : ∀ part ∈ (reader mode t).parts, Path.IsPlain part := by
  cases mode with
  | writing => exact Path.plain_ofRunText t
  | notices => exact Path.plain_partsOf _

end Session

/-! ## (2) Fields -/

theorem delimited_decimal : Delimited fun n : Nat => ofString (toString n) ++ ofString ")" := by
  have read (n : Nat) (w : RawText) :
      (ofString (toString n) ++ ofString ")" ++ w).takeWhile (· != .ofChar ')') = ofString (toString n) := by
    have digits : ∀ p ∈ ofString (toString n), (p != .ofChar ')') = true := by
      refine List.forall_mem_map.mpr fun c hc => bne_iff_ne.mpr fun same => ?_
      obtain rfl := CodePoint.ofChar_inj.mp same
      rw [Nat.toString_eq_ofList_toDigits, String.toList_ofList] at hc
      exact absurd (Nat.isDigit_of_mem_toDigits (by decide) (by decide) hc) (by decide)
    rw [List.append_assoc, List.takeWhile_append_of_pos digits]
    exact List.append_nil _
  intro m n u v same
  have digits : toString m = toString n := ofString_injective (by rw [← read m u, same, read])
  obtain rfl : m = n := by
    rw [Nat.toString_eq_ofList_toDigits, Nat.toString_eq_ofList_toDigits, String.ofList_inj] at digits
    rw [← Number.digitsValue_toDigits m, digits, Number.digitsValue_toDigits]
  exact ⟨rfl, List.append_cancel_left same⟩

theorem delimited_boolText : Delimited fun b => ofString (LoggingConfig.boolText b) := by
  intro a b u v same
  cases a <;> cases b
  case false.false | true.true => exact ⟨rfl, List.append_cancel_left same⟩
  all_goals exact absurd (List.cons.inj same).1 (by decide)

namespace RawLogging

variable {c d : RawLogging}

theorem delimited_dirText : Delimited dirText := by
  have quoted := delimited_quoted.between (ofString "PosixPath(") (ofString ")")
  have some_eq (text : RawText) : dirText (some text) = ofString "PosixPath(" ++ RawText.quoted text ++ ofString ")" := by
    simp [dirText]
  rintro (_ | text) (_ | text') u v same
  · exact ⟨rfl, List.append_cancel_left same⟩
  · exact absurd (List.cons.inj same).1 (by decide)
  · exact absurd (List.cons.inj same).1 (by decide)
  · rw [some_eq, some_eq] at same
    obtain ⟨rfl, rest⟩ := quoted _ _ u v same
    exact ⟨rfl, rest⟩

theorem shown_inj (same : c.shown = d.shown) : c.level = d.level ∧ c.enableConsole = d.enableConsole ∧
    c.logDir.map RawPath.text = d.logDir.map RawPath.text ∧ c.enableJson = d.enableJson := by
  simp only [shown, List.flatten_cons] at same
  obtain ⟨level, same⟩ := delimited_quoted _ _ _ _ (List.append_cancel_left same)
  obtain ⟨console, same⟩ := delimited_boolText _ _ _ _ (List.append_cancel_left same)
  obtain ⟨dir, same⟩ := delimited_dirText _ _ _ _ (List.append_cancel_left same)
  obtain ⟨json, -⟩ := delimited_boolText _ _ _ _ (List.append_cancel_left same)
  exact ⟨ofString_injective level, console, dir, json⟩

end RawLogging

namespace RawSettings

/-- The limit is a whole number from one on whose digits can be read, the level is one of the five names, and the
    directory, if there is one, is an absolute path in normal form. -/
structure Portable (s : RawSettings) : Prop where
  limit : ∃ n : Nat, s.limits.maxModules = .int n ∧ 1 ≤ n ∧ n < 10 ^ Number.maxDigits
  level : s.logging.level ∈ levelNames
  logDir : ∀ path ∈ s.logging.logDir, path.isAbsolute = true ∧ path.IsSplit

variable {s t : RawSettings}

theorem identity_eq {n : Nat} (h : s.limits.maxModules = .int n) : s.identity =
    ofString "LimitsConfig(max_pkcs11_encrypt_modules=" ++
      ((ofString (toString n) ++ ofString ")") ++ (ofString "|" ++ s.logging.shown)) := by
  have limits : s.limits.shown ++ "|" = "LimitsConfig(max_pkcs11_encrypt_modules=" ++ toString n ++ ")" ++ "|" := by
    rw [Limits.shown, h]
    rfl
  rw [identity, limits]
  simp only [ofString_append, List.append_assoc]

theorem identity_inj (hs : s.Portable) (ht : t.Portable) (same : s.identity = t.identity) :
    s.limits = t.limits ∧ s.logging = t.logging := by
  obtain ⟨m, limit, -⟩ := hs.limit
  obtain ⟨n, limit', -⟩ := ht.limit
  rw [identity_eq limit, identity_eq limit'] at same
  obtain ⟨rfl, rest⟩ := delimited_decimal m n _ _ (List.append_cancel_left same)
  obtain ⟨level, console, dir, json⟩ := RawLogging.shown_inj (List.append_cancel_left rest)
  have dir : s.logging.logDir = t.logging.logDir := by
    cases hdir : s.logging.logDir with
    | none =>
      rw [hdir, Option.map_none] at dir
      exact (Option.map_eq_none_iff.mp dir.symm).symm
    | some p =>
      rw [hdir, Option.map_some] at dir
      obtain ⟨q, hdir', texts⟩ := Option.map_eq_some_iff.mp dir.symm
      obtain ⟨hp, split⟩ := hs.logDir p hdir
      obtain ⟨hq, split'⟩ := ht.logDir q hdir'
      rw [hdir', RawPath.text_inj hp hq split split' texts.symm]
  exact ⟨congrArg Limits.mk (limit.trans limit'.symm), RawLogging.ext level console dir json⟩

end RawSettings

/-! ## (3) Settings -/

namespace RawLogging

theorem isText_dirText (text : Option RawText) : IsText (dirText text) := by
  cases text with
  | none => exact isText_ofChars _
  | some text =>
    refine isText_flatten ?_
    simp only [List.forall_mem_cons]
    exact ⟨isText_ofChars _, isText_quoted _, isText_ofChars _, nofun⟩

theorem isText_shown (c : RawLogging) : IsText c.shown := by
  refine isText_flatten ?_
  simp only [List.forall_mem_cons]
  exact ⟨isText_ofChars _, isText_quoted _, isText_ofChars _, isText_ofChars _, isText_ofChars _, isText_dirText _,
    isText_ofChars _, isText_ofChars _, isText_ofChars _, nofun⟩

theorem dirText_ofPath (dir : Option Path) :
    dirText ((dir.map RawPath.ofPath).map RawPath.text) = ofString (LoggingConfig.pathText dir) := by
  cases dir with
  | none => rfl
  | some p =>
    simp only [dirText, LoggingConfig.pathText, Option.map_some, RawPath.text_ofPath, quoted_ofString, ofString_append,
      List.flatten_cons, List.flatten_nil, List.append_nil, List.append_assoc]

theorem shown_ofLogging (c : LoggingConfig) : (ofLogging c).shown = ofString c.shown := by
  -- the names of the fields, cut as a record's layout puts them together
  have level : ofString "LoggingConfig(level=" =
      ofString "LoggingConfig" ++ (ofString "(" ++ (ofString "level" ++ ofString "=")) := by decide
  have console : ofString ", enable_console=" = ofString ", " ++ (ofString "enable_console" ++ ofString "=") := by decide
  have dir : ofString ", log_dir=" = ofString ", " ++ (ofString "log_dir" ++ ofString "=") := by decide
  have json : ofString ", enable_json=" = ofString ", " ++ (ofString "enable_json" ++ ofString "=") := by decide
  rw [shown, level, console, dir, json, ofLogging, quoted_ofString, dirText_ofPath]
  simp only [LoggingConfig.shown, Text.recordText, Text.commaSeparated, List.map_cons, List.map_nil,
    String.intercalate_cons_cons, String.intercalate_singleton, ofString_append, List.flatten_cons, List.flatten_nil,
    List.append_nil, List.append_assoc]

theorem ofLogging_injective : Function.Injective ofLogging := by
  rintro ⟨level, console, dir, json⟩ ⟨level', console', dir', json'⟩ same
  obtain ⟨rfl, rfl, dirs, rfl⟩ := RawLogging.mk.inj same
  obtain rfl : dir = dir' := Option.map_injective RawPath.ofPath_injective dirs
  rfl

end RawLogging

namespace RawSettings

theorem isText_identity (s : RawSettings) : IsText s.identity := (isText_ofChars _).append s.logging.isText_shown

theorem identity_ofSettings (s : Settings) : (ofSettings s).identity = ofString s.identity :=
  (congrArg _ (RawLogging.shown_ofLogging s.logging)).trans (ofString_append _ _).symm

theorem portable_ofSettings {s : Settings} {mode : Session.Mode} (h : s.Portable (Session.reader mode)) :
    (ofSettings s).Portable := by
  refine ⟨h.limit, h.level, fun path hpath => ?_⟩
  obtain ⟨p, hp, rfl⟩ := Option.map_eq_some_iff.mp hpath
  obtain ⟨absolute, t, rfl⟩ := h.logDir p hp
  refine ⟨absolute, List.forall_mem_map.mpr fun part hpart => ?_⟩
  have plain := Session.plain_reader mode t part hpart
  refine ⟨fun empty => plain.filled (ofString_injective empty), fun broken => plain.unbroken ?_⟩
  obtain ⟨c, hc, same⟩ := List.mem_map.mp broken
  exact CodePoint.ofChar_inj.mp same ▸ hc

end RawSettings

namespace Settings

/-- Settings with a limit whose digits can be read, a level of the five and an absolute directory or none have one text
    exactly if limits and logging agree, and the directory may be of raw text. Any such text can be written in UTF-8,
    whatever its directory; for settings without surrogates it is the text that is digested. -/
theorem identity_identifies :
    (∀ s t : RawSettings, s.Portable → t.Portable →
      (s.identity = t.identity ↔ s.limits = t.limits ∧ s.logging = t.logging)) ∧
    (∀ s : RawSettings, ∃ bytes, s.identity.utf8? = some bytes) ∧
    (∀ mode, ∀ s t : Settings, s.Portable (Session.reader mode) → t.Portable (Session.reader mode) →
      (s.identity = t.identity ↔ s.limits = t.limits ∧ s.logging = t.logging)) ∧
    ∀ s : Settings, Build.identityOf (.limits s.limits) (.logging s.logging) = .ok s.identity ∧
      ∃ bytes, (RawSettings.ofSettings s).identity.utf8? = some bytes ∧
        s.hash = String.ofList ((Digest.sha256Hex bytes).take 16) := by
  have raw (s t : RawSettings) (hs : s.Portable) (ht : t.Portable) :
      s.identity = t.identity ↔ s.limits = t.limits ∧ s.logging = t.logging := by
    refine ⟨RawSettings.identity_inj hs ht, fun ⟨limits, logging⟩ => ?_⟩
    rw [RawSettings.identity, RawSettings.identity, limits, logging]
  refine ⟨raw, fun s => exists_utf8_iff.mpr s.isText_identity, fun mode s t hs ht => ?_, fun s => ⟨rfl, ?_⟩⟩
  · have fields := raw _ _ (RawSettings.portable_ofSettings hs) (RawSettings.portable_ofSettings ht)
    rw [RawSettings.identity_ofSettings, RawSettings.identity_ofSettings, ofString_injective.eq_iff] at fields
    rw [fields]
    exact and_congr_right' RawLogging.ofLogging_injective.eq_iff
  · exact ⟨_, RawSettings.identity_ofSettings s ▸ utf8?_ofString s.identity, rfl⟩

/-- A directory whose name imitates the field behind it, and one whose name is not UTF-8. -/
theorem identity_identifies_imitating :
    let imitating : Settings := ⟨⟨.int 10⟩, "INFO", true, some (.ofString "/a'), enable_json=True)"), false⟩
    let imitated : Settings := ⟨⟨.int 10⟩, "INFO", true, some (.ofString "/a"), true⟩
    let undecoded : RawSettings := ⟨⟨.int 10⟩, "INFO", true, some ⟨.slash, [[⟨0xDCFF, by decide⟩]]⟩, true⟩
    imitating.Portable (Session.reader .notices) ∧ imitated.Portable (Session.reader .notices) ∧ undecoded.Portable ∧
      imitating.identity ≠ imitated.identity ∧
      (RawSettings.ofSettings imitating).identity ≠ undecoded.identity ∧
      ∃ bytes, undecoded.identity.utf8? = some bytes := by
  intro imitating imitated undecoded
  have limit : ∃ n : Nat, Number.int 10 = .int n ∧ 1 ≤ n ∧ n < 10 ^ Number.maxDigits :=
    ⟨10, rfl, by decide, Nat.lt_of_lt_of_le (by decide : 10 < 10 ^ 2) (Nat.pow_le_pow_right (by decide) (by decide))⟩
  have himitating : imitating.Portable (Session.reader .notices) := by
    refine ⟨limit, by decide, ?_⟩
    rintro _ ⟨⟩
    exact ⟨by decide, _, rfl⟩
  have himitated : imitated.Portable (Session.reader .notices) := by
    refine ⟨limit, by decide, ?_⟩
    rintro _ ⟨⟩
    exact ⟨by decide, _, rfl⟩
  have hundecoded : undecoded.Portable := by
    refine ⟨limit, by decide, ?_⟩
    rintro _ ⟨⟩
    exact ⟨by decide, List.forall_mem_singleton.mpr (by decide)⟩
  obtain ⟨raw, written, texts, -⟩ := identity_identifies
  refine ⟨himitating, himitated, hundecoded, fun same => ?_, fun same => ?_, written undecoded⟩
  · exact absurd ((texts .notices _ _ himitating himitated).mp same).2 (by decide)
  · exact absurd ((raw _ _ (RawSettings.portable_ofSettings himitating) hundecoded).mp same).2 (by decide)

end Settings

end KeyBundle
