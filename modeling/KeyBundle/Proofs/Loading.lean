/-
  KeyBundle.Proofs.Loading — which settings an environment describes, and why it describes none.

  Loading goes by the overrides of five keys (`load_eq`): none of the five is sensitive, and no other key is looked at.
  (1) The limit is a numeral of at least one, or the usual limit; a text that is no numeral is refused first
      (`readLimits_ok_iff`, `readLimits_error_iff`).
  (2) A flag is on when its text is one of four words in any case, with blanks around it or not, and off with any other
      text (`parseBool_iff`). No flag is refused.
  (3) The level is the capital form of one of five names, and the directory is absolute; of both refusals that of the
      level comes first (`readLogging_ok_iff`, `readLogging_error_iff`). That the level is put into capitals twice, when
      it is read and when it is checked, makes no difference (`Text.upper_upper`).
  (4) Together these say what is loaded and what is refused, in every case (`load_described`).
-/

import KeyBundle.Build.Settings
import KeyBundle.Proofs.ModuleLimit
import KeyBundle.Proofs.Numerals
import KeyBundle.Proofs.Overriding
import KeyBundle.Proofs.PathTexts

namespace KeyBundle

variable {readPath : PathReader} {o : String → Option String} {f : SettingFault}

/-- A setting is as usual, or it is a reading of the text of its override. -/
def ReadFrom {α : Type} (usual : α) (reading : String → α → Prop) : (text : Option String) → α → Prop
  | none, x => x = usual
  | some t, x => reading t x

/-! ## (1) The limit -/

/-- The limits by the text of an override, if there is one. -/
def readLimits (text : Option String) : Except SettingFault Limits := do
  let limit ← text.mapM readLimit
  limit.elim (pure Limits.default) fun n => Limits.make (.int n)

/-- If there is a text, it is a numeral of at least one. -/
def LimitSound (text : Option String) : Prop := ∀ t ∈ text, ∃ n, Number.Writes t n ∧ 1 ≤ n

/-- The text is no numeral, or it is one below one. -/
inductive LimitRefused : (text : Option String) → SettingFault → Prop where
  | text {t : String} {fault : Number.LiteralFault} : (∀ n, ¬ Number.Writes t n) → Number.readInt t = .error fault →
      LimitRefused (some t) (.badLimit fault)
  | range {t : String} {n : Int} : Number.Writes t n → n < 1 → LimitRefused (some t) .limitBelowOne

theorem readLimits_some (t : String) : readLimits (some t) =
    match Number.readInt t with
    | .error fault => .error (.badLimit fault)
    | .ok n => if n < 1 then .error .limitBelowOne else .ok ⟨.int n⟩ := by
  rw [readLimits, Option.mapM_some]
  cases h : Number.readInt t with
  | error fault =>
    rw [show readLimit t = .error (.badLimit fault) by rw [readLimit, h]]
    rfl
  | ok n =>
    rw [show readLimit t = .ok n by rw [readLimit, h]]
    change Limits.make (.int n) = _
    rw [Limits.make, Number.less_int]
    simp only [decide_eq_true_eq]

theorem readLimits_ok_iff {text : Option String} {l : Limits} : readLimits text = .ok l ↔
    ReadFrom Limits.default (fun t l => ∃ n, Number.Writes t n ∧ 1 ≤ n ∧ l = ⟨.int n⟩) text l := by
  cases text with
  | none => exact ⟨fun h => by cases h; rfl, fun h => h ▸ rfl⟩
  | some t =>
    rw [readLimits_some, ReadFrom]
    simp only [← Number.readInt_eq_ok_iff]
    cases Number.readInt t with
    | error fault => simp
    | ok n =>
      by_cases low : n < 1
      · simp only [low, if_true, reduceCtorEq, false_iff, Except.ok.injEq]
        rintro ⟨_, rfl, atLeast, -⟩
        omega
      · have atLeast : 1 ≤ n := by omega
        simp [low, atLeast, eq_comm]

theorem readLimits_error_iff {text : Option String} : readLimits text = .error f ↔ LimitRefused text f := by
  constructor
  · intro h
    cases text with
    | none => cases h
    | some t =>
      rw [readLimits_some] at h
      split at h
      · next fault bad =>
        cases h
        exact .text (fun n hn => by rw [Number.readInt_eq_ok_iff.mpr hn] at bad; cases bad) bad
      · next n good =>
        split at h
        · next low => cases h; exact .range (Number.readInt_eq_ok_iff.mp good) low
        · cases h
  · rintro (⟨-, bad⟩ | ⟨good, low⟩)
    · rw [readLimits_some, bad]
    · rw [readLimits_some, Number.readInt_eq_ok_iff.mpr good]
      exact if_pos low

theorem limitSound_iff {text : Option String} : LimitSound text ↔ ∃ l, readLimits text = .ok l := by
  simp only [readLimits_ok_iff]
  cases text with
  | none => exact ⟨fun _ => ⟨_, rfl⟩, fun _ => nofun⟩
  | some t =>
    constructor
    · intro sound
      obtain ⟨n, hn, atLeast⟩ := sound t rfl
      exact ⟨_, n, hn, atLeast, rfl⟩
    · rintro ⟨_, n, hn, atLeast, -⟩ _ ⟨⟩
      exact ⟨n, hn, atLeast⟩

/-! ## (2) Flags -/

/-- Between blanks, the text has a word that means yes, in capital or small letters. -/
def SwitchesOn (text : String) : Prop :=
  ∃ before word after : List Char, text.toList = before ++ word ++ after ∧
    (∀ c ∈ before, Text.isBlank c) ∧ (∀ c ∈ after, Text.isBlank c) ∧
    Text.lower (String.ofList word) ∈ ["1", "true", "yes", "on"]

/-- A text is its trimmed form with blanks around it. -/
theorem trim_between (s : List Char) : ∃ before after, s = before ++ Text.trim s ++ after ∧
    (∀ c ∈ before, Text.isBlank c) ∧ ∀ c ∈ after, Text.isBlank c := by
  have ends (r : List Char) : r = r.takeWhile Text.isBlank ++ r.dropWhile Text.isBlank :=
    List.takeWhile_append_dropWhile.symm
  refine ⟨s.takeWhile Text.isBlank, ((s.dropWhile Text.isBlank).reverse.takeWhile Text.isBlank).reverse, ?_,
    fun c hc => List.mem_takeWhile_imp hc, fun c hc => List.mem_takeWhile_imp (List.mem_reverse.mp hc)⟩
  rw [Text.trim, List.append_assoc, ← List.reverse_append, ← ends, List.reverse_reverse, ← ends]

/-- Blanks are dropped as far as something else. -/
theorem dropWhile_blanks {blanks s : List Char} (h : ∀ c ∈ blanks, Text.isBlank c)
    (stop : ∀ c ∈ s.head?, Text.isBlank c = false) : (blanks ++ s).dropWhile Text.isBlank = s := by
  rw [List.dropWhile_append_of_pos h]
  cases s with
  | nil => rfl
  | cons c s => rw [List.dropWhile_cons, stop c rfl, if_neg Bool.false_ne_true]

/-- Blanks at the ends are all that is taken off a word without blanks. -/
theorem trim_word {before word after : List Char} (blanksBefore : ∀ c ∈ before, Text.isBlank c)
    (blanksAfter : ∀ c ∈ after, Text.isBlank c) (unbroken : ∀ c ∈ word, Text.isBlank c = false) :
    Text.trim (before ++ word ++ after) = word := by
  have last : (after.reverse ++ word.reverse).dropWhile Text.isBlank = word.reverse :=
    dropWhile_blanks (fun c hc => blanksAfter c (List.mem_reverse.mp hc))
      fun c hc => unbroken c (List.mem_reverse.mp (List.mem_of_head? hc))
  rw [Text.trim, List.append_assoc]
  cases word with
  | nil => rw [List.nil_append, List.dropWhile_append_of_pos blanksBefore, List.dropWhile_eq_nil_iff.mpr blanksAfter]; rfl
  | cons c word =>
    have stop : ∀ d ∈ (c :: word ++ after).head?, Text.isBlank d = false := by
      rintro _ ⟨⟩
      exact unbroken c List.mem_cons_self
    rw [dropWhile_blanks blanksBefore stop, List.reverse_append, last, List.reverse_reverse]

theorem parseBool_iff {t : String} : parseBool t = true ↔ SwitchesOn t := by
  have noBlank : ∀ word ∈ trueWords, ∀ c ∈ word.toList, Text.isBlank c = false := by decide
  rw [parseBool, List.contains_iff_mem]
  constructor
  · intro h
    obtain ⟨before, after, whole, blanksBefore, blanksAfter⟩ := trim_between t.toList
    exact ⟨before, _, after, whole, blanksBefore, blanksAfter, h⟩
  · rintro ⟨before, word, after, whole, blanksBefore, blanksAfter, h⟩
    have unbroken : ∀ c ∈ word, Text.isBlank c = false := by
      intro c hc
      rw [Bool.eq_false_iff]
      intro blank
      have kept := Text.mem_lower (Text.isSmall_of_isBlank blank) (String.toList_ofList (l := word) ▸ hc)
      exact absurd blank (Bool.eq_false_iff.mp (noBlank _ h c kept))
    rw [whole, trim_word blanksBefore blanksAfter unbroken]
    exact h

/-! ## (3) Level and directory -/

/-- The logging settings by the texts of overrides. -/
def readLogging (readPath : PathReader) (o : String → Option String) : Except SettingFault LoggingConfig :=
  let standard := LoggingConfig.default
  LoggingConfig.make ((o levelKey).elim standard.level Text.upper) ((o consoleKey).elim standard.enableConsole parseBool)
    ((o logDirKey).elim standard.logDir fun t => some (readPath t)) ((o jsonKey).elim standard.enableJson parseBool)

/-- If there is a text, its capital form is a level. -/
def LevelSound (text : Option String) : Prop := ∀ t ∈ text, Text.upper t ∈ levelNames

/-- If there is a text, it is an absolute path. -/
def LogDirSound (readPath : PathReader) (text : Option String) : Prop := ∀ t ∈ text, (readPath t).isAbsolute = true

/-- Each logging setting is as usual or comes of its override. -/
structure LoggingRead (readPath : PathReader) (o : String → Option String) (c : LoggingConfig) : Prop where
  level : ReadFrom LoggingConfig.default.level (fun t x => x = Text.upper t ∧ Text.upper t ∈ levelNames) (o levelKey) c.level
  console : ReadFrom LoggingConfig.default.enableConsole (fun t x => x = true ↔ SwitchesOn t) (o consoleKey) c.enableConsole
  logDir : ReadFrom LoggingConfig.default.logDir (fun t x => x = some (readPath t) ∧ (readPath t).isAbsolute = true)
    (o logDirKey) c.logDir
  json : ReadFrom LoggingConfig.default.enableJson (fun t x => x = true ↔ SwitchesOn t) (o jsonKey) c.enableJson

/-- The capital form of the text is no level, or else the path is not absolute. -/
inductive LoggingRefused (readPath : PathReader) (o : String → Option String) : SettingFault → Prop where
  | level {t : String} : o levelKey = some t → Text.upper t ∉ levelNames → LoggingRefused readPath o (.badLevel (Text.upper t))
  | logDir {t : String} : LevelSound (o levelKey) → o logDirKey = some t → (readPath t).isAbsolute = false →
      LoggingRefused readPath o (.relativeLogDir (readPath t))

/-- Capitals of the text or the usual level are their own capitals. -/
theorem upper_level (text : Option String) : Text.upper (text.elim LoggingConfig.default.level Text.upper) =
    text.elim LoggingConfig.default.level Text.upper := by
  cases text with
  | none => decide +kernel
  | some t => exact Text.upper_upper t

theorem LevelSound.mem {text : Option String} (h : LevelSound text) :
    text.elim LoggingConfig.default.level Text.upper ∈ levelNames := by
  cases text with
  | none => decide
  | some t => exact h t rfl

theorem LogDirSound.check {text : Option String} (h : LogDirSound readPath text) :
    checkLogDir (text.elim LoggingConfig.default.logDir fun t => some (readPath t)) = .ok () := by
  cases text with
  | none => rfl
  | some t => exact if_pos (h t rfl)

theorem readLogging_eq (readPath : PathReader) (o : String → Option String) : readLogging readPath o =
    if levelNames.contains ((o levelKey).elim LoggingConfig.default.level Text.upper) then do
      checkLogDir ((o logDirKey).elim LoggingConfig.default.logDir fun t => some (readPath t))
      return ⟨(o levelKey).elim LoggingConfig.default.level Text.upper,
        (o consoleKey).elim LoggingConfig.default.enableConsole parseBool,
        (o logDirKey).elim LoggingConfig.default.logDir fun t => some (readPath t),
        (o jsonKey).elim LoggingConfig.default.enableJson parseBool⟩
    else .error (.badLevel ((o levelKey).elim LoggingConfig.default.level Text.upper)) := by
  rw [readLogging, LoggingConfig.make, checkLevel, upper_level]
  split <;> rfl

theorem readLogging_ok (known : LevelSound (o levelKey)) (absolute : LogDirSound readPath (o logDirKey)) :
    readLogging readPath o = .ok ⟨(o levelKey).elim LoggingConfig.default.level Text.upper,
      (o consoleKey).elim LoggingConfig.default.enableConsole parseBool,
      (o logDirKey).elim LoggingConfig.default.logDir fun t => some (readPath t),
      (o jsonKey).elim LoggingConfig.default.enableJson parseBool⟩ := by
  rw [readLogging_eq, if_pos (List.contains_iff_mem.mpr known.mem), absolute.check]
  rfl

theorem readLogging_error (h : LoggingRefused readPath o f) : readLogging readPath o = .error f := by
  rw [readLogging_eq]
  obtain ⟨given, unknown⟩ | ⟨known, given, relative⟩ := h
  · rw [given]
    exact if_neg fun known => unknown (List.contains_iff_mem.mp known)
  · rw [if_pos (List.contains_iff_mem.mpr known.mem), given]
    change (checkLogDir (some _)).bind _ = _
    rw [checkLogDir, if_neg (by rw [relative]; exact Bool.false_ne_true)]
    rfl

/-- The overrides are sound, or they are refused. -/
theorem logging_sound_or_refused (readPath : PathReader) (o : String → Option String) :
    (LevelSound (o levelKey) ∧ LogDirSound readPath (o logDirKey)) ∨ ∃ f, LoggingRefused readPath o f := by
  by_cases known : LevelSound (o levelKey)
  · by_cases absolute : LogDirSound readPath (o logDirKey)
    · exact .inl ⟨known, absolute⟩
    · simp only [LogDirSound, not_forall, Bool.not_eq_true] at absolute
      obtain ⟨t, given, relative⟩ := absolute
      exact .inr ⟨_, .logDir known given relative⟩
  · simp only [LevelSound, not_forall] at known
    obtain ⟨t, given, unknown⟩ := known
    exact .inr ⟨_, .level given unknown⟩

/-- The readings of a flag, and of a field that must be of a kind. -/
theorem readFrom_flag_iff {usual x : Bool} {text : Option String} :
    ReadFrom usual (fun t x => x = true ↔ SwitchesOn t) text x ↔ x = text.elim usual parseBool := by
  cases text with
  | none => rfl
  | some t =>
    rw [ReadFrom, Option.elim_some, ← parseBool_iff]
    exact Bool.eq_iff_iff.symm

theorem readFrom_and_iff {α : Type} {usual x : α} {g : String → α} {P : String → Prop} {text : Option String} :
    ReadFrom usual (fun t x => x = g t ∧ P t) text x ↔ x = text.elim usual g ∧ ∀ t ∈ text, P t := by
  cases text <;> simp [ReadFrom]

theorem readLogging_ok_iff {c : LoggingConfig} : readLogging readPath o = .ok c ↔ LoggingRead readPath o c := by
  constructor
  · intro h
    obtain ⟨known, absolute⟩ | ⟨f, refused⟩ := logging_sound_or_refused readPath o
    · cases (readLogging_ok known absolute).symm.trans h
      exact ⟨readFrom_and_iff.mpr ⟨rfl, known⟩, readFrom_flag_iff.mpr rfl, readFrom_and_iff.mpr ⟨rfl, absolute⟩,
        readFrom_flag_iff.mpr rfl⟩
    · cases (readLogging_error refused).symm.trans h
  · rintro ⟨level, console, logDir, json⟩
    obtain ⟨hlevel, known⟩ := readFrom_and_iff.mp level
    obtain ⟨hlogDir, absolute⟩ := readFrom_and_iff.mp logDir
    rw [readLogging_ok known absolute, ← hlevel, ← readFrom_flag_iff.mp console, ← hlogDir, ← readFrom_flag_iff.mp json]

theorem readLogging_error_iff : readLogging readPath o = .error f ↔ LoggingRefused readPath o f := by
  constructor
  · intro h
    obtain ⟨known, absolute⟩ | ⟨g, refused⟩ := logging_sound_or_refused readPath o
    · cases (readLogging_ok known absolute).symm.trans h
    · cases (readLogging_error refused).symm.trans h
      exact refused
  · exact readLogging_error

/-! ## (4) Loading -/

/-- The keys of the five settings. -/
def settingKeys : List String := [limitKey, levelKey, consoleKey, logDirKey, jsonKey]

theorem not_sensitive : ∀ key ∈ settingKeys, isSensitiveKey key = false := by decide +kernel

theorem lookup_settingKey {key : String} (h : key ∈ settingKeys) (env : Environment) (pre : String) :
    (overrides env (openingOf pre)).lookup key = override? pre env key := by
  rw [lookup_overrides, not_sensitive key h, if_neg Bool.false_ne_true]

theorem load_eq (readPath : PathReader) (env : Environment) (pre : String) : Settings.load readPath env pre = do
    let limits ← readLimits (override? pre env limitKey)
    let logging ← readLogging readPath (override? pre env)
    return ⟨limits, logging⟩ := by
  simp only [Settings.load, Settings.ofOverrides, readLimits, readLogging, bind_assoc,
    lookup_settingKey (by decide : limitKey ∈ settingKeys), lookup_settingKey (by decide : levelKey ∈ settingKeys),
    lookup_settingKey (by decide : consoleKey ∈ settingKeys), lookup_settingKey (by decide : logDirKey ∈ settingKeys),
    lookup_settingKey (by decide : jsonKey ∈ settingKeys)]

/-- The overrides are of settings that can be had. -/
def Sound (readPath : PathReader) (o : String → Option String) : Prop :=
  LimitSound (o limitKey) ∧ LevelSound (o levelKey) ∧ LogDirSound readPath (o logDirKey)

/-- Each setting is as usual or comes of its override. -/
structure Describes (readPath : PathReader) (o : String → Option String) (s : Settings) : Prop where
  limits : ReadFrom Limits.default (fun t l => ∃ n, Number.Writes t n ∧ 1 ≤ n ∧ l = ⟨.int n⟩) (o limitKey) s.limits
  logging : LoggingRead readPath o s.logging

/-- The limit is refused, or the limit is not and the rest is. -/
inductive Refused (readPath : PathReader) (o : String → Option String) (f : SettingFault) : Prop where
  | limits : LimitRefused (o limitKey) f → Refused readPath o f
  | logging : LimitSound (o limitKey) → LoggingRefused readPath o f → Refused readPath o f

section

variable {env : Environment} {pre : String}

/-- A limit that is refused is all that is looked at. -/
theorem load_of_limits_error (h : readLimits (override? pre env limitKey) = .error f) :
    Settings.load readPath env pre = .error f := by
  rw [load_eq, h]
  rfl

theorem load_of_limits_ok {limits : Limits} (h : readLimits (override? pre env limitKey) = .ok limits) :
    Settings.load readPath env pre = (readLogging readPath (override? pre env)).map (⟨limits, ·⟩) := by
  rw [load_eq, h]
  cases readLogging readPath (override? pre env) <;> rfl

theorem load_ok_iff {s : Settings} :
    Settings.load readPath env pre = .ok s ↔ Describes readPath (override? pre env) s := by
  constructor
  · intro h
    rw [load_eq] at h
    obtain ⟨limits, hlimits, h⟩ := of_bind_ok h
    obtain ⟨logging, hlogging, h⟩ := of_bind_ok h
    cases h
    exact ⟨readLimits_ok_iff.mp hlimits, readLogging_ok_iff.mp hlogging⟩
  · rintro ⟨hlimits, hlogging⟩
    rw [load_of_limits_ok (readLimits_ok_iff.mpr hlimits), readLogging_ok_iff.mpr hlogging]
    rfl

theorem load_error_iff : Settings.load readPath env pre = .error f ↔ Refused readPath (override? pre env) f := by
  constructor
  · intro h
    cases hlimits : readLimits (override? pre env limitKey) with
    | error f =>
      cases (load_of_limits_error hlimits).symm.trans h
      exact .limits (readLimits_error_iff.mp hlimits)
    | ok limits =>
      rw [load_of_limits_ok hlimits] at h
      cases hlogging : readLogging readPath (override? pre env) with
      | error f =>
        rw [hlogging] at h
        cases h
        exact .logging (limitSound_iff.mpr ⟨limits, hlimits⟩) (readLogging_error_iff.mp hlogging)
      | ok logging =>
        rw [hlogging] at h
        cases h
  · rintro (h | ⟨sound, h⟩)
    · exact load_of_limits_error (readLimits_error_iff.mpr h)
    · obtain ⟨limits, hlimits⟩ := limitSound_iff.mp sound
      rw [load_of_limits_ok hlimits, readLogging_error_iff.mpr h]
      rfl

theorem sound_iff : Sound readPath (override? pre env) ↔ ∃ s, Settings.load readPath env pre = .ok s := by
  constructor
  · rintro ⟨limit, known, absolute⟩
    obtain ⟨limits, hlimits⟩ := limitSound_iff.mp limit
    exact ⟨⟨limits, _⟩, load_ok_iff.mpr
      ⟨readLimits_ok_iff.mp hlimits, readLogging_ok_iff.mp (readLogging_ok known absolute)⟩⟩
  · rintro ⟨s, h⟩
    obtain ⟨hlimits, hlogging⟩ := load_ok_iff.mp h
    exact ⟨limitSound_iff.mpr ⟨_, readLimits_ok_iff.mpr hlimits⟩, (readFrom_and_iff.mp hlogging.level).2,
      (readFrom_and_iff.mp hlogging.logDir).2⟩

/-- Other variables and their order make no difference, nor does another prefix. -/
theorem load_congr {env' : Environment} {pre' : String}
    (h : ∀ key ∈ settingKeys, override? pre' env' key = override? pre env key) :
    Settings.load readPath env' pre' = Settings.load readPath env pre := by
  simp only [settingKeys, List.forall_mem_cons] at h
  obtain ⟨limit, level, console, logDir, json, -⟩ := h
  simp only [load_eq, readLogging, limit, level, console, logDir, json]

end

open Build in
/-- Settings are loaded under a prefix without any other effect than their identity. -/
theorem exec_loadSettings (pre : String) (c : Context) : exec (loadSettings (.text pre)) c =
    match Settings.load c.readPath c.env pre with
    | .ok s => (.ok (.settings c.fresh s), { c with fresh := c.fresh + 1 })
    | .error f => (.error (.setting f), c) := by
  have opening : exec (ofExcept (openingFor (.text pre))) c = (.ok (openingOf pre), c) := exec_ofExcept _ _
  rw [loadSettings, exec_bind_ok opening, exec_bind_ok (exec_get _), Settings.load]
  cases Settings.ofOverrides c.readPath (overrides c.env (openingOf pre)) <;> rfl

open Build in
/-- Settings are loaded just when the overrides are sound, and they are those that the overrides describe. Otherwise
    the first fault is reported as an error of values. Nothing but the overrides of the five keys has a part in it. -/
theorem load_described (pre : String) (c : Context) :
    let o := override? pre c.env
    let outcome := (exec (loadSettings (.text pre)) c).1
    ((∃ v, outcome = .ok v) ↔ Sound c.readPath o) ∧
    (∀ v, outcome = .ok v ↔ ∃ s, Describes c.readPath o s ∧ v = .settings c.fresh s) ∧
    (∀ f, outcome = .error f ↔ ∃ g, Refused c.readPath o g ∧ f = .setting g ∧ f.className = "ValueError") ∧
    ∀ (pre' : String) (c' : Context), c'.readPath = c.readPath → c'.fresh = c.fresh →
      (∀ key ∈ settingKeys, override? pre' c'.env key = o key) → (exec (loadSettings (.text pre')) c').1 = outcome := by
  intro o outcome
  have loaded : outcome = match Settings.load c.readPath c.env pre with
      | .ok s => .ok (.settings c.fresh s)
      | .error f => .error (.setting f) := by
    rw [show outcome = _ from congrArg Prod.fst (exec_loadSettings pre c)]
    split <;> rfl
  have described (s : Settings) : Describes c.readPath o s ↔ Settings.load c.readPath c.env pre = .ok s := load_ok_iff.symm
  have refused (g : SettingFault) : Refused c.readPath o g ↔ Settings.load c.readPath c.env pre = .error g :=
    load_error_iff.symm
  refine ⟨?_, fun v => ?_, fun f => ?_, fun pre' c' samePaths sameFresh same => ?_⟩
  · rw [sound_iff, loaded]
    cases Settings.load c.readPath c.env pre <;> simp
  · simp only [described, loaded]
    cases Settings.load c.readPath c.env pre <;> simp [eq_comm]
  · simp only [refused, loaded]
    cases Settings.load c.readPath c.env pre with
    | ok s => simp
    | error g =>
      constructor
      · rintro ⟨⟩
        exact ⟨g, rfl, rfl, rfl⟩
      · rintro ⟨_, ⟨⟩, rfl, -⟩
        rfl
  · rw [loaded, exec_loadSettings, samePaths, sameFresh, load_congr same]
    split <;> rfl

open Build in
/-- The later of two levels counts, the token is passed over, and the limit is ten. With blanks and a capital a flag is
    on, and with another word off. -/
theorem load_described_ten :
    let env : Environment := [("LAYERCRYPT_LOGGING__LEVEL", "loud"), ("LAYERCRYPT_LOGGING__TOKEN", "t"),
      ("LAYERCRYPT_LIMITS__MAX_PKCS11_ENCRYPT_MODULES", " +1_0"), ("LAYERCRYPT_Logging__Level", "debug"),
      ("LAYERCRYPT_LOGGING__ENABLE_JSON", " Yes\n"), ("LAYERCRYPT_LOGGING__ENABLE_CONSOLE", "off"),
      ("LAYERCRYPT_LOGGING__LOG_DIR", "/var/log")]
    let c := Context.start env Path.ofString
    let other := Context.start [env[6], env[3], env[5], env[4], env[2]] Path.ofString
    (exec (loadSettings (.text "LayerCrypt")) c).1 =
        .ok (.settings 0 ⟨⟨.int 10⟩, ⟨"DEBUG", false, some (Path.ofString "/var/log"), true⟩⟩) ∧
      (exec (loadSettings (.text "LayerCrypt")) other).1 = (exec (loadSettings (.text "LayerCrypt")) c).1 ∧
      (exec (loadSettings (.text "LayerCrypt")) (Context.start [env[0]] Path.ofString)).1 =
        .error (.setting (.badLevel "LOUD")) := by
  intro env c other
  have found : settingKeys.map (override? "LayerCrypt" env) =
      [some " +1_0", some "debug", some "off", some "/var/log", some " Yes\n"] := by decide +kernel
  simp only [settingKeys, List.map_cons, List.cons.injEq] at found
  obtain ⟨limit, level, console, logDir, json, -⟩ := found
  have capitals : Text.upper "debug" = "DEBUG" := by decide +kernel
  have off : ¬ SwitchesOn "off" := fun h => absurd (parseBool_iff.mpr h) (by decide +kernel)
  have on : SwitchesOn " Yes\n" := ⟨[' '], "Yes".toList, ['\n'], by decide, by decide, by decide, by decide +kernel⟩
  obtain ⟨-, loads, -, alike⟩ := load_described "LayerCrypt" c
  refine ⟨(loads _).mpr ⟨_, ⟨?_, ⟨?_, ?_, ?_, ?_⟩⟩, rfl⟩, alike "LayerCrypt" other rfl rfl (by decide +kernel), ?_⟩
  · rw [show override? "LayerCrypt" c.env limitKey = _ from limit]
    exact ⟨10, Number.readInt_eq_ok_iff.mp rfl, by decide, rfl⟩
  · rw [show override? "LayerCrypt" c.env levelKey = _ from level]
    exact ⟨capitals.symm, by rw [capitals]; decide⟩
  · rw [show override? "LayerCrypt" c.env consoleKey = _ from console]
    exact ⟨nofun, fun h => absurd h off⟩
  · rw [show override? "LayerCrypt" c.env logDirKey = _ from logDir]
    exact ⟨rfl, Path.isAbsolute_ofString.mpr rfl⟩
  · rw [show override? "LayerCrypt" c.env jsonKey = _ from json]
    exact ⟨fun _ => on, fun _ => rfl⟩
  · have loud : override? "LayerCrypt" [env[0]] levelKey = some "loud" := by decide +kernel
    have noLimit : override? "LayerCrypt" [env[0]] limitKey = none := by decide +kernel
    have upper : Text.upper "loud" = "LOUD" := by decide +kernel
    refine ((load_described "LayerCrypt" (Context.start [env[0]] Path.ofString)).2.2.1 _).mpr
      ⟨.badLevel "LOUD", .logging ?_ ?_, rfl, rfl⟩
    · rw [show override? "LayerCrypt" (Context.start [env[0]] Path.ofString).env limitKey = _ from noLimit]
      exact nofun
    · have refused : LoggingRefused Path.ofString (override? "LayerCrypt" [env[0]]) (.badLevel (Text.upper "loud")) :=
        .level loud (by rw [upper]; decide)
      rwa [upper] at refused

end KeyBundle
