/-
  KeyBundle.Proofs.Exporting — settings written as variables and read back.

  (1) A whole number is read back from its digits, if they are not too many (`Number.writes_toString`); the other texts
      are read back by their readers (`reader_text`, `switchesOn_flagText`, `upper_of_mem_levelNames`).
  (2) Behind its prefix, the name of a variable says which key it overrides (`overrides_iff`). So variables of different
      keys give each key its own text, in whatever order they stand (`override?_under`).
  (3) So settings that are written as variables are loaded as they were, whatever the prefix (`load_exported`).
-/

import KeyBundle.Proofs.Interruption
import KeyBundle.Proofs.Loading
import KeyBundle.Proofs.PathTexts
import Mathlib.Data.List.Perm.Basic

namespace KeyBundle

/-! ## (1) Texts -/

namespace Number

variable {s : List Char} {m : Nat}

theorem digits_of_isDigit : ∀ {s : List Char}, s ≠ [] → (∀ c ∈ s, c.isDigit) → Digits s s
  | [_], _, digits => .one (digits _ List.mem_cons_self)
  | _ :: c :: s, _, digits =>
    .next (digits _ List.mem_cons_self) (digits_of_isDigit (List.cons_ne_nil c s) fun d hd => digits d (.tail _ hd))

theorem digitsValue_toDigits (m : Nat) : digitsValue (Nat.toDigits 10 m) = m := by
  refine Eq.trans ?_ (Nat.ofDigitChars_ten_toDigits (n := m))
  simp only [digitsValue, Nat.ofDigitChars_eq_foldl, Nat.mul_comm]

/-- The digits of a number are read as the number. -/
theorem writes_toString (h : m < 10 ^ maxDigits) : Writes (toString m) m := by
  have digits : ∀ c ∈ Nat.toDigits 10 m, c.isDigit := fun c hc => Nat.isDigit_of_mem_toDigits (by decide) (by decide) hc
  have plain : toPlain (toString m).toList = Nat.toDigits 10 m := by
    have ascii : (Nat.toDigits 10 m).all (·.toNat < 0x80) = true := by
      refine List.all_eq_true.mpr fun c hc => decide_eq_true ?_
      have := digits c hc
      simp only [Char.isDigit, Bool.and_eq_true, decide_eq_true_eq] at this
      exact Nat.lt_of_le_of_lt (UInt32.le_iff_toNat_le.mp this.2) (by decide)
    rw [Nat.toString_eq_ofList_toDigits, String.toList_ofList, toPlain, if_pos ascii]
  refine ⟨[], [], Nat.toDigits 10 m, [], Nat.toDigits 10 m, by rw [plain]; simp, nofun, nofun,
    digits_of_isDigit Nat.toDigits_ne_nil digits, ?_, ?_⟩
  · exact (Nat.length_toDigits_le_iff (by decide) (by decide)).mpr h
  · rw [digitsValue_toDigits]
    exact .bare m

end Number

/-- How a switch is written. -/
def flagText (b : Bool) : String := if b then "true" else "false"

theorem switchesOn_flagText (b : Bool) : b = true ↔ SwitchesOn (flagText b) := by
  rw [← parseBool_iff]
  cases b <;> decide +kernel

theorem upper_of_mem_levelNames : ∀ level ∈ levelNames, Text.upper level = level := by decide +kernel

namespace Session

/-- How a session reads paths. -/
def reader (mode : Mode) : PathReader := if mode = .writing then Path.ofRunText else Path.ofString

/-- An absolute path is read back from its text. -/
theorem reader_text {mode : Mode} {t : String} (h : (reader mode t).isAbsolute = true) :
    reader mode (reader mode t).text = reader mode t := by
  cases mode with
  | writing => exact Path.ofRunText_text_ofRunText h
  | notices => exact Path.ofString_text_ofString h

end Session

/-! ## (2) Variables -/

variable {pre rest key : String} {env : Environment} {texts : List (String × String)}

/-- The key that a variable overrides, by what stands behind the prefix in its name. -/
def keyOf (rest : String) : String := String.ofList (dotted (Text.lower rest).toList)

theorem overrides_iff : Overrides pre (openingOf pre ++ rest) key ↔ key = keyOf rest := by
  constructor
  · rintro ⟨other, same, rfl⟩
    rw [String.append_right_inj _ |>.mp same, keyOf]
  · rintro rfl
    exact ⟨rest, rfl, rfl⟩

/-- Variables under a prefix. -/
def under (pre : String) (texts : List (String × String)) : Environment :=
  texts.map fun e => (openingOf pre ++ e.1, e.2)

theorem override?_under (distinct : (texts.map fun e => keyOf e.1).Nodup) (perm : env.Perm (under pre texts)) :
    override? pre env key = (texts.map fun e => (keyOf e.1, e.2)).lookup key := by
  have apart : Apart pre (under pre texts) := by
    refine List.pairwise_map.mpr ((List.pairwise_map.mp distinct).imp fun other key maps maps' => other ?_)
    rw [← overrides_iff.mp maps, overrides_iff.mp maps']
  have apart : Apart pre env :=
    (perm.pairwise_iff fun {_ _} apart key maps maps' => apart key maps' maps).mpr apart
  ext value
  have found : (texts.map fun e => (keyOf e.1, e.2)).lookup key = some value ↔
      (key, value) ∈ texts.map fun e => (keyOf e.1, e.2) :=
    (mem_iff_lookup_eq (by rwa [List.map_map])).symm
  rw [override?_eq_some_iff, lastMapped_iff apart, found]
  simp only [perm.mem_iff, under, List.mem_map]
  constructor
  · rintro ⟨_, ⟨e, he, ⟨⟩⟩, maps⟩
    exact ⟨e, he, by rw [overrides_iff.mp maps]⟩
  · rintro ⟨e, he, ⟨⟩⟩
    exact ⟨_, ⟨e, he, rfl⟩, overrides_iff.mpr rfl⟩

/-- Variables with different names are set as they are given. -/
theorem ofPairs_of_nodup {pairs : List (String × String)} (h : (pairs.map Prod.fst).Nodup) :
    Environment.ofPairs pairs = pairs := by
  induction pairs using List.reverseRecOn with
  | nil => rfl
  | append_singleton pairs e ih =>
    rw [List.map_append, List.nodup_append] at h
    obtain ⟨before, -, new⟩ := h
    have absent : pairs.any (·.1 == e.1) = false := by
      refine List.any_eq_false.mpr fun f hf same => ?_
      exact new f.1 (List.mem_map_of_mem hf) e.1 (by simp) (beq_iff_eq.mp same)
    rw [Environment.ofPairs, List.foldl_concat, ← Environment.ofPairs, ih before, Environment.set, absent]
    rfl

/-! ## (3) Settings -/

namespace Settings

/-- What the variables of settings are named behind their prefix, and how each setting is written. There is no
    variable for no directory. -/
def named (s : Settings) : List (String × String) :=
  [("LIMITS__MAX_PKCS11_ENCRYPT_MODULES", s.limits.maxModules.text), ("LOGGING__LEVEL", s.logging.level),
    ("LOGGING__ENABLE_CONSOLE", flagText s.logging.enableConsole),
    ("LOGGING__ENABLE_JSON", flagText s.logging.enableJson)] ++
  s.logging.logDir.toList.map fun path => ("LOGGING__LOG_DIR", path.text)

/-- Settings as variables under a prefix. -/
def exported (pre : String) (s : Settings) : Environment := under pre s.named

/-- The limit is a whole number from one on whose digits can be read, the level is one of the five names, and the
    directory, if there is one, is an absolute path. -/
structure Portable (readPath : PathReader) (s : Settings) : Prop where
  limit : ∃ n : Nat, s.limits.maxModules = .int n ∧ 1 ≤ n ∧ n < 10 ^ Number.maxDigits
  level : s.logging.level ∈ levelNames
  logDir : ∀ path ∈ s.logging.logDir, path.isAbsolute = true ∧ ∃ t, path = readPath t

variable {s : Settings}

/-- The names are those of the five settings. -/
theorem keys_named (s : Settings) : (s.named.map fun e => (keyOf e.1, e.2)) =
    [(limitKey, s.limits.maxModules.text), (levelKey, s.logging.level), (consoleKey, flagText s.logging.enableConsole),
      (jsonKey, flagText s.logging.enableJson)] ++ s.logging.logDir.toList.map fun path => (logDirKey, path.text) := by
  have keys : keyOf "LIMITS__MAX_PKCS11_ENCRYPT_MODULES" = limitKey ∧ keyOf "LOGGING__LEVEL" = levelKey ∧
      keyOf "LOGGING__ENABLE_CONSOLE" = consoleKey ∧ keyOf "LOGGING__ENABLE_JSON" = jsonKey ∧
      keyOf "LOGGING__LOG_DIR" = logDirKey := by decide +kernel
  simp only [named, List.map_append, List.map_cons, List.map_nil, List.map_map, Function.comp_def, keys]

theorem nodup_keys_named (s : Settings) : (s.named.map fun e => keyOf e.1).Nodup := by
  have same : (s.named.map fun e => keyOf e.1) = (s.named.map fun e => (keyOf e.1, e.2)).map Prod.fst := by
    rw [List.map_map]
    rfl
  rw [same, keys_named]
  cases s.logging.logDir with
  | none => exact (by decide : [limitKey, levelKey, consoleKey, jsonKey].Nodup)
  | some path => exact (by decide : [limitKey, levelKey, consoleKey, jsonKey, logDirKey].Nodup)

theorem nodup_names_exported (pre : String) (s : Settings) : ((s.exported pre).map Prod.fst).Nodup := by
  rw [exported, under, List.map_map]
  refine (List.pairwise_map.mp (nodup_keys_named s)).map _ fun e f other same => other ?_
  rw [String.append_right_inj _ |>.mp same]

/-- What the variables say of the settings. -/
theorem describes_exported {mode : Session.Mode} (h : s.Portable (Session.reader mode)) (perm : env.Perm (s.exported pre)) :
    Describes (Session.reader mode) (override? pre env) s := by
  have texts (key : String) : override? pre env key = _ := override?_under (nodup_keys_named s) perm
  simp only [keys_named] at texts
  obtain ⟨n, limit, atLeast, short⟩ := h.limit
  have ofLimit : override? pre env limitKey = some s.limits.maxModules.text := texts _
  have ofLevel : override? pre env levelKey = some s.logging.level := texts _
  have ofConsole : override? pre env consoleKey = some (flagText s.logging.enableConsole) := texts _
  have ofJson : override? pre env jsonKey = some (flagText s.logging.enableJson) := texts _
  have ofLogDir : override? pre env logDirKey = s.logging.logDir.map Path.text := by
    rw [texts]
    cases s.logging.logDir <;> rfl
  refine ⟨?_, ?_, ?_, ?_, ?_⟩
  · rw [ofLimit, limit]
    refine ⟨n, Number.writes_toString short, by omega, ?_⟩
    rw [← limit]
  · rw [ofLevel]
    have capitals := upper_of_mem_levelNames _ h.level
    exact ⟨capitals.symm, capitals.symm ▸ h.level⟩
  · rw [ofConsole]
    exact switchesOn_flagText _
  · rw [ofLogDir]
    cases dir : s.logging.logDir with
    | none => rfl
    | some path =>
      obtain ⟨absolute, t, rfl⟩ := h.logDir path dir
      rw [Option.map_some, ReadFrom, Session.reader_text absolute]
      exact ⟨rfl, absolute⟩
  · rw [ofJson]
    exact switchesOn_flagText _

end Settings

namespace Session

open Settings

/-- Settings that are written as variables under a prefix, one after the other in any order, are loaded under that prefix
    as they were, with the identification that they have when they are made of their parts. -/
theorem load_exported (mode : Mode) (pre : String) (s : Settings) (portable : s.Portable (reader mode))
    (pairs : List (String × String)) (perm : pairs.Perm (s.exported pre)) :
    let session := start mode (Environment.ofPairs pairs)
    let loaded := (exec (perform .loadSettings [(0, .text pre)]) session).1
    let made := (exec (perform .settings [(0, .limits s.limits), (1, .logging s.logging)]) session).1
    ∃ id, loaded = .ok (.settings id s) ∧ made = .ok (.settings id s) := by
  intro session loaded made
  have distinct : (pairs.map Prod.fst).Nodup := (perm.map Prod.fst).nodup_iff.mpr (nodup_names_exported pre s)
  have load : Settings.load session.context.readPath session.context.env pre = .ok s := by
    change Settings.load (reader mode) (Environment.ofPairs pairs) pre = .ok s
    rw [ofPairs_of_nodup distinct]
    exact load_ok_iff.mpr (describes_exported portable perm)
  refine ⟨session.context.fresh, ?_, ?_⟩
  · change (exec (building (Build.loadSettings (.text pre))) session).1 = _
    rw [exec_building, exec_loadSettings, load]
  · change (exec (building (Build.settings (.limits s.limits) (.logging s.logging))) session).1 = _
    rw [exec_building]
    rfl

/-- All five settings, with the directory first and the limit last. -/
theorem load_exported_five :
    let s : Settings := ⟨⟨.int 10⟩, "DEBUG", false, some (.ofString "//var/./log"), true⟩
    let pairs := [("MY.APP_LOGGING__LOG_DIR", "//var/log"), ("MY.APP_LOGGING__ENABLE_JSON", "true"),
      ("MY.APP_LOGGING__ENABLE_CONSOLE", "false"), ("MY.APP_LOGGING__LEVEL", "DEBUG"),
      ("MY.APP_LIMITS__MAX_PKCS11_ENCRYPT_MODULES", "10")]
    s.Portable (reader .notices) ∧ pairs.Perm (s.exported "my.app") ∧
      ∃ id, (exec (perform .loadSettings [(0, .text "my.app")]) (start .notices (Environment.ofPairs pairs))).1 =
        .ok (.settings id s) := by
  intro s pairs
  have portable : s.Portable (reader .notices) := by
    refine ⟨⟨10, rfl, by decide, ?_⟩, by decide, ?_⟩
    · exact Nat.lt_of_lt_of_le (by decide : 10 < 10 ^ 2) (Nat.pow_le_pow_right (by decide) (by decide))
    · rintro _ ⟨⟩
      exact ⟨by decide, "//var/./log", rfl⟩
  have perm : pairs.Perm (s.exported "my.app") := by decide +kernel
  obtain ⟨id, loaded, -⟩ := load_exported .notices "my.app" s portable pairs perm
  exact ⟨portable, perm, id, loaded⟩

end Session

end KeyBundle
