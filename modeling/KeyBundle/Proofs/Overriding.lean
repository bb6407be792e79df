/-
  KeyBundle.Proofs.Overriding — which overrides an environment holds.

  A variable overrides one key at most, and several may override the same one (`Overrides`).
  (1) One variable taken into what has been found changes the value of its key and no other, and nothing where the
      key is sensitive (`lookup_addOverride`). So over a whole environment a key has the value of its last variable
      (`lookup_overrides`), and no name comes twice (`nodup_overrides`).
  (2) Keys are in small letters, so that a key is sensitive just when a word of its last part is, as it stands
      (`Overrides.isSensitiveKey_iff`).
  (3) Together these say what is found, that a sensitive variable leaves no trace, and when the order is of no account
      (`overrides_exactly`).
-/

import KeyBundle.Proofs.CaseForms
import KeyBundle.Proofs.Lookup
import KeyBundle.Proofs.Separators
import KeyBundle.Settings.Environment
import Mathlib.Data.List.Induction
import Mathlib.Data.List.Nodup
import Mathlib.Data.List.Perm.Basic

namespace KeyBundle

variable {pre name key value : String} {env : Environment}

/-! ## Variables and keys -/

/-- The name is the capital form of the prefix, an underscore and a rest; the key is the rest in small letters, with
    dots for double underscores. -/
def Overrides (pre name key : String) : Prop :=
  ∃ rest, name = Text.upper pre ++ "_" ++ rest ∧ key = String.ofList (dotted (Text.lower rest).toList)

theorem overrideKey?_eq_some_iff : overrideKey? (openingOf pre) name = some key ↔ Overrides pre name key := by
  unfold overrideKey?
  split
  · next h =>
    obtain ⟨rest, same⟩ := List.isPrefixOf_iff_prefix.mp h
    have cut : name = openingOf pre ++ String.ofList rest := by
      rw [← String.toList_inj, String.toList_append, String.toList_ofList, same]
    rw [Option.some.injEq, ← same, List.drop_left]
    constructor
    · rintro rfl
      exact ⟨String.ofList rest, cut, rfl⟩
    · rintro ⟨other, hname, rfl⟩
      have : String.ofList rest = other := String.append_right_inj _ |>.mp (cut.symm.trans hname)
      rw [this]
  · next h =>
    refine ⟨nofun, fun ⟨rest, hname, _⟩ => absurd (List.isPrefixOf_iff_prefix.mpr ?_) h⟩
    rw [hname, String.toList_append]
    exact List.prefix_append _ _

instance (pre name key : String) : Decidable (Overrides pre name key) :=
  decidable_of_iff _ overrideKey?_eq_some_iff

/-- The value of the last variable that overrides the key. -/
def override? (pre : String) (env : Environment) (key : String) : Option String :=
  (env.filter fun e => Overrides pre e.1 key).getLast?.map Prod.snd

/-- A variable overrides the key with the value, and none after it overrides the key. -/
def LastMapped (pre : String) (env : Environment) (key value : String) : Prop :=
  ∃ before name after, env = before ++ (name, value) :: after ∧ Overrides pre name key ∧
    ∀ e ∈ after, ¬ Overrides pre e.1 key

theorem override?_eq_some_iff : override? pre env key = some value ↔ LastMapped pre env key value := by
  simp only [override?, Option.map_eq_some_iff, List.getLast?_eq_some_iff, List.filter_eq_append_iff,
    List.filter_eq_cons_iff, List.filter_eq_nil_iff, decide_eq_true_eq, LastMapped]
  constructor
  · rintro ⟨⟨name, _⟩, ⟨ys, l, -, rfl, rfl, m, after, rfl, -, maps, last⟩, rfl⟩
    exact ⟨l ++ m, name, after, by simp, maps, last⟩
  · rintro ⟨before, name, after, rfl, maps, last⟩
    exact ⟨(name, value), ⟨_, before, _, rfl, rfl, [], after, rfl, by simp, maps, last⟩, rfl⟩

theorem override?_concat (e : String × String) : override? pre (env ++ [e]) key =
    if Overrides pre e.1 key then some e.2 else override? pre env key := by
  rw [override?, List.filter_append, List.filter_singleton]
  by_cases h : Overrides pre e.1 key
  · simp [h]
  · simp [h, override?]

/-! ## One variable -/

theorem lookup_set (env : Environment) (name value n : String) :
    (env.set name value).lookup n = if n = name then some value else env.lookup n := by
  unfold Environment.set
  split
  · next h =>
    rw [lookup_change name (fun _ => value) env n]
    split
    · next same =>
      rw [← isSome_lookup, ← same] at h
      obtain ⟨old, hold⟩ := Option.isSome_iff_exists.mp h
      rw [hold]
      rfl
    · rfl
  · next h =>
    rw [lookup_concat]
    split
    · next same =>
      rw [← isSome_lookup, ← same, Bool.not_eq_true, Option.isSome_eq_false_iff, Option.isNone_iff_eq_none] at h
      rw [h]
      rfl
    · exact Option.or_none

theorem names_set (env : Environment) (name value : String) : (env.set name value).map Prod.fst =
    if name ∈ env.map Prod.fst then env.map Prod.fst else env.map Prod.fst ++ [name] := by
  have known : env.any (·.1 == name) = true ↔ name ∈ env.map Prod.fst := by simp
  unfold Environment.set
  simp only [known]
  split
  · rw [List.map_map]
    refine List.map_congr_left fun v _ => ?_
    by_cases h : v.1 = name <;> simp [h]
  · simp

theorem nodup_set (h : (env.map Prod.fst).Nodup) (name value : String) : ((env.set name value).map Prod.fst).Nodup := by
  rw [names_set]
  split
  · exact h
  · next new => exact List.concat_eq_append ▸ h.concat new

theorem lookup_addOverride (opening : String) (found : Environment) (e : String × String) (key : String) :
    (addOverride opening found e).lookup key =
      if overrideKey? opening e.1 = some key ∧ isSensitiveKey key = false then some e.2 else found.lookup key := by
  unfold addOverride
  cases h : overrideKey? opening e.1 with
  | none => simp
  | some k =>
    dsimp only
    by_cases same : k = key
    · subst same
      cases isSensitiveKey k <;> simp [lookup_set]
    · have other : key ≠ k := fun h => same h.symm
      cases isSensitiveKey k <;> simp [lookup_set, same, other]

theorem nodup_addOverride {found : Environment} (h : (found.map Prod.fst).Nodup) (opening : String)
    (e : String × String) : ((addOverride opening found e).map Prod.fst).Nodup := by
  unfold addOverride
  split
  · exact h
  · split
    · exact h
    · exact nodup_set h _ _

/-! ## All variables -/

theorem lookup_overrides (env : Environment) (pre key : String) : (overrides env (openingOf pre)).lookup key =
    if isSensitiveKey key then none else override? pre env key := by
  induction env using List.reverseRecOn with
  | nil => exact (ite_self none).symm
  | append_singleton env e ih =>
    rw [overrides, List.foldl_concat, lookup_addOverride, override?_concat]
    rw [overrides] at ih
    simp only [overrideKey?_eq_some_iff, ih]
    cases isSensitiveKey key <;> simp

theorem nodup_overrides (env : Environment) (opening : String) : ((overrides env opening).map Prod.fst).Nodup := by
  induction env using List.reverseRecOn with
  | nil => exact List.nodup_nil
  | append_singleton env e ih =>
    rw [overrides, List.foldl_concat]
    exact nodup_addOverride ih opening e

/-! ## Sensitive keys -/

/-- A word between underscores of the part after the last dot is sensitive. -/
def Sensitive (key : String) : Prop :=
  ∃ leaf word, Text.IsLeaf '.' key.toList leaf ∧ Text.IsPart '_' leaf word ∧ String.ofList word ∈ sensitiveWords

theorem isSensitiveKey_iff (h : ∀ c ∈ key.toList, Text.IsSmall c) : isSensitiveKey key = true ↔ Sensitive key := by
  obtain ⟨leaf, last, isLeaf⟩ := Text.exists_isLeaf '.' key.toList
  have small : Text.lower (String.ofList leaf) = String.ofList leaf :=
    Text.lower_eq_self fun c hc => h c (isLeaf.subset (by rwa [String.toList_ofList] at hc))
  have words : isSensitiveKey key = true ↔
      ∃ word, Text.IsPart '_' leaf word ∧ String.ofList word ∈ sensitiveWords := by
    rw [isSensitiveKey, leafOf, last, Option.getD_some, small, String.toList_ofList, List.any_eq_true]
    simp only [Text.mem_pieces_iff, List.contains_iff_mem]
  rw [words]
  constructor
  · rintro ⟨word, isPart, bad⟩
    exact ⟨leaf, word, isLeaf, isPart, bad⟩
  · rintro ⟨leaf', word, isLeaf', isPart, bad⟩
    cases (Text.getLast?_pieces_iff.mpr isLeaf').symm.trans last
    exact ⟨word, isPart, bad⟩

theorem mem_dotted {c : Char} {s : List Char} (h : c ∈ dotted s) : c = '.' ∨ c ∈ s := by
  induction s using dotted.induct with
  | case1 rest ih =>
    rw [dotted, List.mem_cons] at h
    exact h.elim .inl fun h => (ih h).imp_right fun h => .tail _ (.tail _ h)
  | case2 d rest single ih =>
    rw [dotted.eq_2 _ _ single, List.mem_cons] at h
    exact h.elim (fun same => .inr (same ▸ List.mem_cons_self)) fun h => (ih h).imp_right (.tail _)
  | case3 => exact .inr h

theorem Overrides.isSmall (h : Overrides pre name key) : ∀ c ∈ key.toList, Text.IsSmall c := by
  obtain ⟨rest, -, rfl⟩ := h
  intro c hc
  rw [String.toList_ofList] at hc
  obtain rfl | hc := mem_dotted hc
  · exact (by decide +kernel : Text.lowerChar '.' = ['.'])
  · exact Text.isSmall_lower rest c hc

theorem Overrides.isSensitiveKey_iff (h : Overrides pre name key) : isSensitiveKey key = true ↔ Sensitive key :=
  KeyBundle.isSensitiveKey_iff h.isSmall

/-- A variable of a sensitive key is as good as none. -/
theorem addOverride_sensitive {e : String × String} (h : Overrides pre e.1 key) (sensitive : Sensitive key)
    (found : Environment) : addOverride (openingOf pre) found e = found := by
  rw [addOverride, overrideKey?_eq_some_iff.mpr h]
  exact if_pos (h.isSensitiveKey_iff.mpr sensitive)

/-! ## What is found -/

/-- No two of the variables override one key. -/
def Apart (pre : String) (env : Environment) : Prop :=
  env.Pairwise fun e e' => ∀ key, Overrides pre e.1 key → ¬ Overrides pre e'.1 key

instance (pre : String) (env : Environment) : Decidable (Apart pre env) :=
  decidable_of_iff
    (env.Pairwise fun e e' => ∀ key ∈ overrideKey? (openingOf pre) e.1, overrideKey? (openingOf pre) e'.1 ≠ some key)
    (by simp only [Apart, Option.mem_def, ne_eq, overrideKey?_eq_some_iff])

/-- Where no two variables override one key, each that does is the last. -/
theorem lastMapped_iff (apart : Apart pre env) :
    LastMapped pre env key value ↔ ∃ name, (name, value) ∈ env ∧ Overrides pre name key := by
  constructor
  · rintro ⟨before, name, after, rfl, maps, -⟩
    exact ⟨name, by simp, maps⟩
  · rintro ⟨name, mem, maps⟩
    obtain ⟨before, after, rfl⟩ := List.append_of_mem mem
    have later := (List.pairwise_cons.mp (List.pairwise_append.mp apart).2.1).1
    exact ⟨before, name, after, rfl, maps, fun e he => later e he key maps⟩

theorem mem_overrides_iff : (key, value) ∈ overrides env (openingOf pre) ↔
    ¬ Sensitive key ∧ LastMapped pre env key value := by
  rw [mem_iff_lookup_eq (nodup_overrides env _), lookup_overrides, ← override?_eq_some_iff]
  constructor
  · intro found
    split at found
    · cases found
    · next passed =>
      obtain ⟨before, name, after, -, maps, -⟩ := override?_eq_some_iff.mp found
      exact ⟨mt maps.isSensitiveKey_iff.mpr passed, found⟩
  · rintro ⟨harmless, last⟩
    obtain ⟨before, name, after, -, maps, -⟩ := override?_eq_some_iff.mp last
    rw [if_neg (mt maps.isSensitiveKey_iff.mp harmless), last]

/-- What is found in an environment are the keys that are not sensitive, each once and with the value of the last
    variable that overrides it. A variable that overrides a sensitive key makes no difference, wherever it stands. And
    when no two variables override one key, their order makes no difference but to the order of what is found. -/
theorem overrides_exactly (pre : String) (env : Environment) :
    (∀ key value, (key, value) ∈ overrides env (openingOf pre) ↔ ¬ Sensitive key ∧ LastMapped pre env key value) ∧
    ((overrides env (openingOf pre)).map Prod.fst).Nodup ∧
    (∀ before e after key, env = before ++ e :: after → Overrides pre e.1 key → Sensitive key →
      overrides env (openingOf pre) = overrides (before ++ after) (openingOf pre)) ∧
    (Apart pre env → ∀ env', env.Perm env' →
      (overrides env (openingOf pre)).Perm (overrides env' (openingOf pre))) := by
  refine ⟨fun _ _ => mem_overrides_iff, nodup_overrides env _, ?_, ?_⟩
  · rintro before e after key rfl maps sensitive
    simp only [overrides, List.foldl_append, List.foldl_cons, addOverride_sensitive maps sensitive]
  · intro apart env' perm
    have apart' : Apart pre env' :=
      (perm.pairwise_iff fun {_ _} apart key maps maps' => apart key maps' maps).mp apart
    refine (List.perm_ext_iff_of_nodup (nodup_overrides env _).of_map (nodup_overrides env' _).of_map).mpr ?_
    rintro ⟨key, value⟩
    rw [mem_overrides_iff, mem_overrides_iff, lastMapped_iff apart, lastMapped_iff apart']
    simp only [perm.mem_iff]

/-- The pin leaves no trace between the others, which may come in either order. -/
theorem overrides_exactly_pin :
    let env : Environment := [("APP_LOG__LEVEL", "INFO"), ("APP_LOG___Pin", "1234"), ("APP_Mode", "dark")]
    overrides env (openingOf "app") = [("log.level", "INFO"), ("mode", "dark")] ∧
      LastMapped "app" env "mode" "dark" ∧
      overrides env (openingOf "app") = overrides [env[0], env[2]] (openingOf "app") ∧
      (overrides env (openingOf "app")).Perm (overrides env.reverse (openingOf "app")) := by
  intro env
  have found : overrides env (openingOf "app") = [("log.level", "INFO"), ("mode", "dark")] := by decide +kernel
  have pin : Overrides "app" "APP_LOG___Pin" "log._pin" := by decide +kernel
  obtain ⟨members, -, invisible, order⟩ := overrides_exactly "app" env
  refine ⟨found, ?_, ?_, order (by decide +kernel) _ (List.reverse_perm env).symm⟩
  · exact ((members "mode" "dark").mp (found ▸ by decide)).2
  · exact invisible [env[0]] env[1] [env[2]] _ rfl pin (pin.isSensitiveKey_iff.mp (by decide +kernel))

end KeyBundle
