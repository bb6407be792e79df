/-
  KeyBundle.Proofs.SecretNames — which names hide the value behind them.

  Secrets are known by name in three places: by the keywords of the rules for log texts, by the sensitive words in keys
  of settings, and by the parameter names of secret blobs. A rule wants its keyword right before the sign.

  (1) What a rule for names finds in a name and its value is a keyword, and the name ends in it (`endsInKeyword`).
  (2) The other rules leave a short value as it is, whatever they find in the name (`foldl_runRules_value`).
  (3) So a name hides its value exactly if it ends in a keyword. Otherwise every value of letters and digits without
      long runs is shown (`secret_hidden_iff`), also behind sensitive keys and names of secret blobs
      (`sensitive_name_shown`).
-/

import KeyBundle.Proofs.Settling
import KeyBundle.Proofs.Values
import KeyBundle.Settings.Environment
import KeyBundle.Wire
import Mathlib.Data.List.DropRight
import Mathlib.Data.List.Sections

namespace KeyBundle.Redaction

open KeyBundle.Text Pattern Rule

/-! ## (1) Names that end in a keyword -/

/-- A letter of a name: one of the alphabet, an underscore or a dash. -/
def isNameLetter (c : Char) : Bool := c.isAlpha || c == '_' || c == '-'

/-- The name ends in a keyword, in letters of either case; pin and pins only where no word goes on. -/
def EndsInKeyword (name : List Char) : Prop :=
  ∃ kw ∈ keywords, kw.toList <:+ name.map Char.toLower ∧
    (kw = "pin" ∨ kw = "pins" → ∀ c ∈ (name.rdrop kw.length).getLast?, isWord c = false)

instance (name : List Char) : Decidable (EndsInKeyword name) := inferInstanceAs (Decidable (∃ kw ∈ keywords, _))

section

variable {m v : List Char} {w : List (Char → Bool)} {n : Naming}

theorem isNameLetter_cases {c : Char} (h : isNameLetter c) : isBlank c = false ∧ isSign c = false ∧ c ∈ ascii := by
  have known : ∀ c ∈ ascii, isNameLetter c → isBlank c = false ∧ isSign c = false := by decide +kernel
  have hc : c ∈ ascii := by
    simp only [isNameLetter, Bool.or_eq_true, beq_iff_eq] at h
    rcases h with (h | rfl) | rfl
    · refine mem_ascii (isBase64_of_isAlphanum ?_)
      simp [Char.isAlphanum, h]
    · decide +kernel
    · decide +kernel
  exact ⟨(known c hc h).1, (known c hc h).2, hc⟩

/-- A name that is read up to the sign has been read from its beginning. -/
theorem fits_of_isSome (hm : ∀ c ∈ m, isNameLetter c) (hw : Stage.Named (.name w))
    (h : (Stage.length? (.name w) (m ++ '=' :: v)).isSome) : w.length = m.length ∧ fits w m := by
  induction w generalizing m with
  | nil =>
    cases m with
    | nil => exact ⟨rfl, rfl⟩
    | cons c m =>
      obtain ⟨hb, hs, -⟩ := isNameLetter_cases ((List.forall_mem_cons.mp hm).1)
      simp [Stage.length?, hb, hs] at h
  | cons f w ih =>
    cases m with
    | nil =>
      rw [List.nil_append, length?_at_sign rfl hw] at h
      cases h
    | cons c m =>
      rw [List.cons_append, Stage.length?] at h
      split at h
      · next hf =>
        rw [Option.isSome_map] at h
        obtain ⟨hl, hfits⟩ := ih (List.forall_mem_cons.mp hm).2 (List.forall_mem_cons.mp hw).2 h
        exact ⟨congrArg (· + 1) hl, by rw [fits, hf, hfits]; rfl⟩
      · cases h

/-- The small letters of names. -/
def nameLetters : List Char := "abcdefghijklmnopqrstuvwxyz_-".toList

/-- The names of the rules, in small letters, are keywords. -/
theorem spelled : ∀ n ∈ Naming.all, ∀ w ∈ n.names.spellings, ∀ s ∈ (w.map nameLetters.filter).sections,
    String.ofList s ∈ keywords ∧ (String.ofList s = "pin" ∨ String.ofList s = "pins" → n.apart) := by
  decide +kernel

theorem folds_spelled : ∀ n ∈ Naming.all, ∀ w ∈ n.names.spellings, ∀ f ∈ w, ∀ c ∈ capitals, f c → f c.toLower := by
  decide +kernel

theorem toLower_mem_nameLetters {c : Char} (h : isNameLetter c) : c.toLower ∈ nameLetters := by
  have known : ∀ c ∈ ascii, isNameLetter c → c.toLower ∈ nameLetters := by decide +kernel
  exact known c (isNameLetter_cases h).2.2 h

theorem mem_sections_of_fits (hf : ∀ f ∈ w, ∀ c ∈ m, f c → f c.toLower) (hm : ∀ c ∈ m, isNameLetter c)
    (hl : w.length = m.length) (h : fits w m) : m.map Char.toLower ∈ (w.map nameLetters.filter).sections := by
  rw [List.mem_sections]
  induction w generalizing m with
  | nil =>
    rw [List.length_eq_zero_iff.mp hl.symm]
    exact .nil
  | cons f w ih =>
    cases m with
    | nil => cases hl
    | cons c m =>
      rw [fits, Bool.and_eq_true] at h
      obtain ⟨hc, hm⟩ := List.forall_mem_cons.mp hm
      refine .cons (List.mem_filter.mpr ⟨toLower_mem_nameLetters hc, ?_⟩) (ih ?_ hm (Nat.succ.inj hl) h.2)
      · exact hf f List.mem_cons_self c List.mem_cons_self h.1
      · exact fun g hg d hd => hf g (List.mem_cons_of_mem f hg) d (List.mem_cons_of_mem c hd)

/-- Where a rule finds the rest of a name, the name ends in a keyword. -/
theorem endsInKeyword {x : List Char} (hm : ∀ c ∈ x ++ m, isNameLetter c) (hn : n ∈ Naming.all)
    (h : n.rule.pattern.matchAt (lastOf none x) (m ++ '=' :: v) ≠ none) : EndsInKeyword (x ++ m) := by
  obtain ⟨hapart, w, hw, hsome⟩ := (Naming.matchAt_ne_none_iff hn).mp h
  have letters : ∀ c ∈ m, isNameLetter c := fun c hc => hm c (List.mem_append_right x hc)
  obtain ⟨hl, hfits⟩ := fits_of_isSome letters ((Naming.lawful_of_mem hn).named hw) hsome
  have folds : ∀ f ∈ w, ∀ c ∈ m, f c → f c.toLower := by
    intro f hf c _ hc
    rcases isUpper_or_toLower c with hu | hlow
    · exact folds_spelled n hn w hw f hf c (mem_capitals hu) hc
    · rwa [hlow]
  obtain ⟨hkw, hpin⟩ := spelled n hn w hw _ (mem_sections_of_fits folds letters hl hfits)
  refine ⟨_, hkw, ?_, fun h c hc => ?_⟩
  · rw [String.toList_ofList, List.map_append]
    exact List.suffix_append _ _
  · have before : (x ++ m).rdrop (String.ofList (m.map Char.toLower)).length = x := by
      rw [String.length_ofList, List.length_map, List.rdrop_append_length]
    rw [before] at hc
    have word := hapart (hpin h)
    rw [lastOf_of_getLast? hc] at word
    exact word

/-- A name with its value is no matter for a rule for names, unless the name ends in a keyword. -/
theorem apply_eq_self_of_name {name : List Char} (hname : ∀ c ∈ name, isNameLetter c) (hends : ¬EndsInKeyword name)
    (hv : ∀ c ∈ v, isSign c = false) (hn : n ∈ Naming.all) : n.rule.apply (name ++ '=' :: v) = name ++ '=' :: v := by
  refine Rule.apply_eq_self (Naming.rule_mem hn) fun x z hxz => exact_of_none ?_
  by_contra hfound
  rw [List.nil_append] at hfound
  have inName {m : List Char} (hsplit : name = x ++ m) (hz : z = m ++ '=' :: v) : False :=
    hends (hsplit ▸ endsInKeyword (hsplit ▸ hname) hn (hz ▸ hfound))
  rcases List.append_eq_append_iff.mp hxz with ⟨m, rfl, hz⟩ | ⟨m, hsplit, hz⟩
  · cases m with
    | nil => exact inName (m := []) (by simp) hz.symm
    | cons d m =>
      obtain ⟨rfl, rfl⟩ := List.cons.inj hz
      obtain ⟨-, w, -, hsome⟩ := (Naming.matchAt_ne_none_iff hn).mp hfound
      rw [length?_name_signless fun c hc => hv c (List.mem_append_right m hc)] at hsome
      cases hsome
  · exact inName hsplit hz

end

/-! ## (2) Short values -/

theorem exists_split_run (a : Char → Bool) (s : List Char) :
    ∃ x run, s = x ++ run ∧ (∀ c ∈ run, a c) ∧ ∀ c ∈ x.getLast?, ¬a c := by
  refine ⟨s.rdropWhile a, s.rtakeWhile a, List.rdropWhile_append_rtakeWhile.symm, fun c => List.mem_rtakeWhile_imp,
    fun c hc => ?_⟩
  obtain ⟨hne, rfl⟩ := List.mem_getLast?_eq_getLast hc
  exact List.rdropWhile_last_not a s hne

section

variable {run : List Char} (hrun : ∀ c ∈ run, isBase64 c)

include hrun

/-- A long run takes the sign behind it along. -/
theorem matchAt_signed (hlong : 40 ≤ run.length) {v : List Char} (hsign : '=' ∉ v.head?) (b : Option Char) :
    base64.pattern.matchAt b (run ++ ['='] ++ v) = some (run ++ ['=']).length := by
  have length : runLength isBase64 (run ++ '=' :: v) = run.length :=
    (runLength_append_cons (by decide) run v).trans (by rw [runLength, List.takeWhile_eq_self_iff.mpr hrun])
  have signs : runLength (· == '=') ('=' :: v) = 1 := by
    rw [runLength_cons_pos (by rfl)]
    cases v with
    | nil => rfl
    | cons c v => rw [runLength_cons_neg (by simpa using hsign)]
  rw [List.append_assoc, List.singleton_append]
  cases hm : base64.pattern.matchAt b (run ++ '=' :: v) with
  | none => exact absurd (length ▸ matchAt_base64_eq_none_iff.mp hm) (Nat.not_lt.mpr hlong)
  | some k =>
    have taken := matchAt_base64 hm
    rw [length, List.drop_left, signs] at taken
    rw [taken, List.length_append]
    rfl

/-- A run with a sign behind it is copied, or replaced together with the sign. -/
theorem applyFrom_run : ∃ u, ∃ d ∈ ['=', ']'], ∀ v, Runless v → '=' ∉ v.head? → ∀ b,
    base64.applyFrom 0 b (run ++ '=' :: v) = u ++ d :: v := by
  have copied {v : List Char} (hv : Runless v) (b : Option Char) : base64.applyFrom 0 b v = v :=
    applyFrom_runless (by simp [runRules]) hv b
  by_cases hlong : 40 ≤ run.length
  · obtain ⟨l, hlabel⟩ : ∃ l, base64.label = l ++ [']'] := ⟨"base64_secret=[REDACTED".toList, rfl⟩
    refine ⟨l, ']', by simp, fun v hv hsign b => ?_⟩
    have replaced : base64.applyFrom 0 b (run ++ ['='] ++ v) = base64.label ++ base64.applyFrom 0 _ v :=
      replaceFrom_match (by simp) (matchAt_signed hrun hlong hsign b)
    rwa [copied hv, hlabel, List.append_assoc, List.append_assoc] at replaced
  · refine ⟨run, '=', by simp, fun v hv _ b => ?_⟩
    have missed (x : List Char) (hx : x.length < 40) (b : Option Char) :
        base64.pattern.matchAt b (x ++ '=' :: v) = none := by
      rw [matchAt_base64_eq_none_iff, runLength_append_cons (by decide)]
      exact Nat.lt_of_le_of_lt (List.takeWhile_sublist _).length_le hx
    have named : base64.applyFrom 0 b (run ++ '=' :: v) = run ++ base64.applyFrom 0 (lastOf b run) ('=' :: v) :=
      replaceFrom_inert fun x hx _ b => missed x (Nat.lt_of_le_of_lt hx.length_le (Nat.lt_of_not_le hlong)) b
    have signed : base64.applyFrom 0 (lastOf b run) ('=' :: v) = '=' :: base64.applyFrom 0 (some '=') v :=
      replaceFrom_none (missed [] (by decide) _)
    rw [named, signed, copied hv]

end

/-- The rules for runs leave a short value behind a name as it is. -/
theorem foldl_runRules_value {name : List Char} (hname : ∀ c ∈ name, isNameLetter c) : ∃ u, ∀ v, Runless v →
    '=' ∉ v.head? → runRules.foldl Rule.apply (name ++ '=' :: v) = u ++ v := by
  obtain ⟨x, run, rfl, hrun, hx⟩ := exists_split_run isBase64 name
  obtain ⟨u, d, hd, rewritten⟩ := applyFrom_run hrun
  have before : ∃ y, ∀ v, Runless v → '=' ∉ v.head? → base64.apply (x ++ run ++ '=' :: v) = y ++ d :: v := by
    rcases List.eq_nil_or_concat' x with rfl | ⟨x, e, rfl⟩
    · exact ⟨u, fun v hv hsign => rewritten v hv hsign none⟩
    · -- the character before the run parts the text
      have parts : base64.pattern.avoids e := by
        have known : ∀ c ∈ ascii, isNameLetter c → ¬isBase64 c → base64.pattern.avoids c := by decide +kernel
        have letter : isNameLetter e := hname e (by simp)
        exact known e (isNameLetter_cases letter).2.2 letter (hx e (by simp))
      refine ⟨base64.apply x ++ e :: u, fun v hv hsign => ?_⟩
      have split : base64.applyFrom 0 none (x ++ e :: (run ++ '=' :: v)) =
          base64.applyFrom 0 none x ++ e :: base64.applyFrom 0 (some e) (run ++ '=' :: v) :=
        replaceFrom_append parts x _ 0 (Nat.zero_le _)
      rw [rewritten v hv hsign] at split
      simpa [Rule.apply_eq] using split
  obtain ⟨y, before⟩ := before
  have parts : ∀ d ∈ ['=', ']'], hexadecimal.pattern.avoids d := by decide
  refine ⟨hexadecimal.apply y ++ [d], fun v hv hsign => ?_⟩
  have digits : hexadecimal.apply (y ++ d :: v) = hexadecimal.apply y ++ d :: hexadecimal.applyFrom 0 (some d) v :=
    replaceFrom_append (parts d hd) y v 0 (Nat.zero_le _)
  change hexadecimal.apply (base64.apply (x ++ run ++ '=' :: v)) = _
  rw [before v hv hsign, digits, applyFrom_runless (by simp [runRules]) hv, List.append_assoc, List.singleton_append]

/-! ## (3) Hidden and shown values -/

theorem foldl_eq_self {rs : List Rule} {t : List Char} (h : ∀ r ∈ rs, r.apply t = t) : rs.foldl Rule.apply t = t := by
  induction rs with
  | nil => rfl
  | cons r rs ih =>
    obtain ⟨hr, hrs⟩ := List.forall_mem_cons.mp h
    rw [List.foldl_cons, hr, ih hrs]

/-- A redacted text does not depend on the value behind the name. -/
def Hides (name : String) : Prop :=
  ∀ literals v₁ v₂, IsValue v₁.toList → IsValue v₂.toList →
    redact literals (name ++ "=" ++ v₁) = redact literals (name ++ "=" ++ v₂)

theorem hides_of_endsInKeyword {name : String} (h : EndsInKeyword name.toList) : Hides name := by
  obtain ⟨k, hk, ⟨x, hx⟩, hpin⟩ := h
  obtain ⟨pre, kw, hsplit, -, lower⟩ := List.map_eq_append_iff.mp hx.symm
  have named : (String.ofList kw).toLower = k := by
    have mapped : (String.ofList kw).toLower.toList = (String.ofList kw).toList.map Char.toLower := String.toList_map
    rw [← String.toList_inj, ← lower, mapped, String.toList_ofList]
  intro literals v₁ v₂ h₁ h₂
  let T : {v : String // IsValue v.toList} → String := fun v => name ++ "=" ++ v.1
  have differing : Differing (String.ofList kw).toList '=' (k = "pin" ∨ k = "pins") fun v => (T v).toList := by
    refine ⟨pre, fun v => v.1.toList, [], fun v => by simp [T, hsplit], (·.2), by decide, fun h => ?_⟩
    have before : name.toList.rdrop k.length = pre := by
      rw [hsplit, ← String.length_toList, ← lower, List.length_map, List.rdrop_append_length]
    rw [lastOf_eq, Option.or_none]
    cases hl : pre.getLast? with
    | none => rfl
    | some c => exact hpin h c (before ▸ hl)
  obtain ⟨u, hu⟩ := redact_differing literals (named ▸ hk) (by rfl) (named.symm ▸ differing)
  exact (hu ⟨v₁, h₁⟩).trans (hu ⟨v₂, h₂⟩).symm

/-- Behind another name, every value of letters and digits without long runs stands in the redacted text. -/
theorem shown_of_not_endsInKeyword {name : String} (hname : ∀ c ∈ name.toList, isNameLetter c)
    (hends : ¬EndsInKeyword name.toList) : ∃ u : String, ∀ v : String, (∀ c ∈ v.toList, c.isAlphanum) →
      Runless v.toList → redact [] (name ++ "=" ++ v) = u ++ v := by
  obtain ⟨u, hu⟩ := foldl_runRules_value hname
  refine ⟨String.ofList u, fun v hv hruns => ?_⟩
  have plain : ∀ c ∈ v.toList, isSign c = false ∧ c ≠ ' ' := by
    intro c hc
    refine ⟨isSign_eq_false (p := Char.isAlphanum) ⟨rfl, rfl⟩ (hv c hc), ?_⟩
    rintro rfl
    exact absurd (hv _ hc) (by decide)
  have blankless : ' ' ∉ name.toList ++ '=' :: v.toList := by
    refine fun h => (List.mem_append.mp h).elim (fun hn => ?_) fun h => ?_
    · exact absurd (hname _ hn) (by decide)
    · exact (List.mem_cons.mp h).elim (by decide) fun hv => (plain _ hv).2 rfl
  have same : ∀ r ∈ Naming.all.map Naming.rule ++ [block], r.apply (name.toList ++ '=' :: v.toList) =
      name.toList ++ '=' :: v.toList := by
    refine List.forall_mem_append.mpr ⟨List.forall_mem_map.mpr fun n hn => ?_, List.forall_mem_singleton.mpr ?_⟩
    · exact apply_eq_self_of_name hname hends (fun c hc => (plain c hc).1) hn
    · refine Rule.apply_eq_self (by simp [Rule.all]) (exact_block fun x z hxz label _ hline => ?_)
      have inLine : ' ' ∈ line "BEGIN" label := by simp [line]
      rw [hxz] at blankless
      exact blankless (List.mem_append_right x (hline.mem inLine))
  have signless : '=' ∉ v.toList.head? := fun h => by
    have := (plain '=' (List.mem_of_head? h)).1
    cases this
  have rules : Rule.all = (Naming.all.map Naming.rule ++ [block]) ++ runRules := rfl
  have chars : (name ++ "=" ++ v).toList = name.toList ++ '=' :: v.toList := by simp
  rw [← String.toList_inj, redact_nil_toList, chars, rules, List.foldl_append, foldl_eq_self same, hu _ hruns signless,
    String.toList_append, String.toList_ofList]

/-! ### The names of secrets -/

/-- The parameter names of secret blobs. -/
def secretParameters : List String :=
  [Wire.pins, Wire.privateKeys, Wire.privatePasswords, Wire.gpgPrivateKeys, Wire.gpgPasswords]

/-- Names that the library takes for those of secrets: keys of settings in letters and underscores that are sensitive,
    and parameter names of secret blobs. -/
def NamesSecret (name : String) : Prop :=
  name ≠ "" ∧ (∀ c ∈ name.toList, c.isAlpha ∨ c = '_') ∧ isSensitiveKey name ∨ name ∈ secretParameters

instance (name : String) : Decidable (NamesSecret name) := inferInstanceAs (Decidable (_ ∨ _))

theorem NamesSecret.letters {name : String} (h : NamesSecret name) : ∀ c ∈ name.toList, isNameLetter c := by
  have parameters : ∀ name ∈ secretParameters, ∀ c ∈ name.toList, isNameLetter c := by decide
  rcases h with ⟨-, letters, -⟩ | h
  · intro c hc
    rcases letters c hc with hc | rfl
    · simp [isNameLetter, hc]
    · rfl
  · exact parameters name h

/-- The name of a secret hides its value exactly if it ends in a keyword. Otherwise every value of letters and digits
    without long runs stands in the redacted text. -/
theorem secret_hidden_iff {name : String} (h : NamesSecret name) :
    (Hides name ↔ EndsInKeyword name.toList) ∧
      (¬EndsInKeyword name.toList → ∃ u : String, ∀ v : String, (∀ c ∈ v.toList, c.isAlphanum) → Runless v.toList →
        redact [] (name ++ "=" ++ v) = u ++ v) := by
  have shown := shown_of_not_endsInKeyword h.letters
  refine ⟨⟨fun hides => ?_, hides_of_endsInKeyword⟩, shown⟩
  by_contra hends
  obtain ⟨u, hu⟩ := shown hends
  have runless (v : List Char) (hv : v.length < 32) : Runless v :=
    ⟨noRun_of_length (Nat.lt_trans hv (by decide)), noRun_of_length hv⟩
  have same := hides [] "a" "b" (by decide) (by decide)
  rw [hu "a" (by decide) (runless _ (by decide)), hu "b" (by decide) (runless _ (by decide)),
    ← String.toList_inj, String.toList_append, String.toList_append] at same
  cases List.append_cancel_left same

/-- A sensitive key that hides its value, and one that shows it. -/
theorem secret_hidden_iff_pin :
    NamesSecret "Db_Password" ∧ Hides "Db_Password" ∧ NamesSecret "user_pin" ∧
      ∃ u : String, ∀ v : String, (∀ c ∈ v.toList, c.isAlphanum) → Runless v.toList →
        redact [] ("user_pin" ++ "=" ++ v) = u ++ v :=
  have password : NamesSecret "Db_Password" := by decide +kernel
  have pin : NamesSecret "user_pin" := by decide +kernel
  ⟨password, (secret_hidden_iff password).1.mpr (by decide +kernel), pin, (secret_hidden_iff pin).2 (by decide +kernel)⟩

/-- Names of secrets that show what stands behind them: a sensitive key, one that ends in pin but not in a word of its
    own, and the name of secret blobs. -/
theorem sensitive_name_shown :
    (NamesSecret "key" ∧ redact [] "key=hunter2" = "key=hunter2" ∧ ¬Hides "key") ∧
      (NamesSecret "user_pin" ∧ redact [] "user_pin=hunter2" = "user_pin=hunter2" ∧ ¬Hides "user_pin") ∧
      NamesSecret "privkeys-passwords" ∧ redact [] "privkeys-passwords=hunter2" = "privkeys-passwords=hunter2" ∧
      ¬Hides "privkeys-passwords" := by
  have unhidden {name : String} (h : redact [] (name ++ "=" ++ "hunter2") ≠ redact [] (name ++ "=" ++ "hunter3")) :
      ¬Hides name :=
    fun hides => h (hides [] "hunter2" "hunter3" (by decide) (by decide))
  refine ⟨⟨?_, ?_, unhidden ?_⟩, ⟨?_, ?_, unhidden ?_⟩, ?_, ?_, unhidden ?_⟩ <;> decide +kernel

end KeyBundle.Redaction
