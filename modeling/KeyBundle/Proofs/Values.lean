/-
  KeyBundle.Proofs.Values — the value of a keyword leaves no trace in a redacted text.

  A keyword, a sign and a value stand in a text, with any text before them, and behind them nothing or a comma.

  (1) What is found in the value ends where the value ends (`matchAt_value`), so a rule for names rewrites a value to
      a value, and the rest as if it stood alone (`applyFrom_value`).
  (2) Texts that differ in the value only: a rule for names turns them into one and the same text, or again into
      texts that differ in the value only (`Differing.apply`). The rule that knows the keyword turns them into one
      (`Differing.apply_owner`).
  (3) Each keyword is known to a rule (`exists_owner`). So a redacted text does not depend on the value
      (`redact_value`).
-/

import KeyBundle.Proofs.Lockstep

namespace KeyBundle.Redaction

open KeyBundle.Text Pattern Rule

/-! ## (1) Inside of a value -/

/-- Nothing, or a comma and more. -/
def Terminated (t : List Char) : Prop := ∀ c ∈ t.head?, c = ','

instance (t : List Char) : Decidable (Terminated t) := inferInstanceAs (Decidable (∀ c ∈ t.head?, c = ','))

/-- Characters of a value. -/
def IsValue (v : List Char) : Prop := v ≠ [] ∧ ∀ c ∈ v, isValueChar c

instance (v : List Char) : Decidable (IsValue v) := inferInstanceAs (Decidable (_ ∧ _))

theorem Terminated.closed {t : List Char} (h : Terminated t) : Closed t := by
  intro c hc
  rw [h c hc]
  decide

variable {post : List Char} (hpost : Terminated post)

include hpost

/-- No assignment starts at the end of a value, or goes on past it with its name. -/
theorem length?_terminated {w : List (Char → Bool)} (hw : Stage.Named (.name w)) :
    Stage.length? (.name w) post = none := by
  cases post with
  | nil => cases w <;> rfl
  | cons c t =>
    obtain rfl := hpost c rfl
    cases w with
    | nil => rfl
    | cons f w =>
      have : f ',' = false := by
        by_contra h
        exact absurd ((List.forall_mem_cons.mp hw).1 ',' (by simpa using h)) (by decide)
      rw [Stage.length?, this]
      rfl

theorem length?_sign_terminated : Stage.length? .sign post = none := by
  cases post with
  | nil => rfl
  | cons c t =>
    obtain rfl := hpost c rfl
    rfl

theorem length?_inside {s : List Char} (hs : ∀ c ∈ s, isValueChar c) {w : List (Char → Bool)}
    (hw : Stage.Named (.name w)) :
    Stage.length? (.name w) (s ++ post) = none ∨ Stage.length? (.name w) (s ++ post) = some s.length := by
  induction s generalizing w with
  | nil => exact .inl (length?_terminated hpost hw)
  | cons c s ih =>
    obtain ⟨hc, hs⟩ := List.forall_mem_cons.mp hs
    rw [List.cons_append]
    cases w with
    | nil =>
      have hb : ¬isBlank c := fun h => by simp [isValueChar_of_isBlank h] at hc
      rw [Stage.length?, if_neg hb]
      by_cases hsign : isSign c
      · rw [if_pos hsign]
        by_cases hne : s = []
        · subst hne
          exact .inl (by rw [List.nil_append, length?_sign_terminated hpost]; rfl)
        · rw [Stage.length?_sign hne hs hpost.closed]
          exact .inr rfl
      · exact .inl (if_neg hsign)
    | cons f w =>
      rw [Stage.length?]
      by_cases hf : f c
      · rw [if_pos hf]
        rcases ih hs (List.forall_mem_cons.mp hw).2 with h | h
        · exact .inl (by rw [h]; rfl)
        · exact .inr (by rw [h]; rfl)
      · exact .inl (if_neg hf)

variable {n : Naming} (hn : n.Lawful)

include hn

/-- What is found in a value ends where the value ends. -/
theorem matchAt_value (b : Option Char) {s : List Char} (hs : ∀ c ∈ s, isValueChar c) :
    n.rule.pattern.matchAt b (s ++ post) = none ∨ n.rule.pattern.matchAt b (s ++ post) = some s.length := by
  have alike : Alike (fun _ => False) (fun _ : Unit => s.length)
      fun _ => assignment n.apart n.names b (s ++ post) := by
    refine Family.assignment_alike (fun _ => rfl) fun w hw => ?_
    rcases length?_inside hpost hs (hn.named hw) with h | h
    · exact .none fun _ => h
    · exact .through fun _ => h
  rw [hn.matchAt_eq]
  cases alike with
  | none h => exact .inl (h ())
  | same k hk h => exact hk.elim
  | through h => exact .inr (h ())

/-- A value stays a value. -/
theorem applyFrom_value (b : Option Char) {s : List Char} (hs : ∀ c ∈ s, isValueChar c) :
    ∃ s', (∀ c ∈ s', isValueChar c) ∧ (s ≠ [] → s' ≠ []) ∧
      n.rule.applyFrom 0 b (s ++ post) = s' ++ n.rule.applyFrom 0 (lastOf b s) post := by
  induction s generalizing b with
  | nil => exact ⟨[], nofun, id, rfl⟩
  | cons c s ih =>
    obtain ⟨hc, hs'⟩ := List.forall_mem_cons.mp hs
    rcases matchAt_value hpost hn b hs with h | h
    · obtain ⟨s', hv, -, h'⟩ := ih (some c) hs'
      exact ⟨c :: s', List.forall_mem_cons.mpr ⟨hc, hv⟩, fun _ => List.cons_ne_nil c s',
        (replaceFrom_none h).trans (congrArg (c :: ·) h')⟩
    · refine ⟨n.rule.label, hn.label_value, fun _ hl => ?_, replaceFrom_match (List.cons_ne_nil c s) h⟩
      have := lastOf_label n.rule none
      rw [hl] at this
      cases this

/-- What comes behind a value is rewritten as if it stood alone. -/
theorem applyFrom_terminated (b : Option Char) :
    n.rule.applyFrom 0 b post = n.rule.applyFrom 0 none post ∧ Terminated (n.rule.applyFrom 0 none post) := by
  have missed (b : Option Char) : n.rule.pattern.matchAt b post = none := by
    rw [hn.matchAt_eq, assignment]
    split
    · rfl
    · exact List.findSome?_eq_none_iff.mpr fun w hw => length?_terminated hpost (hn.named hw)
  cases post with
  | nil =>
    have nothing (b : Option Char) : n.rule.applyFrom 0 b [] = [] := replaceFrom_nil (hn.matchAt_nil b) 0
    rw [nothing, nothing]
    exact ⟨rfl, by decide⟩
  | cons c t =>
    have copied (b : Option Char) : n.rule.applyFrom 0 b (c :: t) = c :: n.rule.applyFrom 0 (some c) t :=
      replaceFrom_none (missed b)
    rw [copied, copied]
    exact ⟨rfl, fun d hd => (Option.mem_some_iff.mp hd) ▸ hpost c rfl⟩

omit hpost hn

/-! ## (2) Texts that differ in a value -/

/-- The keyword is one of the names, and starts with a word character. -/
def Rule.Naming.knows (n : Naming) (kw : List Char) : Bool :=
  (n.names.spellings.any fun w => w.length == kw.length && fits w kw) && kw.head?.any isWord

/-- Texts that differ in the value behind a keyword and a sign only. If the keyword has to stand apart, what comes
    before it ends in no word character. -/
def Differing {ι : Type} (kw : List Char) (sep : Char) (apart : Prop) (T : ι → List Char) : Prop :=
  ∃ (pre : List Char) (v : ι → List Char) (post : List Char),
    (∀ i, T i = pre ++ (kw ++ sep :: v i ++ post)) ∧ (∀ i, IsValue (v i)) ∧ Terminated post ∧
      (apart → (lastOf none pre).any isWord = false)

theorem fits_append_right {w : List (Char → Bool)} {s : List Char} (h : fits w s) (t : List Char) :
    fits w (s ++ t) := by
  induction w generalizing s with
  | nil => rfl
  | cons f w ih =>
    cases s with
    | nil => cases h
    | cons c s =>
      rw [fits, Bool.and_eq_true] at h
      rw [List.cons_append, fits, h.1, ih h.2]
      rfl

theorem forall_mem_of_fits {P : Char → Prop} {w : List (Char → Bool)} {s : List Char} (h : fits w s)
    (hl : w.length = s.length) (hw : ∀ f ∈ w, ∀ c, f c → P c) : ∀ c ∈ s, P c := by
  induction w generalizing s with
  | nil => rw [List.length_eq_zero_iff.mp hl.symm]; nofun
  | cons f w ih =>
    cases s with
    | nil => cases h
    | cons c s =>
      rw [fits, Bool.and_eq_true] at h
      obtain ⟨hf, hw⟩ := List.forall_mem_cons.mp hw
      exact List.forall_mem_cons.mpr ⟨hf c h.1, ih h.2 (Nat.succ.inj hl) hw⟩

section

variable {ι : Type} {kw : List Char} {sep : Char} {apart : Prop} {n m : Naming}

theorem knows_iff : n.knows kw ↔
    (∃ w ∈ n.names.spellings, w.length = kw.length ∧ fits w kw) ∧ kw.head?.any isWord := by
  simp [Naming.knows]

/-- No name goes on with a sign. -/
theorem length?_at_sign (hsep : isSign sep) {f : Char → Bool} {w : List (Char → Bool)}
    (hw : Stage.Named (.name (f :: w))) (t : List Char) : Stage.length? (.name (f :: w)) (sep :: t) = none := by
  have : ¬f sep := fun h => by
    have := (isNameChar_iff.mp ((List.forall_mem_cons.mp hw).1 sep h)).2
    rw [hsep] at this
    cases this
  rw [Stage.length?, if_neg this]

theorem matchAt_sign (hn : n.Lawful) (hsep : isSign sep) (b : Option Char) (t : List Char) :
    n.rule.pattern.matchAt b (sep :: t) = none := by
  rw [hn.matchAt_eq, assignment]
  split
  · rfl
  · refine List.findSome?_eq_none_iff.mpr fun w hw => ?_
    have hnamed := hn.named hw
    cases w with
    | nil => exact absurd (hn.names_pos [] hw) (Nat.lt_irrefl 0)
    | cons f w => exact length?_at_sign hsep hnamed t

theorem family_of_known (hm : m.Lawful) (hkw : m.knows kw) (hsep : isSign sep) {v : ι → List Char}
    (hv : ∀ i, IsValue (v i)) {post : List Char} (hpost : Terminated post) :
    Family kw (fun i => sep :: v i) (fun _ => post) where
  lead_ne h := by
    rw [h] at hkw
    simp [knows_iff] at hkw
  lead_name := by
    obtain ⟨⟨w, hw, hl, hf⟩, -⟩ := knows_iff.mp hkw
    exact forall_mem_of_fits hf hl (hm.named hw)
  tail_value i := List.forall_mem_cons.mpr ⟨isValueChar_of_isSign hsep, (hv i).2⟩
  post_closed _ := hpost.closed
  name_alike w hw := by
    cases w with
    | nil =>
      refine .through fun i => ?_
      have hb : ¬isBlank sep := by simp [isBlank_of_isSign hsep]
      rw [List.cons_append, Stage.length?, if_neg hb, if_pos hsep,
        Stage.length?_sign (hv i).1 (hv i).2 hpost.closed]
      rfl
    | cons f w =>
      refine .none fun i => ?_
      rw [List.cons_append, length?_at_sign hsep hw]

/-- A rule that knows the keyword finds it. -/
theorem matchAt_known (hn : n.Lawful) (hkw : n.knows kw) (hsep : isSign sep) {v : List Char} (hv : IsValue v)
    {post : List Char} (hpost : Terminated post) {b : Option Char} (hb : n.apart → b.any isWord = false) :
    n.rule.pattern.matchAt b (kw ++ sep :: v ++ post) ≠ none := by
  obtain ⟨⟨w, hw, hl, hf⟩, hstart⟩ := knows_iff.mp hkw
  have found : Stage.length? (.name w) (kw ++ sep :: v ++ post) ≠ none := by
    have hblank : ¬isBlank sep := by simp [isBlank_of_isSign hsep]
    rw [List.append_assoc, Stage.length?_name, fits_append_right hf, hl, List.drop_left, if_pos rfl, List.cons_append,
      Stage.length?, if_neg hblank, if_pos hsep, Stage.length?_sign hv.1 hv.2 hpost.closed]
    simp
  have bounded : ¬(n.apart && !(⟨b, kw ++ sep :: v ++ post, 0⟩ : Place).isBoundary) := by
    have head : (kw ++ sep :: v ++ post).head? = kw.head? := by
      cases kw with
      | nil => simp at hstart
      | cons c kw => rfl
    cases ha : n.apart with
    | false => simp
    | true =>
      rw [Place.isBoundary, head, hstart, hb ha]
      decide
  rw [hn.matchAt_eq, assignment, if_neg bounded]
  intro hnone
  exact found (List.findSome?_eq_none_iff.mp hnone w hw)

variable {T : ι → List Char}

/-- The rule that knows the keyword leaves no difference. -/
theorem Differing.apply_owner (h : Differing kw sep apart T) (hn : n.Lawful) (hkw : n.knows kw) (hsep : isSign sep)
    (ha : n.apart → apart) : ∃ u, ∀ i, n.rule.apply (T i) = u := by
  obtain ⟨pre, v, post, hT, hv, hpost, hpre⟩ := h
  simp only [hT]
  rcases (family_of_known hn hkw hsep hv hpost).apply_cases hn pre with ⟨u, hu⟩ | ⟨-, -, -, missed⟩
  · exact ⟨_, fun i => by rw [hu i, (applyFrom_terminated hpost hn _).1]⟩
  · exact ⟨[], fun i => absurd (missed i) (matchAt_known hn hkw hsep (hv i) hpost fun h => hpre (ha h))⟩

/-- Any rule for names leaves no difference, or one in the value only. -/
theorem Differing.apply (h : Differing kw sep apart T) (hn : n.Lawful) (hm : m.Lawful) (hkw : m.knows kw)
    (hsep : isSign sep) :
    (∃ u, ∀ i, n.rule.apply (T i) = u) ∨ Differing kw sep apart fun i => n.rule.apply (T i) := by
  obtain ⟨pre, v, post, hT, hv, hpost, hpre⟩ := h
  simp only [hT]
  rcases (family_of_known hm hkw hsep hv hpost).apply_cases hn pre with ⟨u, hu⟩ | ⟨pre', hpre', follows, -⟩
  · exact .inl ⟨_, fun i => by rw [hu i, (applyFrom_terminated hpost hn _).1]⟩
  · right
    have value (i : ι) := applyFrom_value hpost hn (some sep) (hv i).2
    choose v' hv' hne heq using value
    have rest (i : ι) : n.rule.applyFrom 0 (lastOf none (pre ++ kw)) (sep :: v i ++ post) =
        sep :: (v' i ++ n.rule.applyFrom 0 none post) := by
      rw [← (applyFrom_terminated hpost hn (lastOf (some sep) (v i))).1, ← heq i]
      exact replaceFrom_none (matchAt_sign hn hsep _ _)
    refine ⟨pre', v', n.rule.applyFrom 0 none post, fun i => ?_, fun i => ⟨hne i (hv i).1, hv' i⟩,
      (applyFrom_terminated hpost hn none).2, fun h => ?_⟩
    · refine (hpre' i).trans ?_
      rw [rest i, List.append_assoc, List.cons_append]
    · rcases follows with same | label
      · rw [same]
        exact hpre h
      · rw [label]
        decide +kernel

end

/-! ## (3) Redaction -/

/-- The keywords, in small letters. -/
def keywords : List String :=
  ["password", "passwd", "pwd", "pin", "pins", "token", "bearer", "secret",
    "privkey", "privkeys", "priv_key", "priv_keys", "priv-key", "priv-keys",
    "privatekey", "privatekeys", "private_key", "private_keys", "private-key", "private-keys"]

theorem fits_of_toLower {w : List (Char → Bool)} (hw : ∀ f ∈ w, IsNameClass f) {s : List Char}
    (h : fits w (s.map Char.toLower)) : fits w s := by
  induction w generalizing s with
  | nil => rfl
  | cons f w ih =>
    obtain ⟨hf, hw⟩ := List.forall_mem_cons.mp hw
    cases s with
    | nil => cases h
    | cons c s =>
      rw [List.map_cons, fits, Bool.and_eq_true] at h
      rw [fits, hf.folds c h.1, ih hw h.2]
      rfl

/-- A rule knows a keyword in letters of either case. -/
theorem knows_of_toLower {n : Naming} (hn : n.Lawful) {kw : List Char} (h : n.knows (kw.map Char.toLower)) :
    n.knows kw := by
  have word : ∀ c ∈ capitals, isWord c.toLower → isWord c := by decide +kernel
  obtain ⟨⟨w, hw, hl, hf⟩, hstart⟩ := knows_iff.mp h
  refine knows_iff.mpr ⟨⟨w, hw, by rw [hl, List.length_map], fits_of_toLower (of_mem_spellings hn.classes hw) hf⟩, ?_⟩
  cases kw with
  | nil => cases hstart
  | cons c kw => exact of_toLower word c hstart

theorem exists_owner {kw : String} (h : kw.toLower ∈ keywords) :
    ∃ n ∈ Naming.all, n.knows kw.toList ∧ (n.apart → kw.toLower = "pin" ∨ kw.toLower = "pins") := by
  have known : ∀ k ∈ keywords, ∃ n ∈ Naming.all, n.knows k.toList ∧ (n.apart → k = "pin" ∨ k = "pins") := by
    decide +kernel
  obtain ⟨n, hn, hk, ha⟩ := known _ h
  have lower : kw.toLower.toList = kw.toList.map Char.toLower := String.toList_map
  rw [lower] at hk
  exact ⟨n, hn, knows_of_toLower (Naming.lawful_of_mem hn) hk, ha⟩

/-- The rules for names leave no difference, if one of them knows the keyword. -/
theorem foldl_differing {ι : Type} {kw : List Char} {sep : Char} {apart : Prop} (hsep : isSign sep) {ns : List Naming}
    (hns : ∀ n ∈ ns, n.Lawful) (owned : ∃ n ∈ ns, n.knows kw ∧ (n.apart → apart)) {T : ι → List Char}
    (h : Differing kw sep apart T) : ∃ u, ∀ i, (ns.map Naming.rule).foldl Rule.apply (T i) = u := by
  induction ns generalizing T with
  | nil =>
    obtain ⟨n, hn, -⟩ := owned
    cases hn
  | cons n ns ih =>
    obtain ⟨hn, hns'⟩ := List.forall_mem_cons.mp hns
    have settled (hu : ∃ u, ∀ i, n.rule.apply (T i) = u) :
        ∃ u, ∀ i, ((n :: ns).map Naming.rule).foldl Rule.apply (T i) = u := by
      obtain ⟨u, hu⟩ := hu
      exact ⟨(ns.map Naming.rule).foldl Rule.apply u, fun i => congrArg ((ns.map Naming.rule).foldl Rule.apply) (hu i)⟩
    obtain ⟨m, hm, hkw, ha⟩ := owned
    rcases List.mem_cons.mp hm with rfl | hm
    · exact settled (h.apply_owner hn hkw hsep ha)
    · rcases h.apply hn (hns' m hm) hkw hsep with const | differing
      · exact settled const
      · exact ih hns' ⟨m, hm, hkw, ha⟩ differing

/-- Texts that differ in the value behind a keyword only are redacted alike. -/
theorem redact_differing (literals : List String) {ι : Type} {T : ι → String} {kw : String} {sep : Char}
    (hkw : kw.toLower ∈ keywords) (hsep : isSign sep)
    (h : Differing kw.toList sep (kw.toLower = "pin" ∨ kw.toLower = "pins") fun i => (T i).toList) :
    ∃ u, ∀ i, redact literals (T i) = u := by
  obtain ⟨u, hu⟩ := foldl_differing hsep (fun n hn => Naming.lawful_of_mem hn) (exists_owner hkw) h
  refine ⟨String.ofList ((literals.map (·.toList)).foldl hideLiteral
    ([block, base64, hexadecimal].foldl Rule.apply u)), fun i => ?_⟩
  have rules : Rule.all = Naming.all.map Naming.rule ++ [block, base64, hexadecimal] := rfl
  rw [redact, redactChars, rules, List.foldl_append, hu]

/-- A redacted text does not depend on the value behind a keyword, whatever stands before it. -/
theorem redact_value (literals : List String) {pre kw post v₁ v₂ : String} {sep : Char} (hkw : kw.toLower ∈ keywords)
    (hpin : kw.toLower = "pin" ∨ kw.toLower = "pins" → ∀ c ∈ pre.toList.getLast?, isWord c = false)
    (hsep : sep = '=' ∨ sep = ':') (hpost : Terminated post.toList) (h₁ : IsValue v₁.toList) (h₂ : IsValue v₂.toList) :
    redact literals (pre ++ kw ++ String.singleton sep ++ v₁ ++ post) =
      redact literals (pre ++ kw ++ String.singleton sep ++ v₂ ++ post) := by
  have sign : isSign sep := by rcases hsep with rfl | rfl <;> rfl
  let T : {v : String // IsValue v.toList} → String := fun v => pre ++ kw ++ String.singleton sep ++ v.1 ++ post
  have differing : Differing kw.toList sep (kw.toLower = "pin" ∨ kw.toLower = "pins") fun v => (T v).toList := by
    refine ⟨pre.toList, fun v => v.1.toList, post.toList, fun v => by simp [T], (·.2), hpost, fun h => ?_⟩
    rw [lastOf_eq, Option.or_none]
    cases hl : pre.toList.getLast? with
    | none => rfl
    | some c => exact hpin h c hl
  obtain ⟨u, hu⟩ := redact_differing literals hkw sign differing
  exact (hu ⟨v₁, h₁⟩).trans (hu ⟨v₂, h₂⟩).symm

/-- A keyword in mixed case behind a word, and values of which one holds a further keyword. -/
theorem redact_value_pin :
    redact ["z"] ("user-" ++ "Pin" ++ String.singleton ':' ++ "1234" ++ ", z") =
      redact ["z"] ("user-" ++ "Pin" ++ String.singleton ':' ++ "token=z" ++ ", z") :=
  redact_value ["z"] (by decide +kernel) (fun _ => by decide +kernel) (.inr rfl) (by decide) (by decide)
    (by decide)

end KeyBundle.Redaction
