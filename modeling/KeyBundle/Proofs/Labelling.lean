/-
  KeyBundle.Proofs.Labelling — in a redacted text, every assignment is a label.

  The rules are applied one after the other, each to what the one before has left, so a rule might bring back what an
  earlier one has taken. Mostly it does not.

  (1) A match ends where a word ends: with a character of no word, or before one that continues no name
      (`ends_apart`). Digits are the exception: they may be followed by a name that has to stand apart.
  (2) So if the only assignments in a text are labels, a rule keeps it so, and the rule for a name makes it so
      (`labelled_of_rewritten`).
  (3) When all rules but the last have been applied, every assignment is the label of its name (`labelled_front`). The
      last one lets a name stand apart that did not before: right behind its own label (`labelled_rules`).
-/

import KeyBundle.Proofs.Rewriting

namespace KeyBundle.Redaction

open KeyBundle.Text Pattern Rule

/-! ## (1) Ends of matches -/

/-- A word ends between the character before and the text: no name that has to stand apart goes on over this place. -/
def Apart (b : Option Char) (t : List Char) : Prop := b.any isWord = false ∨ ∀ c ∈ t.head?, isBase64 c = false

theorem lastOf_of_getLast? {b : Option Char} {s : List Char} {c : Char} (h : s.getLast? = some c) :
    lastOf b s = some c := by
  rw [lastOf_eq, h, Option.some_or]

theorem isBase64_eq_false {c : Char} (h : isValueChar c = false) : isBase64 c = false := by
  by_contra hc
  rw [isValueChar_of_isBase64 (by simpa using hc)] at h
  cases h

theorem Closed.apart {t : List Char} (h : Closed t) (b : Option Char) : Apart b t :=
  .inr fun c hc => isBase64_eq_false (h c hc).1

/-- An assignment ends with a quote, or where its value ends. -/
theorem Rule.Stage.ends {stage : Stage} {m t : List Char} (h : length? stage (m ++ t) = some m.length) :
    (∃ q, m.getLast? = some q ∧ isQuote q) ∨ Closed t := by
  induction m generalizing stage with
  | nil =>
    right
    cases t with
    | nil => nofun
    | cons c t =>
      intro d hd
      obtain rfl := Option.mem_some_iff.mp hd
      obtain ⟨_, n, -, -, hlen⟩ | ⟨-, hlen⟩ | ⟨hv, hq, -⟩ := of_length?_cons h
      · cases hlen
      · cases hlen
      · exact ⟨hv, hq⟩
  | cons c m ih =>
    obtain ⟨next, n, -, hn, hlen⟩ | ⟨hq, hlen⟩ | ⟨-, -, hlen⟩ := of_length?_cons h
    · obtain rfl : m.length = n := Nat.succ.inj hlen
      rcases ih hn with ⟨q, hq, hquote⟩ | hclosed
      · exact .inl ⟨q, by rw [List.getLast?_cons, hq]; rfl, hquote⟩
      · exact .inr hclosed
    · obtain rfl : m = [] := List.length_eq_zero_iff.mp (Nat.succ.inj hlen)
      exact .inl ⟨c, rfl, hq⟩
    · cases hlen

/-- A block ends at the end of the text, before a line break that ends it, or with a dash. -/
theorem blockEnd_ends (b : Option Char) (t : List Char) (u : Nat) : ∃ k ≤ t.length, blockEnd b t u = u + k ∧
    ((∀ c ∈ (t.drop k).head?, c = '\n') ∨ (t.take k).getLast? = some '-') := by
  induction t generalizing b u with
  | nil => exact ⟨0, Nat.le_refl 0, rfl, .inl nofun⟩
  | cons c t ih =>
    cases hfirst : (dashed "END").first ⟨b, c :: t, u⟩ with
    | some q =>
      have hq := List.mem_of_head? hfirst
      obtain ⟨label, -, hline⟩ := of_mem_ends_line hq
      obtain ⟨k, rfl, -, hle⟩ := after_of_mem_ends (dashed "END").within_true hq
      have long : k ≤ (c :: t).length := Nat.le_trans hle (List.takeWhile_sublist _).length_le
      -- what is taken is the closing line
      have taken : (c :: t).take k = line "END" label := by
        rw [Place.after_rest] at hline
        have split := List.take_append_drop k (c :: t)
        exact List.append_cancel_right (split.trans hline)
      refine ⟨k, long, by rw [blockEnd, hfirst]; rfl, .inr ?_⟩
      have last : line "END" label = ("-----END ".toList ++ (label ++ "----".toList)) ++ ['-'] := by simp [line]
      rw [taken, last, List.getLast?_concat]
    | none =>
      by_cases hlast : t = [] ∧ c = '\n'
      · obtain ⟨rfl, rfl⟩ := hlast
        refine ⟨0, Nat.zero_le _, by rw [blockEnd, hfirst]; rfl, .inl fun c hc => ?_⟩
        exact (Option.mem_some_iff.mp hc).symm
      · obtain ⟨k, hk, hend, h⟩ := ih (some c) (u + 1)
        refine ⟨k + 1, Nat.succ_le_succ hk, ?_, ?_⟩
        · rw [blockEnd, hfirst]
          simp only [if_neg hlast, hend]
          omega
        · rw [List.drop_succ_cons, List.take_succ_cons, List.getLast?_cons]
          exact h.imp_right fun h => by rw [h]; rfl

/-- No character of the class follows its longest run. -/
theorem not_of_head?_drop {a : Char → Bool} {t : List Char} : ∀ c ∈ (t.drop (runLength a t)).head?, a c = false := by
  induction t with
  | nil => nofun
  | cons d t ih =>
    by_cases hd : a d
    · rwa [runLength_cons_pos hd, List.drop_succ_cons]
    · rw [runLength_cons_neg hd]
      intro c hc
      obtain rfl := Option.mem_some_iff.mp hc
      simpa using hd

/-- The rule for base64 finds every run that is long enough. -/
theorem matchAt_base64_eq_none_iff {b : Option Char} {t : List Char} :
    base64.pattern.matchAt b t = none ↔ runLength isBase64 t < 40 := by
  constructor
  · intro hmissed
    by_contra hlong
    have hr : (⟨b, t, 0⟩ : Place).after 40 ∈ (many isBase64 40 none).ends ⟨b, t, 0⟩ :=
      mem_ends_many.mpr ⟨40, Nat.le_refl _, Nat.le_of_not_lt hlong, rfl⟩
    obtain ⟨m, hm⟩ := exists_matchAt (p := base64.pattern)
      (List.mem_flatMap.mpr ⟨_, hr, self_mem_ends_many _ _ _⟩)
    rw [hmissed] at hm
    cases hm
  · intro hshort
    by_contra hfound
    obtain ⟨k, hk⟩ := Option.ne_none_iff_exists'.mp hfound
    obtain ⟨q, hq⟩ := exists_mem_ends hk
    obtain ⟨p, hp, -⟩ := List.mem_flatMap.mp hq
    obtain ⟨n, hn, hle, -⟩ := mem_ends_many.mp hp
    exact absurd (Nat.le_trans hn hle) (Nat.not_le_of_lt hshort)

/-- A match of the rule for base64 takes the whole run, and up to two signs behind it. -/
theorem matchAt_base64 {b : Option Char} {t : List Char} {k : Nat} (h : base64.pattern.matchAt b t = some k) :
    k = runLength isBase64 t + min (runLength (· == '=') (t.drop (runLength isBase64 t))) 2 := by
  have long : 40 ≤ runLength isBase64 t := by
    by_contra hshort
    rw [matchAt_base64_eq_none_iff.mpr (Nat.lt_of_not_le hshort)] at h
    cases h
  let run := (⟨b, t, 0⟩ : Place).after (runLength isBase64 t)
  have padded : (many (· == '=') 0 (some 2)).first run = some (run.after (min (runLength (· == '=') run.rest) 2)) := by
    obtain ⟨b', t', u⟩ := run
    have most : decide (u + 0 ≤ ((⟨b', t', u⟩ : Place).after (min (runLength (· == '=') t') 2)).used) :=
      decide_eq_true (Nat.le_add_right u _)
    rw [first, ends, reach_eq, Option.elim_some, List.range_succ, List.reverse_append, List.reverse_singleton,
      List.singleton_append, List.map_cons, List.filter_cons, if_pos most]
    rfl
  have found : base64.pattern.first ⟨b, t, 0⟩ = _ := first_many_seq long padded
  rw [matchAt_eq, found] at h
  cases h
  simp only [run, Place.after_used, Place.after_rest]
  omega

/-- Such a match ends with a sign, or where no character of the alphabet follows. -/
theorem base64_ends {b : Option Char} {m t : List Char} (h : base64.pattern.matchAt b (m ++ t) = some m.length) :
    m.getLast? = some '=' ∨ ∀ c ∈ t.head?, isBase64 c = false := by
  have length := matchAt_base64 h
  generalize hrun : runLength isBase64 (m ++ t) = run at length
  have behind := not_of_head?_drop (a := isBase64) (t := m ++ t)
  rw [hrun] at behind
  generalize hpad : min (runLength (· == '=') ((m ++ t).drop run)) 2 = pad at length
  rcases Nat.eq_zero_or_pos pad with rfl | hpos
  · right
    rwa [show run = m.length by omega, List.drop_left] at behind
  · -- the last character is one of the signs
    left
    have signs : ∀ c ∈ ((m ++ t).drop run).take pad, c == '=' :=
      forall_mem_take (hpad ▸ Nat.min_le_left _ _)
    have parts : m = (m ++ t).take run ++ ((m ++ t).drop run).take pad := by
      rw [← List.take_add, ← length, List.take_left]
    have nonempty : ((m ++ t).drop run).take pad ≠ [] := by
      intro hnil
      rw [hnil, List.append_nil] at parts
      have := congrArg List.length parts
      rw [List.length_take, List.length_append] at this
      omega
    rw [parts, List.getLast?_append_of_ne_nil _ nonempty, List.getLast?_eq_some_getLast nonempty]
    exact congrArg some (beq_iff_eq.mp (signs _ (List.getLast_mem nonempty)))

/-- Behind the matches of all rules but the last, a word has ended. -/
theorem ends_apart {r : Rule} (hr : r ∈ Rule.all) (hlast : r ≠ hexadecimal) {b : Option Char} {m t : List Char}
    (h : r.pattern.matchAt b (m ++ t) = some m.length) : Apart (lastOf b m) t := by
  have of_last {c : Char} (hc : m.getLast? = some c) (hw : isWord c = false) : Apart (lastOf b m) t := by
    rw [lastOf_of_getLast? hc]
    exact .inl hw
  rcases rule_cases hr with ⟨n, hn, rfl⟩ | rfl | hr
  · obtain ⟨w, -, hw⟩ := Naming.exists_of_matchAt hn h
    rcases Stage.ends hw with ⟨q, hq, hquote⟩ | hclosed
    · refine of_last hq ?_
      simp only [isQuote, Bool.or_eq_true, beq_iff_eq] at hquote
      rcases hquote with rfl | rfl <;> decide +kernel
    · exact hclosed.apart _
  · rw [matchAt_block, Option.map_eq_some_iff] at h
    obtain ⟨q, hq, hend⟩ := h
    obtain ⟨j, rfl, -, -⟩ := after_of_mem_ends (dashed "BEGIN").within_true (List.mem_of_head? hq)
    obtain ⟨k, hk, hend', hcases⟩ := blockEnd_ends (lastOf b ((m ++ t).take j)) ((m ++ t).drop j) (0 + j)
    have length : m.length = j + k := by
      rw [← hend]
      exact hend'.trans (by omega)
    rw [List.drop_drop, ← length, List.drop_left] at hcases
    rcases hcases with hbreak | hdash
    · refine .inr fun c hc => ?_
      rw [hbreak c hc]
      decide
    · -- the last character of the block is the last of the match
      have parts : m = (m ++ t).take j ++ ((m ++ t).drop j).take k := by
        rw [← List.take_add, ← length, List.take_left]
      have last : m.getLast? = some '-' := by rw [parts, List.getLast?_append, hdash, Option.some_or]
      exact of_last last (by decide +kernel)
  · simp only [runRules, List.mem_cons, List.not_mem_nil, or_false] at hr
    rcases hr with rfl | rfl
    · rcases base64_ends h with hsign | hother
      · exact of_last hsign (by decide +kernel)
      · exact .inr hother
    · exact absurd rfl hlast

/-! ## (2) Places -/

/-- It holds at every place of a text that comes after `u`: of all that comes before the place, and what comes behind. -/
def Everywhere (P : List Char → List Char → Prop) (u t : List Char) : Prop := ∀ x v, t = x ++ v → P (u ++ x) v

namespace Everywhere

variable {P Q : List Char → List Char → Prop} {u : List Char}

theorem nil_iff : Everywhere P u [] ↔ P u [] := by
  constructor
  · intro h
    have := h [] [] rfl
    rwa [List.append_nil] at this
  · intro h x v hxv
    obtain ⟨rfl, rfl⟩ := List.append_eq_nil_iff.mp hxv.symm
    rwa [List.append_nil]

theorem cons_iff {c : Char} {t : List Char} :
    Everywhere P u (c :: t) ↔ P u (c :: t) ∧ Everywhere P (u ++ [c]) t := by
  constructor
  · intro h
    refine ⟨?_, fun x v hxv => ?_⟩
    · have := h [] (c :: t) rfl
      rwa [List.append_nil] at this
    · have := h (c :: x) v (by rw [hxv, List.cons_append])
      rwa [List.append_assoc, List.singleton_append]
  · rintro ⟨hhead, htail⟩ x v hxv
    cases x with
    | nil =>
      rw [List.nil_append] at hxv
      rwa [List.append_nil, ← hxv]
    | cons d x =>
      rw [List.cons_append, List.cons.injEq] at hxv
      obtain ⟨rfl, rfl⟩ := hxv
      have := htail x v rfl
      rwa [List.append_assoc, List.singleton_append] at this

theorem append {s t : List Char} (hs : ∀ x v, s = x ++ v → v ≠ [] → P (u ++ x) (v ++ t))
    (ht : Everywhere P (u ++ s) t) : Everywhere P u (s ++ t) := by
  induction s generalizing u with
  | nil => rwa [List.append_nil] at ht
  | cons c s ih =>
    rw [List.cons_append, cons_iff]
    constructor
    · have := hs [] (c :: s) rfl (List.cons_ne_nil c s)
      rwa [List.append_nil] at this
    · refine ih (fun x v hxv hne => ?_) (by rwa [List.append_assoc, List.singleton_append])
      have := hs (c :: x) v (by rw [hxv, List.cons_append]) hne
      rwa [List.append_assoc, List.singleton_append]

theorem of_append {s t : List Char} (h : Everywhere P u (s ++ t)) : Everywhere P (u ++ s) t := by
  intro x v hxv
  have := h (s ++ x) v (by rw [hxv, List.append_assoc])
  rwa [← List.append_assoc] at this

theorem imp {t : List Char} (h : Everywhere P u t) (hPQ : ∀ x v, P x v → Q x v) : Everywhere Q u t :=
  fun x v hxv => hPQ _ _ (h x v hxv)

end Everywhere

/-- An assignment that is found at the place is the label of its name, but at places of a kind. -/
def Labelled (n : Naming) (but : List Char → Prop) (u v : List Char) : Prop :=
  n.rule.pattern.matchAt (lastOf none u) v ≠ none → n.rule.label <+: v ∨ but u

/-- No place is an exception. -/
def nowhere (_ : List Char) : Prop := False

/-- Within a label, an assignment that is found is a label. -/
theorem labelled_within {n : Naming} (hn : n ∈ Naming.all) {r : Rule} (hr : r ∈ Rule.all) (but : List Char → Prop)
    {x v : List Char} (hv : r.label = x ++ v) (hne : v ≠ []) (u t : List Char) :
    Labelled n but (u ++ x) (v ++ t) := by
  intro hfound
  obtain ⟨-, w, hw, hsome⟩ := (Naming.matchAt_ne_none_iff hn).mp hfound
  have behind : v ∈ r.label.tails := (List.mem_tails _ _).mpr ⟨x, hv.symm⟩
  rcases fails_label n hn w hw r hr v behind hne with hlabel | hfails
  · exact .inl (hlabel.trans (List.prefix_append v t))
  · rw [Stage.length?_of_fails hfails] at hsome
    cases hsome

/-- Where a word has ended, a name stands apart. -/
theorem Apart.stands {n : Naming} (hn : n ∈ Naming.all) {b : Option Char} {t : List Char} (h : Apart b t)
    (assigns : n.Assigns t) (ha : n.apart) : b.any isWord = false := by
  rcases h with hword | hother
  · exact hword
  · obtain ⟨w, hw, hsome⟩ := assigns
    obtain ⟨f, w', c, t₁, rfl, rfl, hf, -, -⟩ := Naming.exists_of_isSome hn hw hsome
    have := isBase64_of_isAlphanum (Naming.isAlphanum_of_apart hn ha hw hf)
    rw [hother c rfl] at this
    cases this

/-- A label is copied as a whole if its first character is. -/
theorem Rewritten.label_copied {r : Rule} (hr : r ∈ Rule.all) {c : Char} {t t' : List Char}
    (rest : Rewritten r.pattern r.label (some c) t t') {n : Naming} (hn : n ∈ Naming.all)
    (h : n.rule.label <+: c :: t) : n.rule.label <+: c :: t' := by
  obtain ⟨z, hz⟩ := h
  cases hl : n.rule.label with
  | nil => exact List.nil_prefix
  | cons d s =>
    rw [hl, List.cons_append, List.cons.injEq] at hz
    obtain ⟨rfl, rfl⟩ := hz
    have inside : ∀ v, v <:+ s → v ≠ [] → ∀ b, r.pattern.matchAt b (v ++ z) = none := by
      intro v hv hne b
      refine matchAt_behind hr hn ?_ hne b z
      rwa [hl, List.tail_cons]
    obtain ⟨z', rfl, -⟩ := rest.of_append inside
    exact ⟨z', rfl⟩

/-- If all assignments are labels, a rule keeps it so, and the rule for the name makes it so. For names that have to
    stand apart it matters that a word has ended behind the matches, or the place is an exception. -/
theorem labelled_of_rewritten {r : Rule} (hr : r ∈ Rule.all) {n : Naming} (hn : n ∈ Naming.all)
    {but : List Char → Prop} (ends : n.apart → ∀ b m t, r.pattern.matchAt b (m ++ t) = some m.length →
      Apart (lastOf b m) t ∨ ∀ u, but (u ++ r.label))
    {b : Option Char} {t t' : List Char} (h : Rewritten r.pattern r.label b t t') {y u : List Char}
    (hy : lastOf none y = b) (hu : n.apart → lastOf none u = b ∨ Apart b t ∨ but u)
    (old : r = n.rule ∨ Everywhere (Labelled n nowhere) y t) : Everywhere (Labelled n but) u t' := by
  induction h generalizing y u with
  | nil b =>
    rw [Everywhere.nil_iff]
    intro hfound
    exact absurd ((Naming.lawful_of_mem hn).matchAt_nil _) hfound
  | @copied b c t t' hmissed rest ih =>
    rw [Everywhere.cons_iff]
    constructor
    · intro hfound
      obtain ⟨hopen, hassigns⟩ := (Naming.matchAt_ne_none_iff hn).mp hfound
      have before : n.Assigns (c :: t) := assigns_of_rewritten hr rest hn hassigns
      -- the name stands apart in the text as it does in the result
      have stands : but u ∨ (n.apart → b.any isWord = false) := by
        by_cases ha : n.apart
        · rcases hu ha with rfl | hword | hbut
          · exact .inr hopen
          · exact .inr (hword.stands hn before)
          · exact .inl hbut
        · exact .inr fun h => absurd h ha
      rcases stands with hbut | stands
      · exact .inr hbut
      · have found := (Naming.matchAt_ne_none_iff hn).mpr ⟨stands, before⟩
        rcases old with rfl | old
        · exact absurd hmissed found
        · rcases (Everywhere.cons_iff.mp old).1 (by rwa [hy]) with hlabel | hno
          · exact .inl (rest.label_copied hr hn hlabel)
          · exact hno.elim
    · refine ih (y := y ++ [c]) (by rw [lastOf_append]; rfl) (fun _ => .inl (by rw [lastOf_append]; rfl)) ?_
      exact old.imp_right fun old => (Everywhere.cons_iff.mp old).2
  | @replaced b m t t' hm hmatch rest ih =>
    refine .append (fun x v hv hne => labelled_within hn hr but hv hne u t') ?_
    refine ih (y := y ++ m) ?_ (fun ha => ?_) (old.imp_right Everywhere.of_append)
    · rw [lastOf_append, hy]
    · exact (ends ha b m t hmatch).elim (fun h => .inr (.inl h)) fun h => .inr (.inr (h u))

/-! ## (3) Redacted texts -/

/-- The rules but the last. -/
def front : List Rule := [password, pin, token, secret, block, base64]

theorem all_eq : Rule.all = front ++ [hexadecimal] := rfl

theorem mem_front {r : Rule} (h : r ∈ front) : r ∈ Rule.all ∧ r ≠ hexadecimal := by
  refine ⟨by rw [all_eq]; exact List.mem_append_left _ h, ?_⟩
  have named : ∀ r ∈ front, r.name ≠ hexadecimal.name := by decide
  exact fun heq => named r h (congrArg Rule.name heq)

/-- All assignments are labels. -/
def AllLabelled (t : List Char) : Prop := ∀ n ∈ Naming.all, Everywhere (Labelled n nowhere) [] t

theorem labelled_apply {r : Rule} (hr : r ∈ front) {n : Naming} (hn : n ∈ Naming.all) {t : List Char}
    (old : r = n.rule ∨ Everywhere (Labelled n nowhere) [] t) : Everywhere (Labelled n nowhere) [] (r.apply t) :=
  labelled_of_rewritten (mem_front hr).1 hn (fun _ _ _ _ h => .inl (ends_apart (mem_front hr).1 (mem_front hr).2 h))
    (Rule.rewritten (mem_front hr).1 t) rfl (fun _ => .inl rfl) old

theorem labelled_foldl {rs : List Rule} (hrs : ∀ r ∈ rs, r ∈ front) {n : Naming} (hn : n ∈ Naming.all) {t : List Char}
    (old : n.rule ∈ rs ∨ Everywhere (Labelled n nowhere) [] t) :
    Everywhere (Labelled n nowhere) [] (rs.foldl Rule.apply t) := by
  induction rs generalizing t with
  | nil => exact old.resolve_left List.not_mem_nil
  | cons r rs ih =>
    obtain ⟨hr, hrs⟩ := List.forall_mem_cons.mp hrs
    rw [List.foldl_cons]
    refine ih hrs ?_
    rcases old with hmem | old
    · exact (List.mem_cons.mp hmem).symm.imp_right fun h => labelled_apply hr hn (.inl h.symm)
    · exact .inr (labelled_apply hr hn (.inr old))

/-- When all rules but the last have been applied, every assignment is a label. -/
theorem labelled_front (t : List Char) : AllLabelled (front.foldl Rule.apply t) := by
  intro n hn
  refine labelled_foldl (fun _ h => h) hn (.inl ?_)
  simp only [Naming.all, List.mem_cons, List.not_mem_nil, or_false] at hn
  rcases hn with rfl | rfl | rfl | rfl <;> simp [front, Naming.passwords, Naming.pins, Naming.tokens, Naming.secrets]

/-- In a redacted text every assignment is a label, but for a name that has to stand apart right behind the label of
    hexadecimal digits. -/
theorem labelled_rules {n : Naming} (hn : n ∈ Naming.all) (t : List Char) :
    Everywhere (Labelled n fun u => n.apart ∧ hexadecimal.label <:+ u) [] (Rule.all.foldl Rule.apply t) := by
  rw [all_eq, List.foldl_append, List.foldl_cons, List.foldl_nil]
  have hr : hexadecimal ∈ Rule.all := by simp [Rule.all]
  exact labelled_of_rewritten hr hn (fun ha _ _ _ _ => .inr fun u => ⟨ha, List.suffix_append u _⟩)
    (Rule.rewritten hr _) rfl (fun _ => .inl rfl) (.inr (labelled_front t n hn))

end KeyBundle.Redaction
