/-
  KeyBundle.Proofs.Settling — what a second run of the filter does to a record.

  A handler filters the record itself, so the next handler filters what the first one has left. The labels are then
  assignments like any others, and a label that is directly followed by more text takes that for its value.

  (1) A text is left as it is exactly if each of the rules finds nothing in it but its own label
      (`redact_eq_self_iff`): where all assignments are labels, a rule never makes a text longer, and any other match
      makes it shorter.
  (2) A redacted text has no opening line of a block (`unopened_rules`) and no long run. So it is left as it is exactly
      if all labels of names that can be found in it are followed by a character that ends the value
      (`redact_redact_iff`).
  (3) So a record is filtered once and for all exactly if this holds of its texts, and then all handlers write the same
      message (`filtered_again_iff`). Behind a value in quotes it may fail (`quoted_not_settled`).
-/

import KeyBundle.Proofs.LastResort
import KeyBundle.Proofs.Labelling

namespace KeyBundle

namespace Redaction

open KeyBundle.Text Pattern Rule

/-! ## (1) Texts that are left as they are -/

/-- What the rule finds at the place is its own label. -/
def Exact (r : Rule) (u v : List Char) : Prop := ∀ k ∈ r.pattern.matchAt (lastOf none u) v, v.take k = r.label

/-- What the rule finds at the place is its own label, or longer. -/
def Covers (r : Rule) (u v : List Char) : Prop :=
  ∀ k ∈ r.pattern.matchAt (lastOf none u) v, v.take k = r.label ∨ r.label.length < k

theorem exact_of_none {r : Rule} {u v : List Char} (h : r.pattern.matchAt (lastOf none u) v = none) : Exact r u v := by
  intro k hk
  rw [h] at hk
  cases hk

/-- Matches that are no assignments are longer than the label. -/
theorem label_lt_least : ∀ r ∈ block :: runRules, r.label.length < r.pattern.least := by
  decide

theorem covers_of_mem {r : Rule} (hr : r ∈ block :: runRules) (u v : List Char) : Covers r u v :=
  fun _ hk => .inr (Nat.lt_of_lt_of_le (label_lt_least r hr) (of_matchAt r.pattern.within_true hk).1)

section

variable {r : Rule} {b : Option Char} {t t' u : List Char}

/-- Labels are replaced by themselves. -/
theorem Rewritten.eq_self (h : Rewritten r.pattern r.label b t t') (hu : lastOf none u = b)
    (exact : Everywhere (Exact r) u t) : t' = t := by
  induction h generalizing u with
  | nil b => rfl
  | copied _ _ ih => rw [ih (by rw [lastOf_append]; rfl) (Everywhere.cons_iff.mp exact).2]
  | @replaced b m t t' hm hmatch _ ih =>
    have label := exact [] (m ++ t) rfl m.length (by rw [List.append_nil, hu]; exact hmatch)
    rw [List.take_left] at label
    rw [ih (by rw [lastOf_append, hu]) exact.of_append, label]

theorem Rule.apply_eq_self (hr : r ∈ Rule.all) (h : Everywhere (Exact r) [] t) : r.apply t = t :=
  (Rule.rewritten hr t).eq_self rfl h

/-- Where no match is shorter than the label, no text gets longer, and it keeps its length only if nothing but labels
    has been found. -/
theorem Rewritten.shrinks (hr : r ∈ Rule.all) (h : Rewritten r.pattern r.label b t t') (hu : lastOf none u = b)
    (covers : Everywhere (Covers r) u t) :
    t'.length ≤ t.length ∧ (t'.length = t.length → Everywhere (Exact r) u t) := by
  induction h generalizing u with
  | nil b =>
    exact ⟨Nat.le_refl _, fun _ => Everywhere.nil_iff.mpr (exact_of_none (matchAt_nil hr _))⟩
  | @copied b c t t' hmissed _ ih =>
    obtain ⟨hle, heq⟩ := ih (by rw [lastOf_append]; rfl) (Everywhere.cons_iff.mp covers).2
    refine ⟨Nat.succ_le_succ hle, fun same => Everywhere.cons_iff.mpr ⟨exact_of_none ?_, heq (Nat.succ.inj same)⟩⟩
    rw [hu, hmissed]
  | @replaced b m t t' hm hmatch _ ih =>
    obtain ⟨hle, heq⟩ := ih (by rw [lastOf_append, hu]) covers.of_append
    have here := covers [] (m ++ t) rfl m.length (by rw [List.append_nil, hu]; exact hmatch)
    rw [List.take_left] at here
    simp only [List.length_append]
    rcases here with rfl | longer
    · refine ⟨by omega, fun same => ?_⟩
      -- only names are covered by their own labels, and they are not found within them
      rcases rule_cases hr with ⟨n, hn, rfl⟩ | hother
      · refine .append (fun x v hxv hne => ?_) (heq (by omega))
        cases x with
        | nil =>
          obtain rfl : n.rule.label = v := hxv
          intro k hk
          rw [List.append_nil, hu, hmatch] at hk
          obtain rfl := Option.mem_some_iff.mp hk
          rw [List.take_left]
        | cons c x =>
          have behind : v <:+ n.rule.label.tail := by
            rw [hxv]
            exact List.suffix_append x v
          exact exact_of_none (matchAt_behind hr hn behind hne _ _)
      · have long := (of_matchAt r.pattern.within_true hmatch).1
        have := label_lt_least r (List.mem_cons.mpr hother)
        omega
    · refine ⟨by omega, fun same => ?_⟩
      omega

end

namespace Rule

theorem Naming.rule_mem {n : Naming} (hn : n ∈ Naming.all) : n.rule ∈ Rule.all := by
  rw [all_parted]
  exact List.mem_append_left _ (List.mem_map_of_mem hn)

theorem Stage.length?_value_eq_zero {t : List Char} : length? value t = some 0 ↔ Closed t := by
  cases t with
  | nil => exact ⟨fun _ => nofun, fun _ => rfl⟩
  | cons c t =>
    have closed : Closed (c :: t) ↔ isValueChar c = false ∧ isQuote c = false := by
      simp [Closed]
    rw [closed, length?]
    cases isValueChar c with
    | true => simp
    | false => cases isQuote c <;> simp

/-- The label of a name is found where the name may stand, with all that goes on with its value. -/
theorem Naming.matchAt_label {n : Naming} (hn : n ∈ Naming.all) {b : Option Char}
    (hopen : n.apart → b.any isWord = false) (w : List Char) :
    n.rule.pattern.matchAt b (n.rule.label ++ w) = (Stage.length? .value w).map (n.rule.label.length + ·) := by
  obtain ⟨fit, s, hs, begins⟩ := entersValue_label n hn
  have assigns : n.Assigns (n.rule.label ++ w) :=
    ⟨s, hs, by rw [Stage.length?_of_entersValue begins, Option.isSome_map, Stage.isSome_value]⟩
  obtain ⟨k, hk⟩ := Option.ne_none_iff_exists'.mp ((Naming.matchAt_ne_none_iff hn).mpr ⟨hopen, assigns⟩)
  obtain ⟨s, hs, hlen⟩ := Naming.exists_of_matchAt hn hk
  rcases fit s hs with hfails | henters
  · rw [Stage.length?_of_fails hfails] at hlen
    cases hlen
  · rw [hk, ← hlen, Stage.length?_of_entersValue henters]

end Rule

theorem covers_of_labelled {n : Naming} (hn : n ∈ Naming.all) {u v : List Char} (h : Labelled n nowhere u v) :
    Covers n.rule u v := by
  intro k hk
  have found : n.rule.pattern.matchAt (lastOf none u) v ≠ none := Option.ne_none_iff_exists'.mpr ⟨k, hk⟩
  obtain ⟨w, rfl⟩ := (h found).resolve_right id
  rw [Naming.matchAt_label hn ((Naming.matchAt_ne_none_iff hn).mp found).1] at hk
  obtain ⟨j, -, rfl⟩ := Option.map_eq_some_iff.mp hk
  rcases Nat.eq_zero_or_pos j with rfl | hj
  · exact .inl List.take_left
  · exact .inr (by omega)

/-- Where all assignments are labels, a rule makes nothing longer. -/
theorem AllLabelled.apply {r : Rule} (hr : r ∈ front) {t : List Char} (h : AllLabelled t) :
    AllLabelled (r.apply t) ∧ (r.apply t).length ≤ t.length ∧
      ((r.apply t).length = t.length → Everywhere (Exact r) [] t) := by
  have hall := (mem_front hr).1
  refine ⟨fun n hn => labelled_apply hr hn (.inr (h n hn)), (Rule.rewritten hall t).shrinks hall rfl ?_⟩
  rcases rule_cases hall with ⟨n, hn, rfl⟩ | hother
  · exact (h n hn).imp fun _ _ => covers_of_labelled hn
  · exact fun x v _ => covers_of_mem (List.mem_cons.mpr hother) _ v

theorem AllLabelled.foldl {rs : List Rule} (hrs : ∀ r ∈ rs, r ∈ front) {t : List Char} (h : AllLabelled t) :
    (rs.foldl Rule.apply t).length ≤ t.length ∧
      ((rs.foldl Rule.apply t).length = t.length → ∀ r ∈ rs, Everywhere (Exact r) [] t) := by
  induction rs generalizing t with
  | nil => exact ⟨Nat.le_refl _, fun _ => nofun⟩
  | cons r rs ih =>
    obtain ⟨hr, hrs⟩ := List.forall_mem_cons.mp hrs
    obtain ⟨labelled, hle, heq⟩ := h.apply hr
    obtain ⟨hle', heq'⟩ := ih hrs labelled
    rw [List.foldl_cons]
    refine ⟨Nat.le_trans hle' hle, fun same => ?_⟩
    have first := heq (by omega)
    rw [Rule.apply_eq_self (mem_front hr).1 first] at heq' same
    exact List.forall_mem_cons.mpr ⟨first, heq' same⟩

/-! ### Runs of digits -/

/-- The label for base64 begins with digits, but it never comes behind one. -/
theorem noRun_rewritten_base64 {b : Option Char} {t t' : List Char} (h : Rewritten base64.pattern base64.label b t t')
    (old : NoRun isHexDigit 32 t) : NoRun isHexDigit 32 t' ∧
      (base64.pattern.matchAt b t = none → runLength isHexDigit t' ≤ runLength isHexDigit t) := by
  have label : Parts isHexDigit 32 "ba".toList base64.label :=
    ⟨'s', "e64_secret=[REDACTED".toList, ']', rfl, by decide, by decide, by decide, by decide⟩
  induction h with
  | nil b => exact ⟨old, fun _ => Nat.le_refl _⟩
  | @copied b c t t' hmissed _ ih =>
    obtain ⟨hshort, old⟩ := noRun_cons.mp old
    obtain ⟨inner, grows⟩ := ih old
    have start : runLength isHexDigit (c :: t') ≤ runLength isHexDigit (c :: t) := by
      by_cases hc : isHexDigit c
      · rw [runLength_cons_pos hc, runLength_cons_pos hc]
        refine Nat.succ_le_succ (grows ?_)
        -- a match behind the digit would have begun with it already
        rw [matchAt_base64_eq_none_iff, runLength_cons_pos (isBase64_of_isHexDigit hc)] at hmissed
        exact matchAt_base64_eq_none_iff.mpr (Nat.lt_of_succ_lt hmissed)
      · rw [runLength_cons_neg hc]
        exact Nat.zero_le _
    exact ⟨noRun_cons.mpr ⟨Nat.lt_of_le_of_lt start hshort, inner⟩, fun _ => start⟩
  | @replaced b m t t' hm hmatch _ ih =>
    have inner := ih fun s hs => old s (hs.trans (List.suffix_append m t).isInfix)
    refine ⟨label.noRun_append inner.1, fun hmissed => ?_⟩
    rw [hmissed] at hmatch
    cases hmatch

theorem noRun_apply {r : Rule} (hr : r ∈ front) {t : List Char} (h : NoRun isHexDigit 32 t) :
    NoRun isHexDigit 32 (r.apply t) := by
  have other (hl : Parts isHexDigit 32 [] r.label) : NoRun isHexDigit 32 (r.apply t) :=
    noRun_replaceAll hl (fun _ _ _ _ => Nat.zero_le _) h
  simp only [front, List.mem_cons, List.not_mem_nil, or_false] at hr
  rcases hr with rfl | rfl | rfl | rfl | rfl | rfl
  · exact other ⟨'p', "assword=[REDACTED".toList, ']', rfl, by decide, by decide, by decide, by decide⟩
  · exact other ⟨'p', "in=[REDACTED".toList, ']', rfl, by decide, by decide, by decide, by decide⟩
  · exact other ⟨'t', "oken=[REDACTED".toList, ']', rfl, by decide, by decide, by decide, by decide⟩
  · exact other ⟨'s', "ecret=[REDACTED".toList, ']', rfl, by decide, by decide, by decide, by decide⟩
  · exact other ⟨'p', "em=[REDACTED".toList, ']', rfl, by decide, by decide, by decide, by decide⟩
  · exact (noRun_rewritten_base64 (Rule.rewritten (by simp [Rule.all]) t) h).1

/-! ### Fixed texts -/

theorem exact_hexadecimal {t : List Char} (h : NoRun isHexDigit 32 t) : Everywhere (Exact hexadecimal) [] t := by
  intro x v hxv
  refine exact_of_none ?_
  by_contra hfound
  obtain ⟨k, hk⟩ := Option.ne_none_iff_exists'.mp hfound
  obtain ⟨q, hq⟩ := exists_mem_ends hk
  obtain ⟨p, hp, hq⟩ := List.mem_flatMap.mp hq
  obtain ⟨j, rfl, -, -⟩ := after_of_mem_ends (Pattern.within_true _) hp
  obtain ⟨n, hn, hle, -⟩ := mem_ends_many.mp hq
  have short := noRun_iff.mp h (v.drop j) ((List.drop_suffix j v).trans (hxv ▸ List.suffix_append x v))
  exact absurd (Nat.le_trans hn hle) (Nat.not_le_of_lt short)

/-- A text is left as it is exactly if all that is found in it is labels. -/
theorem rules_eq_self_iff (t : List Char) :
    Rule.all.foldl Rule.apply t = t ↔ ∀ r ∈ Rule.all, Everywhere (Exact r) [] t := by
  constructor
  · intro hself
    -- the last rule has nothing to do, so the others leave the text as it is, and all of its assignments are labels
    have runs : NoRun isHexDigit 32 t := by
      rw [← hself, all_eq, List.foldl_append]
      exact noRun_hexadecimal _
    have before : NoRun isHexDigit 32 (front.foldl Rule.apply t) :=
      List.foldlRecOn front Rule.apply runs fun _ h _ hr => noRun_apply hr h
    have last : hexadecimal.apply (front.foldl Rule.apply t) = front.foldl Rule.apply t :=
      Rule.apply_eq_self (by simp [Rule.all]) (exact_hexadecimal before)
    have first : front.foldl Rule.apply t = t := by
      rw [all_eq, List.foldl_append, List.foldl_cons, List.foldl_nil, last] at hself
      exact hself
    have labelled : AllLabelled t := by
      rw [← first]
      exact labelled_front t
    have exact := (labelled.foldl fun _ h => h).2 (congrArg List.length first)
    rw [all_eq]
    exact List.forall_mem_append.mpr ⟨exact, List.forall_mem_singleton.mpr (exact_hexadecimal runs)⟩
  · intro exact
    exact List.foldlRecOn (motive := (· = t)) Rule.all Rule.apply rfl fun s hs r hr => by
      rw [hs, Rule.apply_eq_self hr (exact r hr)]

theorem redact_nil_toList (s : String) : (redact [] s).toList = Rule.all.foldl Rule.apply s.toList := by
  rw [redact, String.toList_ofList, redactChars]
  rfl

theorem redact_eq_self_iff (s : String) :
    redact [] s = s ↔ ∀ r ∈ Rule.all, Everywhere (Exact r) [] s.toList := by
  rw [← String.toList_inj, redact_nil_toList, rules_eq_self_iff]

/-! ## (2) Redacted texts -/

/-- No opening line of a block stands at the place. -/
def Unopened (_ v : List Char) : Prop := ∀ label, IsLabel label → ¬line "BEGIN" label <+: v

/-- Labels hold no dash, and begin with a small letter. -/
theorem label_plain : ∀ r ∈ Rule.all, r.label ≠ [] ∧ '-' ∉ r.label ∧ ∀ c ∈ r.label.head?, isBlockLabel c = false := by
  decide

theorem mem_line {label : List Char} (hl : IsLabel label) : ∀ c ∈ line "BEGIN" label, isBlockLabel c ∨ c = '-' := by
  have marks : ∀ c ∈ "-----BEGIN ".toList ++ "-----".toList, isBlockLabel c ∨ c = '-' := by decide
  rw [line]
  refine List.forall_mem_append.mpr ⟨(List.forall_mem_append.mp marks).1, List.forall_mem_append.mpr ⟨?_, ?_⟩⟩
  · exact fun c hc => .inl (hl.2 c hc)
  · exact (List.forall_mem_append.mp marks).2

theorem exact_block {t : List Char} (h : Everywhere Unopened [] t) : Everywhere (Exact block) [] t := by
  intro x v hxv
  refine exact_of_none ?_
  cases hfirst : (dashed "BEGIN").first ⟨lastOf none ([] ++ x), v, 0⟩ with
  | none => rw [matchAt_block, hfirst, Option.map_none]
  | some q =>
    obtain ⟨label, hl, heq⟩ := of_mem_ends_line (List.mem_of_head? hfirst)
    exact absurd ⟨q.rest, heq.symm⟩ (h x v hxv label hl)

/-- The rule for blocks leaves no opening line, and no rule brings one back. -/
theorem unopened_of_rewritten {r : Rule} (hr : r ∈ Rule.all) {b : Option Char} {t t' : List Char}
    (h : Rewritten r.pattern r.label b t t') {y u : List Char} (old : r = block ∨ Everywhere Unopened y t) :
    Everywhere Unopened u t' := by
  obtain ⟨nonempty, undashed, small⟩ := label_plain r hr
  induction h generalizing y u with
  | nil b =>
    refine Everywhere.nil_iff.mpr fun label _ hbegins => ?_
    cases List.prefix_nil.mp hbegins
  | @copied b c t t' hmissed rest ih =>
    refine Everywhere.cons_iff.mpr ⟨fun label hl hbegins => ?_, ih (y := y ++ [c]) ?_⟩
    · have whole : Rewritten r.pattern r.label b (c :: t) (c :: t') := .copied hmissed rest
      have before : line "BEGIN" label <+: c :: t := by
        refine whole.isPrefix nonempty (fun d hd hmem => ?_) hbegins
        rcases mem_line hl d hmem with hblock | rfl
        · rw [small d hd] at hblock
          cases hblock
        · exact undashed (List.mem_of_head? hd)
      rcases old with rfl | old
      · obtain ⟨z, hz⟩ := before
        rw [← hz, matchAt_block, first_line hl] at hmissed
        cases hmissed
      · exact (Everywhere.cons_iff.mp old).1 label hl before
    · exact old.imp_right fun old => (Everywhere.cons_iff.mp old).2
  | @replaced b m t t' hm hmatch rest ih =>
    refine .append (fun x v hv hne label hl hbegins => ?_) (ih (y := y ++ m) (old.imp_right Everywhere.of_append))
    cases v with
    | nil => exact hne rfl
    | cons c v =>
      obtain ⟨rfl, -⟩ := List.cons_prefix_cons.mp hbegins
      exact undashed (by rw [hv]; exact List.mem_append_right x List.mem_cons_self)

theorem unopened_rules (t : List Char) : Everywhere Unopened [] (Rule.all.foldl Rule.apply t) := by
  have step {r : Rule} (hr : r ∈ Rule.all) {t : List Char} (old : r = block ∨ Everywhere Unopened [] t) :
      Everywhere Unopened [] (r.apply t) := unopened_of_rewritten hr (Rule.rewritten hr t) old
  have rules : Rule.all = [password, pin, token, secret] ++ block :: runRules := rfl
  rw [rules, List.foldl_append, List.foldl_cons]
  refine List.foldlRecOn runRules Rule.apply (step (by simp [Rule.all]) (.inl rfl)) fun s hs r hr => ?_
  exact step (by rw [rules]; exact List.mem_append_right _ (List.mem_cons_of_mem _ hr)) (.inr hs)

/-- Where the label of the name stands and can be found, its value ends with it. -/
def Closes (n : Naming) (u v : List Char) : Prop :=
  (n.apart → (lastOf none u).any isWord = false) → ∀ w, v = n.rule.label ++ w → Closed w

theorem closes_of_exact {n : Naming} (hn : n ∈ Naming.all) {u v : List Char} (h : Exact n.rule u v) : Closes n u v := by
  rintro hopen w rfl
  obtain ⟨j, hj⟩ := Option.isSome_iff_exists.mp (Stage.isSome_value w)
  have found := Naming.matchAt_label hn hopen w
  rw [hj, Option.map_some] at found
  have whole := congrArg List.length (h _ found)
  have short := le_of_matchAt found
  rw [List.length_take_of_le short] at whole
  obtain rfl : j = 0 := by omega
  exact Stage.length?_value_eq_zero.mp hj

/-- Right behind a label that its value ends with, nothing is found. -/
theorem not_found_of_closed {r : Rule} (hr : r ∈ Rule.all) {b : Option Char} {v : List Char} (h : Closed v) :
    r.pattern.matchAt b v = none := by
  cases v with
  | nil => exact matchAt_nil hr b
  | cons c v =>
    by_contra hfound
    obtain ⟨k, hk⟩ := Option.ne_none_iff_exists'.mp hfound
    have := isValueChar_of_match hr hk
    rw [(h c rfl).1] at this
    cases this

/-- In a redacted text, labels are found alone if the value of each of them ends with it. -/
theorem exact_rules {t : List Char}
    (closes : ∀ n ∈ Naming.all, Everywhere (Closes n) [] (Rule.all.foldl Rule.apply t)) :
    ∀ r ∈ Rule.all, Everywhere (Exact r) [] (Rule.all.foldl Rule.apply t) := by
  intro r hr x v hxv
  rcases rule_cases hr with ⟨n, hn, rfl⟩ | rfl | hruns
  · intro k hk
    have found : n.rule.pattern.matchAt (lastOf none ([] ++ x)) v ≠ none := Option.ne_none_iff_exists'.mpr ⟨k, hk⟩
    rcases labelled_rules hn t x v hxv found with ⟨w, rfl⟩ | ⟨-, y, hy⟩
    · have hopen := ((Naming.matchAt_ne_none_iff hn).mp found).1
      have hclosed := closes n hn x _ hxv hopen w rfl
      rw [Naming.matchAt_label hn hopen, Stage.length?_value_eq_zero.mpr hclosed] at hk
      obtain rfl := Option.mem_some_iff.mp hk
      exact List.take_left
    · -- the label for digits ends with the one for secrets
      have whole : hexadecimal.label = "hex_".toList ++ secret.label := rfl
      have parts : Rule.all.foldl Rule.apply t = (y ++ "hex_".toList) ++ (secret.label ++ v) := by
        rw [hxv, ← List.nil_append x, ← hy, whole]
        simp only [List.append_assoc]
      have hclosed := closes .secrets (by simp [Naming.all]) _ _ parts nofun v rfl
      exact absurd (not_found_of_closed hr hclosed) found
  · exact exact_block (unopened_rules t) x v hxv
  · have runs := redact_noRun [] (String.ofList t)
    rw [redact_nil_toList, String.toList_ofList] at runs
    exact exact_of_none (matchAt_runless hruns (Runless.suffix runs (hxv ▸ List.suffix_append x v)) _)

/-- The value of every label ends with the label, and there is no long run of digits. -/
def Settled (s : List Char) : Prop := (∀ n ∈ Naming.all, Everywhere (Closes n) [] s) ∧ NoRun isHexDigit 32 s

theorem settled_of_redact {s : String} (h : redact [] s = s) : Settled s.toList := by
  have exact := (redact_eq_self_iff s).mp h
  have runs := (redact_noRun [] s).2
  rw [h] at runs
  exact ⟨fun n hn => (exact n.rule (Naming.rule_mem hn)).imp fun _ _ => closes_of_exact hn, runs⟩

/-- A redacted text is left as it is exactly if it is settled. -/
theorem redact_redact_iff (s : String) : redact [] (redact [] s) = redact [] s ↔ Settled (redact [] s).toList := by
  refine ⟨settled_of_redact, fun h => (redact_eq_self_iff _).mpr ?_⟩
  rw [redact_nil_toList] at h ⊢
  exact exact_rules h.1

/-! ### Harmless texts -/

theorem length?_name_signless {t : List Char} (h : ∀ c ∈ t, isSign c = false) (w : List (Char → Bool)) :
    Stage.length? (.name w) t = none := by
  induction t generalizing w with
  | nil => cases w <;> rfl
  | cons c t ih =>
    obtain ⟨hc, ht⟩ := List.forall_mem_cons.mp h
    cases w with
    | nil => simp [Stage.length?, ih ht, hc]
    | cons f w => simp [Stage.length?, ih ht]

/-- A text without signs, without the beginning of an opening line, and without long runs. -/
structure Harmless (s : List Char) : Prop where
  equals : '=' ∉ s
  colon : ':' ∉ s
  unopened : ¬"-----BEGIN ".toList <:+: s
  runless : Runless s

theorem Harmless.signless {s : List Char} (h : Harmless s) : ∀ c ∈ s, isSign c = false := by
  intro c hc
  have equals : c ≠ '=' := fun e => h.equals (e ▸ hc)
  have colon : c ≠ ':' := fun e => h.colon (e ▸ hc)
  simp [isSign, equals, colon]

theorem Harmless.everywhere_unopened {s : List Char} (h : Harmless s) : Everywhere Unopened [] s := by
  intro x v hxv label _ hline
  have begins : "-----BEGIN ".toList <+: line "BEGIN" label := List.prefix_append _ _
  have here : v <:+ s := hxv ▸ List.suffix_append x v
  exact h.unopened ((begins.trans hline).isInfix.trans here.isInfix)

/-- No rule finds anything in a harmless text. -/
theorem redact_harmless {s : String} (h : Harmless s.toList) : redact [] s = s := by
  refine (redact_eq_self_iff s).mpr fun r hr => ?_
  rcases rule_cases hr with ⟨n, hn, rfl⟩ | rfl | hruns
  · intro x v hxv
    have behind : v <:+ s.toList := hxv ▸ List.suffix_append x v
    refine exact_of_none ?_
    by_contra hfound
    obtain ⟨-, w, -, hsome⟩ := (Naming.matchAt_ne_none_iff hn).mp hfound
    rw [length?_name_signless fun c hc => h.signless c (behind.mem hc)] at hsome
    cases hsome
  · exact exact_block h.everywhere_unopened
  · intro x v hxv
    have behind : v <:+ s.toList := hxv ▸ List.suffix_append x v
    exact exact_of_none (matchAt_runless hruns (Runless.suffix h.runless behind) _)

theorem redact_signless {s : String} (plain : ∀ c ∈ s.toList, isSign c = false ∧ c ≠ '-') (runless : Runless s.toList) :
    redact [] s = s := by
  have absent {c : Char} (h : isSign c ∨ c = '-') : c ∉ s.toList := by
    intro hc
    obtain ⟨signless, other⟩ := plain c hc
    simp [signless, other] at h
  exact redact_harmless ⟨absent (.inl rfl), absent (.inl rfl),
    fun opens => absent (.inr rfl) (opens.mem (by decide)), runless⟩

/-! ### Texts that stand for bytes -/

/-- What stands for so many bytes. -/
def counted (n : Nat) : String := "<" ++ toString n ++ " bytes>"

theorem redact_counted_iff (n : Nat) : redact [] (counted n) = counted n ↔ Settled (counted n).toList := by
  have chars : (counted n).toList = '<' :: (Nat.toDigits 10 n ++ ' ' :: "bytes>".toList) := by
    simp [counted]
  have digits : ∀ c ∈ Nat.toDigits 10 n, c.isDigit := fun c hc => Nat.isDigit_of_mem_toDigits (by decide) (by decide) hc
  have plain : ∀ c ∈ (counted n).toList, isSign c = false ∧ c ≠ '-' := by
    rw [chars]
    refine List.forall_mem_cons.mpr ⟨by decide, List.forall_mem_append.mpr ⟨fun c hc => ?_, by decide⟩⟩
    refine ⟨isSign_eq_false (p := Char.isDigit) ⟨rfl, rfl⟩ (digits c hc), ?_⟩
    rintro rfl
    exact absurd (digits _ hc) (by decide)
  refine ⟨settled_of_redact, fun h => redact_signless plain ⟨?_, h.2⟩⟩
  -- the number has no more digits than a run may have, and nothing else is longer
  have hex : NoRun isHexDigit 32 (Nat.toDigits 10 n) := by
    have := h.2
    rw [chars, ← List.nil_append ('<' :: _), noRun_append_cons (by decide), noRun_append_cons (by decide)] at this
    exact this.2.1.1
  have short := hex _ List.infix_rfl fun c hc => by simp [isHexDigit, digits c hc]
  rw [chars, ← List.nil_append ('<' :: _), noRun_append_cons (by decide), noRun_append_cons (by decide)]
  exact ⟨noRun_nil (by decide), ⟨noRun_of_length (by omega), noRun_of_length (by decide), by decide⟩, by decide⟩

end Redaction

namespace Log

open Redaction

/-! ## (3) Records -/

def SettledValue : Value → Prop
  | .text s => Settled s.toList
  | _ => True

def SettledArgs : Template.Args → Prop
  | .sequence xs => ∀ x ∈ xs, SettledValue x
  | .mapping (.table _ es) => ∀ e ∈ es, SettledValue e.2
  | .mapping _ => True

/-- All texts that the filter goes through are settled. -/
def Record.Settled (r : Record) : Prop := SettledValue r.message ∧ SettledArgs r.args

theorem cleanArg_cleanArg_iff (v : Value) :
    cleanArg [] (cleanArg [] v) = cleanArg [] v ↔ SettledValue (cleanArg [] v) := by
  have bytes (n : Nat) : cleanArg [] (.text (counted n)) = .text (counted n) ↔ SettledValue (.text (counted n)) := by
    rw [cleanArg, Value.text.injEq]
    exact redact_counted_iff n
  cases v with
  | text s =>
    rw [cleanArg, cleanArg, Value.text.injEq]
    exact redact_redact_iff s
  | bytes | buffer | view | sealed => exact bytes _
  | _ => exact ⟨fun _ => trivial, fun _ => rfl⟩

theorem cleanMessage_cleanMessage_iff (v : Value) :
    cleanMessage [] (cleanMessage [] v) = cleanMessage [] v ↔ SettledValue (cleanMessage [] v) := by
  cases v with
  | text s =>
    rw [cleanMessage, cleanMessage, Value.text.injEq]
    exact redact_redact_iff s
  | _ => exact ⟨fun _ => trivial, fun _ => rfl⟩

theorem cleanArgs_cleanArgs_iff (args : Template.Args) :
    cleanArgs [] (cleanArgs [] args) = cleanArgs [] args ↔ SettledArgs (cleanArgs [] args) := by
  cases args with
  | sequence xs =>
    simp only [cleanArgs, SettledArgs, Template.Args.sequence.injEq, List.map_map, List.map_inj_left,
      Function.comp_apply, List.forall_mem_map]
    exact forall₂_congr fun x _ => cleanArg_cleanArg_iff x
  | mapping v =>
    cases v with
    | table id es =>
      simp only [cleanArgs, SettledArgs, Template.Args.mapping.injEq, Value.table.injEq, true_and, List.map_map,
        List.map_inj_left, Function.comp_apply, List.forall_mem_map, Prod.mk.injEq]
      exact forall₂_congr fun e _ => cleanArg_cleanArg_iff e.2
    | _ => exact ⟨fun _ => trivial, fun _ => rfl⟩

/-- A second run leaves a record as it is exactly if the record is settled. -/
theorem passed_two_iff (r : Record) : r.passed 2 = r.passed 1 ↔ (r.passed 1).Settled := by
  simp only [Record.passed, Record.filtered, Record.mk.injEq, true_and, and_true, Record.Settled,
    cleanMessage_cleanMessage_iff, cleanArgs_cleanArgs_iff]

/-- Nor does any later run change it. -/
theorem passed_of_settled {r : Record} (h : (r.passed 1).Settled) {n : Nat} (hn : 0 < n) : r.passed n = r.passed 1 := by
  induction n with
  | zero => exact absurd hn (Nat.lt_irrefl 0)
  | succ n ih =>
    rcases Nat.eq_zero_or_pos n with rfl | hpos
    · rfl
    · rw [Record.passed, ih hpos]
      exact (passed_two_iff r).mpr h

/-- The filter changes nothing of a record but its message and its arguments. -/
theorem passed_frame (r : Record) (n : Nat) :
    r.passed n = { r with message := (r.passed n).message, args := (r.passed n).args } := by
  induction n with
  | zero => rfl
  | succ n ih => rw [Record.passed, ih]; rfl

theorem heading_passed (f : LineFormat) (r : Record) (n : Nat) : heading f (r.passed n) = heading f r := by
  rw [passed_frame]
  rfl

/-- A text line carries the message behind its heading, and the exception and the call stack below. -/
theorem text?_of_text {r : Record} {w : Writing} (hw : w.format ≠ .json) {m : String}
    (hm : (r.passed w.passes).text = .ok m) :
    w.text? r = some (withBelow (withBelow (heading w.format r ++ m) r.exception) r.stack ++ "\n") := by
  have exception : (r.passed w.passes).exception = r.exception := by rw [passed_frame]
  have stack : (r.passed w.passes).stack = r.stack := by rw [passed_frame]
  have written : line w.format (r.passed w.passes) =
      .ok (withBelow (withBelow (heading w.format r ++ m) r.exception) r.stack) := by
    cases hf : w.format with
    | json => exact absurd hf hw
    | console | file | bare =>
      rw [line, hm, heading_passed, exception, stack]
      · rfl
      all_goals simp
  rw [Writing.text?, written]
  rfl

/-- A logger that is set up anew with the console and a text file writes a record to the console after one run of the
    filter, and to the file after another. -/
theorem writings_setUp {w : Wanted} {j k : Journal} {r : Record} (h : exec (setUp w) j = (.ok r.logger, k))
    (fresh : (j.logger r.logger).handlers = []) (console : w.enableConsole.truthy) (dir : w.logDir.truthy)
    (json : w.enableJson.truthy = false) (level : 10 ≤ r.level) :
    k.writings r = [⟨true, .console, 1⟩, ⟨false, .file, 2⟩] := by
  obtain ⟨outlines, silent⟩ := (outlines_setUp h).1 ((outlines_eq_nil j r.logger).mpr fresh)
  have handlers : (k.way r.logger).flatMap k.outlines =
      [⟨true, 10, [.secure], .console⟩, ⟨false, 10, [.secure], .file⟩] := by
    rw [way_of_not_propagate silent, List.flatMap_singleton, outlines, Wanted.outlines, Wanted.onConsole,
      Wanted.inFile, if_pos console, if_pos dir, json]
    rfl
  have taken : ¬r.level < 10 := by omega
  simp [Journal.writings, handlers, writingsBy, Outline.written, Outline.passes, taken]

end Log

namespace Session

open Log

/-- A second run of the filter leaves a record as it is exactly if the first run has left it settled. The console of a
    logger with a text file gets the record after one run and the file after two; if it is settled then, in every
    session all handlers on its way write the same message. -/
theorem filtered_again_iff (r : Record) :
    (r.passed 2 = r.passed 1 ↔ (r.passed 1).Settled) ∧
      (∀ w j k, exec (setUp w) j = (.ok r.logger, k) → (j.logger r.logger).handlers = [] → w.enableConsole.truthy →
        w.logDir.truthy → w.enableJson.truthy = false → 10 ≤ r.level →
          k.writings r = [⟨true, .console, 1⟩, ⟨false, .file, 2⟩]) ∧
      ∀ mode env entries, let j := (after entries (start mode env)).journal
        (∃ name ∈ j.way r.logger, (j.logger name).handlers ≠ []) → (r.passed 1).Settled →
          ∀ m, (r.passed 1).text = .ok m → ∀ w ∈ j.writings r, w.format ≠ .json →
            w.text? r = some (withBelow (withBelow (heading w.format r ++ m) r.exception) r.stack ++ "\n") := by
  refine ⟨passed_two_iff r, fun w j k h fresh console dir json level => writings_setUp h fresh console dir json level, ?_⟩
  intro mode env entries j handled settled m hm w hw hformat
  have passes := passes_of_handled (redacting_after mode env entries) handled w hw
  exact text?_of_text hformat (by rw [passed_of_settled settled passes, hm])

/-- A password in quotes, with a blank behind it, is hidden once and for all. -/
theorem filtered_again_iff_password :
    let r : Record :=
      ⟨"app", 30, .text "pwd=\"x\" for %s", .sequence [.text "token 2"], Journal.startOfRun, none, none, []⟩
    let w : Wanted :=
      ⟨.text "app", .text "/log", .text "INFO", .bool true, .bool false, .int 100, .int 1⟩
    let k := (exec (setUp w) .empty).2
    let j := (after [⟨.call .secureLogger [(0, .text "app")], none⟩] (start .writing [])).journal
    (r.passed 1).Settled ∧ k.writings r = [⟨true, .console, 1⟩, ⟨false, .file, 2⟩] ∧
      ∀ w ∈ j.writings r, w.format ≠ .json → w.text? r =
        some (withBelow (withBelow (heading w.format r ++ "password=[REDACTED] for token 2") none) none ++ "\n") := by
  intro r w k j
  have message : Redaction.redact [] (Redaction.redact [] "pwd=\"x\" for %s") =
      Redaction.redact [] "pwd=\"x\" for %s" := by decide +kernel
  have arg : Redaction.redact [] (Redaction.redact [] "token 2") = Redaction.redact [] "token 2" := by decide +kernel
  have same : r.passed 2 = r.passed 1 := by
    simp only [r, Record.passed, Record.filtered, cleanMessage, cleanArgs, List.map_cons, List.map_nil, cleanArg,
      message, arg]
  have settled := (filtered_again_iff r).1.mp same
  have done : exec (setUp w) .empty = (.ok "app", k) := Prod.ext (eq_ok_of_toOption (by decide +kernel)) rfl
  have written := (filtered_again_iff r).2.1 w .empty k done (by decide +kernel) rfl rfl rfl (by decide)
  have text : (r.passed 1).text = .ok "password=[REDACTED] for token 2" := eq_ok_of_toOption (by decide +kernel)
  exact ⟨settled, written, (filtered_again_iff r).2.2 .writing [] _
    ⟨"app", by decide +kernel, by decide +kernel⟩ settled _ text⟩

/-- Text right behind a value in quotes is taken for part of the value by the next run. -/
theorem quoted_not_settled :
    let r : Record := ⟨"app", 30, .text "pwd=\"a\"b", .sequence [], Journal.startOfRun, none, none, []⟩
    (r.passed 1).text.toOption = some "password=[REDACTED]b" ∧ (r.passed 2).text.toOption = some "password=[REDACTED]" ∧
      r.passed 2 ≠ r.passed 1 := by
  intro r
  have once : (r.passed 1).text.toOption = some "password=[REDACTED]b" := by decide +kernel
  have twice : (r.passed 2).text.toOption = some "password=[REDACTED]" := by decide +kernel
  refine ⟨once, twice, fun same => ?_⟩
  rw [same, once] at twice
  exact absurd (Option.some.inj twice) (by decide)

end Session

end KeyBundle
