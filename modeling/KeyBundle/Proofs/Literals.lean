/-
  KeyBundle.Proofs.Literals — literal texts that redaction hides along with what its rules find.

  The literals are replaced by the mark one after the other, behind the rules.

  (1) What stands in a rewritten text and shares no character with the label stood in the text before, at a place where
      nothing was found (`Rewritten.missed`). So hiding a literal leaves it nowhere, be it that its occurrences overlap,
      and brings about no other (`of_isInfix_hideLiteral`).
  (2) So of the literals that share no character with the mark a redacted text holds none, and they make a difference
      exactly if the rules leave one of them (`literals_hidden`).
-/

import KeyBundle.Proofs.Rewriting

namespace KeyBundle.Redaction

open Pattern

/-! ## (1) One literal -/

section

variable {s t : List Char}

theorem isInfix_of_append {label : List Char} (hne : s ≠ []) (apart : ∀ c ∈ s, c ∉ label) (h : s <:+: label ++ t) :
    s <:+: t := by
  induction label with
  | nil => exact h
  | cons d label ih =>
    rcases List.infix_cons_iff.mp h with h | h
    · obtain ⟨c, s, rfl⟩ := List.exists_cons_of_ne_nil hne
      obtain ⟨rfl, -⟩ := List.cons_prefix_cons.mp h
      exact absurd List.mem_cons_self (apart c List.mem_cons_self)
    · exact ih (fun c hc hmem => apart c hc (List.mem_cons_of_mem d hmem)) h

/-- What occurs in the result outside of labels was copied, from a place where nothing was found. -/
theorem Rewritten.missed {p : Pattern} {label : List Char} {b : Option Char} {t' : List Char}
    (h : Rewritten p label b t t') (hlabel : label ≠ []) (hne : s ≠ []) (apart : ∀ c ∈ s, c ∉ label)
    (hs : s <:+: t') : ∃ b v, v <:+ t ∧ s <+: v ∧ p.matchAt b v = none := by
  induction h with
  | nil b => exact absurd (List.infix_nil.mp hs) hne
  | @copied b c t t' hmissed rest ih =>
    rcases List.infix_cons_iff.mp hs with hs | hs
    · have whole : Rewritten p label b (c :: t) (c :: t') := .copied hmissed rest
      have begins := whole.isPrefix hlabel (fun d hd hmem => apart d hmem (List.mem_of_head? hd)) hs
      exact ⟨b, c :: t, List.suffix_rfl, begins, hmissed⟩
    · obtain ⟨b, v, hv, begins, hmissed⟩ := ih hs
      exact ⟨b, v, hv.trans (List.suffix_cons c t), begins, hmissed⟩
  | @replaced b m t t' hm hmatch rest ih =>
    obtain ⟨b, v, hv, begins, hmissed⟩ := ih (isInfix_of_append hne apart hs)
    exact ⟨b, v, hv.trans (List.suffix_append m t), begins, hmissed⟩

end

variable {l s t : List Char}

/-- A literal is found where it occurs. -/
theorem matchAt_exactly (l : List Char) (b : Option Char) (t : List Char) :
    (exactly l).matchAt b t = if l <+: t then some l.length else none := by
  rw [matchAt_eq, first, ends_exactly]
  split
  · simp
  · rfl

theorem least_exactly : ∀ l : List Char, (exactly l).least = l.length
  | [] => rfl
  | [_] => rfl
  | _ :: d :: l => by
    change 1 + (exactly (d :: l)).least = _
    rw [least_exactly (d :: l), List.length_cons, List.length_cons, List.length_cons, Nat.add_comm 1]

theorem rewritten_hideLiteral (hl : l ≠ []) (t : List Char) :
    Rewritten (exactly l) mark.toList none t (hideLiteral t l) :=
  rewritten_replaceFrom (least_exactly l ▸ List.length_pos_of_ne_nil hl) _ none t

/-- A literal that does not occur changes nothing. -/
theorem hideLiteral_eq_self (h : ¬l <:+: t) : hideLiteral t l = t := by
  have missed (v : List Char) (hv : v <:+ t) (b : Option Char) : (exactly l).matchAt b v = none := by
    rw [matchAt_exactly, if_neg fun begins => h (begins.isInfix.trans hv.isInfix)]
  have copied : (exactly l).replaceFrom mark.toList 0 none (t ++ []) =
      t ++ (exactly l).replaceFrom mark.toList 0 (lastOf none t) [] :=
    replaceFrom_inert fun v hv _ b => by rw [List.append_nil, missed v hv]
  rwa [replaceFrom_nil (missed [] List.nil_suffix _), List.append_nil] at copied

/-- A text that can be told from the mark, wherever it stands: one that has no character of it. -/
def Unmarked (s : List Char) : Prop := s ≠ [] ∧ ∀ c ∈ s, c ∉ mark.toList

instance (s : List Char) : Decidable (Unmarked s) := inferInstanceAs (Decidable (_ ∧ _))

theorem of_isInfix_hideLiteral (hl : l ≠ []) (hs : Unmarked s) (h : s <:+: hideLiteral t l) : s <:+: t ∧ s ≠ l := by
  obtain ⟨b, v, hv, begins, hmissed⟩ := (rewritten_hideLiteral hl t).missed (by decide) hs.1 hs.2 h
  refine ⟨begins.isInfix.trans hv.isInfix, ?_⟩
  rintro rfl
  rw [matchAt_exactly, if_pos begins] at hmissed
  cases hmissed

/-! ## (2) All literals -/

variable {ls : List (List Char)}

theorem of_isInfix_hideLiterals (hls : ∀ l ∈ ls, l ≠ []) (hs : Unmarked s) (h : s <:+: ls.foldl hideLiteral t) :
    s <:+: t ∧ s ∉ ls := by
  induction ls generalizing t with
  | nil => exact ⟨h, List.not_mem_nil⟩
  | cons l ls ih =>
    obtain ⟨hl, hls⟩ := List.forall_mem_cons.mp hls
    obtain ⟨hidden, others⟩ := ih hls h
    obtain ⟨before, other⟩ := of_isInfix_hideLiteral hl hs hidden
    exact ⟨before, List.not_mem_cons_of_ne_of_not_mem other others⟩

theorem hideLiterals_eq_self (hls : ∀ l ∈ ls, ¬l <:+: t) : ls.foldl hideLiteral t = t := by
  induction ls with
  | nil => rfl
  | cons l ls ih =>
    obtain ⟨absent, hls⟩ := List.forall_mem_cons.mp hls
    rw [List.foldl_cons, hideLiteral_eq_self absent, ih hls]

theorem redact_toList (literals : List String) (text : String) :
    (redact literals text).toList = (literals.map (·.toList)).foldl hideLiteral (redact [] text).toList := by
  simp only [redact, String.toList_ofList, redactChars, List.map_nil, List.foldl_nil]

/-- A redacted text holds none of the literals, if they share no character with the mark. They make a difference exactly
    if the rules leave one of them. -/
theorem literals_hidden {literals : List String} (h : ∀ l ∈ literals, Unmarked l.toList) (text : String) :
    (∀ l ∈ literals, ¬l.toList <:+: (redact literals text).toList) ∧
      (redact literals text = redact [] text ↔ ∀ l ∈ literals, ¬l.toList <:+: (redact [] text).toList) := by
  have filled : ∀ l ∈ literals.map (·.toList), l ≠ [] := List.forall_mem_map.mpr fun l hl => (h l hl).1
  have hidden : ∀ l ∈ literals, ¬l.toList <:+: (redact literals text).toList := by
    intro l hl occurs
    rw [redact_toList] at occurs
    exact (of_isInfix_hideLiterals filled (h l hl) occurs).2 (List.mem_map_of_mem hl)
  refine ⟨hidden, fun same => same ▸ hidden, fun absent => ?_⟩
  rw [← String.toList_inj, redact_toList]
  exact hideLiterals_eq_self (List.forall_mem_map.mpr absent)

/-- One literal overlaps itself, and one stands in a label. -/
theorem literals_hidden_overlapping :
    redact ["aa", "word"] "pwd=x aaaaa" = "pass[REDACTED]=[REDACTED] [REDACTED][REDACTED]a" ∧
      (∀ l ∈ ["aa", "word"], ¬l.toList <:+: (redact ["aa", "word"] "pwd=x aaaaa").toList) ∧
      redact ["aa", "word"] "pwd=x aaaaa" ≠ redact [] "pwd=x aaaaa" := by
  have unmarked : ∀ l ∈ ["aa", "word"], Unmarked l.toList := by decide
  obtain ⟨hidden, same⟩ := literals_hidden unmarked "pwd=x aaaaa"
  refine ⟨by decide +kernel, hidden, fun unchanged => ?_⟩
  exact same.mp unchanged "aa" (by decide) (by decide +kernel)

end KeyBundle.Redaction
