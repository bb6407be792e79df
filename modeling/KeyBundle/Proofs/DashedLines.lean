/-
  KeyBundle.Proofs.DashedLines — what the rules for names do to the dashed lines around a block.

  A block stands between an opening and a closing line: dashes, a word and a label, dashes.

  (1) No assignment starts in text without signs that ends in two dashes, wherever it stands: no name has two dashes in
      a row (`length?_dashed`). So the rules for names copy such text (`applyFrom_dashed`).
  (2) Of an opening line they leave all but its first dashes and word. Those a value may take that begins before
      them; then the line goes on behind the bracket of a label (`apply_opening`). What they leave before the body
      does not depend on what follows the line (`foldl_opening`).
-/

import KeyBundle.Proofs.Lockstep

namespace KeyBundle.Redaction

open KeyBundle.Text Pattern Rule

/-! ## (1) Text without signs -/

/-- Where no sign comes, there is no assignment. -/
theorem length?_signless {s : List Char} (hs : ∀ c ∈ s, isSign c = false) (hb : ∃ c ∈ s, isBlank c = false)
    (z : List Char) : Stage.length? (.name []) (s ++ z) = none := by
  induction s with
  | nil =>
    obtain ⟨c, hc, -⟩ := hb
    cases hc
  | cons c s ih =>
    obtain ⟨hc, hs⟩ := List.forall_mem_cons.mp hs
    rw [List.cons_append, Stage.length?]
    by_cases hblank : isBlank c
    · obtain ⟨d, hd, hdb⟩ := hb
      rcases List.mem_cons.mp hd with rfl | hd
      · rw [hblank] at hdb
        cases hdb
      · rw [if_pos hblank, ih hs ⟨d, hd, hdb⟩]
        rfl
    · rw [if_neg hblank, hc]
      rfl

/-- No name is read over two dashes. The name is read on from behind a character of the class `g`. -/
theorem length?_dashed {g : Char → Bool} {w : List (Char → Bool)}
    (hw : (g :: w).IsChain fun f g => ¬(f '-' ∧ g '-')) {s : List Char} (hs : ∀ c ∈ s, isSign c = false)
    (hend : ['-', '-'] <:+ s ∨ s = ['-'] ∧ g '-') (z : List Char) : Stage.length? (.name w) (s ++ z) = none := by
  induction s generalizing g w with
  | nil =>
    rcases hend with h | ⟨h, -⟩
    · cases List.suffix_nil.mp h
    · cases h
  | cons c s ih =>
    cases w with
    | nil =>
      refine length?_signless hs ⟨'-', ?_, by decide⟩ z
      rcases hend with h | ⟨h, -⟩
      · exact h.mem List.mem_cons_self
      · rw [h]
        exact List.mem_cons_self
    | cons f w =>
      obtain ⟨hgf, hw⟩ := List.isChain_cons_cons.mp hw
      rw [List.cons_append, Stage.length?]
      by_cases hf : f c
      · have rest : ['-', '-'] <:+ s ∨ s = ['-'] ∧ f '-' := by
          rcases hend with h | ⟨h, hg⟩
          · rcases List.suffix_cons_iff.mp h with h | h
            · cases h
              exact .inr ⟨rfl, hf⟩
            · exact .inl h
          · cases h
            exact absurd ⟨hg, hf⟩ hgf
        rw [if_pos hf, ih hw (List.forall_mem_cons.mp hs).2 rest]
        rfl
      · exact if_neg hf

/-- Text without signs that ends in two dashes. -/
def Dashed (s : List Char) : Prop := (∀ c ∈ s, isSign c = false) ∧ ['-', '-'] <:+ s

variable {n : Naming} (hn : n.Lawful)

include hn

theorem matchAt_dashed {s v : List Char} (hs : Dashed s) (hv : v <:+ s) (hne : v ≠ []) (b : Option Char)
    (z : List Char) : n.rule.pattern.matchAt b (v ++ z) = none := by
  have ends : ['-', '-'] <:+ v ∨ v = ['-'] := by
    rcases List.suffix_or_suffix_of_suffix hs.2 hv with h | h
    · exact .inl h
    · simp only [List.suffix_cons_iff, List.suffix_nil, hne, or_false] at h
      rcases h with rfl | rfl
      · exact .inl List.suffix_rfl
      · exact .inr rfl
  rw [hn.matchAt_eq, assignment]
  split
  · rfl
  · refine List.findSome?_eq_none_iff.mpr fun w hw => ?_
    exact length?_dashed (hn.dashes w hw) (fun c hc => hs.1 c (hv.mem hc)) (ends.imp_right fun h => ⟨h, rfl⟩) z

/-- The rules for names copy such text. -/
theorem applyFrom_dashed {s : List Char} (hs : Dashed s) (b : Option Char) (z : List Char) :
    n.rule.applyFrom 0 b (s ++ z) = s ++ n.rule.applyFrom 0 (some '-') z := by
  have last : lastOf b s = some '-' := by
    obtain ⟨t, ht⟩ := hs.2
    rw [← ht, lastOf_append]
    rfl
  rw [← last]
  exact replaceFrom_inert fun v hv hne b' => matchAt_dashed hn hs hv hne b' z

omit hn

/-! ## (2) Opening lines -/

/-- The label of a block. -/
def IsLabel (l : List Char) : Prop := l ≠ [] ∧ ∀ c ∈ l, isBlockLabel c

instance (l : List Char) : Decidable (IsLabel l) := inferInstanceAs (Decidable (_ ∧ _))

/-- What an opening line can start with when the rules for names have been applied: its dashes and its word, or the
    bracket of a label that has taken them. -/
def IsLead (lead : List Char) : Prop := lead = "-----BEGIN".toList ∨ lead = [']']

/-- The rest of an opening line. -/
def lineEnd (label : List Char) : List Char := ' ' :: (label ++ "-----".toList)

theorem isSign_eq_false {p : Char → Bool} (hp : p '=' = false ∧ p ':' = false) {c : Char} (h : p c) :
    isSign c = false := by
  have equals : c ≠ '=' := fun e => by simp [e, hp.1] at h
  have colon : c ≠ ':' := fun e => by simp [e, hp.2] at h
  simp [isSign, equals, colon]

variable {label : List Char} (hl : IsLabel label)

include hl

theorem dashed_lineEnd : Dashed (lineEnd label) := by
  constructor
  · refine List.forall_mem_cons.mpr ⟨rfl, List.forall_mem_append.mpr ⟨fun c hc => ?_, by decide⟩⟩
    exact isSign_eq_false ⟨rfl, rfl⟩ (hl.2 c hc)
  · exact ⟨' ' :: (label ++ "---".toList), by simp [lineEnd]⟩

theorem family_opening {lead : List Char} (hlead : IsLead lead) :
    Family lead (fun _ : List Char => []) (fun z => lineEnd label ++ z) where
  lead_ne := by rcases hlead with rfl | rfl <;> decide
  lead_name := by rcases hlead with rfl | rfl <;> decide
  tail_value _ := nofun
  post_closed _ c hc := by
    obtain rfl := Option.mem_some_iff.mp hc
    decide
  name_alike w hw := by
    refine .none fun z => ?_
    cases w with
    | nil =>
      obtain ⟨signless, dashes⟩ := dashed_lineEnd hl
      exact length?_signless signless ⟨'-', dashes.mem List.mem_cons_self, by decide⟩ z
    | cons f w =>
      have : ¬f ' ' := fun h => absurd ((List.forall_mem_cons.mp hw).1 ' ' h) (by decide)
      exact if_neg this

/-- A rule for names leaves an opening line, or all but what it starts with, whatever comes behind the line. -/
theorem apply_opening (hn : n.Lawful) {lead : List Char} (hlead : IsLead lead) (pre : List Char) :
    ∃ pre' lead', IsLead lead' ∧ ∀ z, n.rule.apply (pre ++ (lead ++ (lineEnd label ++ z))) =
      pre' ++ (lead' ++ (lineEnd label ++ n.rule.applyFrom 0 (some '-') z)) := by
  have copied (b : Option Char) (z : List Char) :
      n.rule.applyFrom 0 b (lineEnd label ++ z) = lineEnd label ++ n.rule.applyFrom 0 (some '-') z :=
    applyFrom_dashed hn (dashed_lineEnd hl) b z
  rcases (family_opening hl hlead).apply_cases hn pre with ⟨u, hu⟩ | ⟨pre', hpre', -⟩
  · have bracket : n.rule.label = (n.rule.name ++ "=" ++ "[REDACTED").toList ++ [']'] := by
      simp [Rule.label, mark]
    refine ⟨u ++ (n.rule.name ++ "=" ++ "[REDACTED").toList, [']'], .inr rfl, fun z => ?_⟩
    have taken := hu z
    rw [copied, bracket, List.append_nil] at taken
    simpa only [List.append_assoc] using taken
  · refine ⟨pre', lead, hlead, fun z => ?_⟩
    have kept := hpre' z
    rwa [List.nil_append, copied, List.append_nil] at kept

/-- So do all of them; and they copy the text without signs that follows the line. -/
theorem foldl_opening {ns : List Naming} (hns : ∀ n ∈ ns, n.Lawful) {lead : List Char} (hlead : IsLead lead)
    (pre : List Char) : ∃ pre' lead', IsLead lead' ∧
      (ns.map Naming.rule).foldl Rule.apply (pre ++ (lead ++ lineEnd label)) = pre' ++ (lead' ++ lineEnd label) ∧
      ∀ post, ∃ post', ∀ s, Dashed s →
        (ns.map Naming.rule).foldl Rule.apply (pre ++ (lead ++ (lineEnd label ++ (s ++ post)))) =
          pre' ++ (lead' ++ (lineEnd label ++ (s ++ post'))) := by
  induction ns generalizing pre lead with
  | nil => exact ⟨pre, lead, hlead, rfl, fun post => ⟨post, fun _ _ => rfl⟩⟩
  | cons n ns ih =>
    obtain ⟨hn, hns⟩ := List.forall_mem_cons.mp hns
    obtain ⟨pre₁, lead₁, hlead₁, step⟩ := apply_opening hl hn hlead pre
    obtain ⟨pre', lead', hlead', alone, followed⟩ := ih hns hlead₁ pre₁
    refine ⟨pre', lead', hlead', ?_, fun post => ?_⟩
    · have line := step []
      rw [List.append_nil, show n.rule.applyFrom 0 (some '-') [] = [] from replaceFrom_nil (hn.matchAt_nil _) 0,
        List.append_nil] at line
      rw [List.map_cons, List.foldl_cons, line, alone]
    · obtain ⟨post', h⟩ := followed (n.rule.applyFrom 0 (some '-') post)
      refine ⟨post', fun s hs => ?_⟩
      rw [List.map_cons, List.foldl_cons, step, applyFrom_dashed hn hs, h s hs]

end KeyBundle.Redaction
