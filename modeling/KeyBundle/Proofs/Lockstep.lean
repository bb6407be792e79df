/-
  KeyBundle.Proofs.Lockstep — texts that differ in one place only are redacted in lockstep.

  A family of texts shares what comes before a solid part: characters of a value, of which the first ones are the
  same in every text. Whatever a rule for names finds before that part, it finds in all texts of the family.

  (1) So matches are alike (`Alike`): none in any text, one and the same before the solid part, or one that ends
      where the solid part ends. No match ends inside of it (`Family.stage_alike`, `Family.matchAt_alike`).
  (2) So replacement either takes the solid part with it, and leaves the same in every text up to its end, or leaves
      the same in every text up to its beginning (`Family.replaceFrom_before`). In the common beginning of that part
      there starts a match that takes it all, or none (`Family.replaceFrom_lead`, `Family.apply_cases`).
-/

import KeyBundle.Proofs.Assignments

namespace KeyBundle.Redaction

open KeyBundle.Text Pattern Rule

variable {ι : Type}

/-! ## (1) Matches -/

/-- Matches of the same kind: there is none; it has one length that is allowed; or it has the lengths given. -/
inductive Alike (allowed : Nat → Prop) (lengths : ι → Nat) (o : ι → Option Nat) : Prop where
  | none (h : ∀ i, o i = .none)
  | same (n : Nat) (hn : allowed n) (h : ∀ i, o i = some n)
  | through (h : ∀ i, o i = some (lengths i))

namespace Alike

variable {P Q : Nat → Prop} {l l' : ι → Nat} {o : ι → Option Nat}

theorem succ (h : Alike P l o) (hPQ : ∀ n, P n → Q (n + 1)) (hl : ∀ i, l' i = l i + 1) :
    Alike Q l' fun i => (o i).map (· + 1) := by
  cases h with
  | none h => exact .none fun i => by rw [h i, Option.map_none]
  | same n hn h => exact .same (n + 1) (hPQ n hn) fun i => by rw [h i, Option.map_some]
  | through h => exact .through fun i => by rw [h i, Option.map_some, hl i]

theorem mono (h : Alike P l o) (hPQ : ∀ n, P n → Q n) : Alike Q l o := by
  cases h with
  | none h => exact .none h
  | same n hn h => exact .same n (hPQ n hn) h
  | through h => exact .through h

theorem findSome? {α : Type} {ws : List α} {g : α → ι → Option Nat} (h : ∀ w ∈ ws, Alike P l (g w)) :
    Alike P l fun i => ws.findSome? (g · i) := by
  induction ws with
  | nil => exact .none fun _ => rfl
  | cons w ws ih =>
    cases h w List.mem_cons_self with
    | none hw =>
      have rest : (fun i => (w :: ws).findSome? (g · i)) = fun i => ws.findSome? (g · i) := by
        funext i
        rw [List.findSome?_cons, hw i]
      rw [rest]
      exact ih fun v hv => h v (List.mem_cons_of_mem w hv)
    | same n hn hw => exact .same n hn fun i => by rw [List.findSome?_cons, hw i]
    | through hw => exact .through fun i => by rw [List.findSome?_cons, hw i]

end Alike

/-- A value ends here: at the end of the text, or at a character that belongs to no value and is no quote. -/
def Closed (t : List Char) : Prop := ∀ c ∈ t.head?, isValueChar c = false ∧ isQuote c = false

namespace Rule.Stage

theorem length?_value {s t : List Char} (hs : ∀ c ∈ s, isValueChar c) (ht : Closed t) :
    length? value (s ++ t) = some s.length := by
  induction s with
  | nil =>
    cases t with
    | nil => rfl
    | cons c t =>
      obtain ⟨hv, hq⟩ := ht c rfl
      rw [List.nil_append, length?, hv, hq]
      rfl
  | cons c s ih =>
    obtain ⟨hc, hs⟩ := List.forall_mem_cons.mp hs
    rw [List.cons_append, length?, if_pos hc, ih hs]
    rfl

theorem length?_quoted {s t : List Char} (hne : s ≠ []) (hs : ∀ c ∈ s, isValueChar c) (ht : Closed t) :
    length? quoted (s ++ t) = some s.length := by
  cases s with
  | nil => exact absurd rfl hne
  | cons c s =>
    obtain ⟨hc, hs⟩ := List.forall_mem_cons.mp hs
    rw [List.cons_append, length?, if_pos hc, length?_value hs ht]
    rfl

theorem length?_sign {s t : List Char} (hne : s ≠ []) (hs : ∀ c ∈ s, isValueChar c) (ht : Closed t) :
    length? sign (s ++ t) = some s.length := by
  cases s with
  | nil => exact absurd rfl hne
  | cons c s =>
    obtain ⟨hc, hs⟩ := List.forall_mem_cons.mp hs
    have hb : ¬isBlank c := fun h => by simp [isValueChar_of_isBlank h] at hc
    have hq : ¬isQuote c := fun h => by simp [isValueChar_of_isQuote h] at hc
    rw [List.cons_append, length?, if_neg hb, if_neg hq, if_pos hc, length?_value hs ht]
    rfl

end Rule.Stage

theorem isNameChar_iff {c : Char} : isNameChar c ↔ isValueChar c ∧ isSign c = false := by
  simp [isNameChar]

/-- Texts with a common beginning `lead`, each with a part of its own behind it that continues the value, and the
    rest. No name that could be read beyond `lead` tells the texts from each other. -/
structure Family (lead : List Char) (tail post : ι → List Char) : Prop where
  lead_ne : lead ≠ []
  lead_name : ∀ c ∈ lead, isNameChar c
  tail_value : ∀ i, ∀ c ∈ tail i, isValueChar c
  post_closed : ∀ i, Closed (post i)
  name_alike : ∀ w, Stage.Named (.name w) →
    Alike (fun _ => False) (fun i => (tail i).length) fun i => Stage.length? (.name w) (tail i ++ post i)

/-- The rule applied from a place on. -/
abbrev Rule.applyFrom (r : Rule) : Nat → Option Char → List Char → List Char := r.pattern.replaceFrom r.label

theorem Rule.apply_eq (r : Rule) (t : List Char) : r.apply t = r.applyFrom 0 none t := rfl

/-- The character before a place of the result: the one before it in the text, or the end of a label. -/
def Follows (b b' : Option Char) : Prop := b' = b ∨ b' = some ']'

theorem lastOf_label (r : Rule) (b : Option Char) : lastOf b r.label = some ']' := by
  rw [Rule.label, String.toList_append, String.toList_append, lastOf_append, lastOf_append]
  rfl

namespace Family

variable {lead : List Char} {tail post : ι → List Char} (F : Family lead tail post)

include F

theorem name_alike_append {s : List Char} (hs : ∀ c ∈ s, isNameChar c) {w : List (Char → Bool)}
    (hw : Stage.Named (.name w)) :
    Alike (fun _ => False) (fun i => (s ++ tail i).length)
      fun i => Stage.length? (.name w) (s ++ tail i ++ post i) := by
  induction s generalizing w with
  | nil => exact F.name_alike w hw
  | cons c s ih =>
    obtain ⟨hc, hs⟩ := List.forall_mem_cons.mp hs
    obtain ⟨hv, hsign⟩ := isNameChar_iff.mp hc
    have hb : ¬isBlank c := fun h => by simp [isValueChar_of_isBlank h] at hv
    cases w with
    | nil => exact .none fun i => by simp [Stage.length?, hb, hsign]
    | cons f w =>
      obtain ⟨-, hw⟩ := List.forall_mem_cons.mp hw
      by_cases hf : f c
      · simp only [List.cons_append, Stage.length?, if_pos hf]
        exact (ih hs hw).succ (fun _ h => h.elim) fun _ => rfl
      · exact .none fun i => by simp [Stage.length?, hf]

/-- An assignment that is read from before the solid part on. -/
theorem stage_alike {stage : Stage} (hstage : stage.Named) (y : List Char) :
    Alike (· ≤ y.length) (fun i => (y ++ (lead ++ tail i)).length)
      fun i => stage.length? (y ++ (lead ++ tail i ++ post i)) := by
  have solid (i : ι) : ∀ c ∈ lead ++ tail i, isValueChar c := List.forall_mem_append.mpr
    ⟨fun c hc => (isNameChar_iff.mp (F.lead_name c hc)).1, F.tail_value i⟩
  have nonempty (i : ι) : lead ++ tail i ≠ [] := fun h => F.lead_ne (List.append_eq_nil_iff.mp h).1
  induction y generalizing stage with
  | nil =>
    cases stage with
    | name w => exact (F.name_alike_append F.lead_name hstage).mono fun _ h => h.elim
    | sign => exact .through fun i => Stage.length?_sign (nonempty i) (solid i) (F.post_closed i)
    | quoted => exact .through fun i => Stage.length?_quoted (nonempty i) (solid i) (F.post_closed i)
    | value => exact .through fun i => Stage.length?_value (solid i) (F.post_closed i)
  | cons c y ih =>
    rcases Stage.length?_cons stage c with ⟨next, hnext, h⟩ | ⟨o, ho, h⟩
    · simp only [List.cons_append, h]
      exact (ih (hnext hstage)).succ (fun _ => Nat.succ_le_succ) fun _ => rfl
    · simp only [List.cons_append, h]
      cases o with
      | none => exact .none fun _ => rfl
      | some n => exact .same n (Nat.le_trans (ho n rfl) (Nat.succ_le_succ (Nat.zero_le _))) fun _ => rfl

omit F in
/-- Assignments are alike where they are alike for each name, and where all texts start with the same character. -/
theorem assignment_alike {P : Nat → Prop} {l : ι → Nat} {t : ι → List Char} {apart : Bool} {names : Pattern}
    {b h : Option Char} (hh : ∀ i, (t i).head? = h)
    (hn : ∀ w ∈ names.spellings, Alike P l fun i => Stage.length? (.name w) (t i)) :
    Alike P l fun i => assignment apart names b (t i) := by
  have bounded (i : ι) : (⟨b, t i, 0⟩ : Place).isBoundary = (b.any isWord != h.any isWord) := by
    rw [Place.isBoundary, hh i]
  simp only [assignment, bounded]
  cases apart && !(b.any isWord != h.any isWord) with
  | true => exact .none fun _ => rfl
  | false => exact Alike.findSome? hn

variable {n : Naming} (hn : n.Lawful)

include hn

theorem matchAt_alike (b : Option Char) (y : List Char) :
    Alike (· ≤ y.length) (fun i => (y ++ (lead ++ tail i)).length)
      fun i => n.rule.pattern.matchAt b (y ++ (lead ++ tail i ++ post i)) := by
  simp only [hn.matchAt_eq]
  refine assignment_alike (h := (y ++ lead).head?) (fun i => ?_) fun w hw =>
    F.stage_alike (hn.named hw) y
  have hne : y ++ lead ≠ [] := fun h => F.lead_ne (List.append_eq_nil_iff.mp h).2
  rw [← List.append_assoc, ← List.append_assoc, List.append_assoc _ (tail i), List.head?_append_of_ne_nil _ hne]

theorem matchAt_alike_lead (b : Option Char) {s : List Char} (hne : s ≠ []) (hs : ∀ c ∈ s, isNameChar c) :
    Alike (fun _ => False) (fun i => (s ++ tail i).length)
      fun i => n.rule.pattern.matchAt b (s ++ tail i ++ post i) := by
  simp only [hn.matchAt_eq]
  refine assignment_alike (h := s.head?) (fun i => ?_) fun w hw =>
    F.name_alike_append hs (hn.named hw)
  rw [List.append_assoc, List.head?_append_of_ne_nil _ hne]

/-! ## (2) Replacement -/

/-- What comes before the solid part comes out the same in every text, and what is found there ends before the solid
    part or takes it. -/
theorem replaceFrom_before (y : List Char) (skip : Nat) (hskip : skip ≤ y.length) (b : Option Char) :
    (∃ u, ∀ i, n.rule.applyFrom skip b (y ++ (lead ++ tail i ++ post i)) =
        u ++ n.rule.label ++ n.rule.applyFrom 0 (lastOf b (y ++ (lead ++ tail i))) (post i)) ∨
      ∃ y', (∀ i, n.rule.applyFrom skip b (y ++ (lead ++ tail i ++ post i)) =
          y' ++ n.rule.applyFrom 0 (lastOf b y) (lead ++ tail i ++ post i)) ∧
        ∀ b', Follows b b' → (0 < skip → b' = some ']') → Follows (lastOf b y) (lastOf b' y') := by
  induction y generalizing skip b with
  | nil =>
    obtain rfl := Nat.le_zero.mp hskip
    exact .inr ⟨[], fun i => rfl, fun b' hb' _ => hb'⟩
  | cons c y ih =>
    cases skip with
    | succ skip =>
      rcases ih skip (Nat.le_of_succ_le_succ hskip) (some c) with ⟨u, hu⟩ | ⟨y', hy', follows⟩
      · exact .inl ⟨u, hu⟩
      · refine .inr ⟨y', hy', fun b' _ hb' => ?_⟩
        obtain rfl := hb' (Nat.succ_pos skip)
        exact follows _ (.inr rfl) fun _ => rfl
    | zero =>
      cases F.matchAt_alike hn b (c :: y) with
      | none h =>
        have copied (i : ι) : n.rule.applyFrom 0 b (c :: y ++ (lead ++ tail i ++ post i)) =
            c :: n.rule.applyFrom 0 (some c) (y ++ (lead ++ tail i ++ post i)) := replaceFrom_none (h i)
        rcases ih 0 (Nat.zero_le _) (some c) with ⟨u, hu⟩ | ⟨y', hy', follows⟩
        · exact .inl ⟨c :: u, fun i => (copied i).trans (congrArg (c :: ·) (hu i))⟩
        · exact .inr ⟨c :: y', fun i => (copied i).trans (congrArg (c :: ·) (hy' i)), fun b' _ _ =>
            follows _ (.inl rfl) nofun⟩
      | same k hk h =>
        cases k with
        | zero =>
          refine .inl ⟨[], fun i => ?_⟩
          obtain ⟨m, hm⟩ := hn.exists_succ (h i)
          cases hm
        | succ k =>
          have labelled (i : ι) : n.rule.applyFrom 0 b (c :: y ++ (lead ++ tail i ++ post i)) =
              n.rule.label ++ n.rule.applyFrom k (some c) (y ++ (lead ++ tail i ++ post i)) := replaceFrom_some (h i)
          rcases ih k (Nat.le_of_succ_le_succ hk) (some c) with ⟨u, hu⟩ | ⟨y', hy', follows⟩
          · refine .inl ⟨n.rule.label ++ u, fun i => (labelled i).trans ?_⟩
            rw [hu, List.append_assoc n.rule.label, List.append_assoc n.rule.label]
            rfl
          · refine .inr ⟨n.rule.label ++ y', fun i => (labelled i).trans ?_, fun b' _ _ => ?_⟩
            · rw [hy', List.append_assoc n.rule.label]
              rfl
            · rw [lastOf_append, lastOf_label]
              exact follows _ (.inr rfl) fun _ => rfl
      | through h =>
        refine .inl ⟨[], fun i => ?_⟩
        have taken := h i
        rw [← List.append_assoc] at taken ⊢
        exact replaceFrom_match (by simp) taken

/-- The common beginning comes out as it is, unless what is found in it takes the solid part. -/
theorem replaceFrom_lead {s : List Char} (hs : ∀ c ∈ s, isNameChar c) (b : Option Char) :
    (∃ u, ∀ i, n.rule.applyFrom 0 b (s ++ tail i ++ post i) =
        u ++ n.rule.label ++ n.rule.applyFrom 0 (lastOf b (s ++ tail i)) (post i)) ∨
      (∀ i, n.rule.applyFrom 0 b (s ++ tail i ++ post i) =
          s ++ n.rule.applyFrom 0 (lastOf b s) (tail i ++ post i)) ∧
        (s ≠ [] → ∀ i, n.rule.pattern.matchAt b (s ++ tail i ++ post i) = none) := by
  induction s generalizing b with
  | nil => exact .inr ⟨fun _ => rfl, fun h => absurd rfl h⟩
  | cons c s ih =>
    cases F.matchAt_alike_lead hn b (List.cons_ne_nil c s) hs with
    | none h =>
      have copied (i : ι) : n.rule.applyFrom 0 b (c :: s ++ tail i ++ post i) =
          c :: n.rule.applyFrom 0 (some c) (s ++ tail i ++ post i) := replaceFrom_none (h i)
      rcases ih (List.forall_mem_cons.mp hs).2 (some c) with ⟨u, hu⟩ | ⟨hs, -⟩
      · exact .inl ⟨c :: u, fun i => (copied i).trans (congrArg (c :: ·) (hu i))⟩
      · exact .inr ⟨fun i => (copied i).trans (congrArg (c :: ·) (hs i)), fun _ => h⟩
    | same k hk h => exact hk.elim
    | through h => exact .inl ⟨[], fun i => replaceFrom_match (by simp) (h i)⟩

/-- Replacement either takes the solid part in every text, or finds nothing that begins with it. -/
theorem apply_cases (y : List Char) :
    (∃ u, ∀ i, n.rule.apply (y ++ (lead ++ tail i ++ post i)) =
        u ++ n.rule.label ++ n.rule.applyFrom 0 (lastOf none (y ++ (lead ++ tail i))) (post i)) ∨
      ∃ y', (∀ i, n.rule.apply (y ++ (lead ++ tail i ++ post i)) =
          y' ++ (lead ++ n.rule.applyFrom 0 (lastOf none (y ++ lead)) (tail i ++ post i))) ∧
        Follows (lastOf none y) (lastOf none y') ∧
        ∀ i, n.rule.pattern.matchAt (lastOf none y) (lead ++ tail i ++ post i) = none := by
  rcases F.replaceFrom_before hn y 0 (Nat.zero_le _) none with taken | ⟨y', hy', follows⟩
  · exact .inl taken
  · rcases F.replaceFrom_lead hn F.lead_name (lastOf none y) with ⟨u, hu⟩ | ⟨hlead, hnone⟩
    · refine .inl ⟨y' ++ u, fun i => ?_⟩
      rw [Rule.apply_eq, hy', hu, ← lastOf_append]
      simp only [List.append_assoc]
    · refine .inr ⟨y', fun i => ?_, follows none (.inl rfl) nofun, hnone F.lead_ne⟩
      rw [Rule.apply_eq, hy', hlead, lastOf_append]

end Family

end KeyBundle.Redaction
