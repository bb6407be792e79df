/-
  KeyBundle.Proofs.Pieces — what redaction promises of a message that is put together from a template and arguments.

  The filter redacts the template and every argument by itself, before there is a message. So its promise is one for
  the pieces of a message: the template between its placeholders, and the arguments.

  (1) A template is a sequence of placeholders and of stretches between them, in which two percent signs stand for one
      (`of_partsFrom_append`, `of_partsFrom_chars`).
  (2) A message is woven from the stretches of the template and from what the placeholders show for the arguments, one
      after the other (`fill_texts_iff`). A placeholder for a text as it is shows it between blanks
      (`Shows.of_verbatim`).
  (3) A redacted text is clean (`clean_redact`): it has no long runs, and a name is assigned only its mark. It is so
      between blanks, too (`clean_spaced`).
  (4) What is found in a stretch is found in the template, so every stretch of a clean template is clean, but for what a
      name that has to stand apart takes at its beginning (`clean_stretch`).
  (5) So what is not clean in a message goes over a seam between its pieces, or has come of showing an argument in
      another way than as it is (`pieces_clean`). A seam may well part a name from its value (`pin_across_seam`).
-/

import KeyBundle.Proofs.Placeholders

namespace KeyBundle

namespace Template

/-! ## (1) Stretches and placeholders -/

/-- A text as it stands in a template: with two percent signs for each. -/
def escaped (s : List Char) : List Char := s.flatMap fun c => if c = '%' then ['%', '%'] else [c]

theorem escaped_cons (c : Char) (s : List Char) :
    escaped (c :: s) = (if c = '%' then ['%', '%'] else [c]) ++ escaped s := rfl

theorem escaped_append (s t : List Char) : escaped (s ++ t) = escaped s ++ escaped t := List.flatMap_append

/-- Reading goes on to the end of a placeholder. -/
theorem partsFrom_inside (t : List Char) (place : Nat) (phase : Phase) (s : Spec) :
    ∃ s' x y place', t = x ++ y ∧ partsFrom place (some (phase, s)) t = .placeholder s' :: partsFrom place' none y := by
  induction t generalizing place phase s with
  | nil => exact ⟨cutOff phase s, [], [], place, rfl, rfl⟩
  | cons c t ih =>
    rw [partsFrom]
    cases step phase s place c with
    | more phase' s' =>
      obtain ⟨s'', x, y, place', rfl, hy⟩ := ih (place + 1) phase' s'
      exact ⟨s'', c :: x, y, place', rfl, hy⟩
    | finished s' => exact ⟨s', [c], t, place + 1, rfl, rfl⟩

/-- The first part of a template is a character as it stands there, or a placeholder, which a percent sign opens. -/
theorem partsFrom_cons (c : Char) (t : List Char) (place : Nat) :
    ∃ p x y place', c :: t = x ++ y ∧ partsFrom place none (c :: t) = p :: partsFrom place' none y ∧
      ((∃ d, p = .char d ∧ x = escaped [d]) ∨ (∃ s, p = .placeholder s) ∧ c = '%') := by
  by_cases hc : c = '%'
  · subst hc
    by_cases ht : ∃ t', t = '%' :: t'
    · obtain ⟨t', rfl⟩ := ht
      exact ⟨.char '%', ['%', '%'], t', place + 2, rfl, by rw [partsFrom], .inl ⟨'%', rfl, rfl⟩⟩
    · obtain ⟨s, x, y, place', rfl, hy⟩ := partsFrom_inside t (place + 1) .opened .start
      refine ⟨.placeholder s, '%' :: x, y, place', rfl, ?_, .inr ⟨⟨s, rfl⟩, rfl⟩⟩
      rw [partsFrom, if_pos (beq_self_eq_true _), hy]
      exact fun t' _ h => ht ⟨t', h⟩
  · refine ⟨.char c, [c], t, place + 1, rfl, ?_, .inl ⟨c, rfl, by rw [escaped_cons, if_neg hc]; rfl⟩⟩
    rw [partsFrom, if_neg (by simpa using hc)]
    exact fun t' h _ => hc h

theorem of_partsFrom_cons {t : List Char} {place : Nat} {p : Part} {k : List Part}
    (h : partsFrom place none t = p :: k) : ∃ x y place', t = x ++ y ∧ partsFrom place' none y = k ∧
      ((∃ d, p = .char d ∧ x = escaped [d]) ∨ (∃ s, p = .placeholder s) ∧ t.head? = some '%') := by
  cases t with
  | nil => cases h
  | cons c t =>
    obtain ⟨p', x, y, place', ht, hy, hp⟩ := partsFrom_cons c t place
    obtain ⟨rfl, rfl⟩ := List.cons.inj (hy.symm.trans h)
    exact ⟨x, y, place', ht, rfl, hp.imp_right fun hp => ⟨hp.1, congrArg some hp.2⟩⟩

theorem of_partsFrom_append {l k : List Part} {t : List Char} {place : Nat} (h : partsFrom place none t = l ++ k) :
    ∃ x y place', t = x ++ y ∧ partsFrom place' none y = k := by
  induction l generalizing t place with
  | nil => exact ⟨[], t, place, rfl, h⟩
  | cons p l ih =>
    obtain ⟨x, y, place', rfl, hy, -⟩ := of_partsFrom_cons h
    obtain ⟨x', y', place'', rfl, hk⟩ := ih hy
    exact ⟨x ++ x', y', place'', (List.append_assoc x x' y').symm, hk⟩

/-- A stretch up to a placeholder, or up to the end. -/
theorem of_partsFrom_chars {u : List Char} {k : List Part} {t : List Char} {place : Nat}
    (h : partsFrom place none t = u.map .char ++ k) (hk : ∀ c, k.head? ≠ some (.char c)) :
    ∃ z, t = escaped u ++ z ∧ ∀ c ∈ z.head?, c = '%' := by
  induction u generalizing t place with
  | nil =>
    refine ⟨t, rfl, ?_⟩
    cases t with
    | nil => nofun
    | cons c t =>
      obtain ⟨p, x, y, place', -, hy, ⟨d, rfl, -⟩ | ⟨-, hc⟩⟩ := partsFrom_cons c t place
      · exact absurd (congrArg List.head? (h.symm.trans hy)) (hk d)
      · exact fun d hd => (Option.mem_some_iff.mp hd).symm.trans hc
  | cons c u ih =>
    obtain ⟨x, y, place', rfl, hy, ⟨d, hd, rfl⟩ | ⟨⟨s, hs⟩, -⟩⟩ := of_partsFrom_cons h
    · cases hd
      obtain ⟨z, rfl, hz⟩ := ih hy
      refine ⟨z, ?_, hz⟩
      rw [← List.append_assoc, ← escaped_append]
      rfl
    · cases hs

/-! ## (2) Messages -/

/-- A count that is written in the template; a text is none. -/
def writtenCount (limits : CountLimits) : Count → Except TemplateFault (Option Int)
  | .absent => .ok none
  | .digits n => if limits.most < n then .error limits.written else .ok (some n)
  | .argument => .error .badWidth

theorem countFrom_text (limits : CountLimits) (n : Count) (a : String) (xs : List Value) :
    countFrom limits n (.rest (.text a :: xs)) = (writtenCount limits n).map fun k => (k, .rest (.text a :: xs)) := by
  cases n with
  | absent | argument => rfl
  | digits n =>
    rw [countFrom, writtenCount]
    split <;> rfl

/-- A placeholder shows a text by itself, whatever comes after it. -/
theorem fillSpec_text (a : String) (xs : List Value) (s : Spec) :
    fillSpec none (.rest (.text a :: xs)) s = (fillSpec none (.rest [.text a]) s).map fun r => (r.1, .rest xs) := by
  unfold fillSpec
  cases s.key with
  | named | unclosed => rfl
  | absent =>
    -- neither the width nor the precision takes the text away
    simp only [supplyFor, bind, Except.bind, countFrom_text]
    cases writtenCount widthLimits s.width with
    | error f => rfl
    | ok width =>
      simp only [Except.map, countFrom_text]
      cases writtenCount precisionLimits s.precision with
      | error f => rfl
      | ok precision =>
        cases s.conversion with
        | none => rfl
        | some c =>
          obtain ⟨c, place⟩ := c
          simp only [Supply.next]
          split
          · cases convert _ 0 _ c place (.text a) <;> rfl
          · cases convert _ _ _ c place (.text a) <;> rfl

/-- What a placeholder shows for a text. -/
def Shows (s : Spec) (a : String) (piece : List Char) : Prop :=
  fillSpec none (.rest [.text a]) s = .ok (piece, .rest [])

/-- A text that is woven from the parts of a template and what its placeholders show for texts, one after the other. -/
inductive Woven : List Part → List String → List Char → Prop where
  | nil : Woven [] [] []
  | char (c : Char) {ps : List Part} {as : List String} {m : List Char} (h : Woven ps as m) :
      Woven (.char c :: ps) as (c :: m)
  | placeholder {s : Spec} {a : String} {piece : List Char} (hs : Shows s a piece) {ps : List Part} {as : List String}
      {m : List Char} (h : Woven ps as m) : Woven (.placeholder s :: ps) (a :: as) (piece ++ m)

theorem of_fillSpec_texts {as : List String} {s : Spec} {piece : List Char} {left : Supply}
    (h : fillSpec none (.rest (as.map .text)) s = .ok (piece, left)) :
    ∃ a bs, as = a :: bs ∧ left = .rest (bs.map .text) ∧ Shows s a piece := by
  cases as with
  | nil =>
    -- a placeholder demands one argument at least
    have none_left : taken none (.rest []) s = some left := by
      rw [List.map_nil] at h
      rw [taken, h]
      rfl
    obtain ⟨ys, -, hlength⟩ := rest_of_taken none_left
    rw [Spec.demand] at hlength
    cases hlength
  | cons a bs =>
    rw [List.map_cons, fillSpec_text] at h
    cases hone : fillSpec none (.rest [.text a]) s with
    | error f =>
      rw [hone] at h
      cases h
    | ok r =>
      obtain ⟨piece', left'⟩ := r
      have itself := fillSpec_text a [] s
      rw [hone] at h itself
      cases h
      cases itself
      exact ⟨a, bs, rfl, rfl, hone⟩

theorem woven_of_fillParts {ps : List Part} {as : List String} {m : List Char} {left : Supply}
    (h : fillParts none (.rest (as.map .text)) ps = .ok (m, left)) :
    ∃ bs cs, as = bs ++ cs ∧ left = .rest (cs.map .text) ∧ Woven ps bs m := by
  induction ps generalizing as m left with
  | nil =>
    cases h
    exact ⟨[], as, rfl, rfl, .nil⟩
  | cons p ps ih =>
    cases p with
    | char c =>
      rw [fillParts] at h
      obtain ⟨⟨m', left'⟩, hrest, h⟩ := of_bind_ok h
      cases h
      obtain ⟨bs, cs, has, hleft, hw⟩ := ih hrest
      exact ⟨bs, cs, has, hleft, hw.char c⟩
    | placeholder s =>
      rw [fillParts] at h
      obtain ⟨⟨piece, supply⟩, hs, h⟩ := of_bind_ok h
      obtain ⟨a, as', rfl, rfl, hshows⟩ := of_fillSpec_texts hs
      obtain ⟨⟨m', left'⟩, hrest, h⟩ := of_bind_ok h
      cases h
      obtain ⟨bs, cs, rfl, hleft, hw⟩ := ih hrest
      exact ⟨a :: bs, cs, rfl, hleft, hw.placeholder hshows⟩

theorem fillParts_of_woven {ps : List Part} {bs : List String} {m : List Char} (h : Woven ps bs m) (cs : List String) :
    fillParts none (.rest ((bs ++ cs).map .text)) ps = .ok (m, .rest (cs.map .text)) := by
  induction h with
  | nil => rfl
  | char c _ ih =>
    rw [fillParts, ih]
    rfl
  | @placeholder s a piece hs ps as m _ ih =>
    rw [Shows] at hs
    rw [fillParts, List.cons_append, List.map_cons, fillSpec_text, hs]
    change (fillParts none (.rest ((as ++ cs).map .text)) ps >>= _) = _
    rw [ih]
    rfl

/-- A template is filled with texts to a text that is woven from its parts and all of them. -/
theorem fill_texts_iff {template : String} {as : List String} {m : String} :
    fill template (.sequence (as.map .text)) = .ok m ↔ Woven (parts template) as m.toList := by
  constructor
  · intro h
    obtain ⟨⟨text, left⟩, hparts, h⟩ := of_bind_ok h
    obtain ⟨bs, cs, rfl, rfl, hw⟩ := woven_of_fillParts hparts
    cases cs with
    | nil =>
      cases h
      rwa [List.append_nil, String.toList_ofList]
    | cons c cs => cases h
  · intro h
    have filled := fillParts_of_woven h []
    rw [List.append_nil] at filled
    refine bind_eq_ok_iff.mpr ⟨_, filled, ?_⟩
    exact congrArg Except.ok String.ofList_toList

/-- A text that is not cut stands between blanks. -/
theorem fitText_uncut (s : Spec) (width : Nat) (text : List Char) :
    ∃ i j, fitText s width none text = spaces i ++ (text ++ spaces j) := by
  cases hs : s.leftAligned with
  | true => exact ⟨0, width - text.length, by simp [fitText, hs, spaces]⟩
  | false => exact ⟨width - text.length, 0, by simp [fitText, hs, spaces]⟩

/-- The placeholder for a text as it is. -/
def Spec.Verbatim (s : Spec) : Prop := s.precision = .absent ∧ ∃ place, s.conversion = some ('s', place)

/-- It shows the text between blanks. -/
theorem Shows.of_verbatim {s : Spec} (hs : s.Verbatim) {a : String} {piece : List Char} (h : Shows s a piece) :
    ∃ i j, piece = spaces i ++ (a.toList ++ spaces j) := by
  obtain ⟨hprecision, place, hconversion⟩ := hs
  unfold Shows fillSpec at h
  obtain ⟨supply, hkey, h⟩ := of_bind_ok h
  obtain rfl : supply = .rest [.text a] := by
    cases hk : s.key <;> rw [hk] at hkey <;> cases hkey
    rfl
  obtain ⟨⟨width, supply⟩, hwidth, h⟩ := of_bind_ok h
  rw [countFrom_text] at hwidth
  cases hw : writtenCount widthLimits s.width with
  | error f =>
    rw [hw] at hwidth
    cases hwidth
  | ok w =>
    rw [hw] at hwidth
    cases hwidth
    rw [hprecision, hconversion] at h
    simp only [bind, Except.bind, countFrom, Supply.next, Option.map_none] at h
    split at h
    · cases h
    · cases h
      exact fitText_uncut _ _ a.toList

end Template

namespace Redaction

open KeyBundle.Text KeyBundle.Template Pattern Rule

/-! ## (3) Clean texts -/

/-- Right behind the label of hexadecimal digits. -/
def BehindDigits (u : List Char) : Prop := hexadecimal.label <:+ u

/-- A text without long runs, in which every assignment is the label of its name, but for names that have to stand apart
    at places of a kind. -/
def Clean (but : List Char → Prop) (t : List Char) : Prop :=
  NoRun isBase64 40 t ∧ NoRun isHexDigit 32 t ∧
    ∀ n ∈ Naming.all, Everywhere (Labelled n fun u => n.apart ∧ but u) [] t

theorem clean_redact (s : String) : Clean BehindDigits (redact [] s).toList := by
  obtain ⟨base, digits⟩ := redact_noRun [] s
  refine ⟨base, digits, fun n hn => ?_⟩
  rw [redact_nil_toList]
  exact labelled_rules hn s.toList

/-- No name is written with a percent sign or a blank. -/
theorem names_avoid : ∀ n ∈ Naming.all, ∀ w ∈ n.names.spellings, ∀ f ∈ w, f '%' = false ∧ f ' ' = false := by
  decide +kernel

/-- What is left of a name is written without the character. -/
def Rule.Stage.Avoids (d : Char) : Stage → Prop
  | .name w => ∀ f ∈ w, f d = false
  | .sign | .quoted | .value => True

theorem Rule.Stage.avoids_step {d : Char} {stage next : Stage} {c : Char} (h : stage.Avoids d)
    (hstep : stage.step c = .inl next) : next.Avoids d := by
  rcases of_step_inl hstep with ⟨f, w, rfl, rfl⟩ | ⟨rfl, rfl⟩ | past
  · exact (List.forall_mem_cons.mp h).2
  · exact h
  · cases next with
    | name w => exact absurd rfl (past w)
    | sign | quoted | value => trivial

/-- Blanks alone are no end of an assignment that needs a value. -/
theorem Rule.Stage.length?_spaces {stage : Stage} (h : stage.Avoids ' ') (hvalue : stage ≠ .value) (j : Nat) :
    stage.length? (spaces j) = none := by
  induction j with
  | zero =>
    cases stage with
    | value => exact absurd rfl hvalue
    | name | sign | quoted => rfl
  | succ j ih =>
    rw [spaces, List.replicate_succ, length?_step]
    cases stage with
    | name w =>
      cases w with
      | nil => exact congrArg (Option.map (· + 1)) ih
      | cons f w =>
        rw [step, (List.forall_mem_cons.mp h).1]
        rfl
    | sign => exact congrArg (Option.map (· + 1)) ih
    | quoted => rfl
    | value => exact absurd rfl hvalue

theorem Rule.Stage.isSome_of_spaces {stage : Stage} (hstage : stage.Avoids ' ') {v : List Char} {j : Nat}
    (h : (stage.length? (v ++ spaces j)).isSome) : (stage.length? v).isSome := by
  induction v generalizing stage with
  | nil =>
    by_cases hvalue : stage = .value
    · rw [hvalue]
      exact isSome_value []
    · rw [List.nil_append, length?_spaces hstage hvalue] at h
      cases h
  | cons c v ih =>
    exact isSome_of_cons h fun _ hstep hnext => ih (avoids_step hstage hstep) hnext

/-- No name begins with a blank. -/
theorem matchAt_blank {n : Naming} (hn : n ∈ Naming.all) {b : Option Char} {v : List Char}
    (hv : ∀ c ∈ v.head?, c = ' ') : n.rule.pattern.matchAt b v = none := by
  by_contra hfound
  obtain ⟨-, w, hw, hsome⟩ := (Naming.matchAt_ne_none_iff hn).mp hfound
  obtain ⟨f, w', c, v', rfl, rfl, hf, -, -⟩ := Naming.exists_of_isSome hn hw hsome
  rw [hv c rfl, (names_avoid n hn _ hw f List.mem_cons_self).2] at hf
  cases hf

theorem noRun_spaced {a : Char → Bool} {n : Nat} (ha : ¬a ' ') (hn : 0 < n) {t : List Char} (h : NoRun a n t)
    (i j : Nat) : NoRun a n (spaces i ++ (t ++ spaces j)) := by
  induction i with
  | zero =>
    rw [spaces, List.replicate_zero, List.nil_append]
    induction j with
    | zero => rwa [spaces, List.replicate_zero, List.append_nil]
    | succ j ih =>
      rw [spaces, List.replicate_succ', ← List.append_assoc, noRun_append_cons ha]
      exact ⟨ih, noRun_nil hn, hn⟩
  | succ i ih =>
    rw [spaces, List.replicate_succ, List.cons_append, ← List.nil_append (' ' :: _), noRun_append_cons ha]
    exact ⟨noRun_nil hn, ih, hn⟩

/-- A clean text is clean between blanks. -/
theorem clean_spaced {t : List Char} (h : Clean BehindDigits t) (i j : Nat) :
    Clean BehindDigits (spaces i ++ (t ++ spaces j)) := by
  obtain ⟨base, digits, labelled⟩ := h
  refine ⟨noRun_spaced (by decide) (by decide) base i j, noRun_spaced (by decide) (by decide) digits i j,
    fun n hn => ?_⟩
  have blank {x v : List Char} {k : Nat} (hxv : spaces k = x ++ v) : ∀ c ∈ v.head?, c = ' ' := fun c hc =>
    List.eq_of_mem_replicate (hxv ▸ List.mem_append_right x (List.mem_of_mem_head? hc))
  -- a place is at the blanks before the text, in the text, or at the blanks behind it
  refine .append (fun x v hxv hne hfound => ?_) (.append (fun x v hxv hne hfound => ?_) fun x v hxv hfound => ?_)
  · refine absurd (matchAt_blank hn fun c hc => ?_) hfound
    rw [List.head?_append_of_ne_nil _ hne] at hc
    exact blank hxv c hc
  · obtain ⟨hopen, w, hw, hsome⟩ := (Naming.matchAt_ne_none_iff hn).mp hfound
    have avoids : Stage.Avoids ' ' (.name w) := fun f hf => (names_avoid n hn w hw f hf).2
    have found : n.rule.pattern.matchAt (lastOf none ([] ++ x)) v ≠ none := by
      refine (Naming.matchAt_ne_none_iff hn).mpr ⟨fun ha => ?_, w, hw, Stage.isSome_of_spaces avoids hsome⟩
      cases x with
      | nil => rfl
      | cons c x =>
        have same := hopen ha
        rwa [lastOf_append] at same
    refine (labelled n hn x v hxv found).imp (fun hlabel => hlabel.trans (List.prefix_append v _)) fun hbut => ?_
    exact ⟨hbut.1, hbut.2.trans (List.suffix_append _ _)⟩
  · exact absurd (matchAt_blank hn (blank hxv)) hfound

/-! ## (4) Stretches -/

theorem escaped_eq_self {s : List Char} (h : '%' ∉ s) : escaped s = s := by
  induction s with
  | nil => rfl
  | cons c s ih =>
    rw [List.mem_cons, not_or] at h
    rw [escaped_cons, if_neg (Ne.symm h.1), ih h.2]
    rfl

theorem reverse_escaped (s : List Char) : (escaped s).reverse = escaped s.reverse := by
  rw [escaped, escaped, List.reverse_flatMap]
  congr 1
  funext c
  by_cases hc : c = '%' <;> simp [hc]

theorem lastOf_escaped {s : List Char} (h : s ≠ []) (b b' : Option Char) : lastOf b (escaped s) = lastOf b' s := by
  induction s generalizing b b' with
  | nil => exact absurd rfl h
  | cons c s ih =>
    have first : lastOf b (escaped [c]) = some c := by
      rw [escaped_cons]
      by_cases hc : c = '%'
      · rw [if_pos hc, hc]
        rfl
      · rw [if_neg hc]
        rfl
    rw [← List.singleton_append, escaped_append, lastOf_append, lastOf_append, first]
    cases s with
    | nil => rfl
    | cons d s => exact ih (List.cons_ne_nil d s) _ _

/-- A run without percent signs is one in the template. -/
theorem noRun_escaped {a : Char → Bool} {n : Nat} (ha : a '%' = false) {s : List Char} (h : NoRun a n (escaped s)) :
    NoRun a n s := by
  rintro w ⟨x, y, rfl⟩ hw
  have plain : '%' ∉ w := fun hmem => by
    rw [hw _ hmem] at ha
    cases ha
  refine h w ⟨escaped x, escaped y, ?_⟩ hw
  rw [escaped_append, escaped_append, escaped_eq_self plain]

/-- A text without percent signs that a template starts with is one of a stretch that goes up to a placeholder. -/
theorem isPrefix_of_escaped {l s z : List Char} (hl : '%' ∉ l) (hz : ∀ c ∈ z.head?, c = '%')
    (h : l <+: escaped s ++ z) : l <+: s := by
  induction l generalizing s with
  | nil => exact List.nil_prefix
  | cons d l ih =>
    rw [List.mem_cons, not_or] at hl
    cases s with
    | nil =>
      obtain ⟨w, hw⟩ := h
      rw [escaped, List.flatMap_nil, List.nil_append, List.cons_append] at hw
      exact absurd (hz d (by rw [← hw]; rfl)) (Ne.symm hl.1)
    | cons c s =>
      by_cases hc : c = '%'
      · rw [escaped_cons, if_pos hc] at h
        exact absurd (List.cons_prefix_cons.mp h).1 (Ne.symm hl.1)
      · rw [escaped_cons, if_neg hc] at h
        obtain ⟨rfl, hrest⟩ := List.cons_prefix_cons.mp h
        exact List.cons_prefix_cons.mpr ⟨rfl, ih hl.2 hrest⟩

theorem labels_plain : ∀ r ∈ Rule.all, '%' ∉ r.label := by
  decide

/-- A percent sign is a character of a value. -/
theorem Rule.Stage.step_percent {stage : Stage} (h : stage.Avoids '%') :
    stage.step '%' = .inl .value ∨ stage.step '%' = .inr none := by
  cases stage with
  | name w =>
    right
    cases w with
    | nil => rfl
    | cons f w => rw [step, (List.forall_mem_cons.mp h).1]; rfl
  | sign | quoted | value => exact .inl rfl

/-- An assignment in a stretch of a template is one in the template. -/
theorem isSome_escaped {stage : Stage} (hstage : stage.Avoids '%') {s : List Char} (h : (Stage.length? stage s).isSome)
    (z : List Char) : (Stage.length? stage (escaped s ++ z)).isSome := by
  induction s generalizing stage with
  | nil =>
    cases stage with
    | value => exact Stage.isSome_value z
    | name | sign | quoted => cases h
  | cons c s ih =>
    by_cases hc : c = '%'
    · subst hc
      rw [Stage.length?_step] at h
      rw [escaped_cons, if_pos rfl, List.append_assoc, List.cons_append, Stage.length?_step]
      rcases Stage.step_percent hstage with hstep | hstep
      · rw [hstep, Sum.elim_inl, Option.isSome_map]
        exact Stage.isSome_value _
      · rw [hstep] at h
        cases h
    · rw [escaped_cons, if_neg hc]
      exact Stage.isSome_of_cons h fun _ hstep hnext => ih (Stage.avoids_step hstage hstep) hnext

theorem assigns_escaped {n : Naming} (hn : n ∈ Naming.all) {s : List Char} (h : n.Assigns s) (z : List Char) :
    n.Assigns (escaped s ++ z) := by
  obtain ⟨w, hw, hsome⟩ := h
  have avoids : Stage.Avoids '%' (.name w) := fun f hf => (names_avoid n hn w hw f hf).1
  exact ⟨w, hw, isSome_escaped avoids hsome z⟩

/-- At the beginning, or right behind a part of the label of hexadecimal digits that a stretch begins with. -/
def BehindStart (u : List Char) : Prop := u <:+ hexadecimal.label ∨ hexadecimal.label <:+ u

theorem behindStart_of_escaped {x u : List Char} (h : hexadecimal.label <:+ x ++ escaped u) : BehindStart u := by
  have plain := labels_plain hexadecimal (by simp [Rule.all])
  rcases List.suffix_or_suffix_of_suffix h (List.suffix_append x (escaped u)) with hlong | hshort
  · right
    rw [← List.reverse_prefix] at hlong ⊢
    rw [reverse_escaped, ← List.append_nil (escaped _)] at hlong
    exact isPrefix_of_escaped (by rwa [List.mem_reverse]) (by simp) hlong
  · left
    have : '%' ∉ u := fun hmem => plain (hshort.mem (List.mem_flatMap.mpr ⟨'%', hmem, by simp⟩))
    rwa [escaped_eq_self this] at hshort

/-- A stretch of a clean template is clean but for what stands apart at its beginning. -/
theorem clean_stretch {x s z : List Char} (h : Clean BehindDigits (x ++ (escaped s ++ z)))
    (hz : ∀ c ∈ z.head?, c = '%') : Clean BehindStart s := by
  obtain ⟨base, digits, labelled⟩ := h
  have inside : escaped s <:+: x ++ (escaped s ++ z) := ⟨x, z, by rw [List.append_assoc]⟩
  refine ⟨noRun_escaped (by decide) fun w hw => base w (hw.trans inside),
    noRun_escaped (by decide) fun w hw => digits w (hw.trans inside), fun n hn u v huv hfound => ?_⟩
  obtain ⟨hopen, hassigns⟩ := (Naming.matchAt_ne_none_iff hn).mp hfound
  -- at its beginning, the stretch does not tell whether a name stands apart in the template
  by_cases start : n.apart ∧ u = []
  · exact .inr ⟨start.1, .inl (by rw [start.2]; exact List.nil_suffix)⟩
  · have place : x ++ (escaped s ++ z) = (x ++ escaped u) ++ (escaped v ++ z) := by
      rw [huv, escaped_append, List.append_assoc, List.append_assoc]
    have found : n.rule.pattern.matchAt (lastOf none ([] ++ (x ++ escaped u))) (escaped v ++ z) ≠ none := by
      refine (Naming.matchAt_ne_none_iff hn).mpr ⟨fun ha => ?_, assigns_escaped hn hassigns z⟩
      have hu : u ≠ [] := fun hu => start ⟨ha, hu⟩
      rw [List.nil_append, lastOf_append, lastOf_escaped hu _ none]
      exact hopen ha
    rcases labelled n hn _ _ place found with hlabel | ⟨ha, hbehind⟩
    · exact .inl (isPrefix_of_escaped (labels_plain _ (Naming.rule_mem hn)) hz hlabel)
    · rw [List.nil_append] at hbehind
      exact .inr ⟨ha, behindStart_of_escaped hbehind⟩

end Redaction

namespace Log

open Redaction Template

/-! ## (5) Records -/

theorem passed_texts {r : Record} {as : List String} (h : r.args = .sequence (as.map .text)) (n : Nat) :
    (r.passed n).args = .sequence ((as.map (redact [])^[n]).map .text) := by
  induction n with
  | zero => exact h.trans (by simp)
  | succ n ih =>
    rw [Record.passed, Record.filtered, ih]
    simp only [cleanArgs, List.map_map, Args.sequence.injEq, Function.iterate_succ']
    rfl

theorem clean_passed (s : String) (n : Nat) : Clean BehindDigits ((redact [])^[n + 1] s).toList := by
  rw [Function.iterate_succ_apply']
  exact clean_redact _

/-- The message that is put together from a text and texts for arguments. -/
theorem text_texts_iff {r : Record} {t : String} {bs : List String} (ht : r.message = .text t)
    (hbs : r.args = .sequence (bs.map .text)) {m : String} :
    r.text = .ok m ↔ if bs = [] then m = t else Woven (parts t) bs m.toList := by
  rw [Record.text, ht, hbs]
  cases bs with
  | nil => exact ⟨fun h => (Except.ok.inj h).symm, fun h => congrArg Except.ok h.symm⟩
  | cons b bs => exact fill_texts_iff

/-- A message with texts for arguments, put together after the filter has run, consists of clean pieces. Without
    arguments it is the template, which is clean. Otherwise it is woven from the stretches of the template and from what
    the placeholders show for the arguments, one after the other. The stretches are clean, but for what stands apart at
    their beginning; so are the arguments, and what a placeholder shows for one as it is. -/
theorem pieces_clean {r : Record} {s : String} {as : List String} (hs : r.message = .text s)
    (has : r.args = .sequence (as.map .text)) (n : Nat) :
    let t := (redact [])^[n + 1] s
    let bs := as.map (redact [])^[n + 1]
    Clean BehindDigits t.toList ∧ (∀ b ∈ bs, Clean BehindDigits b.toList) ∧
      (∀ m, (r.passed (n + 1)).text = .ok m ↔ if bs = [] then m = t else Woven (parts t) bs m.toList) ∧
      (∀ l u k, parts t = l ++ u.map .char ++ k → (∀ c, k.head? ≠ some (.char c)) → Clean BehindStart u) ∧
      ∀ p b piece, b ∈ bs → p.Verbatim → Shows p b piece → Clean BehindDigits piece := by
  intro t bs
  have cleaned : ∀ b ∈ bs, Clean BehindDigits b.toList := List.forall_mem_map.mpr fun a _ => clean_passed a n
  refine ⟨clean_passed s n, cleaned, fun m => text_texts_iff (passed_message hs _) (passed_texts has _),
    fun l u k hparts hk => ?_, fun p b piece hb verbatim shows => ?_⟩
  · rw [List.append_assoc] at hparts
    obtain ⟨x, y, place, hxy, hy⟩ := of_partsFrom_append hparts
    obtain ⟨z, rfl, hz⟩ := of_partsFrom_chars hy hk
    exact clean_stretch (hxy ▸ clean_passed s n) hz
  · obtain ⟨i, j, rfl⟩ := shows.of_verbatim verbatim
    exact clean_spaced (cleaned b hb) i j

/-- A password in the template and a token in an argument, each with what belongs to it in one piece. -/
theorem pieces_clean_password :
    let r : Record :=
      ⟨"app", 30, .text "pwd=x for %s: %s", .sequence [.text "ann", .text "token: y"], Journal.startOfRun, none, none, []⟩
    let t := redact [] "pwd=x for %s: %s"
    let bs := [redact [] "ann", redact [] "token: y"]
    (r.passed 1).text = .ok "password=[REDACTED] for ann: token=[REDACTED]" ∧
      Woven (parts t) bs "password=[REDACTED] for ann: token=[REDACTED]".toList ∧
      Clean BehindStart "password=[REDACTED] for ".toList ∧ Clean BehindDigits bs[1].toList := by
  intro r t bs
  have text : (r.passed 1).text = .ok "password=[REDACTED] for ann: token=[REDACTED]" :=
    eq_ok_of_toOption (by decide +kernel)
  have hs : r.message = .text "pwd=x for %s: %s" := rfl
  have has : r.args = .sequence (["ann", "token: y"].map .text) := rfl
  have template : t = "password=[REDACTED] for %s: %s" := by decide +kernel
  obtain ⟨-, cleaned, message, stretches, -⟩ := pieces_clean hs has 0
  refine ⟨text, (message _).mp text, ?_, cleaned bs[1] (by simp [bs])⟩
  refine stretches [] _ ((parts t).drop 24) ?_ ?_
  · change parts t = _
    rw [template]
    rfl
  · rw [template]
    nofun

/-- A name and its value may come from different pieces. -/
theorem pin_across_seam :
    let r : Record := ⟨"app", 30, .text "%s=%s", .sequence [.text "pin", .text "1234"], Journal.startOfRun, none, none, []⟩
    (r.passed 1).text.toOption = some "pin=1234" ∧
      Rule.pin.pattern.matchAt none "pin=1234".toList = some 8 ∧ ¬Rule.pin.label <+: "pin=1234".toList := by
  decide +kernel

end Log

end KeyBundle
