/-
  KeyBundle.Proofs.Ancestors — the tree of loggers, and the dots in their names.

  By the dots in its name a logger has others above it: those whose names it starts with before one of its dots. The
  tree follows that, with two exceptions. Two dots side by side are passed over together. And a new logger whose name
  opens the word root does not take over loggers that hang on the root logger already.

  (1) The names above a name by its dots are its beginnings before a dot (`mem_dottedAbove_iff`), each of them above
      those before it in the list (`pairwise_dottedAbove`).
  (2) Without two dots side by side, the tree is climbed name by name (`namesBefore_eq_climb`), and what is not in the
      tree is passed over.
  (3) So, of some loggers that are there, the nearest one by dots is the nearest in the tree, too, unless its name opens
      the word root and the logger below it on the way was there first (`nearest_iff`).
-/

import KeyBundle.Log.Logger
import Mathlib.Data.List.Chain

namespace KeyBundle.Log

/-! ## (1) Dots -/

/-- The names that a text written backwards starts with before its dots, longest first. -/
def namesBeforeDots : List Char → List String
  | [] => []
  | c :: rest =>
    if c = '.' ∧ rest ≠ [] then String.ofList rest.reverse :: namesBeforeDots rest else namesBeforeDots rest

/-- The names above a name by the dots in it, longest first. -/
def dottedAbove (name : String) : List String := namesBeforeDots name.toList.reverse

/-- No two dots stand side by side. -/
def SingleDots (s : List Char) : Prop := s.IsChain fun c d => c = '.' → d ≠ '.'

instance (s : List Char) : Decidable (SingleDots s) := inferInstanceAs (Decidable (s.IsChain _))

theorem mem_namesBeforeDots_iff {n : String} {s : List Char} :
    n ∈ namesBeforeDots s ↔ n ≠ "" ∧ n.toList ++ ['.'] <+: s.reverse := by
  induction s with
  | nil => simp [namesBeforeDots]
  | cons c s ih =>
    have last : n.toList ++ ['.'] = s.reverse ++ [c] ↔ c = '.' ∧ n = String.ofList s.reverse := by
      rw [← String.toList_inj, String.toList_ofList, List.append_singleton_inj, eq_comm (a := '.'), and_comm]
    rw [List.reverse_cons, List.prefix_concat_iff, last, namesBeforeDots]
    split
    · next h =>
      have named : String.ofList s.reverse ≠ "" := fun e => h.2 (by simpa using congrArg String.toList e)
      rw [List.mem_cons, ih, and_iff_right h.1]
      constructor
      · rintro (rfl | ⟨hn, hs⟩)
        · exact ⟨named, .inl rfl⟩
        · exact ⟨hn, .inr hs⟩
      · exact fun ⟨hn, hs⟩ => hs.imp id fun hs => ⟨hn, hs⟩
    · next h =>
      rw [ih]
      refine and_congr_right fun hn => (or_iff_right fun ⟨hc, he⟩ => ?_).symm
      rw [not_and, not_not] at h
      exact hn (by rw [he, h hc]; rfl)

theorem mem_dottedAbove_iff {n name : String} : n ∈ dottedAbove name ↔ n ≠ "" ∧ n.toList ++ ['.'] <+: name.toList := by
  rw [dottedAbove, mem_namesBeforeDots_iff, List.reverse_reverse]

theorem pairwise_namesBeforeDots (s : List Char) :
    (namesBeforeDots s).Pairwise fun m n => n ∈ dottedAbove m := by
  induction s with
  | nil => exact .nil
  | cons c s ih =>
    rw [namesBeforeDots]
    split
    · refine .cons (fun n hn => ?_) ih
      rwa [dottedAbove, String.toList_ofList, List.reverse_reverse]
    · exact ih

theorem pairwise_dottedAbove (name : String) : (dottedAbove name).Pairwise fun m n => n ∈ dottedAbove m :=
  pairwise_namesBeforeDots _

/-! ## (2) The climb -/

/-- The names of a list that are in the tree, each above the one found before it. -/
def climb (isAbove : String → String → Bool) : (child : String) → List String → List String
  | _, [] => []
  | child, n :: ns => if isAbove n child then n :: climb isAbove n ns else climb isAbove child ns

theorem namesBefore_eq_climb (isAbove : String → String → Bool) {s : List Char} (h : SingleDots s) (child : String) :
    namesBefore isAbove child s = climb isAbove child (namesBeforeDots s) := by
  fun_induction namesBefore isAbove child s with
  | case1 => rfl
  | case2 child c rest name above ih =>
    rw [namesBeforeDots, if_pos ⟨rfl, List.cons_ne_nil c rest⟩, climb, if_pos above, ih h.tail]
  | case3 child c rest name above ih =>
    obtain ⟨hc, hrest⟩ := List.isChain_cons_cons.mp h
    rw [namesBeforeDots, if_pos ⟨rfl, List.cons_ne_nil c rest⟩, climb, if_neg above, ih hrest.tail, namesBeforeDots,
      if_neg fun hd => hc rfl hd.1]
  | case4 child c rest pattern ih =>
    rw [namesBeforeDots, if_neg ?_, ih h.tail]
    rintro ⟨rfl, hrest⟩
    obtain ⟨d, rest, rfl⟩ := List.exists_cons_of_ne_nil hrest
    exact pattern d rest rfl rfl

theorem climb_sublist (isAbove : String → String → Bool) (child : String) (ns : List String) :
    (climb isAbove child ns).Sublist ns := by
  induction ns generalizing child with
  | nil => exact .slnil
  | cons n ns ih =>
    rw [climb]
    split
    · exact (ih n).cons_cons n
    · exact (ih child).cons n

/-- The climb goes on from the name found last. -/
theorem climb_append (isAbove : String → String → Bool) (child : String) (ms ns : List String) :
    climb isAbove child (ms ++ ns) = climb isAbove child ms ++
      climb isAbove ((climb isAbove child ms).getLast?.getD child) ns := by
  induction ms generalizing child with
  | nil => rfl
  | cons m ms ih =>
    rw [List.cons_append, climb, climb]
    split
    · rw [ih, List.cons_append, List.getLast?_cons]
      rfl
    · exact ih child

theorem climb_eq_filter {isAbove : String → String → Bool} {p : String → Bool} {ns : List String}
    (h : ∀ n ∈ ns, ∀ c, isAbove n c = p n) (child : String) : climb isAbove child ns = ns.filter p := by
  induction ns generalizing child with
  | nil => rfl
  | cons n ns ih =>
    obtain ⟨hn, hns⟩ := List.forall_mem_cons.mp h
    rw [climb, hn, List.filter_cons, ih hns, ih hns]

/-! ## (3) The nearest of some loggers -/

/-- The names that open the word root. -/
def rootOpenings : List String := ["r", "ro", "roo"]

/-- The logger right below another one, on the way up to it by dots. -/
def Journal.below (j : Journal) (above name : String) : String :=
  (((dottedAbove name).takeWhile (· != above)).filter j.isKnown).getLast?.getD name

variable {j : Journal} {n name above : String}

theorem isPrefix_root_iff (hempty : n ≠ "") (hroot : n ≠ Value.rootLogger) :
    n.toList.isPrefixOf Value.rootLogger.toList ↔ n ∈ rootOpenings := by
  have root : Value.rootLogger.toList = ['r', 'o', 'o', 't'] := rfl
  have opens : ∀ m ∈ rootOpenings, m.toList.isPrefixOf Value.rootLogger.toList := by decide
  refine ⟨fun h => ?_, opens n⟩
  obtain ⟨t, ht⟩ := List.isPrefixOf_iff_prefix.mp h
  have same (m : String) (hm : n.toList = m.toList) : n = m := String.toList_inj.mp hm
  rw [root] at ht
  rcases hn : n.toList with _ | ⟨a, _ | ⟨b, _ | ⟨c, _ | ⟨d, s⟩⟩⟩⟩ <;> rw [hn] at ht <;>
    simp only [List.cons_append, List.nil_append, List.cons.injEq] at ht
  · exact absurd (same "" hn) hempty
  · obtain ⟨rfl, -⟩ := ht
    simp [rootOpenings, same "r" hn]
  · obtain ⟨rfl, rfl, -⟩ := ht
    simp [rootOpenings, same "ro" hn]
  · obtain ⟨rfl, rfl, rfl, -⟩ := ht
    simp [rootOpenings, same "roo" hn]
  · obtain ⟨rfl, rfl, rfl, rfl, ht⟩ := ht
    rw [(List.append_eq_nil_iff.mp ht).1] at hn
    exact absurd (same Value.rootLogger hn) hroot

/-- Where a name has a dot in it, the tree follows the dots. -/
theorem isAbove_of_dot (h : '.' ∈ n.toList) (child : String) : j.isAbove n child = j.isKnown n := by
  have root : '.' ∉ Value.rootLogger.toList := by decide
  have other : n ≠ Value.rootLogger := fun he => root (he ▸ h)
  have opens : n.toList.isPrefixOf Value.rootLogger.toList = false := by
    rw [Bool.eq_false_iff, ne_eq, List.isPrefixOf_iff_prefix]
    exact fun hp => root (hp.mem h)
  simp [Journal.isAbove, other, opens]

theorem dot_of_mem_dottedAbove (h : n ∈ dottedAbove name) : '.' ∈ name.toList :=
  (mem_dottedAbove_iff.mp h).2.mem (List.mem_append_right _ (List.mem_singleton_self _))

/-- What does not count can be left behind on the way up. -/
theorem find?_namesAbove {p : String → Bool} (hdots : SingleDots name.toList) (hroot : name ≠ Value.rootLogger)
    (hname : p name = false) {pre post : List String} (hsplit : dottedAbove name = pre ++ post)
    (hpre : ∀ n ∈ pre, p n = false) : (name :: j.namesAbove name).find? p =
      (climb j.isAbove ((climb j.isAbove name pre).getLast?.getD name) post ++ [Value.rootLogger]).find? p := by
  have skipped (c : String) : (climb j.isAbove c pre).find? p = none :=
    List.find?_eq_none.mpr fun n hn => by simpa using hpre n ((climb_sublist _ _ _).subset hn)
  have reversed : SingleDots name.toList.reverse :=
    List.isChain_reverse.mpr (hdots.imp fun c d h hd hc => h hc hd)
  have climbed : namesBefore j.isAbove name name.toList.reverse = climb j.isAbove name (pre ++ post) := by
    rw [namesBefore_eq_climb _ reversed, ← hsplit]
    rfl
  rw [List.find?_cons, hname, Journal.namesAbove, if_neg hroot, climbed, climb_append, List.append_assoc,
    List.find?_append, skipped]
  rfl

/-- A name that opens the word root has no dots, so it comes last, and those before it have dots. -/
theorem climb_rootOpening (h : above ∈ rootOpenings) {pre post : List String}
    (hsplit : dottedAbove name = pre ++ above :: post) (hpre : above ∉ pre) :
    post = [] ∧ (climb j.isAbove name pre).getLast?.getD name = j.below above name := by
  have dotless : ∀ n ∈ rootOpenings, '.' ∉ n.toList := by decide
  obtain ⟨-, hlast, hbefore⟩ := List.pairwise_append.mp (hsplit ▸ pairwise_dottedAbove name)
  have known : climb j.isAbove name pre = pre.filter j.isKnown :=
    climb_eq_filter (fun n hn c => isAbove_of_dot
      (dot_of_mem_dottedAbove (hbefore n hn above (List.mem_cons_self ..))) c) name
  have differ : ∀ n ∈ pre, (n != above) = true := fun n hn => bne_iff_ne.mpr fun he => hpre (he ▸ hn)
  constructor
  · refine List.eq_nil_iff_forall_not_mem.mpr fun n hn => dotless _ h ?_
    exact dot_of_mem_dottedAbove ((List.pairwise_cons.mp hlast).1 n hn)
  · rw [Journal.below, hsplit, List.takeWhile_append_of_pos differ, List.takeWhile_cons_of_neg (by simp),
      List.append_nil, known]

/-- A name that opens the word root is above the loggers that came after it only. -/
theorem isAbove_rootOpening (known : j.isKnown above) (nonempty : above ≠ "") (hroot : above ≠ Value.rootLogger)
    (h : above ∈ rootOpenings) (c : String) : j.isAbove above c = j.isOlder above c := by
  simp [Journal.isAbove, hroot, known, (isPrefix_root_iff nonempty hroot).mpr h]

/-- Any other name that is there is above a logger, whichever came first. -/
theorem isAbove_of_not_mem (known : j.isKnown above) (nonempty : above ≠ "") (hroot : above ≠ Value.rootLogger)
    (h : above ∉ rootOpenings) (c : String) : j.isAbove above c := by
  have closed : above.toList.isPrefixOf Value.rootLogger.toList = false :=
    Bool.eq_false_iff.mpr fun opens => h ((isPrefix_root_iff nonempty hroot).mp opens)
  simp [Journal.isAbove, hroot, known, closed]

/-- Of some loggers that are there, the nearest one by dots is the nearest one in the tree, unless its name opens the
    word root and the logger below it on the way was there before it. -/
theorem nearest_iff {p : String → Bool} (hp : ∀ n, p n → j.isKnown n) (hdots : SingleDots name.toList)
    (hroot : above ≠ Value.rootLogger) (h : (name :: dottedAbove name).find? p = some above) :
    (name :: j.namesAbove name).find? p = some above ↔
      (above ∈ rootOpenings → above = name ∨ j.isOlder above (j.below above name)) := by
  obtain found | found : above = name ∨ (p name = false ∧ (dottedAbove name).find? p = some above) := by
    rw [List.find?_cons] at h
    cases hn : p name <;> rw [hn] at h
    · exact .inr ⟨rfl, h⟩
    · exact .inl (Option.some.inj h).symm
  · obtain rfl := found
    have first := List.find?_some h
    rw [List.find?_cons, first]
    exact iff_of_true rfl fun _ => .inl rfl
  obtain ⟨hname, habove⟩ := found
  obtain ⟨hfound, pre, post, hsplit, hpre⟩ := List.find?_eq_some_iff_append.mp habove
  have other : above ≠ name := fun he => by rw [he, hname] at hfound; cases hfound
  have nonempty : above ≠ "" := (mem_dottedAbove_iff.mp (List.mem_of_find?_eq_some habove)).1
  have notRoot : name ≠ Value.rootLogger := by
    rintro rfl
    cases habove
  rw [find?_namesAbove hdots notRoot hname hsplit fun n hn => by simpa using hpre n hn, climb]
  by_cases hopens : above ∈ rootOpenings
  · have before : above ∉ pre := fun hn => by
      have := hpre above hn
      rw [hfound] at this
      cases this
    obtain ⟨rfl, below⟩ := climb_rootOpening (j := j) hopens hsplit before
    rw [below, isAbove_rootOpening (hp above hfound) nonempty hroot hopens]
    cases j.isOlder above (j.below above name) with
    | true =>
      rw [if_pos rfl, List.cons_append, List.find?_cons, hfound]
      exact iff_of_true rfl fun _ => .inr rfl
    | false =>
      refine iff_of_false (fun hroots => ?_) fun h => (h hopens).elim other nofun
      exact hroot (List.mem_singleton.mp (List.mem_of_find?_eq_some hroots))
  · rw [if_pos (isAbove_of_not_mem (hp above hfound) nonempty hroot hopens _), List.cons_append, List.find?_cons, hfound]
    exact iff_of_true rfl fun h => absurd h hopens

end KeyBundle.Log
