/-
  KeyBundle.Proofs.Alongside — two runs of building, one alongside the other.

  Two contexts are a match when they have the same settings to go by, and when the same notices have been given in both
  since the two runs began (`Match`). Two steps stay alongside (`Alongside`) when they come to the same result from every
  match, and to a match again; each may read streams of its own, as long as these have not been read before. Steps
  one after the other stay alongside, where none of the later streams is read by the earlier step (`Alongside.bind`).

  So do the same step on both sides, where it reads no stream: announcing a scheme may ask for the settings, and gives
  the same notices (`alongside_announce`).
-/

import KeyBundle.Proofs.ModuleCalls

namespace KeyBundle

open Build

/-! ## Contexts -/

/-- The streams are different ones, and nothing has been taken from any of them. -/
structure Unread (ids : List Nat) (c : Context) : Prop where
  distinct : ids.Nodup
  untouched : ∀ i ∈ ids, drawnFrom c i = 0

/-- The contexts have the same settings to go by, and the same notices after the given ones; the streams of either
    are unread. -/
structure Match (m n : List Notice) (ids jds : List Nat) (c d : Context) : Prop where
  settled : c.settled = d.settled
  noted : ∃ ns, c.notices = m ++ ns ∧ d.notices = n ++ ns
  left : Unread ids c
  right : Unread jds d

theorem Unread.of_append {ids rest : List Nat} {c : Context} (h : Unread (ids ++ rest) c) : Unread rest c :=
  ⟨(List.nodup_append.mp h.distinct).2.1, fun i hi => h.untouched i (List.mem_append_right _ hi)⟩

variable {m n : List Notice} {ids jds rest rest' : List Nat} {c d : Context}

theorem Match.of_append (h : Match m n (ids ++ rest) (jds ++ rest') c d) : Match m n rest rest' c d :=
  ⟨h.settled, h.noted, h.left.of_append, h.right.of_append⟩

theorem Match.noting (h : Match m n ids jds c d) (ns : List Notice) : Match m n ids jds (c.noting ns) (d.noting ns) := by
  obtain ⟨settled, ⟨os, hc, hd⟩, left, right⟩ := h
  refine ⟨settled, ⟨os ++ ns, ?_, ?_⟩, ⟨left.distinct, left.untouched⟩, right.distinct, right.untouched⟩
  · rw [Context.noting, hc, List.append_assoc]
  · rw [Context.noting, hd, List.append_assoc]

namespace Context

/-- A request changes nothing but what is shared and the next identity. -/
theorem asked_onward (c : Context) : ∃ shared fresh, c.asked = { c with shared, fresh } ∧ c.asked.settled = c.settled := by
  unfold asked
  split
  · next s none settled => exact ⟨_, _, rfl, settled ▸ rfl⟩
  · exact ⟨c.shared, c.fresh, rfl, rfl⟩

end Context

theorem Match.asked (h : Match m n ids jds c d) : Match m n ids jds c.asked d.asked := by
  obtain ⟨_, _, hc, hcs⟩ := c.asked_onward
  obtain ⟨_, _, hd, hds⟩ := d.asked_onward
  have settled : c.asked.settled = d.asked.settled := by rw [hcs, hds, h.settled]
  rw [hc, hd] at settled ⊢
  exact ⟨settled, h.noted, ⟨h.left.distinct, h.left.untouched⟩, h.right.distinct, h.right.untouched⟩

/-! ## Steps -/

/-- From every match of contexts the steps come to the same result and to a match. The first may read the streams
    `ids`, the second the streams `jds`; all others are left as they are. -/
def Alongside {α : Type} (ids jds : List Nat) (a b : Build α) : Prop :=
  ∀ m n rest rest' c d, Match m n (ids ++ rest) (jds ++ rest') c d →
    (exec a c).1 = (exec b d).1 ∧ Match m n rest rest' (exec a c).2 (exec b d).2

namespace Alongside

variable {α β : Type}

theorem pure (ids jds : List Nat) (x : α) : Alongside ids jds (Pure.pure x) (Pure.pure x) :=
  fun _ _ _ _ _ _ h => ⟨rfl, h.of_append⟩

theorem throw (ids jds : List Nat) (f : Fault) :
    Alongside ids jds (MonadExcept.throw f : Build α) (MonadExcept.throw f) :=
  fun _ _ _ _ _ _ h => ⟨rfl, h.of_append⟩

theorem refused (report : Rejection → Fault) (r : Except Fault α) :
    Alongside [] [] (Build.refused report r) (Build.refused report r) := by
  cases r with
  | ok a => exact pure [] [] a
  | error e => exact throw [] [] _

/-- Where the first steps fail, the streams of the second are left unread. -/
theorem bind {ids' jds' : List Nat} {a b : Build α} {f g : α → Build β} (first : Alongside ids jds a b)
    (second : ∀ x, Alongside ids' jds' (f x) (g x)) : Alongside (ids ++ ids') (jds ++ jds') (a >>= f) (b >>= g) := by
  intro m n rest rest' c d h
  rw [List.append_assoc, List.append_assoc] at h
  have same := first m n _ _ c d h
  rcases ha : exec a c with ⟨x, c'⟩
  rcases hb : exec b d with ⟨y, d'⟩
  rw [ha, hb] at same
  obtain ⟨rfl, between⟩ := same
  cases x with
  | error e =>
    rw [exec_bind_error ha, exec_bind_error hb]
    exact ⟨rfl, between.of_append⟩
  | ok x =>
    rw [exec_bind_ok ha, exec_bind_ok hb]
    exact second x m n rest rest' c' d' between

/-- What follows reads no streams. -/
theorem bind_quiet {a b : Build α} {f g : α → Build β} (first : Alongside ids jds a b)
    (second : ∀ x, Alongside [] [] (f x) (g x)) : Alongside ids jds (a >>= f) (b >>= g) := by
  have both := first.bind second
  rwa [List.append_nil, List.append_nil] at both

theorem append_nil {a b : Build α} (h : Alongside ids jds a b) : Alongside (ids ++ []) (jds ++ []) a b := by
  rwa [List.append_nil, List.append_nil]

theorem map {a b : Build α} (h : Alongside ids jds a b) (f : α → β) :
    Alongside ids jds (do return f (← a)) (do return f (← b)) :=
  h.bind_quiet fun x => .pure [] [] (f x)

end Alongside

/-! ## Announcing -/

theorem Allows.of_settled {limit : Value} {x : Number} (h : Allows c limit x) (same : c.settled = d.settled) :
    Allows d limit x := by
  cases h with
  | given atLeastOne => exact .given atLeastOne
  | shared settled => exact .shared (same.symm.trans settled)

theorem Barred.of_settled {limit : Value} {f : Fault} (h : Barred c limit f) (same : c.settled = d.settled) :
    Barred d limit f := by
  cases h with
  | belowOne below => exact .belowOne below
  | unsettled refused => exact .unsettled (same.symm.trans refused)
  | unordered given noNumber => exact .unordered given noNumber

/-- What a check of a scheme comes to is decided by the settings to go by. -/
theorem result_checkScheme (s : Scheme) (limit : Value) (same : c.settled = d.settled) :
    (exec (checkScheme s limit) c).1 = (exec (checkScheme s limit) d).1 := by
  have passed {t : Scheme} (unlimited : t.isLimited = false) (even : t.Even) :
      (exec (checkScheme t limit) c).1 = (exec (checkScheme t limit) d).1 := by
    rw [exec_checkScheme_ok unlimited even, exec_checkScheme_ok unlimited even]
  cases s with
  | pkcs11Recipients ms ps =>
    by_cases even : ms.length = ps.length
    · obtain ⟨x, allowed⟩ | ⟨f, barred⟩ := allows_or_barred c limit
      · rw [exec_checkModules_allowed even allowed, exec_checkModules_allowed even (allowed.of_settled same)]
      · rw [exec_checkModules_barred even barred, exec_checkModules_barred even (barred.of_settled same)]
    · rw [exec_checkModules_uneven even, exec_checkModules_uneven even]
  | privateKeys ks ps =>
    change (exec (requirePaired _ _ ks ps) c).1 = (exec (requirePaired _ _ ks ps) d).1
    rw [exec_requirePaired, exec_requirePaired]
  | _ => exact passed rfl trivial

theorem alongside_checkScheme (s : Scheme) (limit : Value) : Alongside [] [] (checkScheme s limit) (checkScheme s limit) := by
  intro m n rest rest' c d h
  have same := result_checkScheme s limit h.settled
  refine ⟨same, ?_⟩
  rw [context_checkScheme, context_checkScheme, same]
  refine Match.noting ?_ _
  split
  · exact h.asked
  · exact h

theorem alongside_announce (s : Scheme) (limit : Value) : Alongside [] [] (announce s limit) (announce s limit) := by
  have notified : Alongside [] [] (notify (builtNotice s s.parameters)) (notify (builtNotice s s.parameters)) :=
    fun m n rest rest' c d h => ⟨rfl, h.noting _⟩
  exact (alongside_checkScheme s limit).bind_quiet fun _ => notified.bind_quiet fun _ => .pure [] [] _

end KeyBundle
