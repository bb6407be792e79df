/-
  KeyBundle.Proofs.Requests — what asking for the shared settings comes to.

  A request gives the settings that are shared, or those that the environment describes now
  (`Context.settled`); those are shared from then on (`Context.asked`). Where the environment describes none,
  the request fails and nothing is shared (`exec_sharedSettings_error`).

  A limit for modules is the caller's own or that of the shared settings (`Allows`); a call can be barred
  by it before any module is counted (`Barred`).
-/

import KeyBundle.Build.Constructors
import KeyBundle.Proofs.Steps

namespace KeyBundle

open Build

/-! ## Shared settings -/

/-- The settings that a request gives. -/
def Context.settled (c : Context) : Except SettingFault Settings :=
  match c.shared with
  | some (_, s) => .ok s
  | none => Settings.load c.readPath c.env standardPrefix

/-- The context after a request. -/
def Context.asked (c : Context) : Context :=
  match c.shared, c.settled with
  | none, .ok s => { c with shared := some (c.fresh, s), fresh := c.fresh + 1 }
  | _, _ => c

section

variable {c : Context} {s : Settings} {f : SettingFault}

theorem Context.settled_of_shared {id : Nat} (h : c.shared = some (id, s)) : c.settled = .ok s := by
  rw [settled, h]

theorem Context.settled_of_none (h : c.shared = none) : c.settled = Settings.load c.readPath c.env standardPrefix := by
  rw [settled, h]

theorem Context.asked_of_error (h : c.settled = .error f) : c.asked = c := by
  rw [asked, h]
  split <;> trivial

/-- What a request has given is shared after it. -/
theorem exec_sharedSettings_ok (h : c.settled = .ok s) :
    ∃ id, c.asked.shared = some (id, s) ∧ exec sharedSettings c = (.ok (id, s), c.asked) := by
  cases hs : c.shared with
  | some shared =>
    obtain ⟨id, t⟩ := shared
    cases (Context.settled_of_shared hs).symm.trans h
    have same : c.asked = c := by rw [Context.asked, hs]
    refine ⟨id, by rw [same, hs], ?_⟩
    rw [sharedSettings, exec_bind_ok (exec_get c), hs, same]
    rfl
  | none =>
    have asked : c.asked = { c with shared := some (c.fresh, s), fresh := c.fresh + 1 } := by rw [Context.asked, hs, h]
    refine ⟨c.fresh, by rw [asked], ?_⟩
    rw [sharedSettings, exec_bind_ok (exec_get c), hs, ← Context.settled_of_none hs, h, asked]
    rfl

theorem exec_sharedSettings_error (h : c.settled = .error f) : exec sharedSettings c = (.error (.setting f), c) := by
  cases hs : c.shared with
  | some shared => cases (Context.settled_of_shared hs).symm.trans h
  | none =>
    rw [sharedSettings, exec_bind_ok (exec_get c), hs, ← Context.settled_of_none hs, h]
    rfl

end

/-! ## Limits -/

/-- A limit, or that of the shared settings when none is given, is this number. -/
inductive Allows (c : Context) : Value → Number → Prop
  | given {n : Number} (atLeastOne : n.less (.int 1) = false) : Allows c (.number n) n
  | shared {s : Settings} (settled : c.settled = .ok s) : Allows c .none s.limits.maxModules

/-- No number is to be had: the limit is below one, the settings cannot be read, or the limit is something
    that has no order with numbers. -/
inductive Barred (c : Context) : Value → Fault → Prop
  | belowOne {n : Number} (below : n.less (.int 1) = true) : Barred c (.number n) (.argument .limitBelowOne)
  | unsettled {f : SettingFault} (refused : c.settled = .error f) : Barred c .none (.setting f)
  | unordered {v : Value} (given : v ≠ .none) (noNumber : ∀ n, v ≠ .number n) :
      Barred c v (.type (.notOrdered "<" v.typeName "int"))

/-- The settings are asked for only where no limit is given. -/
def Context.askedFor (c : Context) (limit : Value) : Context :=
  match limit with
  | .none => c.asked
  | _ => c

theorem allows_or_barred (c : Context) (limit : Value) : (∃ n, Allows c limit n) ∨ ∃ f, Barred c limit f := by
  cases limit with
  | none =>
    cases h : c.settled with
    | ok s => exact .inl ⟨_, .shared h⟩
    | error f => exact .inr ⟨_, .unsettled h⟩
  | number n =>
    cases h : n.less (.int 1) with
    | false => exact .inl ⟨n, .given h⟩
    | true => exact .inr ⟨_, .belowOne h⟩
  | _ => exact .inr ⟨_, .unordered nofun nofun⟩

/-- Nothing is shared where a request fails. -/
theorem Barred.askedFor {c : Context} {limit : Value} {f : Fault} (h : Barred c limit f) : c.askedFor limit = c := by
  cases h with
  | belowOne => rfl
  | unsettled refused => exact Context.asked_of_error refused
  | unordered given =>
    cases limit with
    | none => exact absurd rfl given
    | _ => rfl

theorem exec_moduleLimit_ok {c : Context} {limit : Value} {n : Number} (h : Allows c limit n) :
    exec (moduleLimit limit) c = (.ok n, c.askedFor limit) := by
  cases h with
  | given atLeastOne =>
    rw [moduleLimit, if_neg (by simp [atLeastOne])]
    rfl
  | shared settled =>
    obtain ⟨id, -, hs⟩ := exec_sharedSettings_ok settled
    rw [moduleLimit, exec_bind_ok hs]
    rfl

theorem exec_moduleLimit_error {c : Context} {limit : Value} {f : Fault} (h : Barred c limit f) :
    exec (moduleLimit limit) c = (.error f, c) := by
  cases h with
  | belowOne below =>
    rw [moduleLimit, if_pos below]
    rfl
  | unsettled refused =>
    rw [moduleLimit]
    exact exec_bind_error (exec_sharedSettings_error refused) _
  | unordered given noNumber =>
    cases limit with
    | none => exact absurd rfl given
    | number n => exact absurd rfl (noNumber n)
    | _ => rfl

end KeyBundle
