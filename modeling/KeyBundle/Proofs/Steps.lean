/-
  KeyBundle.Proofs.Steps — steps that may fail and that change a state: what running one gives
  (`exec`), and two things to say of all its runs. `Gives P b`: whatever `b` succeeds with has `P`.
  `Keeps I b`: where the state has `I` before, it has it after, also when `b` fails half way.
  Where there is no state, results can be mapped: `bind_map`, `mapM_map`.
-/

import KeyBundle.Build.Basic

namespace KeyBundle

variable {ε σ α β : Type}

/-- The result of a step started in a state, and the state after it. -/
def exec (b : ExceptT ε (StateM σ) α) (s : σ) : Except ε α × σ := b.run.run s

/-! ## Running -/

@[simp] theorem exec_pure (a : α) (s : σ) : exec (pure a : ExceptT ε (StateM σ) α) s = (.ok a, s) := rfl

@[simp] theorem exec_throw (e : ε) (s : σ) : exec (throw e : ExceptT ε (StateM σ) α) s = (.error e, s) := rfl

@[simp] theorem exec_get (s : σ) : exec (get : ExceptT ε (StateM σ) σ) s = (.ok s, s) := rfl

@[simp] theorem exec_set (t s : σ) : exec (set t : ExceptT ε (StateM σ) PUnit) s = (.ok ⟨⟩, t) := rfl

@[simp] theorem exec_modify (f : σ → σ) (s : σ) :
    exec (modify f : ExceptT ε (StateM σ) PUnit) s = (.ok ⟨⟩, f s) := rfl

@[simp] theorem exec_ofExcept (r : Except ε α) (s : σ) :
    exec (ofExcept r : ExceptT ε (StateM σ) α) s = (r, s) := by
  cases r <;> rfl

theorem of_exec_ofExcept {r : Except ε α} {s t : σ} {a : α}
    (h : exec (ofExcept r : ExceptT ε (StateM σ) α) s = (.ok a, t)) : t = s := by
  rw [exec_ofExcept] at h
  exact (congrArg Prod.snd h).symm

theorem eq_ok_of_exec_ofExcept {r : Except ε α} {s t : σ} {a : α}
    (h : exec (ofExcept r : ExceptT ε (StateM σ) α) s = (.ok a, t)) : r = .ok a ∧ s = t := by
  rw [exec_ofExcept] at h
  exact Prod.mk.inj h

theorem exec_bind (b : ExceptT ε (StateM σ) α) (f : α → ExceptT ε (StateM σ) β) (s : σ) :
    exec (b >>= f) s = match exec b s with
      | (.ok a, t) => exec (f a) t
      | (.error e, t) => (.error e, t) := by
  simp only [exec, ExceptT.run_bind, StateT.run_bind]
  rcases b.run.run s with ⟨_ | _, _⟩ <;> rfl

theorem exec_bind_ok {b : ExceptT ε (StateM σ) α} {s t : σ} {a : α} (h : exec b s = (.ok a, t))
    (f : α → ExceptT ε (StateM σ) β) : exec (b >>= f) s = exec (f a) t := by
  rw [exec_bind, h]

theorem exec_bind_error {b : ExceptT ε (StateM σ) α} {s t : σ} {e : ε} (h : exec b s = (.error e, t))
    (f : α → ExceptT ε (StateM σ) β) : exec (b >>= f) s = (.error e, t) := by
  rw [exec_bind, h]

/-- What succeeds has succeeded in both steps. -/
theorem of_exec_bind {b : ExceptT ε (StateM σ) α} {f : α → ExceptT ε (StateM σ) β} {s u : σ} {c : β}
    (h : exec (b >>= f) s = (.ok c, u)) : ∃ a t, exec b s = (.ok a, t) ∧ exec (f a) t = (.ok c, u) := by
  rcases hx : exec b s with ⟨e | a, t⟩
  · rw [exec_bind_error hx] at h
    cases h
  · rw [exec_bind_ok hx] at h
    exact ⟨a, t, rfl, h⟩

/-- What fails has failed in the first step, or in the second after the first has succeeded. -/
theorem of_exec_bind_error {b : ExceptT ε (StateM σ) α} {f : α → ExceptT ε (StateM σ) β} {s u : σ} {e : ε}
    (h : exec (b >>= f) s = (.error e, u)) :
    exec b s = (.error e, u) ∨ ∃ a t, exec b s = (.ok a, t) ∧ exec (f a) t = (.error e, u) := by
  rcases hx : exec b s with ⟨x | a, t⟩
  · rw [exec_bind_error hx] at h
    cases h
    exact .inl rfl
  · rw [exec_bind_ok hx] at h
    exact .inr ⟨a, t, rfl, h⟩

theorem exec_of_isOk_false {b : ExceptT ε (StateM σ) α} {s : σ} (h : (exec b s).1.isOk = false) :
    ∃ e, exec b s = (.error e, (exec b s).2) := by
  rcases hx : exec b s with ⟨e | a, t⟩
  · exact ⟨e, rfl⟩
  · rw [hx] at h
    cases h

theorem exec_of_isOk {b : ExceptT ε (StateM σ) α} {s : σ} (h : (exec b s).1.isOk = true) :
    ∃ a, exec b s = (.ok a, (exec b s).2) := by
  rcases hx : exec b s with ⟨e | a, t⟩
  · rw [hx] at h
    cases h
  · exact ⟨a, rfl⟩

/-- A step that succeeds with one result in every state and leaves it as it is. -/
theorem eq_pure_of_exec {b : ExceptT ε (StateM σ) α} {a : α} (h : ∀ s, exec b s = (.ok a, s)) : b = pure a := funext h

/-! ## Results mapped -/

theorem eq_ok_of_toOption {x : Except ε α} {a : α} (h : x.toOption = some a) : x = .ok a := by
  cases x with
  | error e => cases h
  | ok b => rw [Option.some.inj h]

theorem bind_eq_ok_iff {x : Except ε α} {f : α → Except ε β} {b : β} :
    x >>= f = .ok b ↔ ∃ a, x = .ok a ∧ f a = .ok b := by
  cases x with
  | error e => exact ⟨nofun, fun ⟨_, h, _⟩ => nomatch h⟩
  | ok a => exact ⟨fun h => ⟨a, rfl, h⟩, fun ⟨_, h, hb⟩ => by cases h; exact hb⟩

theorem of_bind_ok {x : Except ε α} {f : α → Except ε β} {b : β} (h : x >>= f = .ok b) :
    ∃ a, x = .ok a ∧ f a = .ok b := bind_eq_ok_iff.mp h

theorem toOption_bind (x : Except ε α) (f : α → Except ε β) :
    (x >>= f).toOption = x.toOption.bind fun a => (f a).toOption := by
  cases x <;> rfl

section

variable {γ δ : Type} {μ : α → β} {ν : γ → δ}

theorem bind_map {x : Except ε α} {y : Except ε β} {f : α → Except ε γ} {g : β → Except ε δ} (hx : y = x.map μ)
    (hf : ∀ a, g (μ a) = (f a).map ν) : y >>= g = (x >>= f).map ν := by
  subst hx
  cases x with
  | error e => rfl
  | ok a => exact hf a

theorem bind_same {x : Except ε α} {f : α → Except ε γ} {g : α → Except ε δ} (hf : ∀ a, g a = (f a).map ν) :
    x >>= g = (x >>= f).map ν := by
  cases x with
  | error e => rfl
  | ok a => exact hf a

theorem mapM_map {f : α → Except ε γ} {g : β → Except ε δ} (h : ∀ a, g (μ a) = (f a).map ν) (l : List α) :
    (l.map μ).mapM g = (l.mapM f).map (List.map ν) := by
  induction l with
  | nil => rfl
  | cons a l ih =>
    rw [List.map_cons, List.mapM_cons, List.mapM_cons]
    exact bind_map (h a) fun b => bind_map ih fun bs => rfl

end

/-! ## What a step succeeds with -/

def Gives (P : α → Prop) (b : ExceptT ε (StateM σ) α) : Prop := ∀ s a t, exec b s = (.ok a, t) → P a

namespace Gives

variable {P : β → Prop} {Q : α → Prop}

theorem anything (b : ExceptT ε (StateM σ) α) : Gives (fun _ => True) b := fun _ _ _ _ => trivial

theorem pure {b : β} (h : P b) : Gives P (Pure.pure b : ExceptT ε (StateM σ) β) := by
  intro s a t ha
  cases ha
  exact h

theorem throw (e : ε) : Gives P (MonadExcept.throw e : ExceptT ε (StateM σ) β) := by
  intro s a t ha
  cases ha

theorem bind {b : ExceptT ε (StateM σ) α} {f : α → ExceptT ε (StateM σ) β} (hb : Gives Q b)
    (hf : ∀ a, Q a → Gives P (f a)) : Gives P (b >>= f) := by
  intro s r t hr
  rcases hx : exec b s with ⟨x | a, t'⟩
  · rw [exec_bind_error hx] at hr
    cases hr
  · rw [exec_bind_ok hx] at hr
    exact hf a (hb s a t' hx) t' r t hr

theorem mapM {f : α → ExceptT ε (StateM σ) β} (hf : ∀ a, Gives P (f a)) :
    ∀ l : List α, Gives (fun bs : List β => ∀ b ∈ bs, P b) (l.mapM f)
  | [] => pure fun _ h => nomatch h
  | a :: l => by
    rw [List.mapM_cons]
    refine bind (hf a) fun b hb => bind (mapM hf l) fun bs hbs => pure fun x hx => ?_
    rcases List.mem_cons.mp hx with rfl | hx
    · exact hb
    · exact hbs x hx

end Gives

/-! ## What a step keeps -/

def Keeps (I : σ → Prop) (b : ExceptT ε (StateM σ) α) : Prop := ∀ s, I s → I (exec b s).2

namespace Keeps

variable {I : σ → Prop}

theorem pure (a : α) : Keeps I (Pure.pure a : ExceptT ε (StateM σ) α) := fun _ h => h

theorem throw (e : ε) : Keeps I (MonadExcept.throw e : ExceptT ε (StateM σ) α) := fun _ h => h

theorem get : Keeps I (MonadState.get : ExceptT ε (StateM σ) σ) := fun _ h => h

theorem set {s : σ} (h : I s) : Keeps I (MonadState.set s : ExceptT ε (StateM σ) PUnit) := fun _ _ => h

/-- The state that is read has `I` too. -/
theorem get_bind {f : σ → ExceptT ε (StateM σ) α} (hf : ∀ s, I s → Keeps I (f s)) :
    Keeps I (MonadState.get >>= f) := fun s h => hf s h s h

theorem throw_bind (e : ε) (f : α → ExceptT ε (StateM σ) β) : Keeps I (MonadExcept.throw e >>= f) := fun _ h => h

theorem ofExcept (r : Except ε α) : Keeps I (MonadExcept.ofExcept r : ExceptT ε (StateM σ) α) := by
  intro s h
  rw [exec_ofExcept]
  exact h

theorem update {f : σ → σ} (hf : ∀ s, I s → I (f s)) : Keeps I (modify f : ExceptT ε (StateM σ) PUnit) := hf

theorem bind {b : ExceptT ε (StateM σ) α} {f : α → ExceptT ε (StateM σ) β} (hb : Keeps I b)
    (hf : ∀ a, Keeps I (f a)) : Keeps I (b >>= f) := by
  intro s h
  have ht := hb s h
  rcases hx : exec b s with ⟨x | a, t⟩
  · rw [exec_bind_error hx]
    rwa [hx] at ht
  · rw [exec_bind_ok hx]
    rw [hx] at ht
    exact hf a t ht

theorem forM {f : α → ExceptT ε (StateM σ) PUnit} (hf : ∀ a, Keeps I (f a)) : ∀ l : List α, Keeps I (l.forM f)
  | [] => pure _
  | a :: l => bind (hf a) fun _ => forM hf l

theorem mapM {f : α → ExceptT ε (StateM σ) β} (hf : ∀ a, Keeps I (f a)) : ∀ l : List α, Keeps I (l.mapM f)
  | [] => pure _
  | a :: l => by
    rw [List.mapM_cons]
    exact bind (hf a) fun _ => bind (mapM hf l) fun _ => pure _

end Keeps

end KeyBundle
