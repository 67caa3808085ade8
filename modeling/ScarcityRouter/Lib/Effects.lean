import Mathlib.Init

namespace ScarcityRouter.Lib

/-!
# Computations that write a state and may raise

Programs over one mutable state.  An exception keeps what was written before it, so that a handler
and the caller see it.

* `Stateful ε σ α` — the programs; `raise` embeds a computation without a state.
* `Leaves E V m s` — from `s` the program leaves a value and a state in `V`, or an error and a state
  in `E`.
* `leaves_bind`, `leaves_tryCatch`, … — its rules, one for each way to build a program.
* `Leaves.mono` — the rule of consequence.
-/

variable {ε σ α β : Type}

/-- A program over a state, whose exceptions keep the state. -/
abbrev Stateful (ε σ α : Type) : Type := ExceptT ε (StateM σ) α

namespace Stateful

/-- How a program ends from a state. -/
def result (m : Stateful ε σ α) (s : σ) : Except ε α × σ := m s

theorem result_bind {m : Stateful ε σ α} {f : α → Stateful ε σ β} {s : σ} :
    (m >>= f).result s = match m.result s with
      | (.ok a, s') => (f a).result s'
      | (.error e, s') => (.error e, s') := by
  unfold result
  simp only [bind, ExceptT.bind, ExceptT.mk, StateT.bind]
  rcases m s with ⟨_ | _, _⟩ <;> rfl

theorem result_tryCatch {m : Stateful ε σ α} {handler : ε → Stateful ε σ α} {s : σ} :
    (tryCatch m handler : Stateful ε σ α).result s = match m.result s with
      | (.ok a, s') => (.ok a, s')
      | (.error e, s') => (handler e).result s' := by
  unfold result
  simp only [tryCatch, tryCatchThe, MonadExceptOf.tryCatch, ExceptT.tryCatch, ExceptT.mk, bind,
    StateT.bind]
  rcases m s with ⟨_ | _, _⟩ <;> rfl

/-- A computation without a state. -/
def raise : Except ε α → Stateful ε σ α
  | .ok a => pure a
  | .error e => throw e

@[simp] theorem result_raise {x : Except ε α} {s : σ} :
    (raise x : Stateful ε σ α).result s = (x, s) := by
  cases x <;> rfl

@[simp] theorem result_get {s : σ} : (get : Stateful ε σ σ).result s = (.ok s, s) := rfl

@[simp] theorem result_modify {f : σ → σ} {s : σ} :
    (modify f : Stateful ε σ PUnit).result s = (.ok ⟨⟩, f s) := rfl

end Stateful

open Stateful

/-- The weakest precondition of a program: it leaves a value in `V` or an error in `E`. -/
def Leaves (E : ε → σ → Prop) (V : α → σ → Prop) (m : Stateful ε σ α) (s : σ) : Prop :=
  match m.result s with
  | (.ok a, s') => V a s'
  | (.error e, s') => E e s'

section Rules

variable {E : ε → σ → Prop} {V : α → σ → Prop} {s : σ}

@[simp] theorem leaves_pure {a : α} : Leaves E V (pure a : Stateful ε σ α) s ↔ V a s := Iff.rfl

@[simp] theorem leaves_throw {e : ε} : Leaves E V (throw e : Stateful ε σ α) s ↔ E e s := Iff.rfl

/-- The rule of sequences. -/
@[simp] theorem leaves_bind {V : β → σ → Prop} {m : Stateful ε σ α} {f : α → Stateful ε σ β} :
    Leaves E V (m >>= f) s ↔ Leaves E (fun a => Leaves E V (f a)) m s := by
  unfold Leaves
  rw [result_bind]
  rcases m.result s with ⟨_ | _, _⟩ <;> rfl

/-- The rule of handlers: what they see is the state of the exception. -/
@[simp] theorem leaves_tryCatch {m : Stateful ε σ α} {handler : ε → Stateful ε σ α} :
    Leaves E V (tryCatch m handler) s ↔ Leaves (fun e => Leaves E V (handler e)) V m s := by
  unfold Leaves
  rw [result_tryCatch]
  rcases m.result s with ⟨_ | _, _⟩ <;> rfl

@[simp] theorem leaves_get {V : σ → σ → Prop} :
    Leaves E V (get : Stateful ε σ σ) s ↔ V s s := Iff.rfl

@[simp] theorem leaves_set {V : PUnit → σ → Prop} {s' : σ} :
    Leaves E V (set s' : Stateful ε σ PUnit) s ↔ V ⟨⟩ s' := Iff.rfl

@[simp] theorem leaves_modify {V : PUnit → σ → Prop} {f : σ → σ} :
    Leaves E V (modify f : Stateful ε σ PUnit) s ↔ V ⟨⟩ (f s) := Iff.rfl

@[simp] theorem leaves_raise {x : Except ε α} :
    Leaves E V (raise x) s ↔ (∀ a, x = .ok a → V a s) ∧ ∀ e, x = .error e → E e s := by
  cases x <;> simp [raise]

@[simp] theorem leaves_ite {c : Prop} [Decidable c] {m n : Stateful ε σ α} :
    Leaves E V (if c then m else n) s ↔ (c → Leaves E V m s) ∧ (¬ c → Leaves E V n s) := by
  split <;> simp [*]

/-- The rule of consequence. -/
theorem Leaves.mono {E' : ε → σ → Prop} {V' : α → σ → Prop} {m : Stateful ε σ α}
    (h : Leaves E V m s) (hE : ∀ e s', E e s' → E' e s') (hV : ∀ a s', V a s' → V' a s') :
    Leaves E' V' m s := by
  unfold Leaves at *
  split at h
  · exact hV _ _ h
  · exact hE _ _ h

/-- The postconditions as one of how the program ends. -/
theorem Leaves.result {P : Except ε α → σ → Prop} {m : Stateful ε σ α}
    (h : Leaves (fun e => P (.error e)) (fun a => P (.ok a)) m s) :
    P (m.result s).1 (m.result s).2 := by
  unfold Leaves at h
  rcases hresult : m.result s with ⟨_ | _, s'⟩ <;> rw [hresult] at h <;> exact h

/-- How a program ends gives its postconditions. -/
theorem Leaves.of_result {P : Except ε α → σ → Prop} {m : Stateful ε σ α}
    (h : P (m.result s).1 (m.result s).2) :
    Leaves (fun e => P (.error e)) (fun a => P (.ok a)) m s := by
  unfold Leaves
  rcases hresult : m.result s with ⟨_ | _, s'⟩ <;> rw [hresult] at h <;> exact h

/-- What a program leaves however it ends, it leaves. -/
theorem Leaves.state {P : σ → Prop} {m : Stateful ε σ α} (h : Leaves (fun _ => P) (fun _ => P) m s) :
    P (m.result s).2 := by
  unfold Leaves at h
  rcases hresult : m.result s with ⟨_ | _, s'⟩ <;> rw [hresult] at h <;> exact h

end Rules

end ScarcityRouter.Lib
