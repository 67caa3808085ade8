import Mathlib.Data.List.DropRight

namespace ScarcityRouter.Lib

/-!
# Machines, runs and rings

A machine is a partial step function that emits events; a run is a chain of steps with the log of
everything emitted.  Nothing here names the router.

* `Machine`, `Machine.Run` — runs whose every step meets a condition on its state and action.
* `Machine.Run.invariant` — **an invariant that holds initially and survives every step holds in
  every state reached**, with the log at hand.
* `Machine.exec`, `Machine.exists_run_of_exec` — a concrete run, by evaluation.
* `pushRing`, `ring_of_push` — a bounded ring remembers the last entries of what was pushed.
-/

/-! ### Machines -/

/-- A machine with states `σ`, actions `α` and events `ε`: a disabled action has no step. -/
structure Machine (σ α ε : Type*) where
  step : σ → α → Option (σ × List ε)

namespace Machine

variable {σ α ε : Type*} {M : Machine σ α ε} {allowed : σ → α → Prop} {start s : σ} {log : List ε}

/-- A run from `start` whose steps all meet the condition, with its log. -/
inductive Run (M : Machine σ α ε) (allowed : σ → α → Prop) (start : σ) : σ → List ε → Prop
  | refl : Run M allowed start start []
  | step {s s' : σ} {log events : List ε} (run : Run M allowed start s log) (action : α)
      (meets : allowed s action) (moves : M.step s action = some (s', events)) :
      Run M allowed start s' (log ++ events)

/-- **The invariant rule.**  The step may use that its state was reached. -/
theorem Run.invariant {I : σ → List ε → Prop} (initial : I start [])
    (preserved : ∀ s s' log events action, Run M allowed start s log → I s log →
      allowed s action → M.step s action = some (s', events) → I s' (log ++ events))
    (run : Run M allowed start s log) : I s log := by
  induction run with
  | refl => exact initial
  | step run action meets moves ih => exact preserved _ _ _ _ action run ih meets moves

/-- A weaker condition admits the run as well. -/
theorem Run.mono {allowed' : σ → α → Prop} (h : ∀ s action, allowed s action → allowed' s action)
    (run : Run M allowed start s log) : Run M allowed' start s log := by
  induction run with
  | refl => exact .refl
  | step _ action meets moves ih => exact ih.step action (h _ _ meets) moves

/-- Run a list of actions, as long as they meet the condition. -/
def exec (M : Machine σ α ε) (allowed : σ → α → Bool) (s : σ) (log : List ε) :
    List α → Option (σ × List ε)
  | [] => some (s, log)
  | action :: actions =>
    if allowed s action then
      match M.step s action with
      | none => none
      | some (s', events) => M.exec allowed s' (log ++ events) actions
    else none

/-- An evaluated list of actions extends a run. -/
theorem run_of_exec {permitted : σ → α → Bool} {actions : List α} {result : σ × List ε}
    (run : Run M (fun s action => permitted s action = true) start s log)
    (h : M.exec permitted s log actions = some result) :
    Run M (fun s action => permitted s action = true) start result.1 result.2 := by
  induction actions generalizing s log with
  | nil =>
    obtain rfl := Option.some.inj h
    exact run
  | cons action actions ih =>
    unfold exec at h
    split_ifs at h with hallowed
    split at h
    · cases h
    · rename_i moves
      exact ih (run.step action hallowed moves) h

/-- The log of an evaluated list of actions is the log of a run. -/
theorem exists_run_of_exec (M : Machine σ α ε) (permitted : σ → α → Bool) (start : σ)
    (actions : List α) {allLog : List ε}
    (h : (M.exec permitted start [] actions).map Prod.snd = some allLog) :
    ∃ s, M.exec permitted start [] actions = some (s, allLog) ∧
      Run M (fun s action => permitted s action = true) start s allLog := by
  obtain ⟨result, hresult, rfl⟩ := Option.map_eq_some_iff.mp h
  exact ⟨result.1, hresult, run_of_exec .refl hresult⟩

end Machine

/-! ### Logs -/

/-- An entry of an extended log is one of the log or one of the extension. -/
theorem append_eq_append_cons {α : Type*} {log events before after : List α} {x : α}
    (h : log ++ events = before ++ x :: after) :
    (∃ rest, log = before ++ x :: rest ∧ after = rest ++ events) ∨
      ∃ rest, before = log ++ rest ∧ events = rest ++ x :: after := by
  rcases List.append_eq_append_iff.mp h with ⟨rest, hbefore, hevents⟩ | ⟨rest, hlog, hafter⟩
  · exact .inr ⟨rest, hbefore, hevents⟩
  · cases rest with
    | nil =>
      rw [List.append_nil] at hlog
      rw [List.nil_append] at hafter
      exact .inr ⟨[], by simp [hlog], hafter.symm⟩
    | cons y rest =>
      rw [List.cons_append] at hafter
      obtain ⟨rfl, rfl⟩ := List.cons.inj hafter
      exact .inl ⟨rest, hlog, rfl⟩

/-! ### Rings -/

section Ring

variable {α : Type*} {capacity : ℕ} {xs : List α} {x : α}

/-- Append to a ring: beyond its capacity the oldest entry is forgotten. -/
def pushRing (capacity : ℕ) (xs : List α) (x : α) : List α := (xs ++ [x]).rtake capacity

/-- What a ring remembers was pushed. -/
theorem mem_of_mem_rtake (h : x ∈ xs.rtake capacity) : x ∈ xs := by
  unfold List.rtake at h
  exact List.mem_of_mem_drop h

/-- **A ring remembers the last entries** of what was pushed. -/
theorem ring_of_push : pushRing capacity (xs.rtake capacity) x = (xs ++ [x]).rtake capacity := by
  cases capacity with
  | zero => simp [pushRing]
  | succ n =>
    unfold pushRing
    rw [List.rtake_concat_succ, List.rtake_concat_succ]
    congr 1
    -- The last `n` entries are among the last `n + 1`.
    unfold List.rtake
    rw [List.drop_drop, List.length_drop]
    congr 1
    omega

/-- A ring with room forgets nothing. -/
theorem pushRing_of_length_lt (h : xs.length < capacity) : pushRing capacity xs x = xs ++ [x] := by
  unfold pushRing List.rtake
  have hroom : (xs ++ [x]).length - capacity = 0 := by
    rw [List.length_append, List.length_singleton]
    omega
  rw [hroom, List.drop_zero]

/-- Fewer later entries than the capacity leave an entry remembered. -/
theorem mem_rtake_of_length_lt {before after : List α} (h : after.length < capacity) :
    x ∈ (before ++ x :: after).rtake capacity := by
  unfold List.rtake
  have hdrop : (before ++ x :: after).length - capacity ≤ before.length := by
    rw [List.length_append, List.length_cons]
    omega
  rw [List.drop_append_of_le_length hdrop]
  exact List.mem_append_right _ List.mem_cons_self

end Ring

end ScarcityRouter.Lib
