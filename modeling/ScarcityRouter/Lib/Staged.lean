import Mathlib.Data.List.Basic

namespace ScarcityRouter.Lib

/-!
# Staged checks

A gate runs its stages in order and reports the first one that fails, with everything that stage
found.  Nothing here names the router.

* `firstFailure stages` — the first stage with findings.
* `firstFailure_cons_of_nil`, `firstFailure_cons_of_ne_nil` — a clean stage is passed, a failing one
  ends the run.
-/

variable {σ γ : Type*}

/-- The first stage with findings, with all of them. -/
def firstFailure (stages : List (σ × List γ)) : Option (σ × List γ) :=
  stages.find? (·.2 ≠ [])

/-- A clean stage is passed. -/
theorem firstFailure_cons_of_nil {stage : σ} {stages : List (σ × List γ)} :
    firstFailure ((stage, []) :: stages) = firstFailure stages := rfl

/-- A failing stage ends the run: the later ones do not matter. -/
theorem firstFailure_cons_of_ne_nil {stage : σ} {findings : List γ} {stages : List (σ × List γ)}
    (h : findings ≠ []) : firstFailure ((stage, findings) :: stages) = some (stage, findings) := by
  simp [firstFailure, h]

end ScarcityRouter.Lib
