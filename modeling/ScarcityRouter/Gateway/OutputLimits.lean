import Mathlib.Data.List.ReduceOption
import ScarcityRouter.Routing.GateSpec

namespace ScarcityRouter

open ScarcityRouter.Lib

/-!
# Limits of one route

The two computations on limits that the gateway shares with the routing core.

* `routeOutputCode_eq_none`, `routeOutputCode_ne_insufficient` — **what the output rule accepts**,
  spelled out.
* `TokenLimits`, `effectiveCeiling`, `variantHardLimits` — the intersection of a route's inputs with
  the administrator allowance, after `gateway_coordinator.py`.
-/

/-! ### The output rule -/

section OutputRule

variable {capabilities : ExecutionCapabilities} {hard : Option ℕ+} {requested : ℕ+}
  {resolved : Bool}

/-- The evidenced ceilings: the channel's, and the variant's once it is resolved. -/
theorem mem_knownOutputs {ceiling : ℕ+} : ceiling ∈ knownOutputs capabilities hard resolved ↔
    (resolved = true ∧ ceiling ∈ hard) ∨ ceiling ∈ capabilities.outputLimitTokens := by
  unfold knownOutputs
  cases resolved <;> simp

/-- No ceiling is evidenced. -/
theorem knownOutputs_eq_nil : knownOutputs capabilities hard resolved = [] ↔
    (resolved = true → hard = none) ∧ capabilities.outputLimitTokens = none := by
  unfold knownOutputs
  cases resolved <;> simp

/-- The request fits every ceiling that is evidenced for the route. -/
def FitsCeilings (capabilities : ExecutionCapabilities) (hard : Option ℕ+) (resolved : Bool)
    (requested : ℕ+) : Prop :=
  ∀ ceiling ∈ knownOutputs capabilities hard resolved, requested ≤ ceiling

/-- A cap that the channel cannot enforce does not bind: it covers the variant's known maximum. -/
def Unbinding (capabilities : ExecutionCapabilities) (hard : Option ℕ+) (resolved : Bool)
    (requested : ℕ+) : Prop :=
  capabilities.outputLimitControl = some false →
    resolved = true ∧ ∃ maximum ∈ hard, maximum ≤ requested

/-- **What the output rule accepts**: some ceiling is evidenced, the request fits all of them, and
    a channel without control is not asked to enforce it. -/
theorem routeOutputCode_eq_none :
    routeOutputCode capabilities hard (some requested) resolved = none ↔
    knownOutputs capabilities hard resolved ≠ [] ∧
      FitsCeilings capabilities hard resolved requested ∧
      Unbinding capabilities hard resolved requested := by
  unfold routeOutputCode FitsCeilings Unbinding
  dsimp only
  cases hmin : (knownOutputs capabilities hard resolved).min? with
  | none =>
    have hnil := List.min?_eq_none_iff.mp hmin
    simp [hnil]
  | some least =>
    have hne : knownOutputs capabilities hard resolved ≠ [] := by
      intro hnil
      rw [hnil] at hmin
      cases hmin
    have hfits : (∀ ceiling ∈ knownOutputs capabilities hard resolved, requested ≤ ceiling) ↔
        requested ≤ least := (List.le_min?_iff hmin).symm
    rw [hfits]
    by_cases hlow : least < requested
    · simp [hlow, not_le.mpr hlow]
    · simp only [if_neg hlow, Bool.true_and, decide_eq_true_eq, Bool.and_eq_true,
        Option.any_eq_true, Option.mem_def]
      rw [ite_eq_iff]
      by_cases hcontrol : capabilities.outputLimitControl = some false
      · by_cases hcovers : resolved = true ∧ ∃ maximum, hard = some maximum ∧ maximum ≤ requested
        · obtain ⟨rfl, hhard⟩ := hcovers
          simp [hcontrol, hhard, hne, not_lt.mp hlow]
        · simp [hcontrol, hcovers]
      · simp [hcontrol, hne, not_lt.mp hlow]

/-- A request that fits the evidenced ceilings is never refused as too large. -/
theorem routeOutputCode_ne_insufficient (h : FitsCeilings capabilities hard resolved requested) :
    routeOutputCode capabilities hard (some requested) resolved ≠ some .insufficient := by
  unfold routeOutputCode
  dsimp only
  cases hmin : (knownOutputs capabilities hard resolved).min? with
  | none => simp
  | some least =>
    have hle : requested ≤ least := (List.le_min?_iff hmin).mpr h
    simp only [if_neg (not_lt.mpr hle)]
    split_ifs <;> simp

end OutputRule

/-! ### Effective ceilings -/

/-- The two limits of `GatewayLimits` on tokens. -/
structure TokenLimits where
  maxInputContextTokens : ℕ+ := 2097152
  maxOutputTokens : ℕ+ := 131072

/-- `_effective_ceiling`: the known capability inputs intersected with the administrator
    allowance, which certifies nothing by itself. -/
def effectiveCeiling (capabilityInputs : List (Option ℕ+)) (admin : ℕ+) : Option ℕ+ :=
  match capabilityInputs.reduceOption.min? with
  | none => none
  | some known => some (min known admin)

/-- `_variant_hard_limits`: the hard context and output limits of one exact variant. -/
def variantHardLimits (catalog : ModelCatalog) (identity : ModelIdentity) :
    Option ℕ+ × Option ℕ+ :=
  match catalog.lookup? identity with
  | none => (none, none)
  | some entry => (entry.hardProperties.inputContextTokens, entry.hardProperties.outputTokens)

/-- **An effective ceiling** is known with an input, and below every known one and the allowance. -/
theorem effectiveCeiling_eq_some {inputs : List (Option ℕ+)} {admin ceiling : ℕ+}
    (h : effectiveCeiling inputs admin = some ceiling) :
    (∃ known, some known ∈ inputs) ∧ (∀ known, some known ∈ inputs → ceiling ≤ known) ∧
      ceiling ≤ admin := by
  unfold effectiveCeiling at h
  split at h
  · cases h
  · rename_i least hmin
    cases h
    have hmem := List.min?_mem hmin
    refine ⟨⟨least, List.reduceOption_mem_iff.mp hmem⟩, ?_, min_le_right _ _⟩
    intro known hknown
    apply le_trans (min_le_left _ _)
    exact (List.le_min?_iff hmin).mp le_rfl known (List.reduceOption_mem_iff.mpr hknown)

/-- Whatever fits every known input and the allowance fits the effective ceiling. -/
theorem le_effectiveCeiling {inputs : List (Option ℕ+)} {admin amount ceiling : ℕ+}
    (h : effectiveCeiling inputs admin = some ceiling)
    (hknown : ∀ known, some known ∈ inputs → amount ≤ known) (hadmin : amount ≤ admin) :
    amount ≤ ceiling := by
  unfold effectiveCeiling at h
  split at h
  · cases h
  · rename_i least hmin
    cases h
    apply le_min _ hadmin
    apply (List.le_min?_iff hmin).mpr
    intro known hmem
    exact hknown known (List.reduceOption_mem_iff.mp hmem)

end ScarcityRouter
