import Mathlib.Order.WithBot
import ScarcityRouter.ControlPlane.ConfigRecords
import ScarcityRouter.Routing.Contracts

namespace ScarcityRouter

open ScarcityRouter.Lib

/-!
# From capacity to resource state

`resource_snapshot_from_capacity` of `resource_state.py`: the one way from provider telemetry to an
observation of a resource.

* `diagnosticSortKey`, `quotaFactSortKey`, `promotionSortKey` — the canonical orders.
* `ResourceHealth.make`, `Observation.make` — the checks of the two constructors, which demand them.
* `resourceSnapshotFromCapacity` — the conversion: it sorts facts and promotions, and passes the
  diagnostics as they are.
* `normalized_iff` — **it succeeds and loses nothing exactly for diagnostics in canonical order.**
-/

/-! ### Orders -/

/-- `_diagnostic_sort_key`. -/
def diagnosticSortKey (diagnostic : CapacityDiagnostic) : String ×ₗ WithBot SafeId :=
  toLex (diagnostic.code.text, orEmpty diagnostic.windowId)

/-- `_DIAGNOSTIC_SORT_KEY_ORDER`. -/
def CapacityResource.position : CapacityResource → ℕ
  | .tokens => 0 | .time => 1 | .unknown => 2

/-- `_WINDOW_KIND_ORDER`. -/
def WindowKind.position : WindowKind → ℕ
  | .fiveHour => 0 | .weekly => 1 | .unknown => 2

/-- The number of a percentage or a duration, and `-1` for none. -/
def orMinusOne (x : Option ℕ) : ℤ := x.elim (-1) Nat.cast

/-- `_quota_fact_sort_key`.  Canonical timestamps compare as their instants do, and the texts of the
    resource and of the kind decide nothing after their positions. -/
def quotaFactSortKey (fact : QuotaFact) :
    String ×ₗ ℕ ×ₗ ℕ ×ₗ WithBot SafeId ×ₗ WithBot SafeId ×ₗ ℤ ×ₗ WithBot Timestamp ×ₗ ℤ ×ₗ ℤ :=
  let window := fact.window
  toLex (fact.observationClass.text, toLex (window.resource.position,
    toLex (window.kind.position, toLex (orEmpty window.scopeId, toLex (orEmpty window.windowId,
      toLex (orMinusOne (window.durationSeconds.map PNat.val), toLex
        (window.resetsAt.elim ⊥ WithBot.some, toLex
          (orMinusOne (window.usedPercent.map Fin.val),
            orMinusOne (window.remainingPercent.map Fin.val)))))))))

/-- A promotion with the members that no selection reads. -/
structure PromotionRecord extends PromotionObservation where
  observedAt : Timestamp
  timezone : Option SafeId := none
  deriving DecidableEq

/-- `_promotion_sort_key`. -/
def promotionSortKey (promotion : PromotionRecord) :
    SafeId ×ₗ Timestamp ×ₗ WithBot SafeId ×ₗ WithBot SafeId ×ₗ WithBot SafeId ×ₗ WithBot SafeId ×ₗ
      WithBot Timestamp ×ₗ WithBot Timestamp ×ₗ WithBot SafeId :=
  toLex (promotion.source, toLex (promotion.observedAt, toLex (orEmpty
    (promotion.channel.map Channel.text), toLex (orEmpty promotion.provider, toLex (orEmpty
      promotion.model, toLex (orEmpty promotion.plan, toLex (promotion.validFrom.elim ⊥ WithBot.some,
        toLex (promotion.validUntil.elim ⊥ WithBot.some, orEmpty promotion.timezone))))))))

/-! ### Constructors -/

/-- `ResourceHealth.__post_init__`. -/
def ResourceHealth.make (status : HealthStatus) (diagnostics : List CapacityDiagnostic) :
    Except ContractError ResourceHealth :=
  if sortBy diagnosticSortKey diagnostics ≠ diagnostics then
    .error (.capacityValidation "health.diagnostics: must be deterministically sorted")
  else if h : ∀ code ∈ status.requiredCode, code ∈ diagnostics.map (·.code) then
    .ok { status, diagnostics, explained := h }
  else
    .error (.capacityValidation ("health: status='" ++ status.text ++
      "' requires diagnostic code '" ++ status.requiredCode.elim "" DiagnosticCode.text ++ "'"))

/-- `ResourceStateSnapshot`, with its identity and its whole promotions. -/
structure Observation where
  identity : ResourceIdentity
  observedAt : Timestamp
  health : ResourceHealth
  quotaFacts : List QuotaFact
  promotions : List PromotionRecord

/-- `ResourceStateSnapshot.__post_init__`. -/
def Observation.make (identity : ResourceIdentity) (observedAt : Timestamp)
    (health : ResourceHealth) (quotaFacts : List QuotaFact) (promotions : List PromotionRecord) :
    Except ContractError Observation :=
  if sortBy quotaFactSortKey quotaFacts ≠ quotaFacts then
    .error (.capacityValidation "snapshot.quota_facts: must be deterministically sorted")
  else if sortBy promotionSortKey promotions ≠ promotions then
    .error (.capacityValidation "snapshot.promotions: must be deterministically sorted")
  else .ok ⟨identity, observedAt, health, quotaFacts, promotions⟩

/-! ### The conversion -/

/-- `resource_snapshot_from_capacity`. -/
def resourceSnapshotFromCapacity (snapshot : CapacitySnapshot) (identity : ResourceIdentity)
    (promotions : List PromotionRecord := [])
    (quotaObservationClass : ObservationClass := .providerTelemetry) :
    Except ContractError Observation := do
  if snapshot.provider ≠ identity.provider then
    .error (.capacityValidation ("resource_snapshot_from_capacity: snapshot provider '" ++
      snapshot.provider.text ++ "' does not match resource identity provider '" ++
      identity.provider.text ++ "'"))
  else
    let facts := sortBy quotaFactSortKey
      (snapshot.windows.map fun window => ⟨quotaObservationClass, window⟩)
    let health ← ResourceHealth.make snapshot.status snapshot.diagnostics
    Observation.make identity snapshot.retrievedAt health facts
      (sortBy promotionSortKey promotions)

/-- The conversion succeeds, and the observation has the status, the diagnostics as a set and every
    window of the snapshot. -/
def Normalizes (snapshot : CapacitySnapshot) (identity : ResourceIdentity)
    (promotions : List PromotionRecord) (quotaObservationClass : ObservationClass) : Prop :=
  ∃ observation : Observation,
    resourceSnapshotFromCapacity snapshot identity promotions quotaObservationClass =
        .ok observation ∧
      observation.health.status = snapshot.status ∧
      (∀ diagnostic, diagnostic ∈ observation.health.diagnostics ↔
        diagnostic ∈ snapshot.diagnostics) ∧
      (observation.quotaFacts.map (·.window)).Perm snapshot.windows

/-- A health is built exactly from diagnostics in canonical order that explain its status. -/
theorem ResourceHealth.make_eq_ok {status : HealthStatus} {diagnostics : List CapacityDiagnostic}
    {health : ResourceHealth} : ResourceHealth.make status diagnostics = .ok health ↔
      sortBy diagnosticSortKey diagnostics = diagnostics ∧ health.status = status ∧
        health.diagnostics = diagnostics := by
  obtain ⟨status', diagnostics', explained⟩ := health
  unfold ResourceHealth.make
  split_ifs with hsorted hexplained
  · simp [hsorted]
  · constructor
    · intro h
      cases h
      exact ⟨not_not.mp hsorted, rfl, rfl⟩
    · rintro ⟨-, rfl, rfl⟩
      rfl
  · constructor
    · intro h
      cases h
    · rintro ⟨-, rfl, rfl⟩
      exact absurd explained hexplained

/-- An observation is built from whatever was sorted before. -/
theorem Observation.make_sorted (identity : ResourceIdentity) (observedAt : Timestamp)
    (health : ResourceHealth) (facts : List QuotaFact) (promotions : List PromotionRecord) :
    Observation.make identity observedAt health (sortBy quotaFactSortKey facts)
        (sortBy promotionSortKey promotions) =
      .ok ⟨identity, observedAt, health, sortBy quotaFactSortKey facts,
        sortBy promotionSortKey promotions⟩ := by
  unfold Observation.make
  rw [if_neg (by simp [sortBy_sortBy]), if_neg (by simp [sortBy_sortBy])]

/-- **The conversion loses nothing exactly when the diagnostics are in canonical order**: it does
    not sort them, and the health that it builds demands it. -/
theorem normalized_iff (snapshot : CapacitySnapshot) (identity : ResourceIdentity)
    (promotions : List PromotionRecord) (quotaObservationClass : ObservationClass)
    (hprovider : snapshot.provider = identity.provider) :
    Normalizes snapshot identity promotions quotaObservationClass ↔
      snapshot.diagnostics.Pairwise fun a b => diagnosticSortKey a ≤ diagnosticSortKey b := by
  unfold Normalizes resourceSnapshotFromCapacity
  rw [if_neg (not_not.mpr hprovider)]
  constructor
  · rintro ⟨observation, h, -⟩
    obtain ⟨health, hhealth, -⟩ := bind_eq_ok.mp h
    rw [← (ResourceHealth.make_eq_ok.mp hhealth).1]
    exact pairwise_sortBy _ _
  · intro hsorted
    have hhealth : ResourceHealth.make snapshot.status snapshot.diagnostics =
        .ok ⟨snapshot.status, snapshot.diagnostics, snapshot.explained⟩ :=
      ResourceHealth.make_eq_ok.mpr ⟨sortBy_eq_self hsorted, rfl, rfl⟩
    rw [hhealth, ok_bind, Observation.make_sorted]
    refine ⟨_, rfl, rfl, fun _ => Iff.rfl, ?_⟩
    -- The windows of the facts are those of the snapshot, in the order of the facts.
    have hperm := (sortBy_perm quotaFactSortKey
      (snapshot.windows.map (QuotaFact.mk quotaObservationClass))).map (·.window)
    rw [List.map_map] at hperm
    exact hperm.trans (.of_eq (List.map_id _))

/-- A worker's resource. -/
private def codexIdentity : ResourceIdentity where
  resourceId := .lit "codex-1"
  channel := .localAppAdapter
  provider := .lit "openai"
  model := .lit "gpt-5"
  entitlement := .subscriptionIncluded

/-- A snapshot with two windows and the given diagnostics. -/
private def codexSnapshot (diagnostics : List CapacityDiagnostic) : CapacitySnapshot where
  provider := .lit "openai"
  source := .lit "codex"
  retrievedAt := 0
  status := .ok
  windows := [{ resource := .tokens, kind := .weekly }, { resource := .tokens, kind := .fiveHour }]
  diagnostics
  explained := nofun

/-- Diagnostics in canonical order. -/
theorem normalized_iff_sorted :
    Normalizes (codexSnapshot [{ code := .percentageUnknown }, { code := .resetUnknown }])
      codexIdentity [] .providerTelemetry :=
  (normalized_iff _ _ [] .providerTelemetry rfl).mpr (by decide +kernel)

/-- **Diagnostics in another order are refused.** -/
theorem unsorted_diagnostics_refused : ¬ ∀ snapshot identity,
    snapshot.provider = identity.provider → Normalizes snapshot identity [] .providerTelemetry := by
  intro h
  obtain ⟨observation, hobservation, -⟩ :=
    h (codexSnapshot [{ code := .resetUnknown }, { code := .percentageUnknown }]) codexIdentity rfl
  have hrefused : (resourceSnapshotFromCapacity
      (codexSnapshot [{ code := .resetUnknown }, { code := .percentageUnknown }]) codexIdentity []
        .providerTelemetry).isOk = false := by decide +kernel
  rw [hobservation] at hrefused
  cases hrefused

end ScarcityRouter
