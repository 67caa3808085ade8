import ScarcityRouter.Capacity

namespace ScarcityRouter

open ScarcityRouter.Lib

/-!
# Resource state

The executable-resource contracts of `resource_state.py` and the execution-eligibility reports of
`eligibility.py`.

* `ResourceIdentity`, `ExecutionCapabilities` — who executes, and what is evidenced about it.
* `routeOutputCode` — the single output-eligibility rule.
* `ResourceRegistryEntry`, `RegistrySnapshot` — the registry read one decision consumes.
* `classifyFreshness` — the staleness rule of that read.
* `ExecutionEligibility` — the per-provider eligibility observation.

Polling cadence, cost observation classes and quota-pool groups are read by no modelled function
and are left out; the observation's identity equals the entry's up to the pools and is not
repeated.
-/

/-! ### Vocabularies -/

/-- `EXECUTION_CHANNELS`. -/
inductive Channel where
  | serverDirectHttp | workerBridged | localAppAdapter
  deriving DecidableEq, Repr

def Channel.text : Channel → SafeId
  | .serverDirectHttp => .lit "server_direct_http"
  | .workerBridged => .lit "worker_bridged"
  | .localAppAdapter => .lit "local_app_adapter"

theorem Channel.text_injective : Function.Injective Channel.text := by
  intro a b h
  cases a <;> cases b <;> first | rfl | exact absurd h (by decide +kernel)

/-- Channels compare as their texts do. -/
instance : LinearOrder Channel := LinearOrder.lift' Channel.text Channel.text_injective

/-- `ENTITLEMENT_CLASSES`. -/
inductive Entitlement where
  | subscriptionIncluded | promotional | paygMetered | prepaidCredits | localUngated | unknown
  deriving DecidableEq, Repr

def Entitlement.text : Entitlement → String
  | .subscriptionIncluded => "subscription_included"
  | .promotional => "promotional"
  | .paygMetered => "payg_metered"
  | .prepaidCredits => "prepaid_credits"
  | .localUngated => "local_ungated"
  | .unknown => "unknown"

theorem Entitlement.text_injective : Function.Injective Entitlement.text := by
  intro a b h
  cases a <;> cases b <;> first | rfl | exact absurd h (by decide)

/-- `OBSERVATION_CLASSES`. -/
inductive ObservationClass where
  | directObservation | providerTelemetry | estimate | localLimit | unknown
  deriving DecidableEq, Repr

/-- `FRESHNESS_STATES`. -/
inductive Freshness where
  | fresh | stale | neverObserved
  deriving DecidableEq, Repr

/-! ### Identity and capabilities -/

theorem noPools_sorted : ([] : List SafeId).Pairwise (· < ·) := .nil

/-- Identity of one executable resource. -/
structure ResourceIdentity where
  resourceId : SafeId
  channel : Channel
  provider : SafeId
  model : SafeId
  entitlement : Entitlement
  variant : Option SafeId := none
  /-- The confirmed shared quota pools, sorted without duplicates. -/
  quotaPoolIds : List SafeId := []
  pools_sorted : quotaPoolIds.Pairwise (· < ·) := by first | exact noPools_sorted | decide
  deriving DecidableEq

/-- The administrator-attested evidence of a context limit. -/
structure ContextEvidence where
  ref : SafeId
  validUntil : Timestamp
  verifiedAt : Timestamp
  runtimeVersion : String
  interval : verifiedAt < validUntil := by decide
  deriving DecidableEq

theorem noEvidence_limit : (none : Option ContextEvidence).isSome = true →
    (none : Option ℕ+).isSome = true := nofun

/-- Observed or configured execution facts; `none` is unknown, never "supported". -/
structure ExecutionCapabilities where
  toolCalls : Option Bool := none
  contextLimitTokens : Option ℕ+ := none
  outputLimitTokens : Option ℕ+ := none
  outputLimitControl : Option Bool := none
  contextEvidence : Option ContextEvidence := none
  /-- Context evidence requires a context limit. -/
  evidence_limit : contextEvidence.isSome = true → contextLimitTokens.isSome = true := by
    first | exact noEvidence_limit | decide
  deriving DecidableEq

/-- The capabilities with an expired context attestation removed. -/
def ExecutionCapabilities.withoutContext (c : ExecutionCapabilities) : ExecutionCapabilities where
  toolCalls := c.toolCalls
  contextLimitTokens := none
  outputLimitTokens := c.outputLimitTokens
  outputLimitControl := c.outputLimitControl
  contextEvidence := none

/-! ### The output-eligibility rule -/

/-- `OUTPUT_LIMIT_CODES`. -/
inductive OutputCode where
  | unknown | insufficient | unenforceable
  deriving DecidableEq, Repr

/-- The evidenced output ceilings of one route: the exact variant's hard output counts only once
    the variant is resolved. -/
def knownOutputs (capabilities : ExecutionCapabilities) (hardOutputTokens : Option ℕ+)
    (variantResolved : Bool) : List ℕ+ :=
  (if variantResolved then hardOutputTokens.toList else []) ++ capabilities.outputLimitTokens.toList

/-- `route_output_code`. -/
def routeOutputCode (capabilities : ExecutionCapabilities)
    (hardOutputTokens requestedOutputTokens : Option ℕ+) (variantResolved : Bool)
    (enforceLimit : Bool := true) : Option OutputCode :=
  match requestedOutputTokens with
  | none => none
  | some requested =>
    match (knownOutputs capabilities hardOutputTokens variantResolved).min? with
    | none => some .unknown
    | some ceiling =>
      if ceiling < requested then some .insufficient
      else if enforceLimit && capabilities.outputLimitControl = some false then
        if variantResolved && hardOutputTokens.any (· ≤ requested) then none
        else some .unenforceable
      else none

/-! ### Observations -/

/-- One quota fact: a capacity window and its observation class. -/
structure QuotaFact where
  observationClass : ObservationClass
  window : CapacityWindow
  deriving DecidableEq

/-- Configured prices in micro-USD per million tokens; at least one is known. -/
structure ResourceCost where
  inputMicroUsdPerMtoken : Option ℕ
  outputMicroUsdPerMtoken : Option ℕ
  priced : inputMicroUsdPerMtoken.isSome = true ∨ outputMicroUsdPerMtoken.isSome = true := by decide
  deriving DecidableEq

/-- The known prices of a cost record. -/
def ResourceCost.prices (cost : ResourceCost) : List ℕ :=
  cost.inputMicroUsdPerMtoken.toList ++ cost.outputMicroUsdPerMtoken.toList

theorem ResourceCost.prices_ne_nil (cost : ResourceCost) : cost.prices ≠ [] := by
  intro h
  obtain ⟨hin, hout⟩ := List.append_eq_nil_iff.mp h
  rcases cost.priced with hp | hp
  · rw [Option.toList_eq_nil_iff.mp hin] at hp
    cases hp
  · rw [Option.toList_eq_nil_iff.mp hout] at hp
    cases hp

/-- One promotion observation; never proof that an execution qualifies. -/
structure PromotionObservation where
  source : SafeId
  channel : Option Channel := none
  provider : Option SafeId := none
  model : Option SafeId := none
  plan : Option SafeId := none
  validFrom : Option Timestamp := none
  validUntil : Option Timestamp := none
  period : ∀ f ∈ validFrom, ∀ u ∈ validUntil, f ≤ u := by decide
  deriving DecidableEq

/-- Health of one observation; a status other than `ok` carries its diagnostic. -/
@[ext] structure ResourceHealth where
  status : HealthStatus
  diagnostics : List CapacityDiagnostic := []
  explained : ∀ code ∈ status.requiredCode, code ∈ diagnostics.map (·.code) := by
    first | exact HealthStatus.ok_explained | decide

instance : DecidableEq ResourceHealth := fun _ _ => decidable_of_iff _ ResourceHealth.ext_iff.symm

/-- One resource-state observation. -/
structure ResourceStateSnapshot where
  observedAt : Timestamp
  health : ResourceHealth
  quotaFacts : List QuotaFact := []
  promotions : List PromotionObservation := []
  deriving DecidableEq

/-! ### The registry read -/

/-- One registry read entry: administrator policy plus evaluated state. -/
structure ResourceRegistryEntry where
  identity : ResourceIdentity
  freshnessTtlSeconds : ℕ+
  capabilities : ExecutionCapabilities := {}
  cost : Option ResourceCost := none
  observation : Option ResourceStateSnapshot := none
  /-- Evaluated against the snapshot's `generated_at` with the registration's TTL. -/
  freshness : Freshness
  observed : observation = none ↔ freshness = .neverObserved := by decide
  deriving DecidableEq

theorem noEntries_sorted : ([] : List ResourceRegistryEntry).Pairwise
    (fun a b => a.identity.resourceId < b.identity.resourceId) := .nil

/-- One versioned read of the registry, in resource-id order. -/
structure RegistrySnapshot where
  revision : ℕ
  generatedAt : Timestamp
  entries : List ResourceRegistryEntry
  sorted : entries.Pairwise (fun a b => a.identity.resourceId < b.identity.resourceId) := by
    first | exact noEntries_sorted | decide
  deriving DecidableEq

/-- The entry of one resource id. -/
def RegistrySnapshot.lookup? (registry : RegistrySnapshot) (resourceId : SafeId) :
    Option ResourceRegistryEntry :=
  registry.entries.find? (·.identity.resourceId == resourceId)

theorem RegistrySnapshot.nodup_ids (registry : RegistrySnapshot) :
    (registry.entries.map (·.identity.resourceId)).Nodup :=
  List.pairwise_map.mpr (registry.sorted.imp ne_of_lt)

theorem RegistrySnapshot.entry_ext (registry : RegistrySnapshot) {a b : ResourceRegistryEntry}
    (ha : a ∈ registry.entries) (hb : b ∈ registry.entries)
    (h : a.identity.resourceId = b.identity.resourceId) : a = b :=
  List.inj_on_of_nodup_map registry.nodup_ids ha hb h

theorem RegistrySnapshot.lookup?_eq_some {registry : RegistrySnapshot} {resourceId : SafeId}
    {entry : ResourceRegistryEntry} : registry.lookup? resourceId = some entry ↔
      entry ∈ registry.entries ∧ entry.identity.resourceId = resourceId := by
  constructor
  · intro h
    have hfind : registry.entries.find? (·.identity.resourceId == resourceId) = some entry := h
    have hid := List.find?_some hfind
    exact ⟨List.mem_of_find?_eq_some hfind, beq_iff_eq.mp hid⟩
  · rintro ⟨hmem, rfl⟩
    refine find?_eq_some_of_unique hmem (beq_self_eq_true _) ?_
    intro b hb hbi
    exact registry.entry_ext hb hmem (beq_iff_eq.mp hbi)

/-! ### Freshness -/

/-- `classify_freshness`: stale once the age exceeds the TTL or the earliest reset has arrived;
    `none` where a future-dated observation is rejected. -/
def classifyFreshness (observedAt now : Timestamp) (freshnessTtlSeconds : ℕ+)
    (earliestResetAt : Option Timestamp) : Option Freshness :=
  if now < observedAt then none
  else if freshnessTtlSeconds * 1000 < now - observedAt then some .stale
  else if earliestResetAt.any (· ≤ now) then some .stale
  else some .fresh

/-- `_window_reset_instants`. -/
def ResourceStateSnapshot.windowResetInstants (observation : ResourceStateSnapshot) :
    List Timestamp :=
  observation.quotaFacts.filterMap (·.window.resetsAt)

/-- The freshness `registry_snapshot` evaluates for one resource at an instant. -/
def ResourceRegistryEntry.freshnessAt (entry : ResourceRegistryEntry) (now : Timestamp) :
    Option Freshness :=
  match entry.observation with
  | none => some .neverObserved
  | some observation => classifyFreshness observation.observedAt now entry.freshnessTtlSeconds
      observation.windowResetInstants.min?

/-! ### Execution eligibility -/

/-- `ELIGIBILITY_STATES`. -/
inductive EligibilityState where
  | eligible | allowanceUnavailable | policyBlocked | unknown
  deriving DecidableEq, Repr

/-- One normalized execution-eligibility observation; its blocker classifications (empty exactly
    when eligible) are provenance text. -/
structure ExecutionEligibility where
  provider : SafeId
  source : SafeId
  retrievedAt : Timestamp
  state : EligibilityState
  reasonCodes : List SafeId
  codes_sorted : reasonCodes.Pairwise (· < ·) := by decide
  codes_iff : reasonCodes = [] ↔ state = .eligible := by decide
  deriving DecidableEq

end ScarcityRouter
