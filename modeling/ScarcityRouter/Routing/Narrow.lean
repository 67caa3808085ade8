import ScarcityRouter.Routing.Gate
import ScarcityRouter.Routing.Request

namespace ScarcityRouter

open ScarcityRouter.Lib

/-!
# Catalog narrowing

The catalog view a selection runs on, after `routing_core.py`.

* `narrowEntry` — a runtime entry restricted to the facts of the resources that serve it.
* `narrowedCatalog` — `_narrowed_catalog`.
* `resourceSnapshots`, `runSelection` — the selector inputs of one view, and when it returns.
-/

/-! ### Narrowing one runtime entry -/

/-- The smallest value when every value is known. -/
def minIfAllKnown (values : List (Option ℕ+)) : Option ℕ+ :=
  if values.all Option.isSome then (values.filterMap id).min? else none

/-- The entry's own limit, tightened by the bound of its resources. -/
def boundLimit (own bound : Option ℕ+) : Option ℕ+ :=
  match own, bound with
  | some own, some bound => some (min own bound)
  | none, some bound => some bound
  | own, none => own

/-- The tool support of an entry on its resources: an explicit `false` wins, and a resource that
    passed the gate of a tool request serves tools. -/
def narrowToolSupport (request : RequestBinding) (own : Option Bool)
    (capabilities : List ExecutionCapabilities) : Option Bool :=
  if own = some false || capabilities.any (·.toolCalls = some false) then some false
  else if request.requiresToolCalls && !capabilities.isEmpty then some true
  else if !capabilities.isEmpty && capabilities.all (·.toolCalls = some true) then some true
  else own

/-- The three tightened hard properties. -/
def narrowLimits (request : RequestBinding) (capabilities : List ExecutionCapabilities)
    (entry : ModelCatalogEntry) : ModelCatalogEntry :=
  { entry with
    hardProperties :=
      { entry.hardProperties with
        supportsToolUse :=
          narrowToolSupport request entry.hardProperties.supportsToolUse capabilities
        inputContextTokens := boundLimit entry.hardProperties.inputContextTokens
          (minIfAllKnown (capabilities.map (·.contextLimitTokens)))
        outputTokens := boundLimit entry.hardProperties.outputTokens
          (minIfAllKnown (capabilities.map (·.outputLimitTokens))) }
    effort_iff := entry.effort_iff }

/-- Discovery on one source is not an effort attestation for a separately configured resource. -/
def narrowEffort (matching : List ResourceRegistryEntry) (entry : ModelCatalogEntry) :
    ModelCatalogEntry :=
  match matching with
  | [resource] =>
    if entry.reasoningEffort.isSome && !entry.evidencedOn resource.identity.resourceId then
      { entry with
        reasoningEffort := none
        hardProperties := { entry.hardProperties with supportsReasoningMode := none }
        effort_iff := by simp }
    else entry
  | _ => entry

/-- A single resource brings its own capacity bindings; several keep the entry's bindings only when
    each of them is a source of that evidence. -/
def narrowBindings (matching : List ResourceRegistryEntry) (entry : ModelCatalogEntry) :
    ModelCatalogEntry :=
  match matching with
  | [resource] =>
    { entry with
      capacityBindings := entry.resourceBindings resource.identity.resourceId
      bindings_valid := entry.resourceBindings_valid resource.identity.resourceId }
  | _ =>
    if entry.capacityBindings.isSome && (entry.capacityBindingResources.isNone ||
        matching.any (!entry.evidencedOn ·.identity.resourceId)) then
      { entry with
        capacityBindings := none
        bindings_valid := nofun }
    else entry

/-- The runtime entry as the resources that serve it support it. -/
def narrowEntry (request : RequestBinding) (matching : List ResourceRegistryEntry)
    (entry : ModelCatalogEntry) : ModelCatalogEntry :=
  narrowBindings matching
    (narrowEffort matching (narrowLimits request (matching.map (·.capabilities)) entry))

@[simp] theorem narrowEffort_identity (matching : List ResourceRegistryEntry)
    (entry : ModelCatalogEntry) : (narrowEffort matching entry).identity = entry.identity := by
  unfold narrowEffort
  split
  · split <;> rfl
  · rfl

@[simp] theorem narrowBindings_identity (matching : List ResourceRegistryEntry)
    (entry : ModelCatalogEntry) : (narrowBindings matching entry).identity = entry.identity := by
  unfold narrowBindings
  split
  · rfl
  · split <;> rfl

@[simp] theorem narrowEntry_identity (request : RequestBinding)
    (matching : List ResourceRegistryEntry) (entry : ModelCatalogEntry) :
    (narrowEntry request matching entry).identity = entry.identity := by
  unfold narrowEntry
  rw [narrowBindings_identity, narrowEffort_identity]
  rfl

/-! ### The narrowed view -/

/-- The qualified gates that serve an identity. -/
def qualifiedFor (gates : List ResourceGate) (identity : ModelIdentity) : List GatedResource :=
  (gates.filter fun gate => gate.qualified && identity ∈ gate.boundIdentities).map
    (·.toGatedResource)

/-- The gate is the pinned one, if the binding pins a resource. -/
def matchesPin (request : RequestBinding) (resource : GatedResource) : Bool :=
  request.pinnedTarget.all (resource.entry.identity.resourceId = ·.resourceId)

/-- One entry of `_narrowed_catalog`: versioned artifacts keep their entries as they are.
    `serving` gives the qualified gates that serve an identity. -/
def viewEntry (i : RouteInputs) (serving : ModelIdentity → List GatedResource)
    (entry : ModelCatalogEntry) : ModelCatalogEntry :=
  if i.isRuntime then
    narrowEntry i.request
      (((serving entry.identity).filter (matchesPin i.request)).map (·.entry)) entry
  else entry

@[simp] theorem viewEntry_identity (i : RouteInputs) (serving : ModelIdentity → List GatedResource)
    (entry : ModelCatalogEntry) : (viewEntry i serving entry).identity = entry.identity := by
  unfold viewEntry
  split
  · rw [narrowEntry_identity]
  · rfl

/-- The entry takes part in the competition over the routable identities. -/
def inView (i : RouteInputs) (routable : List ModelIdentity) (entry : ModelCatalogEntry) : Bool :=
  entry.identity ∈ routable && i.candidateIdentities.all (entry.identity ∈ ·)

/-- `_narrowed_catalog`: the entries of the routable candidates, in identity order. -/
def narrowedCatalog (i : RouteInputs) (routable : List ModelIdentity)
    (serving : ModelIdentity → List GatedResource) : ModelCatalog where
  catalogVersion := i.catalog.catalogVersion
  updatedOn := i.catalog.updatedOn
  entries := sortBy (fun e => identityKey e.identity)
    ((i.catalog.entries.filter (inView i routable)).map (viewEntry i serving))
  unique := by
    refine ((sortBy_perm _ _).map _).nodup_iff.mpr ?_
    rw [List.map_map, show (fun e : ModelCatalogEntry => e.identity) ∘ viewEntry i serving =
      (·.identity) from funext (viewEntry_identity i serving)]
    exact i.catalog.unique.sublist (List.filter_sublist.map _)
  dated := i.catalog.dated

/-! ### Selector inputs -/

/-- `_resource_snapshots`: the resource's own telemetry of the explicitly bound scopes. -/
def resourceSnapshots (resource : ResourceRegistryEntry) (entry : ModelCatalogEntry) :
    Except ContractError (List CapacitySnapshot) :=
  match resource.observation, entry.capacityBindings with
  | some observation, some bindings => do
    let windows := (observation.quotaFacts.filter fun fact =>
      fact.observationClass = .providerTelemetry &&
        fact.window.scopeId.any (· ∈ bindings.map (·.scopeId))).map (·.window)
    let snapshot ← CapacitySnapshot.make resource.identity.provider (.lit "resource-observation")
      observation.observedAt observation.health.status windows observation.health.diagnostics
    return [snapshot]
  | _, _ => .ok []

section Selection

variable [Platform]

/-- `_run_selection`: resource-scoped snapshots replace the request's, reports included. -/
def runSelection (i : RouteInputs) (catalog : ModelCatalog) (requirement : TaskRequirement)
    (snapshots : Option (List CapacitySnapshot)) : Except ContractError SelectionDecision :=
  selectModel catalog requirement i.policy (snapshots.getD i.capacitySnapshots) i.evaluatedAt
    i.replenishmentStates (if snapshots.isNone then i.eligibilityReports else []) i.profileId
    (if i.routingProfile.isSome then i.profilePolicyVersion else none) i.miBlocked

/-- A selection over resource-scoped snapshots always returns: a runtime inventory has no
    replenishment states. -/
theorem runSelection_resource_returns {i : RouteInputs} (hvalid : i.Valid)
    (hruntime : i.isRuntime = true) (catalog : ModelCatalog) (requirement : TaskRequirement)
    {snapshots : List CapacitySnapshot} (hsnapshots : snapshots.length ≤ 1) :
    Returns (runSelection i catalog requirement (some snapshots)) := by
  refine selectModel_returns_iff.mpr ⟨?_, List.nodup_nil, ?_, ?_⟩
  · unfold UniqueProviders
    rw [Option.getD_some]
    match snapshots, hsnapshots with
    | [], _ => exact List.nodup_nil
    | [snapshot], _ => exact List.nodup_singleton _
  · rw [hvalid.runtime_states hruntime]
    exact List.nodup_nil
  · intro hprofile
    have hnone : i.routingProfile = none := Option.map_eq_none_iff.mp hprofile
    rw [hnone]
    rfl

/-- What a versioned selection demands of its request. -/
theorem runSelection_catalog_returns_iff {i : RouteInputs} (hvalid : i.Valid)
    (catalog : ModelCatalog) (requirement : TaskRequirement) :
    Returns (runSelection i catalog requirement none) ↔
      UniqueProviders i.capacitySnapshots ∧ (i.replenishmentStates.map (·.key)).Nodup := by
  unfold runSelection
  rw [selectModel_returns_iff]
  constructor
  · intro demands
    exact ⟨demands.snapshots_unique, demands.states_unique⟩
  · rintro ⟨hsnapshots, hstates⟩
    refine ⟨hsnapshots, List.pairwise_map.mpr (hvalid.reports_sorted.imp ne_of_lt), hstates, ?_⟩
    intro hprofile
    have hnone : i.routingProfile = none := Option.map_eq_none_iff.mp hprofile
    rw [hnone]
    rfl

end Selection

end ScarcityRouter
