import ScarcityRouter.Lib.Staged
import ScarcityRouter.Routing.Contracts

namespace ScarcityRouter

open ScarcityRouter.Lib

/-!
# The resource gate

`_evaluate_resource` of `routing_core.py`: binding, authorization, availability and compatibility,
first failing stage wins.

* `bindIdentities`, `lookupCell`, `availabilityFailureCodes`, `compatibilityFailure`,
  `promotionPreference`, `requestOutputContext` — the stage computations.
* `GateInputs.runStages`, `evaluateResource` — the pipeline.

What the pipeline establishes is in `Routing.GateSpec`.
-/

/-! ### Binding -/

/-- The variant of catalog entries without a configured effort. -/
def unconfiguredVariant : SafeId := .lit "unconfigured"

/-- Exact source evidence: the entry's bindings were discovered on this resource. -/
def ModelCatalogEntry.evidencedOn (entry : ModelCatalogEntry) (resourceId : SafeId) : Bool :=
  entry.capacityBindingResources.any (resourceId ∈ ·)

/-- The resource can physically execute the catalog entry. -/
def bindsEntry (catalog : ModelCatalog) (resource : ResourceIdentity)
    (entry : ModelCatalogEntry) : Bool :=
  entry.identity.provider = resource.provider && entry.identity.model = resource.model &&
  resource.variant.all (· = entry.identity.variant) &&
  (catalog.catalogVersion.isSome || resource.variant.isSome ||
    entry.identity.variant = unconfiguredVariant || entry.evidencedOn resource.resourceId)

/-- `_bind_identities`. -/
def bindIdentities (resource : ResourceIdentity) (catalog : ModelCatalog) : List ModelIdentity :=
  (catalog.entries.filter (bindsEntry catalog resource)).map (·.identity)

/-! ### The compatibility matrix -/

/-- The cell concerns the resource's backend and the feature. -/
def CompatibilityCell.concerns (cell : CompatibilityCell) (resource : ResourceIdentity)
    (feature : CompatFeature) : Bool :=
  cell.channel = resource.channel && cell.provider = resource.provider &&
  cell.model = resource.model && cell.feature = feature

/-- `_lookup_cell`: each loop variable keeps the last cell it was assigned; the cell of the
    resource's own variant takes precedence over the backend-level one. -/
def lookupCell (cells : List CompatibilityCell) (resource : ResourceIdentity)
    (feature : CompatFeature) : Option CompatibilityCell :=
  let concerned := cells.filter (·.concerns resource feature)
  let specific :=
    (concerned.filter fun cell => cell.variant.isSome && cell.variant = resource.variant).getLast?
  let backend := (concerned.filter (·.variant.isNone)).getLast?
  specific.or backend

/-! ### Availability -/

/-- `availability_failure_codes`. -/
def availabilityFailureCodes (entry : ResourceRegistryEntry)
    (reports : List ExecutionEligibility) : List TargetReason :=
  codeIf (entry.freshness = .neverObserved) .resourceNeverObserved ++
  codeIf (entry.freshness = .stale) .resourceStale ++
  codeIf (entry.observation.any (·.health.status ≠ .ok)) .resourceUnhealthy ++
  codeIf ((reports.find? (·.provider = entry.identity.provider)).any (·.state ≠ .eligible))
    .executionIneligible

/-! ### Compatibility -/

/-- The compatibility codes, with the first failing matrix feature and its cell value. -/
structure CompatibilityFailure where
  codes : List TargetReason
  feature : Option CompatFeature
  value : Option CellValue
  deriving DecidableEq

/-- The code of one required feature: a missing cell is unknown. -/
def featureCode : Option CompatibilityCell → Option TargetReason
  | none => some .compatibilityUnknown
  | some cell =>
    match cell.value with
    | .unknown => some .compatibilityUnknown
    | .unsupported => some .compatibilityUnsupported
    | .pass | .passPartially => none

/-- The features the request requires, in fixed order. -/
def requiredFeatures (request : RequestBinding) (configuredReasoningRequired : Bool) :
    List CompatFeature :=
  (requestFeatureMap.filter fun (flag, feature) =>
    flag request || (feature = .reasoningControls && configuredReasoningRequired)).map Prod.snd

/-- The required features that the matrix does not serve. -/
def failingFeatures (cells : List CompatibilityCell) (resource : ResourceIdentity)
    (request : RequestBinding) (configuredReasoningRequired : Bool) : List CompatFeature :=
  (requiredFeatures request configuredReasoningRequired).filter fun feature =>
    (featureCode (lookupCell cells resource feature)).isSome

/-- The numeric context code. -/
def contextCode (minimum limit : Option ℕ+) : Option TargetReason :=
  match minimum with
  | none => none
  | some minimum =>
    match limit with
    | none => some .contextLimitUnknown
    | some limit => if limit < minimum then some .contextLimitInsufficient else none

/-- `_compatibility_failure`. -/
def compatibilityFailure (entry : ResourceRegistryEntry) (request : RequestBinding)
    (cells : List CompatibilityCell) (requirement : TaskRequirement)
    (hardOutputTokens : Option ℕ+) (variantResolved configuredReasoningRequired : Bool) :
    CompatibilityFailure :=
  let failing := failingFeatures cells entry.identity request configuredReasoningRequired
  let featureCodes :=
    failing.filterMap fun feature => featureCode (lookupCell cells entry.identity feature)
  let contextCodes := (contextCode requirement.hardConstraints.minimumInputContextTokens
    entry.capabilities.contextLimitTokens).toList
  let outputCodes := (routeOutputCode entry.capabilities hardOutputTokens
    request.maximumOutputTokens variantResolved).toList.map TargetReason.outputLimit
  let floorCodes := (routeOutputCode entry.capabilities hardOutputTokens
    requirement.hardConstraints.minimumOutputTokens variantResolved false).toList.map
      TargetReason.outputLimit
  { codes := sortedSet (featureCodes ++ contextCodes ++ outputCodes ++ floorCodes)
    feature := failing.head?
    value := (failing.head?.bind (lookupCell cells entry.identity)).map (·.value) }

/-! ### Promotions -/

/-- `_promotion_matches`: a plan scope is unverifiable and never matches. -/
def promotionMatches (promotion : PromotionObservation) (resource : ResourceIdentity) : Bool :=
  promotion.plan.isNone && promotion.channel.all (· = resource.channel) &&
  promotion.provider.all (· = resource.provider) && promotion.model.all (· = resource.model)

/-- The promotion has ended. -/
def PromotionObservation.expiredAt (promotion : PromotionObservation) (at_ : Instant) : Bool :=
  promotion.validUntil.any (·.instant < at_)

/-- The promotion has not begun. -/
def PromotionObservation.pendingAt (promotion : PromotionObservation) (at_ : Instant) : Bool :=
  promotion.validFrom.any (at_ < ·.instant)

/-- The promotions of the current observation whose scopes match the resource. -/
def matchingPromotions (entry : ResourceRegistryEntry) : List PromotionObservation :=
  (entry.observation.elim [] (·.promotions)).filter (promotionMatches · entry.identity)

/-- The active half of `_promotion_preference`. -/
def activePromotions (entry : ResourceRegistryEntry) (evaluatedAt : Instant) : List SafeId :=
  sortedSet (((matchingPromotions entry).filter fun p =>
    !p.expiredAt evaluatedAt && !p.pendingAt evaluatedAt).map (·.source))

/-- The expired half of `_promotion_preference`. -/
def expiredPromotions (entry : ResourceRegistryEntry) (evaluatedAt : Instant) : List SafeId :=
  sortedSet (((matchingPromotions entry).filter (·.expiredAt evaluatedAt)).map (·.source))

/-! ### The output context -/

/-- The variant the request already determines for one resource. -/
def effectiveVariant (request : RequestBinding) (resource : ResourceIdentity) : Option SafeId :=
  match request.explicitVariant with
  | some variant => some variant
  | none =>
    match request.pinnedTarget with
    | some pin => some pin.model.variant
    | none =>
      if request.explicitModel = some ⟨resource.provider, resource.model⟩ then resource.variant
      else none

/-- `_request_output_context`: the exact variant's hard output, and whether the variant is
    resolved. -/
def requestOutputContext (request : RequestBinding) (resource : ResourceIdentity)
    (catalog : ModelCatalog) : Option ℕ+ × Bool :=
  match effectiveVariant request resource with
  | none => (none, false)
  | some variant =>
    ((catalog.lookup? ⟨resource.provider, resource.model, variant⟩).bind
      (·.hardProperties.outputTokens), true)

/-! ### The pipeline -/

/-- The parameters of `_evaluate_resource` that are the same for every resource but the two it
    derives from the resource itself. -/
structure GateInputs where
  catalog : ModelCatalog
  effective : EffectiveAuthorization
  request : RequestBinding
  cells : List CompatibilityCell
  requirement : TaskRequirement
  eligibilityReports : List ExecutionEligibility
  evaluatedAt : Instant
  continuationCapableResourceIds : Option (Finset SafeId) := none
  configuredReasoningRequired : Bool := false
  executionAssurances : List ExecutionAssurance := []
  requireCatalogEffort : Bool := false
  availableAdapterResourceIds : Option (Finset SafeId) := none
  miBlocked : Finset ModelIdentity := ∅
  miEffortRequired : Finset ModelIdentity := ∅

/-- The resource as the gate saw it. -/
structure GatedResource where
  entry : ResourceRegistryEntry
  promotionSources : List SafeId
  promotions_sorted : StrictlySorted promotionSources

/-- The first failing stage, all of its codes and the details that explain them. -/
structure GateFailure where
  stage : RouteStage
  reasonCodes : List TargetReason
  healthStatus : Option HealthStatus := none
  compatibilityFeature : Option CompatFeature := none
  compatibilityValue : Option CellValue := none
  eligibility : Option ExecutionEligibility := none
  deriving DecidableEq

/-- `_ResourceGate`; a gate without a failure is qualified. -/
structure ResourceGate extends GatedResource where
  boundIdentities : List ModelIdentity
  failure : Option GateFailure

/-- `gate.qualified`. -/
def ResourceGate.qualified (gate : ResourceGate) : Bool := gate.failure.isNone

/-- The context attestation covers the instant. -/
def ContextEvidence.covers (evidence : ContextEvidence) (evaluatedAt : Instant) : Bool :=
  evidence.verifiedAt ≤ canonicalInstant evaluatedAt && canonicalInstant evaluatedAt <
    evidence.validUntil

/-- The entry with an expired or future context attestation withdrawn. -/
def expireContext (entry : ResourceRegistryEntry) (evaluatedAt : Instant) :
    ResourceRegistryEntry :=
  if entry.capabilities.contextEvidence.any (!·.covers evaluatedAt) then
    { entry with capabilities := entry.capabilities.withoutContext }
  else entry

@[simp] theorem expireContext_identity (entry : ResourceRegistryEntry) (evaluatedAt : Instant) :
    (expireContext entry evaluatedAt).identity = entry.identity := by
  unfold expireContext
  split <;> rfl

@[simp] theorem expireContext_observation (entry : ResourceRegistryEntry)
    (evaluatedAt : Instant) :
    (expireContext entry evaluatedAt).observation = entry.observation := by
  unfold expireContext
  split <;> rfl

@[simp] theorem expireContext_freshness (entry : ResourceRegistryEntry) (evaluatedAt : Instant) :
    (expireContext entry evaluatedAt).freshness = entry.freshness := by
  unfold expireContext
  split <;> rfl

@[simp] theorem expireContext_cost (entry : ResourceRegistryEntry) (evaluatedAt : Instant) :
    (expireContext entry evaluatedAt).cost = entry.cost := by
  unfold expireContext
  split <;> rfl

@[simp] theorem expireContext_ttl (entry : ResourceRegistryEntry) (evaluatedAt : Instant) :
    (expireContext entry evaluatedAt).freshnessTtlSeconds = entry.freshnessTtlSeconds := by
  unfold expireContext
  split <;> rfl

namespace GateInputs

variable (inputs : GateInputs) (entry : ResourceRegistryEntry)

/-- The authorization codes of one resource. -/
def authorizationCodes : List TargetReason :=
  authorizationFailureCodes entry inputs.effective inputs.executionAssurances inputs.evaluatedAt

/-- The bound identities no MI verdict blocks. -/
def usableIdentities : List ModelIdentity :=
  (bindIdentities entry.identity inputs.catalog).filter (· ∉ inputs.miBlocked)

/-- The resource lacks a live adapter. -/
def adapterMissing : Bool :=
  inputs.availableAdapterResourceIds.any (entry.identity.resourceId ∉ ·)

/-- A tool request on a worker-bridged channel without a live continuation capability. -/
def continuationMissing : Bool :=
  inputs.request.requiresToolCalls && entry.identity.channel = .workerBridged &&
    !inputs.continuationCapableResourceIds.any (entry.identity.resourceId ∈ ·)

/-- The sorted availability codes of one resource. -/
def availabilityCodes : List TargetReason :=
  sortBy id (availabilityFailureCodes entry inputs.eligibilityReports ++
    codeIf (inputs.adapterMissing entry) .adapterUnavailable ++
    codeIf (inputs.continuationMissing entry) .workerContinuationUnavailable)

/-- The compatibility failure under a given reasoning demand. -/
def compatibility (configuredReasoningRequired : Bool) : CompatibilityFailure :=
  let output := requestOutputContext inputs.request entry.identity inputs.catalog
  compatibilityFailure entry inputs.request inputs.cells inputs.requirement output.1 output.2
    configuredReasoningRequired

/-- Serving the identity exercises the configured effort of its catalog entry. -/
def effortDemanded (identity : ModelIdentity) : Bool :=
  (inputs.catalog.lookup? identity).any fun candidate =>
    candidate.reasoningEffort.isSome &&
    (inputs.catalog.catalogVersion.isSome || candidate.evidencedOn entry.identity.resourceId) &&
    (inputs.requireCatalogEffort || identity ∈ inputs.miEffortRequired)

/-- The compatibility failure of one bound identity in the effort loop. -/
def effortFailure (identity : ModelIdentity) : CompatibilityFailure :=
  inputs.compatibility entry
    (inputs.configuredReasoningRequired || inputs.effortDemanded entry identity)

/-- The effort loop runs. -/
def checksEffort : Bool :=
  inputs.requireCatalogEffort ||
    (inputs.usableIdentities entry).any (· ∈ inputs.miEffortRequired)

/-- The bound identities that survive the effort loop. -/
def servedIdentities : List ModelIdentity :=
  if inputs.checksEffort entry then
    (inputs.usableIdentities entry).filter fun identity =>
      (inputs.effortFailure entry identity).codes = []
  else inputs.usableIdentities entry

/-- The first failure of the effort loop; it exists whenever no bound identity survives. -/
def firstEffortFailure : CompatibilityFailure :=
  (((inputs.usableIdentities entry).map (inputs.effortFailure entry)).find? (·.codes ≠ [])).getD
    ⟨[], none, none⟩

/-- The stages after binding, on the entry with its context attestation checked: the bound
    identities the gate retains, and the failure. -/
def runStages : List ModelIdentity × Option GateFailure :=
  let bound := bindIdentities entry.identity inputs.catalog
  let usable := inputs.usableIdentities entry
  let base := inputs.compatibility entry inputs.configuredReasoningRequired
  if bound = [] then
    ([], some { stage := .binding, reasonCodes := [.capabilityUnassessed] })
  else if inputs.authorizationCodes entry ≠ [] then
    (bound, some { stage := .authorization, reasonCodes := inputs.authorizationCodes entry })
  else if usable = [] then
    (bound, some { stage := .authorization, reasonCodes := [.resourceBlocked] })
  else if inputs.availabilityCodes entry ≠ [] then
    (usable, some
      { stage := .availability
        reasonCodes := inputs.availabilityCodes entry
        healthStatus := entry.observation.map (·.health.status)
        eligibility := inputs.eligibilityReports.find? fun report =>
          report.provider = entry.identity.provider && report.state ≠ .eligible })
  else if base.codes ≠ [] then
    (usable, some
      { stage := .compatibility
        reasonCodes := base.codes
        compatibilityFeature := base.feature
        compatibilityValue := base.value })
  else if inputs.servedIdentities entry = [] then
    (usable, some
      { stage := .compatibility
        reasonCodes := (inputs.firstEffortFailure entry).codes
        compatibilityFeature := (inputs.firstEffortFailure entry).feature
        compatibilityValue := (inputs.firstEffortFailure entry).value })
  else (inputs.servedIdentities entry, none)

end GateInputs

/-- `_evaluate_resource`. -/
def evaluateResource (inputs : GateInputs) (entry : ResourceRegistryEntry) : ResourceGate :=
  let entry := expireContext entry inputs.evaluatedAt
  let outcome := inputs.runStages entry
  { entry
    promotionSources := activePromotions entry inputs.evaluatedAt
    promotions_sorted := strictlySorted_sortedSet _
    boundIdentities := outcome.1
    failure := outcome.2 }

/-- `_target_exclusion`: the record of a failed gate. -/
def GateFailure.exclusionRecord (failure : GateFailure) (entry : ResourceRegistryEntry) :
    ExclusionRecord where
  resourceId := entry.identity.resourceId
  stage := failure.stage
  reasonCodes := failure.reasonCodes
  channel := some entry.identity.channel
  provider := some entry.identity.provider
  model := some entry.identity.model
  healthStatus := failure.healthStatus
  freshness := some entry.freshness
  compatibilityFeature := failure.compatibilityFeature
  compatibilityValue := failure.compatibilityValue
  executionEligibility := failure.eligibility

end ScarcityRouter
