import ScarcityRouter.Routing.Narrow

namespace ScarcityRouter

open ScarcityRouter.Lib

/-!
# The route decision

`route_request` of `routing_core.py`.

* `RouteInputs.routeGates` — every registered resource through the gate.
* `pinTarget`, `pinModel` — the explicit pins narrow the routable identities.
* `evaluateTarget`, `evaluateModel`, `rankRuntime` — the runtime branch: each model is ranked
  resource by resource, over a one-entry catalog.
* `rankVersioned` — the versioned branch: one selection over the narrowed catalog.
* `routeCore`, `miInputs`, `routeRequest` — the decision, without and with an MI admission.
-/

/-! ### Hosts and receipts -/

/-- What routing reads from its host: time zones, the evidence package and the digest that names a
    decision by its content. -/
class RouteHost extends Platform, EvidenceHost where
  /-- `_derive_decision_id`. -/
  decisionId : RouteContent → SafeId

/-- The frozen inputs of one MI-admitted evaluation; catalogs serialize in identity order, the
    other collections as the request holds them. -/
structure MIContext where
  inputs : RouteInputs
  pin : Option PinnedTarget
  evaluatedCatalog : ModelCatalog
  blocked : Finset ModelIdentity

/-- The receipt of one evaluation; the encoded utilization is a function of these members. -/
structure MIUse (δ : Type) where
  cut : Option FrozenCut
  evaluatedAt : Instant
  context : MIContext
  decision : δ

/-- A `RouteDecision`. -/
structure RouteDecision extends RouteContent where
  decisionId : SafeId
  miUse : Option (MIUse (RouteContent × SafeId)) := none
  well_formed : toRouteContent.WellFormed

/-- The constructor of `RouteDecision`, with its derived id. -/
def RouteDecision.make [RouteHost] (content : RouteContent) : Except ContractError RouteDecision :=
  (fun p =>
    { toRouteContent := content
      decisionId := RouteHost.decisionId content
      well_formed := p.down }) <$> certify content.checks RouteContent.checks_eq_ok.mp

/-! ### Gates of one request -/

namespace RouteInputs

variable (i : RouteInputs)

/-- The effective authorization of the request. -/
def effective : EffectiveAuthorization :=
  effectiveAuthorization i.adminConstraints i.clientAuthorization i.routingProfile

/-- A runtime inventory never reads provider-level eligibility at the gate. -/
def gateReports : List ExecutionEligibility := if i.isRuntime then [] else i.eligibilityReports

/-- The identities blocked on one resource: MI-blocked, or bound to another channel. -/
def blockedOn (resource : ResourceIdentity) : Finset ModelIdentity :=
  i.miBlocked ∪
    ((i.miChannels.filter (·.2 ≠ some resource.channel.text)).map Prod.fst).toFinset

/-- The candidate competition exercises a configured effort on the resource. -/
def configuredReasoning (resource : ResourceIdentity) : Bool :=
  i.candidateIdentities.any fun candidates => i.catalog.entries.any fun candidate =>
    candidate.identity ∈ candidates &&
    candidate.identity.provider = resource.provider &&
    candidate.identity.model = resource.model &&
    resource.variant.all (· = candidate.identity.variant) &&
    (resource.variant.isSome || (resource.channel = .workerBridged &&
      (lookupCell i.compatibilityCells resource .reasoningControls).any (·.value.serves))) &&
    candidate.reasoningEffort.isSome &&
    (!i.isRuntime || candidate.evidencedOn resource.resourceId)

/-- The gate parameters that routing, admission and MI preparation share. -/
def gateInputs (requirement : TaskRequirement) : GateInputs where
  catalog := i.catalog
  effective := i.effective
  request := i.request
  cells := i.compatibilityCells
  requirement := requirement
  eligibilityReports := i.gateReports
  evaluatedAt := i.evaluatedAt
  continuationCapableResourceIds := i.continuationCapableResourceIds
  executionAssurances := i.executionAssurances
  availableAdapterResourceIds := i.availableAdapterResourceIds
  miBlocked := i.miBlocked
  miEffortRequired := (i.miChannels.map Prod.fst).toFinset

/-- The gate parameters of `route_request` for one resource. -/
def routeGateInputs (requirement : TaskRequirement) (resource : ResourceIdentity) : GateInputs :=
  { i.gateInputs requirement with
    configuredReasoningRequired := i.configuredReasoning resource
    requireCatalogEffort := i.requireCatalogEffort
    miBlocked := i.blockedOn resource }

/-- The gate of one registered resource. -/
def routeGate (requirement : TaskRequirement) (entry : ResourceRegistryEntry) : ResourceGate :=
  evaluateResource (i.routeGateInputs requirement entry.identity) entry

/-- Every registered resource through the gate, in resource-id order. -/
def routeGates (requirement : TaskRequirement) : List ResourceGate :=
  sortBy (·.entry.identity.resourceId)
    (i.registrySnapshot.entries.map (i.routeGate requirement))

/-- The profile policy version a selection carries. -/
def selectionProfileVersion : Option ℕ+ :=
  if i.routingProfile.isSome then i.profilePolicyVersion else none

/-- The request names a target, a model or a variant. -/
def hasPin : Bool :=
  i.request.pinnedTarget.isSome || i.request.explicitModel.isSome ||
    i.request.explicitVariant.isSome

end RouteInputs

/-! ### Pins -/

/-- The distinct identities of a list, in identity order. -/
def identitySet (identities : List ModelIdentity) : List ModelIdentity :=
  sortBy identityKey identities.dedup

/-- The routable identities after the pins, and the codes the pins explain a failure with. -/
structure Pinning where
  routable : List ModelIdentity
  codes : List RouteReason

/-- The identities some qualified gate serves: the keys of `qualified_by_identity`. -/
def qualifiedIdentities (gates : List ResourceGate) : List ModelIdentity :=
  identitySet ((gates.filter (·.qualified)).flatMap (·.boundIdentities))

/-- The gate of the pinned resource. -/
def pinnedGate? (gates : List ResourceGate) (request : RequestBinding) : Option ResourceGate :=
  request.pinnedTarget.bind fun pin =>
    gates.find? (·.entry.identity.resourceId = pin.resourceId)

/-- A pinned target leaves at most its own identity, on its own qualified resource. -/
def pinTarget (gates : List ResourceGate) (request : RequestBinding) : Pinning :=
  match request.pinnedTarget with
  | none => ⟨qualifiedIdentities gates, []⟩
  | some pin =>
    match pinnedGate? gates request with
    | none => ⟨[], [.pinnedRequestFailed, .pinTargetNotFound]⟩
    | some gate =>
      if gate.qualified then ⟨gate.boundIdentities.filter (· = pin.model), []⟩
      else ⟨[], [.pinnedRequestFailed]⟩

/-- The identity is one the explicit model and variant name. -/
def matchesExplicit (request : RequestBinding) (identity : ModelIdentity) : Bool :=
  request.explicitModel.all (· = ⟨identity.provider, identity.model⟩) &&
  request.explicitVariant.all (· = identity.variant)

/-- No catalog entry is of the explicit model. -/
def explicitModelUnknown (i : RouteInputs) : Bool :=
  i.request.explicitModel.any fun ref =>
    !i.catalog.entries.any fun entry => ref = ⟨entry.identity.provider, entry.identity.model⟩

/-- An explicit model or variant narrows further; leaving nothing is explained. -/
def pinModel (i : RouteInputs) (pinning : Pinning) : Pinning :=
  if i.request.explicitModel = none ∧ i.request.explicitVariant = none then pinning
  else
    let pinned := pinning.routable.filter (matchesExplicit i.request)
    if pinned = [] then
      ⟨[], pinning.codes ++ .pinnedRequestFailed ::
        (if explicitModelUnknown i then [.pinModelNotFound] else [])⟩
    else ⟨pinned, pinning.codes⟩

/-! ### Target order -/

/-- `_order_key`: promoted resources first, then by resource id. -/
def orderKey (resource : GatedResource) : ℕ ×ₗ SafeId :=
  toLex (if resource.promotionSources = [] then 1 else 0, resource.entry.identity.resourceId)

/-! ### The runtime branch -/

/-- The runtime catalog of one model. -/
def singletonCatalog (entry : ModelCatalogEntry) : ModelCatalog :=
  ⟨none, none, [entry], List.nodup_singleton _, rfl⟩

/-- A resource that the selector accepts for the model. -/
structure TargetCandidate where
  rank : RankingKey ×ₗ ℕ ×ₗ SafeId
  resource : GatedResource
  entry : ModelCatalogEntry
  evaluation : CandidateEvaluation

/-- What one qualified gate contributes to its model: nothing (another resource is pinned, or the
    model is no candidate), an unverified pinned effort, a candidate, or a model-level rejection. -/
inductive TargetOutcome where
  | skipped
  | refused (exclusion : TargetExclusion)
  | candidate (candidate : TargetCandidate)
  | rejected (entry : ModelCatalogEntry) (evaluation : Option CandidateEvaluation)
      (exclusion : Option TargetExclusion)

/-- The exclusion record of one resource of a runtime model. -/
def runtimeExclusion (resource : ResourceIdentity) (identity : ModelIdentity) (stage : RouteStage)
    (codes : List TargetReason) : ExclusionRecord where
  resourceId := resource.resourceId
  stage := stage
  reasonCodes := codes
  channel := some resource.channel
  provider := some identity.provider
  model := some identity.model
  variant := some identity.variant

/-- The route stage of a model-level rejection, for the stages the route reports. -/
def rejectionStage (evaluation : CandidateEvaluation) : Option RouteStage :=
  match evaluation.exclusionStage with
  | some .capacity => some .capacity
  | some .policyBlackout | some .reservation => some .policy
  | _ => none

/-- The route-level codes of a rejection: `set(rejected.reason_codes) & _STAGE_REASONS[stage]`. -/
def rejectionCodes (evaluation : CandidateEvaluation) (stage : RouteStage) : List TargetReason :=
  sortedSet ((evaluation.reasonCodes.filterMap SelectionReason.targetReason?).filter
    (· ∈ stage.reasons))

/-- The exclusion of a model-level rejection, when the route reports its stage. -/
def rejectionExclusion (resource : ResourceIdentity) (identity : ModelIdentity)
    (evaluation : CandidateEvaluation) : Except ContractError (Option TargetExclusion) :=
  match rejectionStage evaluation with
  | none => .ok none
  | some stage =>
    if rejectionCodes evaluation stage = [] then .ok none
    else some <$> TargetExclusion.make (runtimeExclusion resource identity stage
      (rejectionCodes evaluation stage))

/-- The pinned effort, if any. -/
def pinnedEffort (request : RequestBinding) : Option SafeId :=
  request.pinnedTarget.bind (·.reasoningEffort)

/-- The effort is the pinned one, or none is pinned. -/
def honoursEffort (pinned : Option SafeId) (entry : ModelCatalogEntry) : Bool :=
  pinned.all fun effort => entry.reasoningEffort.map ReasoningEffort.text = some effort

section Route

variable [RouteHost]

/-- One gate of one runtime model; `one` is the request over the one-entry catalog. -/
def evaluateTarget (i one : RouteInputs) (requirement : TaskRequirement)
    (identity : ModelIdentity) (resource : GatedResource) : Except ContractError TargetOutcome :=
  if !matchesPin i.request resource then .ok .skipped
  else
    let local_ := narrowedCatalog one [identity] fun _ => [resource]
    match local_.entries with
    | [] => .ok .skipped
    | entry :: _ =>
      if !honoursEffort (pinnedEffort i.request) entry then
        .refused <$> TargetExclusion.make (runtimeExclusion resource.entry.identity entry.identity
          .binding [.reasoningEffortUnverified])
      else do
        let snapshots ← resourceSnapshots resource.entry entry
        let evaluated ← runSelection i local_ requirement (some snapshots)
        match evaluated.selected with
        | some evaluation =>
          let rank := candidateRankingKey i.policy.preferenceOrder evaluation entry.reasoningEffort
          return .candidate ⟨toLex (rank, orderKey resource), resource, entry, evaluation⟩
        | none =>
          match evaluated.excluded with
          | [] => return .rejected entry none none
          | rejected :: _ =>
            let exclusion ← rejectionExclusion resource.entry.identity entry.identity rejected
            return .rejected entry (some rejected) exclusion

/-- The candidate of an outcome. -/
def TargetOutcome.candidate? : TargetOutcome → Option TargetCandidate
  | .candidate c => some c
  | _ => none

/-- The exclusion of an outcome. -/
def TargetOutcome.exclusion? : TargetOutcome → Option TargetExclusion
  | .refused exclusion => some exclusion
  | .rejected _ _ exclusion => exclusion
  | _ => none

/-- The entry and the evaluation of a rejection. -/
def TargetOutcome.rejection? : TargetOutcome → Option (ModelCatalogEntry × Option CandidateEvaluation)
  | .rejected entry evaluation _ => some (entry, evaluation)
  | _ => none

/-- One runtime model after its gates: the entry and evaluation that stand for it, its eligible
    resources in rank order, and its exclusions. -/
structure ModelOutcome where
  identity : ModelIdentity
  chosen : Option (ModelCatalogEntry × CandidateEvaluation)
  eligible : List GatedResource
  exclusions : List TargetExclusion

/-- The best candidate stands for the model, otherwise its first rejection. -/
def summarizeModel (identity : ModelIdentity) (outcomes : List TargetOutcome) :
    Except ContractError ModelOutcome :=
  let exclusions := outcomes.filterMap TargetOutcome.exclusion?
  let candidates := sortBy (·.rank) (outcomes.filterMap TargetOutcome.candidate?)
  match candidates with
  | best :: _ =>
    .ok ⟨identity, some (best.entry, best.evaluation), candidates.map (·.resource), exclusions⟩
  | [] =>
    match outcomes.filterMap TargetOutcome.rejection? with
    | [] => .ok ⟨identity, none, [], exclusions⟩
    | (fallback, first) :: rest =>
      match first.or (rest.findSome? Prod.snd) with
      | none => .error (.routeContractValidation "resource evaluation omitted its candidate")
      | some evaluation => .ok ⟨identity, some (fallback, evaluation), [], exclusions⟩

/-- One runtime model: its request over a one-entry catalog, then every gate that serves it. -/
def evaluateModel (r : RouteRequest) (requirement : TaskRequirement) (gates : List ResourceGate)
    (identity : ModelIdentity) : Except ContractError ModelOutcome := do
  match r.catalog.lookup? identity with
  | none => .error (.other ("KeyError: " ++ identity.repr))
  | some entry =>
    let one ← RouteRequest.make { r.toRouteInputs with catalog := singletonCatalog entry }
    let outcomes ← (qualifiedFor gates identity).mapM
      (evaluateTarget r.toRouteInputs one.toRouteInputs requirement identity)
    summarizeModel identity outcomes

/-- A ranked request: the embedded selection, the resources that can serve an identity in target
    order, and the exclusions beyond the gates. -/
structure Ranking where
  selection : SelectionDecision
  serving : ModelIdentity → List GatedResource
  exclusions : List TargetExclusion

/-- The eligible resources of one model of a runtime ranking. -/
def servingOf (outcomes : List ModelOutcome) (identity : ModelIdentity) : List GatedResource :=
  ((outcomes.find? (·.identity = identity)).map (·.eligible)).getD []

/-- The runtime branch. -/
def rankRuntime (r : RouteRequest) (requirement : TaskRequirement) (gates : List ResourceGate)
    (routable : List ModelIdentity) : Except ContractError Ranking := do
  let outcomes ← (sortBy identityKey routable).mapM (evaluateModel r requirement gates)
  let chosen := outcomes.filterMap (·.chosen)
  let narrowed ← ModelCatalog.make none none rfl (chosen.map Prod.fst)
  let selection ← assembleEvaluations narrowed requirement r.policy r.evaluatedAt
    (chosen.map Prod.snd) r.profileId r.selectionProfileVersion
  return ⟨selection, servingOf outcomes, outcomes.flatMap (·.exclusions)⟩

/-- The versioned branch. -/
def rankVersioned (r : RouteRequest) (requirement : TaskRequirement) (gates : List ResourceGate)
    (routable : List ModelIdentity) : Except ContractError Ranking := do
  let selection ← runSelection r.toRouteInputs
    (narrowedCatalog r.toRouteInputs routable (qualifiedFor gates)) requirement none
  return ⟨selection, fun identity => sortBy orderKey (qualifiedFor gates identity), []⟩

/-- The ranking of the routable identities. -/
def rank (r : RouteRequest) (requirement : TaskRequirement) (gates : List ResourceGate)
    (routable : List ModelIdentity) : Except ContractError Ranking :=
  if r.isRuntime then rankRuntime r requirement gates routable
  else rankVersioned r requirement gates routable

/-! ### Assembly -/

/-- The context attestation a target reports: the limit travels with its evidence. -/
def targetContextEvidence (capabilities : ExecutionCapabilities) : Option TargetContextEvidence :=
  match capabilities.contextEvidence, capabilities.contextLimitTokens with
  | some evidence, some limit => some ⟨evidence, limit⟩
  | _, _ => none

/-- `_route_target`. -/
def routeTarget (resource : GatedResource) (identity : ModelIdentity)
    (routingProfile : Option SafeId) (shares : Bool) (effort : Option SafeId) : RouteTarget where
  resource := resource.entry.identity
  model := identity
  quotaPools := resource.entry.identity.quotaPoolIds
  routingProfile := routingProfile
  promotionSources := resource.promotionSources
  sharesQuotaPoolWithSelected := shares
  contextEvidence := targetContextEvidence resource.entry.capabilities
  evidencedReasoningEffort := effort
  pools_sorted := resource.entry.identity.pools_sorted
  promotions_sorted := resource.promotions_sorted

/-- `target_effort`: the evidenced effort of a runtime target. -/
def targetEffort (i : RouteInputs) (identity : ModelIdentity) (resource : GatedResource) :
    Option SafeId :=
  if i.isRuntime then
    ((narrowedCatalog i [identity] fun _ => [resource]).entries.head?.bind
      (·.reasoningEffort)).map ReasoningEffort.text
  else none

/-- Two resources draw a common confirmed pool. -/
def sharesPool (a b : GatedResource) : Bool :=
  a.entry.identity.quotaPoolIds.any (· ∈ b.entry.identity.quotaPoolIds)

/-- The target and the alternatives of a selected identity: a pinned resource is the target and
    has no alternatives. -/
def chooseTargets (i : RouteInputs) (pinned : Option ResourceGate) (identity : ModelIdentity)
    (resources : List GatedResource) : Except ContractError (RouteTarget × List RouteTarget) :=
  match pinned with
  | some gate =>
    match resources.find? (·.entry.identity.resourceId = gate.entry.identity.resourceId) with
    | none => .error (.routeContractValidation ("route_request: the qualified pinned target "
        ++ "vanished from its own bound identity's candidate set"))
    | some resource =>
      .ok (routeTarget resource identity i.profileId false (targetEffort i identity resource), [])
  | none =>
    match resources with
    | [] => .error (.other ("KeyError: " ++ identity.repr))
    | first :: rest =>
      .ok (routeTarget first identity i.profileId false (targetEffort i identity first),
        rest.map fun resource => routeTarget resource identity i.profileId
          (sharesPool resource first) (targetEffort i identity resource))

/-- `_target_exclusion` of every failed gate, and the exclusions of the runtime branch, sorted. -/
def targetExclusions (gates : List ResourceGate) (extra : List TargetExclusion) :
    Except ContractError (List TargetExclusion) := do
  let failed ← (gates.filterMap fun gate => gate.failure.map (·.exclusionRecord gate.entry)).mapM
    TargetExclusion.make
  return sortBy (·.key) (failed ++ extra)

/-- The identities of the catalog that are not routable, in identity order. -/
def unroutableIdentities (i : RouteInputs) (routable : List ModelIdentity) : List ModelIdentity :=
  identitySet ((i.catalog.entries.map (·.identity)).filter (· ∉ routable))

/-- `_expired_promotion_sources`. -/
def expiredPromotionSources (gates : List ResourceGate) (evaluatedAt : Instant) : List SafeId :=
  sortedSet (gates.flatMap fun gate => expiredPromotions gate.entry evaluatedAt)

/-- The members every decision of one evaluation shares. -/
def decisionContent (i : RouteInputs) (gates : List ResourceGate) (routable : List ModelIdentity)
    (selection : SelectionDecision) (exclusions : List TargetExclusion) : RouteContent where
  schemaVersion := schemaVersionOf i.catalog.catalogVersion
  status := .noSolution
  selection := selection
  registryRevision := i.registrySnapshot.revision
  registryGeneratedAt := i.registrySnapshot.generatedAt
  unroutableIdentities := unroutableIdentities i routable
  targetExclusions := exclusions
  expiredPromotions := expiredPromotionSources gates i.evaluatedAt
  pinned := i.hasPin

/-- The decision of a ranked request. -/
def assembleDecision (i : RouteInputs) (gates : List ResourceGate) (pinning : Pinning)
    (ranking : Ranking) : Except ContractError RouteDecision := do
  let exclusions ← targetExclusions gates ranking.exclusions
  let content := decisionContent i gates pinning.routable ranking.selection exclusions
  match ranking.selection.selected with
  | none =>
    RouteDecision.make
      { content with
        reasonCodes := sortedSet (.noEligibleTarget :: pinning.codes ++
          if i.hasPin then [.pinnedRequestFailed] else []) }
  | some selected =>
    let (target, alternatives) ← chooseTargets i (pinnedGate? gates i.request) selected.identity
      (ranking.serving selected.identity)
    RouteDecision.make
      { content with
        status := .selected
        target := some target
        targetAlternatives := alternatives
        reasonCodes := [.routeSelected] }

/-- `route_request` without an MI admission. -/
def routeCore (r : RouteRequest) : Except ContractError RouteDecision := do
  let requirement ← r.resolveRequirement
  let gates := r.routeGates requirement
  let pinning := pinModel r.toRouteInputs (pinTarget gates r.request)
  let ranking ← rank r requirement gates pinning.routable
  assembleDecision r.toRouteInputs gates pinning ranking

/-! ### MI admissions -/

/-- The catalog in serialization order. -/
def ModelCatalog.canonical (catalog : ModelCatalog) : ModelCatalog where
  catalogVersion := catalog.catalogVersion
  updatedOn := catalog.updatedOn
  entries := sortBy (fun e => identityKey e.identity) catalog.entries
  unique := ((sortBy_perm _ _).map _).nodup_iff.mpr catalog.unique
  dated := catalog.dated

/-- A channel association, checked when the request stores it. -/
def admittedChannel (binding : ModelBinding) :
    Except ContractError (ModelIdentity × Option SafeId) :=
  match binding.subjectChannel with
  | none => .ok (binding.identity, none)
  | some channel =>
    if h : matchesSafeId channel.toList = true then .ok (binding.identity, some ⟨channel, h⟩)
    else .error (.routeContractValidation ("route_request.mi_channels.channel: unsafe identifier '"
      ++ channel ++ "'; must match [a-z0-9][a-z0-9._:-]\x7b0,63\x7d (lowercase, max 64 chars)"))

/-- The channel associations an MI admission brings: those of a present cut. -/
def admittedChannels (mi : MIAdmission) :
    Except ContractError (List (ModelIdentity × Option SafeId)) :=
  if mi.cut.isSome then mi.bindings.mapM admittedChannel else .ok []

/-- The catalog an MI admission prepares: a runtime inventory is first narrowed to the facts of the
    resources that qualify before MI. -/
def miLocalCatalog (r : RouteRequest) : Except ContractError ModelCatalog :=
  if r.isRuntime then do
    let requirement ← r.resolveRequirement
    let gates := r.registrySnapshot.entries.map (evaluateResource (r.gateInputs requirement))
    return narrowedCatalog r.toRouteInputs (r.catalog.entries.map (·.identity))
      (qualifiedFor gates)
  else .ok r.catalog

/-- `_mi_inputs`: the effective request and the frozen context. -/
def miInputs (r : RouteRequest) (mi : MIAdmission) (pin : Option PinnedTarget) :
    Except ContractError (RouteRequest × MIContext) := do
  let localCatalog ← miLocalCatalog r
  let (catalog, blocked) ← mi.prepare localCatalog r.evaluatedAt
  let context : MIContext :=
    { inputs := { r.toRouteInputs with catalog := r.catalog.canonical }
      pin
      evaluatedCatalog := catalog.canonical
      blocked := r.miBlocked ∪ blocked }
  let admitted ← admittedChannels mi
  let effective ← RouteRequest.make
    { r.toRouteInputs with
      catalog
      miAdmission := none
      miBlocked := r.miBlocked ∪ blocked
      miChannels := r.miChannels ++ admitted }
  return (effective, context)

/-- `route_request`. -/
def routeRequest (r : RouteRequest) : Except ContractError RouteDecision :=
  match r.miAdmission with
  | none => routeCore r
  | some mi => do
    let (effective, context) ← miInputs r mi none
    let decision ← routeCore effective
    return { decision with
      miUse := some
        { cut := mi.cut
          evaluatedAt := r.evaluatedAt
          context
          decision := (decision.toRouteContent, decision.decisionId) } }

end Route

end ScarcityRouter
