import ScarcityRouter.Routing.Route

namespace ScarcityRouter

open ScarcityRouter.Lib

/-!
# Pinned admission

`admit_pinned_target` of `routing_core.py`: the gates for one named resource, and the selector's
predicates for its exact model identity, without ranking.

* `admitCore`, `admitPinnedTarget` — admission, without and with an MI admission.
-/

/-- An `AdmissionDecision`. -/
structure AdmissionDecision extends AdmissionContent where
  miUse : Option (MIUse AdmissionContent) := none
  well_formed : toAdmissionContent.WellFormed

/-- The constructor of `AdmissionDecision`. -/
def AdmissionDecision.make (content : AdmissionContent) : Except ContractError AdmissionDecision :=
  (fun p => { toAdmissionContent := content, well_formed := p.down }) <$>
    certify content.checks AdmissionContent.checks_eq_ok.mp

/-- The pin respects every pin of the request. -/
def respectsRequest (request : RequestBinding) (pin : PinnedTarget) : Bool :=
  request.pinnedTarget.all (fun requested =>
    requested.resourceId = pin.resourceId && requested.model = pin.model) &&
  request.explicitModel.all (· = ⟨pin.model.provider, pin.model.model⟩) &&
  request.explicitVariant.all (· = pin.model.variant)

/-- The binding of an exact admission: the executing variant is known. -/
def admissionBinding (request : RequestBinding) (pin : PinnedTarget) : RequestBinding :=
  { request with
    pinnedTarget := some pin
    explicitVariant := some pin.model.variant
    exclusive := request.exclusive }

/-- The gate parameters of `admit_pinned_target`. -/
def RouteInputs.admitGateInputs (i : RouteInputs) (requirement : TaskRequirement)
    (pin : PinnedTarget) (resource : ResourceIdentity) : GateInputs :=
  { i.gateInputs requirement with
    request := admissionBinding i.request pin
    miBlocked := i.blockedOn resource }

/-- The gate of the pinned resource. -/
def RouteInputs.admitGate (i : RouteInputs) (requirement : TaskRequirement) (pin : PinnedTarget)
    (entry : ResourceRegistryEntry) : ResourceGate :=
  evaluateResource (i.admitGateInputs requirement pin entry.identity) entry

/-- A rejection with one code of its own. -/
def rejectPin (pin : PinnedTarget) (code : AdmissionReason) :
    Except ContractError AdmissionDecision :=
  AdmissionDecision.make
    { resourceId := pin.resourceId
      approved := false
      reasonCodes := [.admissionRejected, code]
      boundDecisionId := pin.decisionId }

/-- A rejection by the gate, with its exclusion. -/
def rejectGate (pin : PinnedTarget) (entry : ResourceRegistryEntry) (failure : GateFailure) :
    Except ContractError AdmissionDecision := do
  let exclusion ← TargetExclusion.make (failure.exclusionRecord entry)
  AdmissionDecision.make
    { resourceId := pin.resourceId
      approved := false
      reasonCodes := sortBy id (.admissionRejected :: failure.reasonCodes.map .exclusion)
      exclusion := some exclusion
      boundDecisionId := pin.decisionId }

section Admit

variable [RouteHost]

/-- The runtime selection over the one admitted entry: `none` when it is selected, otherwise the
    code of its exclusion stage.  A versioned entry is not selected again. -/
def admissionSelectionCode (i : RouteInputs) (requirement : TaskRequirement)
    (catalog : ModelCatalog) (resource : GatedResource) (entry : ModelCatalogEntry) :
    Except ContractError (Option AdmissionReason) :=
  if !i.isRuntime then .ok none
  else do
    let snapshots ← resourceSnapshots resource.entry entry
    let checked ← runSelection i catalog requirement (some snapshots)
    match checked.selected with
    | some _ => return none
    | none =>
      if (checked.excluded.head?.bind (·.exclusionStage)) = some .capacity then
        return some .capacityFailed
      else return some .policyFailed

/-- The model-level half of admission, on the entry narrowed to the pinned resource. -/
def admitEntry (i : RouteInputs) (requirement : TaskRequirement) (pin : PinnedTarget)
    (resource : GatedResource) (catalog : ModelCatalog) (entry : ModelCatalogEntry) :
    Except ContractError AdmissionDecision :=
  if !honoursEffort pin.reasoningEffort entry then
    rejectPin pin (.exclusion .reasoningEffortUnverified)
  else if evaluateHardConstraints requirement.hardConstraints entry ≠ [] then
    rejectPin pin .hardConstraintFailed
  else if evaluateCapabilitySufficiency requirement.capabilityMinima entry.capabilities ≠ [] then
    rejectPin pin .capabilityFailed
  else do
    let failed ← admissionSelectionCode i requirement catalog resource entry
    match failed with
    | some code => rejectPin pin code
    | none =>
      AdmissionDecision.make
        { resourceId := pin.resourceId
          approved := true
          reasonCodes := [.admissionApproved]
          target := some (routeTarget resource pin.model i.profileId false
            (if i.isRuntime then entry.reasoningEffort.map ReasoningEffort.text else none))
          boundDecisionId := pin.decisionId }

/-- `admit_pinned_target` without an MI admission. -/
def admitCore (r : RouteRequest) (pin : PinnedTarget) : Except ContractError AdmissionDecision := do
  let requirement ← r.resolveRequirement
  if !respectsRequest r.request pin then rejectPin pin .pinnedRequestFailed
  else
    match r.registrySnapshot.lookup? pin.resourceId with
    | none => rejectPin pin .pinTargetNotFound
    | some entry =>
      let gate := r.admitGate requirement pin entry
      match gate.failure with
      | some failure => rejectGate pin gate.entry failure
      | none =>
        if pin.model ∉ gate.boundIdentities then rejectPin pin .pinnedModelNotBound
        else
          let catalog := narrowedCatalog r.toRouteInputs [pin.model] fun _ => [gate.toGatedResource]
          match catalog.entries with
          | [] => rejectPin pin .pinnedModelNotBound
          | candidate :: _ =>
            admitEntry r.toRouteInputs requirement pin gate.toGatedResource catalog candidate

/-- `admit_pinned_target`. -/
def admitPinnedTarget (r : RouteRequest) (pin : PinnedTarget) :
    Except ContractError AdmissionDecision :=
  match r.miAdmission with
  | none => admitCore r pin
  | some mi => do
    let (effective, context) ← miInputs r mi (some pin)
    let decision ← admitCore effective pin
    return { decision with
      miUse := some
        { cut := mi.cut
          evaluatedAt := r.evaluatedAt
          context
          decision := decision.toAdmissionContent } }

end Admit

end ScarcityRouter
