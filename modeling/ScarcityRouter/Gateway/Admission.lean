import ScarcityRouter.Gateway.Lifecycle
import ScarcityRouter.Gateway.NoTarget

namespace ScarcityRouter

open ScarcityRouter.Lib

/-!
# Admission of one execution

`_admit` of `gateway_coordinator.py`: the one selection or pinned admission of an execution, what
it records, and the failure a client is told.

* `admissionRejection` — the failure of a rejected pin.
* `admitTarget` — the stage.
* `Prepares` — what the stages before a dispatch leave untouched; `leaves_admit`.
-/

/-! ### Failures -/

/-- The exclusion codes among the reasons. -/
def AdmissionContent.exclusionCodes (d : AdmissionContent) : List TargetReason :=
  d.reasonCodes.filterMap fun
    | .exclusion code => some code
    | _ => none

/-- `codes & {…}`. -/
def AdmissionContent.excludedBy (d : AdmissionContent) (codes : List TargetReason) : Bool :=
  codes.any (· ∈ d.exclusionCodes)

/-- `sorted(code for code in codes if code.startswith("no_payg_"))`. -/
def AdmissionContent.strictCodes (d : AdmissionContent) : List TargetReason :=
  sortedSet (d.exclusionCodes.filter (·.startsNoPayg))

/-- `_admission_rejection`. -/
def admissionRejection (d : AdmissionContent) (retainedRequirements : Bool) : GatewayError :=
  match d.strictCodes with
  | code :: _ => strictNonPaidError code
  | [] =>
    if .pinTargetNotFound ∈ d.reasonCodes then
      .notFound "the pinned execution target does not exist" (some "pin_target_not_found")
    else if .pinnedModelNotBound ∈ d.reasonCodes then
      .invalidRequest ("the pinned model identity is no longer bound by the pinned resource; " ++
        "obtain a fresh recommendation instead") (some "pinned_model_not_bound")
    else if d.excludedBy [.capabilityUnassessed] then
      .notFound "the pinned target has no calibrated capability binding"
        (some "capability_unassessed")
    else if d.excludedBy [.unauthorizedProvider, .unauthorizedChannel, .unauthorizedEntitlement,
        .resourceBlocked] then
      .permission "the pinned target is not authorized for this client" (some "unauthorized_target")
    else if d.excludedBy [.spendLimitExceeded, .spendLimitUnverifiable] then
      .permission "the pinned target violates the applicable spending limit"
        (some (if d.excludedBy [.spendLimitExceeded] then TargetReason.spendLimitExceeded
          else .spendLimitUnverifiable).text.text)
    else if d.excludedBy [.resourceStale, .resourceNeverObserved, .resourceUnhealthy,
        .executionIneligible] then
      .api "the pinned target is not currently available" (some "target_unavailable") 503
    else if d.excludedBy [.compatibilityUnsupported] then
      .invalidRequest "the pinned target does not support a capability this request requires"
        (some "compatibility_unsupported")
    else if d.excludedBy [.compatibilityUnknown] then
      .invalidRequest ("the pinned target has no evidenced support for a capability this " ++
        "request requires") (some "compatibility_unknown")
    else if d.excludedBy [.contextLimitUnknown, .contextLimitInsufficient] then
      .invalidRequest "the pinned target cannot satisfy the request's context requirements"
        (some (if d.excludedBy [.contextLimitInsufficient] then TargetReason.contextLimitInsufficient
          else .contextLimitUnknown).text.text)
    else if d.excludedBy [.outputLimit .unknown, .outputLimit .insufficient,
        .outputLimit .unenforceable] then
      .invalidRequest "the pinned target cannot satisfy the request's output requirements"
        (some (reportedOutput d.exclusionCodes).text.text)
    else if retainedRequirements &&
        (.hardConstraintFailed ∈ d.reasonCodes || .capabilityFailed ∈ d.reasonCodes) then
      .invalidRequest "the pinned target no longer meets the retained task requirements"
        (some (if .capabilityFailed ∈ d.reasonCodes then AdmissionReason.capabilityFailed
          else .hardConstraintFailed).text.text)
    else if d.excludedBy [.adapterUnavailable] then
      .api "the exact target's current adapter is unavailable" (some "adapter_unavailable") 503
    else if d.excludedBy [.workerContinuationUnavailable] then
      .api "the exact worker cannot currently preserve client-tool continuation"
        (some "worker_continuation_unavailable") 503
    else .api "the pinned target was rejected at admission" (some "admission_rejected") 503

/-- An error whose code is the text of an identifier. -/
theorem GatewayError.codeSafe_of_text {error : GatewayError} {code : SafeId}
    (h : error.code = some code.text) : error.CodeSafe := by
  intro text htext
  obtain rfl := Option.some.inj (h.symm.trans htext)
  exact code.2

theorem codeSafe_ite {p : Prop} [Decidable p] {a b : GatewayError} (ha : a.CodeSafe)
    (hb : b.CodeSafe) : (if p then a else b).CodeSafe := by
  split
  · exact ha
  · exact hb

theorem codeSafe_strictNonPaidError (code : TargetReason) : (strictNonPaidError code).CodeSafe :=
  GatewayError.codeSafe_of_text rfl

theorem codeSafe_noEligibleTargetError (d : RouteContent) : (noEligibleTargetError d).CodeSafe := by
  unfold noEligibleTargetError
  split
  · exact codeSafe_strictNonPaidError _
  · split
    · exact GatewayError.codeSafe_of_text rfl
    · show GatewayError.CodeSafe _
      decide +kernel

/-- **A rejected pin is told by a safe code.** -/
theorem codeSafe_admissionRejection (d : AdmissionContent) (retainedRequirements : Bool) :
    (admissionRejection d retainedRequirements).CodeSafe := by
  unfold admissionRejection
  split
  · exact codeSafe_strictNonPaidError _
  · -- Every branch has a literal code or the text of a reason.
    repeat' apply codeSafe_ite
    all_goals first | decide +kernel | exact GatewayError.codeSafe_of_text rfl

/-! ### The stage -/

/-- What one admission finds outside the coordinator: how `_routing_request` ends and what it has
    recorded by then, the pin of the resolved model, and how the MI provenance is retained. -/
structure RoutingSurroundings where
  registryRead : Option (ℕ × Timestamp) := none
  profile : Option (SafeId × ℕ+) := none
  request : Except StageFailure RouteRequest
  pin : Option PinnedTarget := none
  retained : Except StageFailure Unit := .ok ()

/-- What `_routing_request` records. -/
def RoutingSurroundings.note (x : RoutingSurroundings) (life : LifecycleState) : LifecycleState :=
  { life with
    registryRevision := x.registryRead.map Prod.fst
    registryGeneratedAt := x.registryRead.map Prod.snd
    routingProfile := x.profile.map Prod.fst
    routingPolicyVersion := x.profile.map Prod.snd }

/-- A contract error of the routing core is an unexpected one. -/
def coreStage {α : Type} (outcome : Except ContractError α) : Coordinator α :=
  Coordinator.stage (outcome.mapError fun _ => .unexpected)

section Admit

variable [RouteHost]

/-- `_admit`, for a pinned target. -/
def admitPin (x : RoutingSurroundings) (retainedRequirements : Bool) (request : RouteRequest)
    (pin : PinnedTarget) : Coordinator RouteTarget := do
  let admission ← coreStage (admitPinnedTarget request pin)
  Coordinator.stage x.retained
  match admission.approved, admission.target with
  | true, some target =>
    Coordinator.update ({ · with
      decisionId := admission.boundDecisionId
      selectedTarget := some (auditTarget target) })
    return target
  | true, none => throw .unexpected
  | false, _ =>
    throw (.gateway (admissionRejection admission.toAdmissionContent retainedRequirements))

/-- `_admit`, for a selection. -/
def admitSelection (x : RoutingSurroundings) (request : RouteRequest) : Coordinator RouteTarget := do
  let decision ← coreStage (routeRequest request)
  Coordinator.stage x.retained
  Coordinator.update ({ · with decisionId := some decision.decisionId })
  match decision.status, decision.target with
  | .selected, some target =>
    Coordinator.update ({ · with selectedTarget := some (auditTarget target) })
    return target
  | _, _ => throw (.gateway (noEligibleTargetError decision.toRouteContent))

/-- `_admit`. -/
def admitTarget (x : RoutingSurroundings) (retainedRequirements : Bool) : Coordinator RouteTarget := do
  Coordinator.update x.note
  let request ← Coordinator.stage x.request
  match x.pin with
  | some pin => admitPin x retainedRequirements request pin
  | none => admitSelection x request

end Admit

/-! ### What it leaves -/

/-- What the stages before a dispatch leave as it was. -/
structure Prepares (before after : GatewayState) : Prop where
  registry : after.registry = before.registry
  trail : after.trail = before.trail
  events : after.events = before.events
  request : after.life.requestId = before.life.requestId
  client : after.life.clientId = before.life.clientId
  executed : after.life.executedTarget = before.life.executedTarget
  calls : after.life.calls = before.life.calls

theorem Prepares.refl (s : GatewayState) : Prepares s s := ⟨rfl, rfl, rfl, rfl, rfl, rfl, rfl⟩

theorem Prepares.trans {s₁ s₂ s₃ : GatewayState} (h : Prepares s₁ s₂) (h' : Prepares s₂ s₃) :
    Prepares s₁ s₃ :=
  ⟨h'.registry.trans h.registry, h'.trail.trans h.trail, h'.events.trans h.events,
    h'.request.trans h.request, h'.client.trans h.client, h'.executed.trans h.executed,
    h'.calls.trans h.calls⟩

/-- **An admission prepares a dispatch**: it selects the target, or fails by a typed refusal or
    unexpectedly. -/
theorem leaves_admit [RouteHost] {x : RoutingSurroundings} {retainedRequirements : Bool}
    {s : GatewayState} :
    Leaves (fun e s' => StageFailure.Stages e ∧ Prepares s s')
      (fun target s' => Prepares s s' ∧ s'.life.selectedTarget = some (auditTarget target))
      (admitTarget x retainedRequirements) s := by
  have hcore : ∀ {α : Type} {outcome : Except ContractError α} {V : α → GatewayState → Prop}
      {s' : GatewayState}, Prepares s s' → (∀ a, outcome = .ok a → V a s') →
      Leaves (fun e s' => StageFailure.Stages e ∧ Prepares s s') V (coreStage outcome) s' := by
    intro α outcome V s' hprepares hV
    cases outcome with
    | ok a => exact hV a rfl
    | error e => exact ⟨trivial, hprepares⟩
  unfold admitTarget
  rw [leaves_bind, Coordinator.leaves_update, leaves_bind, Coordinator.leaves_stage]
  have hnoted : Prepares s { s with life := x.note s.life } := ⟨rfl, rfl, rfl, rfl, rfl, rfl, rfl⟩
  refine ⟨fun request _ => ?_, fun failure _ => ⟨failure.stages_exception, hnoted⟩⟩
  cases x.pin with
  | some pin =>
    unfold admitPin
    rw [leaves_bind]
    refine hcore hnoted fun admission _ => ?_
    rw [leaves_bind, Coordinator.leaves_stage]
    refine ⟨fun _ _ => ?_, fun failure _ => ⟨failure.stages_exception, hnoted⟩⟩
    cases admission.approved with
    | false => exact ⟨codeSafe_admissionRejection _ _, hnoted⟩
    | true =>
      cases admission.target with
      | none => exact ⟨trivial, hnoted⟩
      | some target => exact ⟨hnoted.trans ⟨rfl, rfl, rfl, rfl, rfl, rfl, rfl⟩, rfl⟩
  | none =>
    unfold admitSelection
    rw [leaves_bind]
    refine hcore hnoted fun decision _ => ?_
    rw [leaves_bind, Coordinator.leaves_stage]
    refine ⟨fun _ _ => ?_, fun failure _ => ⟨failure.stages_exception, hnoted⟩⟩
    rw [leaves_bind, Coordinator.leaves_update]
    have hdecided : Prepares s { s with
        life := { x.note s.life with decisionId := some decision.decisionId } } :=
      ⟨rfl, rfl, rfl, rfl, rfl, rfl, rfl⟩
    split
    · exact ⟨hdecided.trans ⟨rfl, rfl, rfl, rfl, rfl, rfl, rfl⟩, rfl⟩
    · exact ⟨codeSafe_noEligibleTargetError _, hdecided⟩

end ScarcityRouter
