import ScarcityRouter.ExecutionAssurance
import ScarcityRouter.Selector.Candidate

namespace ScarcityRouter

open ScarcityRouter.Lib

/-!
# Routing vocabularies

The closed value sets of `routing_core.py`, each with the text it serializes to: sorted code
lists are sorted by that text.

* `RouteStage`, `TargetReason` — gate stages and target-exclusion codes; `RouteStage.reasons` is
  the stage-to-code table.
* `RouteReason`, `AdmissionReason` — codes of the two decisions.
* `CompatFeature`, `CellValue` — the compatibility matrix.
-/

/-! ### Gate stages and exclusion codes -/

/-- `ROUTE_EXCLUSION_STAGES`, in evaluation order. -/
inductive RouteStage where
  | binding | authorization | availability | compatibility | capacity | policy
  deriving DecidableEq, Repr

def RouteStage.text : RouteStage → SafeId
  | .binding => .lit "binding"
  | .authorization => .lit "authorization"
  | .availability => .lit "availability"
  | .compatibility => .lit "compatibility"
  | .capacity => .lit "capacity"
  | .policy => .lit "policy"

theorem RouteStage.text_injective : Function.Injective RouteStage.text := by
  intro a b h
  cases a <;> cases b <;> first | rfl | exact absurd h (by decide +kernel)

instance : LinearOrder RouteStage := LinearOrder.lift' RouteStage.text RouteStage.text_injective

/-- The serialized codes of `NON_PAID_REFUSAL_CODES`. -/
def NonPaidRefusal.text : NonPaidRefusal → SafeId
  | .sourceMismatch => .lit "no_payg_source_mismatch"
  | .evidenceUnavailable => .lit "no_payg_evidence_unavailable"
  | .bindingChanged => .lit "no_payg_binding_changed"
  | .pathUnverified => .lit "no_payg_path_unverified"
  | .pathIncomplete => .lit "no_payg_path_incomplete"
  | .evidenceInvalid => .lit "no_payg_evidence_invalid"
  | .evidenceExpired => .lit "no_payg_evidence_expired"
  | .accessModeForbidden => .lit "no_payg_access_mode_forbidden"
  | .evidenceStale => .lit "no_payg_evidence_stale"

def OutputCode.text : OutputCode → SafeId
  | .unknown => .lit "output_limit_unknown"
  | .insufficient => .lit "output_limit_insufficient"
  | .unenforceable => .lit "output_limit_unenforceable"

/-- `TARGET_EXCLUSION_REASON_CODES`. -/
inductive TargetReason where
  | capabilityUnassessed
  | reasoningEffortUnverified
  | unauthorizedProvider
  | unauthorizedChannel
  | unauthorizedEntitlement
  | resourceBlocked
  | spendLimitExceeded
  | spendLimitUnverifiable
  | nonPaid (refusal : NonPaidRefusal)
  | resourceStale
  | resourceNeverObserved
  | resourceUnhealthy
  | executionIneligible
  | workerContinuationUnavailable
  | adapterUnavailable
  | compatibilityUnsupported
  | compatibilityUnknown
  | contextLimitUnknown
  | contextLimitInsufficient
  | outputLimit (code : OutputCode)
  | capacityUnavailable
  | capacityUnknownBlocked
  | policyBlocked
  | reservationBlocked
  | reservationUnknown
  deriving DecidableEq, Repr

def TargetReason.text : TargetReason → SafeId
  | .capabilityUnassessed => .lit "capability_unassessed"
  | .reasoningEffortUnverified => .lit "reasoning_effort_unverified"
  | .unauthorizedProvider => .lit "unauthorized_provider"
  | .unauthorizedChannel => .lit "unauthorized_channel"
  | .unauthorizedEntitlement => .lit "unauthorized_entitlement"
  | .resourceBlocked => .lit "resource_blocked"
  | .spendLimitExceeded => .lit "spend_limit_exceeded"
  | .spendLimitUnverifiable => .lit "spend_limit_unverifiable"
  | .nonPaid refusal => refusal.text
  | .resourceStale => .lit "resource_stale"
  | .resourceNeverObserved => .lit "resource_never_observed"
  | .resourceUnhealthy => .lit "resource_unhealthy"
  | .executionIneligible => .lit "execution_ineligible"
  | .workerContinuationUnavailable => .lit "worker_continuation_unavailable"
  | .adapterUnavailable => .lit "adapter_unavailable"
  | .compatibilityUnsupported => .lit "compatibility_unsupported"
  | .compatibilityUnknown => .lit "compatibility_unknown"
  | .contextLimitUnknown => .lit "context_limit_unknown"
  | .contextLimitInsufficient => .lit "context_limit_insufficient"
  | .outputLimit code => code.text
  | .capacityUnavailable => .lit "capacity_unavailable"
  | .capacityUnknownBlocked => .lit "capacity_unknown_blocked"
  | .policyBlocked => .lit "policy_blocked"
  | .reservationBlocked => .lit "reservation_blocked"
  | .reservationUnknown => .lit "reservation_unknown"

/-- The refusal codes, in declaration order. -/
def NonPaidRefusal.all : List NonPaidRefusal :=
  [.sourceMismatch, .evidenceUnavailable, .bindingChanged, .pathUnverified, .pathIncomplete,
    .evidenceInvalid, .evidenceExpired, .accessModeForbidden, .evidenceStale]

theorem NonPaidRefusal.mem_all (refusal : NonPaidRefusal) : refusal ∈ all := by
  cases refusal <;> decide

/-- The authorization codes that are not refusals of the no-PAYG proof. -/
def TargetReason.grantCodes : List TargetReason :=
  [.unauthorizedProvider, .unauthorizedChannel, .unauthorizedEntitlement, .resourceBlocked,
    .spendLimitExceeded, .spendLimitUnverifiable]

/-- `_STAGE_REASONS`. -/
def RouteStage.reasons : RouteStage → List TargetReason
  | .binding => [.capabilityUnassessed, .reasoningEffortUnverified]
  | .authorization => TargetReason.grantCodes ++ NonPaidRefusal.all.map .nonPaid
  | .availability =>
    [.resourceStale, .resourceNeverObserved, .resourceUnhealthy, .executionIneligible,
      .workerContinuationUnavailable, .adapterUnavailable]
  | .compatibility =>
    [.compatibilityUnsupported, .compatibilityUnknown, .contextLimitUnknown,
      .contextLimitInsufficient, .outputLimit .unknown, .outputLimit .insufficient,
      .outputLimit .unenforceable]
  | .capacity => [.capacityUnavailable, .capacityUnknownBlocked]
  | .policy => [.policyBlocked, .reservationBlocked, .reservationUnknown]

/-! ### Decision codes -/

/-- `ROUTE_REASON_CODES`. -/
inductive RouteReason where
  | routeSelected | noEligibleTarget | pinnedRequestFailed | pinTargetNotFound | pinModelNotFound
  deriving DecidableEq, Repr

def RouteReason.text : RouteReason → SafeId
  | .routeSelected => .lit "route_selected"
  | .noEligibleTarget => .lit "no_eligible_target"
  | .pinnedRequestFailed => .lit "pinned_request_failed"
  | .pinTargetNotFound => .lit "pin_target_not_found"
  | .pinModelNotFound => .lit "pin_model_not_found"

theorem RouteReason.text_injective : Function.Injective RouteReason.text := by
  intro a b h
  cases a <;> cases b <;> first | rfl | exact absurd h (by decide +kernel)

instance : LinearOrder RouteReason :=
  LinearOrder.lift' RouteReason.text RouteReason.text_injective

/-- `ADMISSION_REASON_CODES` together with the exclusion codes a rejection may carry;
    `reasoning_effort_unverified` belongs to both and is an exclusion code here. -/
inductive AdmissionReason where
  | admissionApproved
  | admissionRejected
  | pinTargetNotFound
  | pinnedModelNotBound
  | pinnedRequestFailed
  | hardConstraintFailed
  | capabilityFailed
  | capacityFailed
  | policyFailed
  | exclusion (code : TargetReason)
  deriving DecidableEq, Repr

def AdmissionReason.text : AdmissionReason → SafeId
  | .admissionApproved => .lit "admission_approved"
  | .admissionRejected => .lit "admission_rejected"
  | .pinTargetNotFound => .lit "pin_target_not_found"
  | .pinnedModelNotBound => .lit "pinned_model_not_bound"
  | .pinnedRequestFailed => .lit "pinned_request_failed"
  | .hardConstraintFailed => .lit "hard_constraint_failed"
  | .capabilityFailed => .lit "capability_failed"
  | .capacityFailed => .lit "capacity_failed"
  | .policyFailed => .lit "policy_failed"
  | .exclusion code => code.text

/-- Every code, in the order of the texts. -/
def AdmissionReason.all : List AdmissionReason :=
  [.exclusion .adapterUnavailable, .admissionApproved, .admissionRejected, .capabilityFailed,
    .exclusion .capabilityUnassessed, .capacityFailed, .exclusion .capacityUnavailable,
    .exclusion .capacityUnknownBlocked, .exclusion .compatibilityUnknown,
    .exclusion .compatibilityUnsupported, .exclusion .contextLimitInsufficient,
    .exclusion .contextLimitUnknown, .exclusion .executionIneligible, .hardConstraintFailed,
    .exclusion (.nonPaid .accessModeForbidden), .exclusion (.nonPaid .bindingChanged),
    .exclusion (.nonPaid .evidenceExpired), .exclusion (.nonPaid .evidenceInvalid),
    .exclusion (.nonPaid .evidenceStale), .exclusion (.nonPaid .evidenceUnavailable),
    .exclusion (.nonPaid .pathIncomplete), .exclusion (.nonPaid .pathUnverified),
    .exclusion (.nonPaid .sourceMismatch), .exclusion (.outputLimit .insufficient),
    .exclusion (.outputLimit .unenforceable), .exclusion (.outputLimit .unknown),
    .pinTargetNotFound, .pinnedModelNotBound, .pinnedRequestFailed, .exclusion .policyBlocked,
    .policyFailed, .exclusion .reasoningEffortUnverified, .exclusion .reservationBlocked,
    .exclusion .reservationUnknown, .exclusion .resourceBlocked, .exclusion .resourceNeverObserved,
    .exclusion .resourceStale, .exclusion .resourceUnhealthy, .exclusion .spendLimitExceeded,
    .exclusion .spendLimitUnverifiable, .exclusion .unauthorizedChannel,
    .exclusion .unauthorizedEntitlement, .exclusion .unauthorizedProvider,
    .exclusion .workerContinuationUnavailable]

theorem AdmissionReason.mem_all (code : AdmissionReason) : code ∈ all := by
  rcases code with _ | _ | _ | _ | _ | _ | _ | _ | _ | code
  case exclusion =>
    cases code
    case nonPaid refusal => cases refusal <;> decide
    case outputLimit code => cases code <;> decide
    all_goals decide
  all_goals decide

/-- The texts of `AdmissionReason.all` increase, so no two codes share a text. -/
theorem AdmissionReason.text_injective : Function.Injective AdmissionReason.text := by
  have hchain : (all.map AdmissionReason.text).IsChain (· < ·) := by decide +kernel
  have hnodup : (all.map AdmissionReason.text).Nodup := hchain.pairwise.imp ne_of_lt
  intro a b h
  exact List.inj_on_of_nodup_map hnodup a.mem_all b.mem_all h

instance : LinearOrder AdmissionReason :=
  LinearOrder.lift' AdmissionReason.text AdmissionReason.text_injective

theorem TargetReason.text_injective : Function.Injective TargetReason.text := by
  intro a b h
  exact AdmissionReason.exclusion.inj (AdmissionReason.text_injective h)

instance : LinearOrder TargetReason :=
  LinearOrder.lift' TargetReason.text TargetReason.text_injective

/-- The code a selector exclusion shares with the target vocabulary, if any. -/
def SelectionReason.targetReason? : SelectionReason → Option TargetReason
  | .capacityUnavailable => some .capacityUnavailable
  | .capacityUnknownBlocked => some .capacityUnknownBlocked
  | .policyBlocked => some .policyBlocked
  | .reservationBlocked => some .reservationBlocked
  | .reservationUnknown => some .reservationUnknown
  | _ => none

/-! ### The compatibility matrix -/

/-- `COMPAT_FEATURES`. -/
inductive CompatFeature where
  | rolesHistory
  | streaming
  | toolCalls
  | toolResults
  | structuredOutput
  | reasoningControls
  | contextLimits
  | errorSemantics
  | usageReporting
  | cancellation
  deriving DecidableEq, Repr

def CompatFeature.text : CompatFeature → SafeId
  | .rolesHistory => .lit "roles_history"
  | .streaming => .lit "streaming"
  | .toolCalls => .lit "tool_calls"
  | .toolResults => .lit "tool_results"
  | .structuredOutput => .lit "structured_output"
  | .reasoningControls => .lit "reasoning_controls"
  | .contextLimits => .lit "context_limits"
  | .errorSemantics => .lit "error_semantics"
  | .usageReporting => .lit "usage_reporting"
  | .cancellation => .lit "cancellation"

theorem CompatFeature.text_injective : Function.Injective CompatFeature.text := by
  intro a b h
  cases a <;> cases b <;> first | rfl | exact absurd h (by decide +kernel)

instance : LinearOrder CompatFeature :=
  LinearOrder.lift' CompatFeature.text CompatFeature.text_injective

/-- `COMPAT_CELL_VALUES`. -/
inductive CellValue where
  | pass | passPartially | unsupported | unknown
  deriving DecidableEq, Repr

/-- A cell value that serves a request feature: `PASS` or `PARTIAL`. -/
def CellValue.serves : CellValue → Bool
  | .pass | .passPartially => true
  | .unsupported | .unknown => false

end ScarcityRouter
