import Mathlib.Data.Finset.Basic
import ScarcityRouter.Policy
import ScarcityRouter.ResourceState
import ScarcityRouter.Selector.Requirement

namespace ScarcityRouter

open ScarcityRouter.Lib

/-!
# Candidate evaluation

The frozen per-candidate pipeline of `selector.py`.

* `evaluateHardConstraints`, `evaluateCapabilitySufficiency` — the two model predicates.
* `CandidateEvaluation` — the per-candidate record; its `__post_init__` checks are proof fields.
* `evaluateCandidate` — execution eligibility, blackout, hard constraints, capability, capacity,
  reservations, happy hours: the first failing stage excludes.
* `evaluateCandidate_returns` — **the pipeline never raises** on unambiguous snapshots.
* `CandidateOf`, `evaluateCandidate_spec` — what every evaluation says about its catalog entry; in
  particular an eligible candidate satisfies both model predicates.
* `evaluateCandidate_eq_of_perm` — the evaluation does not depend on the snapshots' order.
-/

/-! ### Hard constraints -/

/-- `_HARD_CONSTRAINT_NAMES`. -/
inductive HardConstraintName where
  | minimumInputContextTokens
  | minimumOutputTokens
  | requiresToolUse
  | requiresVision
  | requiresReasoningMode
  | requiredProvider
  | requiredModel
  | requiredVariant
  | privacyConstraint
  deriving DecidableEq, Repr

/-- `_HARD_FAILURE_REASONS`. -/
inductive HardFailureReason where
  | unknown | insufficient | unsupported | mismatch | privacyUnknown | privacyUnsatisfied
  deriving DecidableEq, Repr

/-- One structured hard-constraint failure; the values are deterministic renderings. -/
@[ext] structure HardConstraintFailure where
  constraint : HardConstraintName
  reason : HardFailureReason
  requiredValue : String
  actualValue : Option String
  required_nonempty : requiredValue ≠ ""

instance : DecidableEq HardConstraintFailure := fun _ _ =>
  decidable_of_iff _ HardConstraintFailure.ext_iff.symm

/-- The numeric rule: an unknown allowance never passes a required minimum. -/
def numericFailure (name : HardConstraintName) (required actual : Option ℕ+) :
    List HardConstraintFailure :=
  match required with
  | none => []
  | some r =>
    match actual with
    | none => [⟨name, .unknown, Nat.repr r, none, Nat.repr_ne_empty⟩]
    | some a =>
      if a < r then [⟨name, .insufficient, Nat.repr r, some (Nat.repr a), Nat.repr_ne_empty⟩]
      else []

/-- The feature rule: `false` requirements pass, unknown support never passes. -/
def featureFailure (name : HardConstraintName) (required : Bool) (supported : Option Bool) :
    List HardConstraintFailure :=
  if !required then []
  else
    match supported with
    | none => [⟨name, .unknown, "true", none, by decide⟩]
    | some false => [⟨name, .unsupported, "true", some "false", by decide⟩]
    | some true => []

/-- The exact-identity rule. -/
def mismatchFailure (name : HardConstraintName) (required : Option SafeId) (actual : SafeId) :
    List HardConstraintFailure :=
  match required with
  | none => []
  | some r =>
    if actual = r then []
    else [⟨name, .mismatch, r.text, some actual.text, r.text_ne_empty⟩]

/-- The slash rendering of a model reference. -/
def ModelRef.text (ref : ModelRef) : String := ref.provider.text ++ ("/" ++ ref.model.text)

theorem ModelRef.text_ne_empty (ref : ModelRef) : ref.text ≠ "" := by
  intro h
  exact ref.provider.text_ne_empty (String.append_eq_empty_iff.mp h).1

/-- The required-model rule. -/
def modelFailure (required : Option ModelRef) (identity : ModelIdentity) :
    List HardConstraintFailure :=
  match required with
  | none => []
  | some r =>
    let actual : ModelRef := ⟨identity.provider, identity.model⟩
    if actual = r then []
    else [⟨.requiredModel, .mismatch, r.text, some actual.text, r.text_ne_empty⟩]

/-- The privacy rule: an exact required tag. -/
def privacyFailure (required : Option SafeId) (tags : Option (List SafeId)) :
    List HardConstraintFailure :=
  match required with
  | none => []
  | some r =>
    match tags with
    | none => [⟨.privacyConstraint, .privacyUnknown, r.text, none, r.text_ne_empty⟩]
    | some tags =>
      if r ∈ tags then []
      else [⟨.privacyConstraint, .privacyUnsatisfied, r.text,
        some (",".intercalate (tags.map SafeId.text)), r.text_ne_empty⟩]

/-- `evaluate_hard_constraints`. -/
def evaluateHardConstraints (hard : HardConstraints) (entry : ModelCatalogEntry) :
    List HardConstraintFailure :=
  let props := entry.hardProperties
  numericFailure .minimumInputContextTokens hard.minimumInputContextTokens
    props.inputContextTokens ++
  numericFailure .minimumOutputTokens hard.minimumOutputTokens props.outputTokens ++
  featureFailure .requiresToolUse hard.requiresToolUse props.supportsToolUse ++
  featureFailure .requiresVision hard.requiresVision props.supportsVision ++
  featureFailure .requiresReasoningMode hard.requiresReasoningMode props.supportsReasoningMode ++
  mismatchFailure .requiredProvider hard.requiredProvider entry.identity.provider ++
  modelFailure hard.requiredModel entry.identity ++
  mismatchFailure .requiredVariant hard.requiredVariant entry.identity.variant ++
  privacyFailure hard.privacyConstraint props.privacyTags

/-- The numeric rule passes exactly the known allowances that reach the minimum. -/
theorem numericFailure_eq_nil {name : HardConstraintName} {required actual : Option ℕ+} :
    numericFailure name required actual = [] ↔
      ∀ minimum ∈ required, ∃ amount ∈ actual, minimum ≤ amount := by
  unfold numericFailure
  cases required with
  | none => simp
  | some minimum =>
    cases actual with
    | none => simp
    | some amount => simp

/-- An entry that passes has the allowances that the constraints demand. -/
theorem allowances_of_evaluateHardConstraints {hard : HardConstraints} {entry : ModelCatalogEntry}
    (h : evaluateHardConstraints hard entry = []) :
    (∀ minimum ∈ hard.minimumInputContextTokens,
      ∃ amount ∈ entry.hardProperties.inputContextTokens, minimum ≤ amount) ∧
    (∀ minimum ∈ hard.minimumOutputTokens,
      ∃ amount ∈ entry.hardProperties.outputTokens, minimum ≤ amount) := by
  unfold evaluateHardConstraints at h
  simp only [List.append_eq_nil_iff, numericFailure_eq_nil] at h
  exact h.1.1.1.1.1.1.1

/-! ### Capability sufficiency -/

/-- `_CAPABILITY_FAILURE_REASONS`. -/
inductive CapabilityFailureReason where
  | unknown | belowMinimum
  deriving DecidableEq, Repr

/-- One structured capability-sufficiency failure. -/
structure CapabilityFailure where
  dimension : CapabilityDimension
  requiredRating : Rating
  actualRating : Option Rating
  reason : CapabilityFailureReason
  deriving DecidableEq

/-- The rule of one dimension. -/
def dimensionFailure (minima : CapabilityMinima) (capabilities : CapabilityAssessments)
    (d : CapabilityDimension) : Option CapabilityFailure :=
  match minima.get d with
  | none => none
  | some required =>
    match (capabilities.get d).effectiveRating with
    | none => some ⟨d, required, none, .unknown⟩
    | some effective =>
      if effective.val < required.val then some ⟨d, required, some effective, .belowMinimum⟩
      else none

/-- `evaluate_capability_sufficiency`. -/
def evaluateCapabilitySufficiency (minima : CapabilityMinima)
    (capabilities : CapabilityAssessments) : List CapabilityFailure :=
  CapabilityDimension.all.filterMap (dimensionFailure minima capabilities)

/-! ### The evaluation record -/

/-- `EXCLUSION_STAGES`, in stage-progress order. -/
inductive ExclusionStage where
  | execution | policyBlackout | hardConstraint | capability | capacity | reservation
  deriving DecidableEq, Repr

/-- `_STAGE_PROGRESS`. -/
def ExclusionStage.progress : ExclusionStage → ℕ
  | .execution => 0
  | .policyBlackout => 1
  | .hardConstraint => 2
  | .capability => 3
  | .capacity => 4
  | .reservation => 5

/-- `SELECTION_REASON_CODES`. -/
inductive SelectionReason where
  | selectedBalanced
  | noEligibleCandidate
  | selectedDegradedCapacity
  | executionAllowanceUnavailable
  | executionPolicyBlocked
  | executionUnverified
  | policyBlocked
  | hardConstraintFailed
  | capabilityFailed
  | capacityUnavailable
  | capacityUnknownBlocked
  | reservationBlocked
  | reservationUnknown
  | replenishmentRecoverable
  deriving DecidableEq, Repr

def SelectionReason.text : SelectionReason → SafeId
  | .selectedBalanced => .lit "selected_balanced"
  | .noEligibleCandidate => .lit "no_eligible_candidate"
  | .selectedDegradedCapacity => .lit "selected_degraded_capacity"
  | .executionAllowanceUnavailable => .lit "execution_allowance_unavailable"
  | .executionPolicyBlocked => .lit "execution_policy_blocked"
  | .executionUnverified => .lit "execution_unverified"
  | .policyBlocked => .lit "policy_blocked"
  | .hardConstraintFailed => .lit "hard_constraint_failed"
  | .capabilityFailed => .lit "capability_failed"
  | .capacityUnavailable => .lit "capacity_unavailable"
  | .capacityUnknownBlocked => .lit "capacity_unknown_blocked"
  | .reservationBlocked => .lit "reservation_blocked"
  | .reservationUnknown => .lit "reservation_unknown"
  | .replenishmentRecoverable => .lit "replenishment_recoverable"

theorem SelectionReason.text_injective : Function.Injective SelectionReason.text := by
  intro a b h
  cases a <;> cases b <;> first | rfl | exact absurd h (by decide +kernel)

/-- Codes compare as their texts do. -/
instance : LinearOrder SelectionReason :=
  LinearOrder.lift' SelectionReason.text SelectionReason.text_injective

/-- `_STAGE_REASONS`: the primary codes of each stage. -/
def ExclusionStage.reasons : ExclusionStage → List SelectionReason
  | .execution => [.executionAllowanceUnavailable, .executionPolicyBlocked, .executionUnverified]
  | .policyBlackout => [.policyBlocked]
  | .hardConstraint => [.hardConstraintFailed]
  | .capability => [.capabilityFailed]
  | .capacity => [.capacityUnavailable, .capacityUnknownBlocked]
  | .reservation => [.reservationBlocked, .reservationUnknown]

/-- `_ELIGIBILITY_STATE_PRIMARY`; an eligible report has no entry and never reaches it. -/
def EligibilityState.primary : EligibilityState → SelectionReason
  | .allowanceUnavailable => .executionAllowanceUnavailable
  | .policyBlocked => .executionPolicyBlocked
  | .unknown | .eligible => .executionUnverified

theorem EligibilityState.primary_mem (state : EligibilityState) :
    state.primary ∈ ExclusionStage.execution.reasons := by
  cases state <;> decide

/-- One candidate's replenishment observation with its policy decision. -/
structure ReplenishmentEvaluation where
  state : ReplenishmentState
  decision : ReplenishmentDecision
  deriving DecidableEq

/-- The observation is recoverable by a human action. -/
def ReplenishmentEvaluation.recoverable (e : ReplenishmentEvaluation) : Bool :=
  e.decision.recoverable && e.decision.humanActionRequired

/-- The structured deterministic per-candidate selector result.  The last seven fields are the
    cross-field checks of `CandidateEvaluation.__post_init__`. -/
structure CandidateEvaluation where
  identity : ModelIdentity
  displayName : String
  eligible : Bool
  reasoningEffort : Option ReasoningEffort
  degraded : Bool := false
  exclusionStage : Option ExclusionStage := none
  executionEligibility : Option ExecutionEligibility := none
  hardConstraintFailures : List HardConstraintFailure := []
  capabilityFailures : List CapabilityFailure := []
  blackoutDecision : Option BlackoutDecision := none
  happyHourDecision : Option HappyHourDecision := none
  scarcityAssessment : Option ScarcityAssessment := none
  unknownCapacityDecision : Option UnknownCapacityDecision := none
  reservationDecisions : List ReservationDecision := []
  replenishmentEvaluations : List ReplenishmentEvaluation := []
  reasonCodes : List SelectionReason := []
  shortWindowBelowFloor : Bool := false
  name_nonempty : displayName ≠ ""
  eligibility_stage : executionEligibility.isSome = true → exclusionStage = some .execution := by
    simp
  happy_preferred : ∀ d ∈ happyHourDecision, d.preferred = true ∧ eligible = true := by simp
  floor_evidence : shortWindowBelowFloor = true → eligible = true ∧
    ∃ s ∈ scarcityAssessment, s.state = .known ∧ s.tacticalWindow.isSome = true := by simp
  degraded_decision : degraded = true → ∃ d ∈ unknownCapacityDecision, d.degraded = true := by simp
  stage_iff : exclusionStage = none ↔ eligible = true := by simp
  eligible_clean : eligible = true →
    reasonCodes = [] ∧ hardConstraintFailures = [] ∧ capabilityFailures = [] := by simp
  excluded_codes : ∀ stage ∈ exclusionStage,
    StrictlySorted reasonCodes ∧ ∃ code ∈ reasonCodes, code ∈ stage.reasons := by simp

/-! ### The selector policy -/

/-- The selector-level policy wrapper; `balanced` is its only mode. -/
structure SelectorPolicy where
  resourcePolicy : UserPolicy
  preferenceOrder : List ModelIdentity := []
  shortWindowFloorPercent : Option Percent := none
  preference_unique : preferenceOrder.Nodup := by first | exact List.nodup_nil | decide
  deriving DecidableEq

/-- Two policies that differ in how their authors listed the rules. -/
structure SelectorPolicy.Reorders (p p' : SelectorPolicy) : Prop where
  resource : ∃ l l' : PolicyListing, l.Reorders l' ∧ l.policy = .ok p.resourcePolicy ∧
    l'.policy = .ok p'.resourcePolicy
  preference : p.preferenceOrder = p'.preferenceOrder
  floor : p.shortWindowFloorPercent = p'.shortWindowFloorPercent

theorem SelectorPolicy.Reorders.symm {p p' : SelectorPolicy} (h : p.Reorders p') :
    p'.Reorders p := by
  obtain ⟨⟨l, l', hrules, hl, hl'⟩, hpreference, hfloor⟩ := h
  exact ⟨⟨l', l, hrules.symm, hl', hl⟩, hpreference.symm, hfloor.symm⟩

/-- The stored policy forgets the listing. -/
theorem SelectorPolicy.Reorders.eq {p p' : SelectorPolicy} (h : p.Reorders p') : p' = p := by
  obtain ⟨⟨l, l', hrules, hl, hl'⟩, hpreference, hfloor⟩ := h
  obtain ⟨resource, order, floor, hunique⟩ := p
  obtain ⟨resource', order', floor', hunique'⟩ := p'
  obtain rfl : order = order' := hpreference
  obtain rfl : floor = floor' := hfloor
  obtain rfl : resource' = resource := Except.ok.inj (hl'.symm.trans (hrules.policy_eq_ok hl))
  rfl

/-- `resolved_short_window_floor`: `DEFAULT_SHORT_WINDOW_FLOOR_PERCENT` when omitted. -/
def SelectorPolicy.resolvedShortWindowFloor (policy : SelectorPolicy) : Percent :=
  policy.shortWindowFloorPercent.getD 10

/-! ### The candidate pipeline -/

/-- The execution-eligibility report that excludes a provider, if any. -/
def blockingReport (reports : List ExecutionEligibility) (provider : SafeId) :
    Option ExecutionEligibility :=
  (reports.find? (·.provider == provider)).filter (·.state ≠ .eligible)

/-- The replenishment observations of a provider under the policy's visibility mode. -/
def replenishmentEvaluations (policy : UserPolicy) (states : List ReplenishmentState)
    (provider : SafeId) : List ReplenishmentEvaluation :=
  (states.filter (·.provider = provider)).map fun state =>
    ⟨state, applyReplenishmentMode policy.replenishmentMode state⟩

/-- The reservation rules whose scope is one of the candidate's known bindings. -/
def applicableReservations (policy : UserPolicy) (bindings : Option (List CapacityScopeRef)) :
    List ReservationRule :=
  match bindings with
  | none => []
  | some bound => policy.reservations.filter (·.scope ∈ bound)

/-- The reservation stage's primary code: an undetermined rule dominates an ordinary block. -/
def reservationPrimary (decisions : List ReservationDecision) : Option SelectionReason :=
  if decisions.any (·.state = .unknown) then some .reservationUnknown
  else if decisions.any (·.blocked = some true) then some .reservationBlocked
  else none

theorem reservationPrimary_mem {decisions : List ReservationDecision} {code : SelectionReason}
    (h : reservationPrimary decisions = some code) :
    code ∈ ExclusionStage.reservation.reasons := by
  unfold reservationPrimary at h
  split_ifs at h <;> cases h <;> decide

/-- The capacity stage's codes; recoverability is reported only next to explicit exhaustion. -/
def capacityCodes (scarcity : ScarcityAssessment) (recoverable : Bool) : List SelectionReason :=
  if scarcity.state = .unavailable then
    if recoverable then [.capacityUnavailable, .replenishmentRecoverable]
    else [.capacityUnavailable]
  else [.capacityUnknownBlocked]

theorem capacityCodes_wellFormed (scarcity : ScarcityAssessment) (recoverable : Bool) :
    StrictlySorted (capacityCodes scarcity recoverable) ∧
      ∃ code ∈ capacityCodes scarcity recoverable, code ∈ ExclusionStage.capacity.reasons := by
  unfold capacityCodes
  split_ifs <;> decide

/-- The advisory short-window floor: a known tactical representative below the floor. -/
def belowShortWindowFloor (policy : SelectorPolicy) (scarcity : ScarcityAssessment) : Bool :=
  scarcity.state = .known && scarcity.tacticalWindow.any fun w =>
    w.remainingPercent < policy.resolvedShortWindowFloor

theorem belowShortWindowFloor_evidence {policy : SelectorPolicy} {scarcity : ScarcityAssessment}
    (h : belowShortWindowFloor policy scarcity = true) :
    scarcity.state = .known ∧ scarcity.tacticalWindow.isSome = true := by
  unfold belowShortWindowFloor at h
  obtain ⟨hstate, hany⟩ := Bool.and_eq_true_iff.mp h
  refine ⟨of_decide_eq_true hstate, ?_⟩
  cases hw : scarcity.tacticalWindow with
  | none =>
    rw [hw] at hany
    cases hany
  | some w => rfl

section Pipeline

variable [Platform]

/-- The happy-hour decision an eligible candidate carries. -/
def happyHourPreference (policy : UserPolicy) (identity : ModelIdentity) (evaluatedAt : Instant) :
    Option HappyHourDecision :=
  (some (evaluateHappyHours policy.happyHours identity evaluatedAt)).filter (·.preferred)

/-- The ranking-stage record of a candidate that passed every exclusion stage. -/
def eligibleCandidate (entry : ModelCatalogEntry) (policy : SelectorPolicy)
    (evaluatedAt : Instant) (scarcity : ScarcityAssessment)
    (reservations : List ReservationDecision)
    (replenishments : List ReplenishmentEvaluation) : CandidateEvaluation :=
  let unknown := applyUnknownCapacityMode policy.resourcePolicy.unknownCapacityMode scarcity
  { identity := entry.identity
    displayName := entry.displayName
    eligible := true
    reasoningEffort := entry.reasoningEffort
    degraded := unknown.degraded
    happyHourDecision := happyHourPreference policy.resourcePolicy entry.identity evaluatedAt
    scarcityAssessment := some scarcity
    unknownCapacityDecision := some unknown
    reservationDecisions := reservations
    replenishmentEvaluations := replenishments
    shortWindowBelowFloor := belowShortWindowFloor policy scarcity
    name_nonempty := entry.name_nonempty
    happy_preferred := fun d hd => ⟨(Option.filter_eq_some_iff.mp hd).2, rfl⟩
    floor_evidence := fun h => ⟨rfl, scarcity, rfl, belowShortWindowFloor_evidence h⟩
    degraded_decision := fun h => ⟨unknown, rfl, h⟩ }

/-- The capacity and reservation stages, after capability has passed. -/
def evaluateCapacity (entry : ModelCatalogEntry) (requirement : TaskRequirement)
    (policy : SelectorPolicy) (snapshots : List CapacitySnapshot)
    (states : List ReplenishmentState) (evaluatedAt : Instant) :
    Except ContractError CandidateEvaluation := do
  let scarcity ← assessScarcity entry snapshots
  let unknown := applyUnknownCapacityMode policy.resourcePolicy.unknownCapacityMode scarcity
  let replenishments :=
    replenishmentEvaluations policy.resourcePolicy states entry.identity.provider
  if unknown.eligibleByUnknownPolicy = false then
    return {
      identity := entry.identity
      displayName := entry.displayName
      eligible := false
      reasoningEffort := entry.reasoningEffort
      exclusionStage := some .capacity
      scarcityAssessment := some scarcity
      unknownCapacityDecision := some unknown
      replenishmentEvaluations := replenishments
      reasonCodes := capacityCodes scarcity (replenishments.any (·.recoverable))
      name_nonempty := entry.name_nonempty
      excluded_codes := fun stage hstage => by
        cases hstage
        exact capacityCodes_wellFormed _ _ }
  else do
    let reservations ← (applicableReservations policy.resourcePolicy entry.capacityBindings).mapM
      (evaluateReservation snapshots requirement.taskLevel)
    match hp : reservationPrimary reservations with
    | some code =>
      return {
        identity := entry.identity
        displayName := entry.displayName
        eligible := false
        reasoningEffort := entry.reasoningEffort
        exclusionStage := some .reservation
        scarcityAssessment := some scarcity
        unknownCapacityDecision := some unknown
        reservationDecisions := reservations
        replenishmentEvaluations := replenishments
        reasonCodes := [code]
        name_nonempty := entry.name_nonempty
        excluded_codes := fun stage hstage => by
          cases hstage
          exact ⟨List.pairwise_singleton _ _, code, List.mem_singleton_self _,
            reservationPrimary_mem hp⟩ }
    | none =>
      return eligibleCandidate entry policy evaluatedAt scarcity reservations replenishments

/-- `_evaluate_candidate`. -/
def evaluateCandidate (requirement : TaskRequirement) (policy : SelectorPolicy)
    (snapshots : List CapacitySnapshot) (states : List ReplenishmentState)
    (evaluatedAt : Instant) (reports : List ExecutionEligibility)
    (policyBlocked : Finset ModelIdentity) (entry : ModelCatalogEntry) :
    Except ContractError CandidateEvaluation :=
  match blockingReport reports entry.identity.provider with
  | some report =>
    .ok {
      identity := entry.identity
      displayName := entry.displayName
      eligible := false
      reasoningEffort := entry.reasoningEffort
      exclusionStage := some .execution
      executionEligibility := some report
      reasonCodes := [report.state.primary]
      name_nonempty := entry.name_nonempty
      excluded_codes := fun stage hstage => by
        cases hstage
        exact ⟨List.pairwise_singleton _ _, _, List.mem_singleton_self _, report.state.primary_mem⟩ }
  | none =>
    let blackout := evaluateBlackouts policy.resourcePolicy.blackouts entry.identity evaluatedAt
    let hardFailures := evaluateHardConstraints requirement.hardConstraints entry
    let capabilityFailures :=
      evaluateCapabilitySufficiency requirement.capabilityMinima entry.capabilities
    if entry.identity ∈ policyBlocked then
      .ok {
        identity := entry.identity
        displayName := entry.displayName
        eligible := false
        reasoningEffort := entry.reasoningEffort
        exclusionStage := some .policyBlackout
        reasonCodes := [.policyBlocked]
        name_nonempty := entry.name_nonempty
        excluded_codes := by rintro _ ⟨⟩; decide }
    else if blackout.blocked then
      .ok {
        identity := entry.identity
        displayName := entry.displayName
        eligible := false
        reasoningEffort := entry.reasoningEffort
        exclusionStage := some .policyBlackout
        blackoutDecision := some blackout
        reasonCodes := [.policyBlocked]
        name_nonempty := entry.name_nonempty
        excluded_codes := by rintro _ ⟨⟩; decide }
    else if hardFailures ≠ [] then
      .ok {
        identity := entry.identity
        displayName := entry.displayName
        eligible := false
        reasoningEffort := entry.reasoningEffort
        exclusionStage := some .hardConstraint
        hardConstraintFailures := hardFailures
        reasonCodes := [.hardConstraintFailed]
        name_nonempty := entry.name_nonempty
        excluded_codes := by rintro _ ⟨⟩; decide }
    else if capabilityFailures ≠ [] then
      .ok {
        identity := entry.identity
        displayName := entry.displayName
        eligible := false
        reasoningEffort := entry.reasoningEffort
        exclusionStage := some .capability
        capabilityFailures := capabilityFailures
        reasonCodes := [.capabilityFailed]
        name_nonempty := entry.name_nonempty
        excluded_codes := by rintro _ ⟨⟩; decide }
    else evaluateCapacity entry requirement policy snapshots states evaluatedAt

/-! ### What an evaluation says about its entry -/

/-- The evaluation belongs to the entry: same identity, same configured effort, and eligible only
    when the entry satisfies the requirement and no policy blocks it. -/
structure CandidateOf (requirement : TaskRequirement) (policyBlocked : Finset ModelIdentity)
    (entry : ModelCatalogEntry) (evaluation : CandidateEvaluation) : Prop where
  identity_eq : evaluation.identity = entry.identity
  effort_eq : evaluation.reasoningEffort = entry.reasoningEffort
  eligible_hard : evaluation.eligible = true →
    evaluateHardConstraints requirement.hardConstraints entry = []
  eligible_capability : evaluation.eligible = true →
    evaluateCapabilitySufficiency requirement.capabilityMinima entry.capabilities = []
  eligible_unblocked : evaluation.eligible = true → entry.identity ∉ policyBlocked

/-- The identity and effort of a capacity-stage evaluation. -/
private theorem evaluateCapacity_entry {entry : ModelCatalogEntry} {requirement : TaskRequirement}
    {policy : SelectorPolicy} {snapshots : List CapacitySnapshot}
    {states : List ReplenishmentState} {evaluatedAt : Instant} {evaluation : CandidateEvaluation}
    (h : evaluateCapacity entry requirement policy snapshots states evaluatedAt = .ok evaluation) :
    evaluation.identity = entry.identity ∧ evaluation.reasoningEffort = entry.reasoningEffort := by
  unfold evaluateCapacity at h
  obtain ⟨scarcity, _, h⟩ := bind_eq_ok.mp h
  dsimp only at h
  split at h
  · cases h
    exact ⟨rfl, rfl⟩
  · obtain ⟨reservations, _, h⟩ := bind_eq_ok.mp h
    split at h <;> cases h <;> exact ⟨rfl, rfl⟩

/-- Every evaluation of an entry belongs to it. -/
theorem evaluateCandidate_spec {requirement : TaskRequirement} {policy : SelectorPolicy}
    {snapshots : List CapacitySnapshot} {states : List ReplenishmentState}
    {evaluatedAt : Instant} {reports : List ExecutionEligibility}
    {policyBlocked : Finset ModelIdentity} {entry : ModelCatalogEntry}
    {evaluation : CandidateEvaluation}
    (h : evaluateCandidate requirement policy snapshots states evaluatedAt reports policyBlocked
      entry = .ok evaluation) : CandidateOf requirement policyBlocked entry evaluation := by
  unfold evaluateCandidate at h
  split at h
  · cases h
    exact ⟨rfl, rfl, nofun, nofun, nofun⟩
  · dsimp only at h
    split_ifs at h with hpolicy hblackout hhard hcapability
    · cases h
      exact ⟨rfl, rfl, nofun, nofun, nofun⟩
    · cases h
      exact ⟨rfl, rfl, nofun, nofun, nofun⟩
    · cases h
      exact ⟨rfl, rfl, nofun, nofun, nofun⟩
    · cases h
      exact ⟨rfl, rfl, nofun, nofun, nofun⟩
    · obtain ⟨hident, heffort⟩ := evaluateCapacity_entry h
      exact ⟨hident, heffort, fun _ => not_not.mp hhard, fun _ => not_not.mp hcapability,
        fun _ => hpolicy⟩

/-- **The candidate pipeline never raises** on unambiguous snapshots. -/
theorem evaluateCandidate_returns {snapshots : List CapacitySnapshot}
    (unique : UniqueProviders snapshots) (requirement : TaskRequirement)
    (policy : SelectorPolicy) (states : List ReplenishmentState) (evaluatedAt : Instant)
    (reports : List ExecutionEligibility) (policyBlocked : Finset ModelIdentity)
    (entry : ModelCatalogEntry) :
    Returns (evaluateCandidate requirement policy snapshots states evaluatedAt reports
      policyBlocked entry) := by
  unfold evaluateCandidate
  split
  · exact returns_ok _
  · dsimp only
    split_ifs
    · exact returns_ok _
    · exact returns_ok _
    · exact returns_ok _
    · exact returns_ok _
    · unfold evaluateCapacity
      obtain ⟨scarcity, hscarcity⟩ := (assessScarcity_returns_iff entry snapshots).mpr unique
      refine returns_bind.mpr ⟨scarcity, hscarcity, ?_⟩
      dsimp only
      split
      · exact returns_ok _
      · have hreservations := mapM_eq_ok_map fun rule
            (_ : rule ∈ applicableReservations policy.resourcePolicy entry.capacityBindings) =>
          evaluateReservation_eq_ok unique requirement.taskLevel rule
        refine returns_bind.mpr ⟨_, hreservations, ?_⟩
        split <;> exact returns_ok _

/-- **Order independence.** The evaluation does not depend on the order of the snapshots. -/
theorem evaluateCandidate_eq_of_perm {xs ys : List CapacitySnapshot} (h : xs.Perm ys)
    (unique : UniqueProviders xs) (requirement : TaskRequirement) (policy : SelectorPolicy)
    (states : List ReplenishmentState) (evaluatedAt : Instant)
    (reports : List ExecutionEligibility) (policyBlocked : Finset ModelIdentity)
    (entry : ModelCatalogEntry) :
    evaluateCandidate requirement policy xs states evaluatedAt reports policyBlocked entry =
      evaluateCandidate requirement policy ys states evaluatedAt reports policyBlocked entry := by
  have hy : UniqueProviders ys := (h.map _).nodup_iff.mp unique
  have hreservation : evaluateReservation xs requirement.taskLevel =
      evaluateReservation ys requirement.taskLevel := by
    funext rule
    rw [evaluateReservation_eq_ok unique, evaluateReservation_eq_ok hy,
      reservationDecision_eq_of_perm h unique]
  unfold evaluateCandidate evaluateCapacity
  rw [assessScarcity_eq_of_perm entry h unique, hreservation]

end Pipeline

end ScarcityRouter
