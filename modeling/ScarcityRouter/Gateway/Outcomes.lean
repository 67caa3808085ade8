import Mathlib.Algebra.Order.Ring.Int
import ScarcityRouter.Gateway.Adapters
import ScarcityRouter.Gateway.Errors

namespace ScarcityRouter

open ScarcityRouter.Lib

/-!
# Outcomes of a dispatch

`gateway_adapters.py` and the usage records of `gateway_contracts.py`: what an adapter returns, and
what a client gets.

* `AdapterResult`, `ToolSuspension` — the two results of a dispatch.
* `usageTotals`, `aggregateUsage` — one account of the usage of all calls.
* `CompletionOutcome` — the success of one execution.
* `RaisedError` — an exception that can really be raised: a typed failure has a safe code.
-/

/-! ### Usage -/

/-- `UsageTokens.__add__`. -/
def UsageTokens.add (a b : UsageTokens) : UsageTokens where
  promptTokens := ⟨a.promptTokens + b.promptTokens, add_nonneg a.promptTokens.2 b.promptTokens.2⟩
  completionTokens := ⟨a.completionTokens + b.completionTokens,
    add_nonneg a.completionTokens.2 b.completionTokens.2⟩

/-- One more usage in a total, if it was observed. -/
def addUsage (total usage : Option UsageTokens) : Option UsageTokens :=
  match usage with
  | none => total
  | some usage => some (total.elim usage (·.add usage))

/-- `_usage_totals`. -/
def usageTotals (calls : List CallObservation) : Option UsageTokens × Option UsageTokens :=
  calls.foldl (fun totals call => (addUsage totals.1 call.providerReportedUsage,
    addUsage totals.2 call.estimatedUsage)) (none, none)

/-- `USAGE_SOURCES`. -/
inductive UsageSource where
  | providerReported | estimated | mixed | unavailable
  deriving DecidableEq

/-- Usage across the internal calls of one request: each source carries its own totals. -/
structure UsageAccounting where
  usageSource : UsageSource
  providerReportedUsage : Option UsageTokens := none
  estimatedUsage : Option UsageTokens := none
  unavailable_empty : usageSource = .unavailable →
    providerReportedUsage = none ∧ estimatedUsage = none
  reported_total : usageSource = .providerReported ∨ usageSource = .mixed →
    providerReportedUsage ≠ none
  estimated_total : usageSource = .estimated ∨ usageSource = .mixed → estimatedUsage ≠ none

/-- `_unavailable_usage`: the account of a leg whose provider call is still open. -/
def unavailableUsage : UsageAccounting where
  usageSource := .unavailable
  unavailable_empty := fun _ => ⟨rfl, rfl⟩
  reported_total := by decide
  estimated_total := by decide

/-- `_aggregate_usage`. -/
def aggregateUsage (calls : List CallObservation) : UsageAccounting :=
  match usageTotals calls with
  | (some reported, some estimated) =>
    { usageSource := .mixed
      providerReportedUsage := some reported
      estimatedUsage := some estimated
      unavailable_empty := nofun
      reported_total := by simp
      estimated_total := by simp }
  | (some reported, none) =>
    { usageSource := .providerReported
      providerReportedUsage := some reported
      unavailable_empty := nofun
      reported_total := by simp
      estimated_total := by decide }
  | (none, some estimated) =>
    { usageSource := .estimated
      estimatedUsage := some estimated
      unavailable_empty := nofun
      reported_total := by decide
      estimated_total := by simp }
  | (none, none) => unavailableUsage

/-! ### Results -/

/-- `RESULT_STATUSES` of the adapters. -/
inductive ResultStatus where
  | completed | cancelled | failed
  deriving DecidableEq

/-- The outcome of one dispatch: the calls by index, each index once, and for a completed one its
    message and its finish reason. -/
structure AdapterResult where
  status : ResultStatus
  calls : List CallObservation
  message : Option AdapterMessage := none
  finishReason : Option FinishReason := none
  ordered : calls.Pairwise (·.callIndex < ·.callIndex)
  carries_message : status = .completed → message ≠ none
  carries_reason : status = .completed → finishReason ≠ none

/-- A new suspension for a client's tool, during a continuation. -/
structure ToolSuspension where
  continuationToken : BoundedText 256
  toolName : BoundedText 256
  arguments : BoundedText 1048576
  content : Option (BoundedText 16777216) := none

/-- What the delivery of a tool result returns. -/
inductive Delivery where
  | suspended (suspension : ToolSuspension)
  | ended (result : AdapterResult)

/-- The success of one execution. -/
structure CompletionOutcome where
  requestId : SafeId
  created : ℕ
  modelEcho : BoundedText 512
  message : AdapterMessage
  finishReason : FinishReason
  usage : UsageAccounting
  decisionId : Option SafeId := none

/-- `int(started.timestamp())`; the clock's epoch is the one of `datetime.timestamp`. -/
def unixSeconds (started : Instant) : ℤ := started.tdiv 1000000

/-- The instant and the model name are ones that a `CompletionOutcome` represents. -/
structure Representable (started : Instant) (model : Text) : Prop where
  created : 0 ≤ unixSeconds started
  nonempty : model ≠ []
  bounded : model.length ≤ 512

instance (started : Instant) (model : Text) : Decidable (Representable started model) :=
  decidable_of_iff (0 ≤ unixSeconds started ∧ model ≠ [] ∧ model.length ≤ 512)
    ⟨fun h => ⟨h.1, h.2.1, h.2.2⟩, fun h => ⟨h.created, h.nonempty, h.bounded⟩⟩

/-- The constructor of `CompletionOutcome`. -/
def CompletionOutcome.make (requestId : SafeId) (started : Instant) (modelEcho : Text)
    (message : AdapterMessage) (finishReason : FinishReason) (usage : UsageAccounting)
    (decisionId : Option SafeId) : Except ExecutionException CompletionOutcome :=
  if h : Representable started modelEcho then
    .ok
      { requestId
        created := (unixSeconds started).toNat
        modelEcho := ⟨modelEcho, h.nonempty, h.bounded⟩
        message
        finishReason
        usage
        decisionId }
  else .error .unexpected

/-! ### Exceptions -/

/-- `GatewayError.__post_init__`, of the code. -/
def GatewayError.CodeSafe (error : GatewayError) : Prop :=
  ∀ code ∈ error.code, matchesSafeId code.toList = true

instance (error : GatewayError) : Decidable error.CodeSafe :=
  decidable_of_iff (error.code.all fun code => matchesSafeId code.toList) <| by
    unfold GatewayError.CodeSafe
    cases error.code <;> simp

/-- An exception that was constructed. -/
def ExecutionException.Constructed : ExecutionException → Prop
  | .gateway error => error.CodeSafe
  | _ => True

/-- An exception as code outside the coordinator raises it. -/
abbrev RaisedError : Type := { e : ExecutionException // e.Constructed }

/-- How a stage that reaches no execution fails: by a typed refusal, or by an error that no clause
    names. -/
inductive StageFailure where
  | refused (error : GatewayError) (code_safe : error.CodeSafe)
  | unexpected

namespace StageFailure

def exception : StageFailure → ExecutionException
  | .refused error _ => .gateway error
  | .unexpected => .unexpected

/-- The error of a stage is a typed refusal or an unexpected one. -/
def Stages : ExecutionException → Prop
  | .gateway error => error.CodeSafe
  | .unexpected => True
  | _ => False

theorem stages_exception (failure : StageFailure) : Stages failure.exception := by
  cases failure with
  | refused error code_safe => exact code_safe
  | unexpected => trivial

theorem constructed_of_stages {e : ExecutionException} (h : Stages e) : e.Constructed := by
  cases e with
  | gateway error => exact h
  | _ => trivial

end StageFailure

end ScarcityRouter
