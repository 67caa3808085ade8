import ScarcityRouter.Gateway.Admission
import ScarcityRouter.Gateway.EffectiveLimits
import ScarcityRouter.Gateway.Terminality

namespace ScarcityRouter

open ScarcityRouter.Lib

/-!
# One execution

`execute` of `gateway_coordinator.py`: a tool result resumes its continuation, any other request
runs one lifecycle, and every way out writes the audit record.

* `ExecutionSurroundings` — everything that an execution gets from outside the coordinator.
* `detectContinuation`, `runContinuation` — the requests that carry a tool result.
* `dispatch`, `runLifecycle` — the other ones, over the stages of `Gateway.Admission`.
* `handleFailure`, `execute` — the `try` statement with its record.
-/

/-! ### Surroundings -/

/-- What a dispatch finds outside the coordinator, from the re-check of the current authority to
    what the adapter returns. -/
structure DispatchSurroundings where
  authorized : Except StageFailure Unit := .ok ()
  /-- The name and the version of the channel's adapter. -/
  adapter : Except StageFailure (SafeId × BoundedText 128)
  /-- Whether the requested effort agrees with the configured one. -/
  effort : Except StageFailure Unit := .ok ()
  /-- Everything that the adapter's registrar and other threads do to the registry meanwhile. -/
  meanwhile : ContinuationRegistry → ContinuationRegistry := id
  /-- How often the adapter registers a suspension. -/
  registered : ℕ := 0
  /-- The cancel event is set when the adapter returns. -/
  disconnects : Bool := false
  result : Except RaisedError AdapterResult

/-- What a lifecycle finds outside the coordinator, in the order of its stages. -/
structure LifecycleSurroundings where
  resolved : Except StageFailure Unit := .ok ()
  routing : RoutingSurroundings
  /-- The gate of the structural features that routing does not carry. -/
  gated : RouteTarget → Except StageFailure Unit := fun _ => .ok ()
  catalog : ModelCatalog
  limits : TokenLimits := {}
  snapshot : RegistrySnapshot
  reserved : Except StageFailure Unit := .ok ()
  dispatch : DispatchSurroundings

/-- What one execution finds outside the coordinator. -/
structure ExecutionSurroundings where
  /-- The published view, the clock and the request's identifier. -/
  opened : Except StageFailure (Instant × SafeId)
  /-- The gateway has a continuation registry. -/
  continuations : Bool := true
  /-- The clock at the claim. -/
  claimedAt : Instant
  /-- How the cancel callback of an expired record ends. -/
  expiredCallback : Except RaisedError Unit := .ok ()
  resumption : ResumptionSurroundings
  lifecycle : LifecycleSurroundings
  audit : AuditSurroundings

/-! ### Tool results -/

/-- `_CONTINUATION_TOKEN_PREFIX`. -/
def continuationTokenPrefix : Text := Text.ofString "srct-"

namespace ContinuationRegistry

/-- `detect`, of the text of a message. -/
def detectText (r : ContinuationRegistry) (token : Text) : Option PendingContinuation :=
  (r.records.find? (Text.ofString ·.1 = token)).map Prod.snd

/-- `was_terminal_for`, of the text of a message. -/
def wasTerminalText (r : ContinuationRegistry) (token : Text) (clientId : String) : Bool :=
  r.tombstones.any fun tombstone => Text.ofString tombstone.1 = token && tombstone.2 = clientId

end ContinuationRegistry

/-- The token that a final tool message cites. -/
def ChatCompletionRequest.toolResultToken (request : ChatCompletionRequest) : Option Text :=
  request.messages.getLast?.bind fun final =>
    if final.role = .lit "tool" then final.toolCallId.map (·.1) else none

theorem codeSafe_continuationError (rejection : ContinuationRejection) :
    (continuationError rejection).CodeSafe := by
  cases rejection <;> decide +kernel

/-- `_detect_continuation`. -/
def detectContinuation (registry : ContinuationRegistry) (request : ChatCompletionRequest)
    (clientId : SafeId) : Except StageFailure (Option PendingContinuation) :=
  match request.toolResultToken with
  | none => .ok none
  | some token =>
    match registry.detectText token with
    | some candidate => .ok (some candidate)
    | none =>
      if registry.wasTerminalText token clientId.text then
        .error (.refused (continuationError .alreadyResolved) (codeSafe_continuationError _))
      else if continuationTokenPrefix.isPrefixOf token then
        .error (.refused (continuationError .notFound) (codeSafe_continuationError _))
      else .ok none

section Run

variable [FloatFormat] [Sha256]

/-- `_run_continuation`. -/
def runContinuation (x : ExecutionSurroundings) (started : Instant)
    (request : ChatCompletionRequest) (clientId : SafeId) (record : PendingContinuation) :
    Coordinator CompletionOutcome := do
  if record.clientId = clientId.text then
    let content ← Stateful.raise (validateContinuationRequest record request)
    let (registry, claim) :=
      (← get).registry.claimSection record.continuationToken clientId.text x.claimedAt
    Coordinator.updateRegistry fun _ => registry
    match claim with
    | .rejected reason => throw (.gateway (continuationError reason))
    | .expired expired => do
      if expired.hasCancelCallback then
        Coordinator.emit (.cancelled expired)
        Coordinator.external x.expiredCallback
      throw (.gateway (continuationError .expired))
    | .claimed claimed => resumeClaimed x.resumption started request.model claimed content
  else throw (.gateway (continuationError .notFound))

end Run

/-! ### Lifecycles -/

/-- `_dispatch`. -/
def dispatch (x : DispatchSurroundings) (started : Instant) (model : Text) (target : RouteTarget) :
    Coordinator CompletionOutcome := do
  Coordinator.stage x.authorized
  Coordinator.update ({ · with hasCallFacts := true })
  let adapter ← Coordinator.stage x.adapter
  Coordinator.update ({ · with
    adapterName := some adapter.1
    adapterVersion := some adapter.2 })
  Coordinator.stage x.effort
  Coordinator.update fun life => { life with executedTarget := life.selectedTarget }
  Coordinator.emit (.dispatched (auditTarget target))
  Coordinator.updateRegistry x.meanwhile
  Coordinator.update fun life => { life with
    flowNotes := life.flowNotes ++ .replicate x.registered (.lit "suspended_for_client_tool")
    cancelled := x.disconnects }
  let result ← Coordinator.external x.result
  Coordinator.update ({ · with calls := result.calls })
  let decisionId := (← get).life.decisionId
  concludeResult started model decisionId result

/-- The two amounts that the limits are about; a zero exceeds none of them. -/
def RequestCapabilities.demand (caps : RequestCapabilities) : TokenDemand where
  estimatedInputTokens := caps.estimatedInputTokens.bind positive?
  requestedOutputTokens := caps.requestedOutputTokens.bind positive?

/-- A stage that raises typed refusals only. -/
def gatewayStage {α : Type} (outcome : Except GatewayError α) : Coordinator α :=
  Stateful.raise (outcome.mapError .gateway)

/-- `_run_lifecycle`. -/
def runLifecycle [RouteHost] (x : LifecycleSurroundings) (started : Instant)
    (request : ChatCompletionRequest) : Coordinator CompletionOutcome := do
  let caps := request.capabilities.demand
  gatewayStage (enforceRequestLimits x.limits caps)
  Coordinator.stage x.resolved
  let target ← admitTarget x.routing request.executionRequirements.isSome
  Coordinator.stage (x.gated target)
  let normalized ← gatewayStage (enforceEffectiveLimits x.catalog x.limits x.snapshot target caps)
  Coordinator.update fun life => { life with
    limitNotes := life.limitNotes ++ if normalized then [.lit "output_limit_normalized"] else [] }
  Coordinator.stage x.reserved
  dispatch x.dispatch started request.model target

/-! ### The record -/

/-- How a failure is recorded, and what the client gets. -/
structure FailureReport where
  status : AuditStatus
  code : String
  raised : ExecutionException

/-- What a timeout becomes. -/
def timeLimitError : GatewayError :=
  .timeout "the execution exceeded its time limit" (some "execution_time_limit_exceeded")

/-- What an ambiguous end becomes. -/
def ambiguousError : GatewayError :=
  .api ("the execution ended in an ambiguous state and was not retried; backend usage may have " ++
    "been consumed") (some "ambiguous_execution_state") 500

/-- What a definitive failure becomes. -/
def backendFailureError : GatewayError :=
  .api "the selected backend failed to execute the request" (some "backend_failure") 502

/-- The `except` clauses of `execute`. -/
def failureReport (executed : Bool) : ExecutionException → FailureReport
  | .clientDisconnected => ⟨.cancelled, "client_disconnected", .clientDisconnected⟩
  | .outputRejected => ⟨.failed, "response_mapping_failed", .outputRejected⟩
  | .adapterTimeout => ⟨.timedOut, "execution_time_limit_exceeded", .gateway timeLimitError⟩
  | .adapterAmbiguous => ⟨.failedAmbiguous, "ambiguous_execution_state", .gateway ambiguousError⟩
  | .adapterPermanent => ⟨.failed, "backend_failure", .gateway backendFailureError⟩
  | .gateway error =>
    if executed then ⟨.failed, error.code.getD "failed", .gateway error⟩
    else ⟨.rejected, error.code.getD "rejected", .gateway error⟩
  | e => ⟨if executed then .failed else .rejected, "unexpected_error", e⟩

/-- One `except` clause: the record, then what is raised. -/
def handleFailure {α : Type} (x : AuditSurroundings) (e : ExecutionException) : Coordinator α := do
  let report := failureReport (← get).life.executedTarget.isSome e
  writeAudit x report.status report.code
  throw report.raised

section Execute

variable [RouteHost] [FloatFormat] [Sha256]

/-- The request's continuation, or its lifecycle. -/
def runRequest (x : ExecutionSurroundings) (started : Instant) (request : ChatCompletionRequest)
    (clientId : SafeId) : Coordinator CompletionOutcome := do
  let registry := (← get).registry
  let continuation ← Coordinator.stage
    (if x.continuations then detectContinuation registry request clientId else .ok none)
  match continuation with
  | some record => runContinuation x started request clientId record
  | none => runLifecycle x.lifecycle started request

/-- The `try` statement of `execute`. -/
def attemptExecution (x : ExecutionSurroundings) (started : Instant)
    (request : ChatCompletionRequest) (clientId : SafeId) : Coordinator CompletionOutcome :=
  tryCatch
    (do
      let outcome ← runRequest x started request clientId
      writeAudit x.audit .completed "completed"
      return outcome)
    (handleFailure x.audit)

/-- `execute`: an execution that cannot be opened records nothing. -/
def execute (x : ExecutionSurroundings) (request : ChatCompletionRequest) (clientId : SafeId) :
    Coordinator CompletionOutcome := do
  let (started, requestId) ← Coordinator.stage x.opened
  Coordinator.update fun _ => { requestId, clientId, startedAt := canonicalInstant started }
  attemptExecution x started request clientId

end Execute

end ScarcityRouter
