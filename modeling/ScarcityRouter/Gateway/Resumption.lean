import ScarcityRouter.Gateway.ContinuationRequest
import ScarcityRouter.Gateway.Lifecycle

namespace ScarcityRouter

open ScarcityRouter.Lib

/-!
# Resuming a claimed continuation

`gateway_coordinator.py`: what `_run_continuation` does once its claim has succeeded.

* `SuspendedTurn`, `ResumptionSurroundings` — the rest of the record, and everything that the
  method gets from outside: clocks, snapshots, the adapter, and what other threads do meanwhile.
* `closeContinuation`, `recheckAuthority`, `deliverToolResult`, `resumeClaimed` — the method.
-/

/-! ### Surroundings -/

/-- The members of a record that only its resumption reads: the identity of the original dispatch.
    They are copied from the bookkeeping of that dispatch. -/
structure SuspendedTurn where
  resourceId : SafeId
  decisionId : Option SafeId := none
  selectedTarget : Option ExecutedTarget := none
  executedTarget : Option ExecutedTarget := none
  adapterName : Option SafeId := none
  adapterVersion : Option (BoundedText 128) := none
  registryRevision : Option ℕ := none
  registryGeneratedAt : Option Timestamp := none
  selected : executedTarget ≠ none → selectedTarget ≠ none

/-- What one resumption finds outside the coordinator. -/
structure ResumptionSurroundings where
  turn : PendingContinuation → SuspendedTurn
  /-- The clock at the check of the remaining lifetime. -/
  resumedAt : Instant
  /-- Everything that the adapter's registrar and other threads do to the registry before this
      method closes its continuation. -/
  meanwhile : ContinuationRegistry → ContinuationRegistry
  keeps_keyed : ∀ r : ContinuationRegistry, r.Keyed → (meanwhile r).Keyed
  /-- The record's adapter, or the one of its channel, can continue. -/
  capable : Bool := true
  /-- The registry read of the authority re-check. -/
  snapshot : Except StageFailure RegistrySnapshot
  /-- The checks of the current grant, of the binding and of the strict evidence. -/
  authorized : Except StageFailure Unit := .ok ()
  /-- How often the adapter's run registers a further suspension. -/
  registered : ℕ := 0
  /-- The cancel event is set when the adapter returns. -/
  disconnects : Bool := false
  delivery : Except RaisedError Delivery
  /-- The open call of a further suspension, with the clock's readings. -/
  openCall : CallObservation

/-! ### The method -/

/-- `_continuation_error`. -/
def continuationError : ContinuationRejection → GatewayError
  | .expired => .notFound
      "the continuation's lifetime has expired; restart the task with a fresh request"
      (some "continuation_expired")
  | .alreadyResolved => .conflict "this continuation was already resolved by one tool result"
      (some "continuation_already_resolved")
  | .notFound => .notFound "no pending continuation exists for this tool result"
      (some "continuation_not_found")

/-- The terminal states for which `_close_continuation` cancels the backend. -/
def ContinuationState.cancelsBackend : ContinuationState → Bool
  | .cancelled | .expired => true
  | _ => false

/-- `_close_continuation`, with the `close` of the registry: the callback runs after a removal, and
    an exception of it is dropped. -/
def closeContinuation (record : PendingContinuation) (state : ContinuationState) :
    Coordinator Unit := do
  if !state.terminal then throw .unexpected
  let (registry, removed) := (← get).registry.closeSection record.continuationToken
  Coordinator.updateRegistry fun _ => registry
  match removed with
  | none => pure ()
  | some removed =>
    Coordinator.updateRegistry (·.setState removed.identity state)
    if state.cancelsBackend && removed.hasCancelCallback then
      Coordinator.emit (.cancelled removed)

/-- The current entry is still the one of the original target. -/
def bindingKept (entry : ResourceRegistryEntry) (record : PendingContinuation)
    (turn : SuspendedTurn) : Bool :=
  turn.executedTarget.any fun original =>
    entry.identity.channel.text.text = record.channel &&
      entry.identity.provider = original.provider && entry.identity.model = original.model &&
      entry.identity.variant.all (· = original.variant)

/-- The target of the suspended execution is no longer registered. -/
def targetGone : GatewayError :=
  .notFound "the suspended execution's target no longer exists" (some "continuation_not_found")

/-- The resource is bound to another target than the suspended execution's. -/
def bindingChanged : GatewayError :=
  .permission "the suspended execution's original target binding has changed"
    (some "unauthorized_target")

theorem codeSafe_targetGone : targetGone.CodeSafe := by decide +kernel

theorem codeSafe_bindingChanged : bindingChanged.CodeSafe := by decide +kernel

/-- `_recheck_continuation_authority`. -/
def recheckAuthority (x : ResumptionSurroundings) (record : PendingContinuation) :
    Except StageFailure Unit := do
  let snapshot ← x.snapshot
  match snapshot.entries.find? (·.identity.resourceId = (x.turn record).resourceId) with
  | none => .error (.refused targetGone codeSafe_targetGone)
  | some entry =>
    check (bindingKept entry record (x.turn record) = true)
      (.refused bindingChanged codeSafe_bindingChanged)
    x.authorized

/-- The body of the `try` statement: the re-check and the delivery. -/
def deliverToolResult (x : ResumptionSurroundings) (record : PendingContinuation)
    (content : Text) : Coordinator Delivery := do
  Coordinator.stage (recheckAuthority x record)
  Coordinator.update ({ · with hasCallFacts := true })
  Coordinator.emit (.delivered record content)
  Coordinator.update fun life => { life with
    flowNotes := life.flowNotes ++ .replicate x.registered (.lit "suspended_for_client_tool")
    cancelled := x.disconnects }
  Coordinator.external x.delivery

/-- The `except` clauses: how an exception closes the continuation. -/
def closedAs : ExecutionException → ContinuationState
  | .clientDisconnected | .outputRejected => .cancelled
  | .continuationLost => .lost
  | .adapterAmbiguous => .lost
  | .adapterTimeout => .expired
  | .adapterPermanent => .lost
  | .gateway _ => .cancelled
  | .unexpected => .lost

/-- What the `except` clauses raise: a loss before the delivery is a typed failure. -/
def reraised : ExecutionException → ExecutionException
  | .continuationLost => .gateway (.notFound ("the suspended execution was lost before the tool " ++
      "result was delivered; nothing was consumed") (some "continuation_not_found"))
  | e => e

/-- The message of a further suspension. -/
def suspensionMessage (suspension : ToolSuspension) : AdapterMessage where
  role := .lit "assistant"
  content := suspension.content.map fun content => ⟨content.1, content.2.2⟩
  toolCalls := [⟨suspension.continuationToken, suspension.toolName, suspension.arguments⟩]

/-- Close the continuation and raise. -/
def failClosed {α : Type} (record : PendingContinuation) (state : ContinuationState)
    (e : ExecutionException) : Coordinator α := do
  closeContinuation record state
  throw e

/-- The `try` statement of the method. -/
def deliverOrClose (x : ResumptionSurroundings) (record : PendingContinuation) (content : Text) :
    Coordinator Delivery :=
  tryCatch (deliverToolResult x record content) fun e => failClosed record (closedAs e) (reraised e)

/-- What follows a delivery that returned. -/
def concludeDelivery (x : ResumptionSurroundings) (started : Instant) (model : Text)
    (record : PendingContinuation) : Delivery → Coordinator CompletionOutcome
  | .suspended suspension => do
    closeContinuation record .completed
    Coordinator.update ({ · with calls := [x.openCall] })
    Stateful.raise (CompletionOutcome.make (← get).life.requestId started model
      (suspensionMessage suspension) .toolCalls unavailableUsage (x.turn record).decisionId)
  | .ended result => do
    Coordinator.update ({ · with calls := result.calls })
    match result.status with
    | .cancelled => closeContinuation record .cancelled
    | .failed => closeContinuation record .lost
    | .completed => closeContinuation record .completed
    concludeResult started model (x.turn record).decisionId result

/-- The identity of the original dispatch, which the record of the resumption repeats. -/
def SuspendedTurn.restore (turn : SuspendedTurn) (life : LifecycleState) : LifecycleState :=
  { life with
    decisionId := turn.decisionId
    selectedTarget := turn.selectedTarget
    executedTarget := turn.executedTarget
    adapterName := turn.adapterName
    adapterVersion := turn.adapterVersion
    registryRevision := turn.registryRevision
    registryGeneratedAt := turn.registryGeneratedAt }

/-- The method within the record's lifetime. -/
def resumeTurn (x : ResumptionSurroundings) (started : Instant) (model : Text)
    (record : PendingContinuation) (content : Text) : Coordinator CompletionOutcome := do
  Coordinator.update (x.turn record).restore
  Coordinator.emit (.resumed (x.turn record).executedTarget)
  if x.capable then
    Coordinator.update fun life => { life with
      flowNotes := life.flowNotes ++ [.lit "continuation_resumed"] }
    if record.hasHandle then
      let delivery ← deliverOrClose x record content
      concludeDelivery x started model record delivery
    else
      failClosed record .lost
        (.gateway (.api "the continuation record is unusable" (some "invalid_state") 500))
  else
    failClosed record .lost
      (.gateway (.api ("no continuation-capable adapter is configured for the suspended " ++
        "execution's channel") (some "adapter_unavailable") 503))

/-- `_run_continuation` once the claim has succeeded. -/
def resumeClaimed (x : ResumptionSurroundings) (started : Instant) (model : Text)
    (record : PendingContinuation) (content : Text) : Coordinator CompletionOutcome := do
  Coordinator.updateRegistry x.meanwhile
  if record.deadline - x.resumedAt ≤ 0 then
    failClosed record .expired (.gateway (continuationError .expired))
  else resumeTurn x started model record content

end ScarcityRouter
