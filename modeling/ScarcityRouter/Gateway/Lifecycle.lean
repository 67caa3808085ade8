import ScarcityRouter.Gateway.Audit
import ScarcityRouter.Gateway.Continuation
import ScarcityRouter.Lib.Effects

namespace ScarcityRouter

open ScarcityRouter.Lib

/-!
# The lifecycle of one execution

`gateway_coordinator.py`: the bookkeeping of one execution and the writing of its audit record.

* `LifecycleState`, `GatewayState` — the bookkeeping, and the registry, the trail and the adapter
  calls next to it.
* `Coordinator` — the programs over that state.
* `writeAudit` — `_write_audit`; `leaves_writeAudit` says when it appends its record.
-/

/-- `_LifecycleState`: what the audit record is made of.  `cancelled` is the event of the execution
    context, `hasCallFacts` says that an entry for the call facts was set. -/
structure LifecycleState where
  requestId : SafeId
  clientId : SafeId
  startedAt : Timestamp
  decisionId : Option SafeId := none
  routingProfile : Option SafeId := none
  routingPolicyVersion : Option ℕ+ := none
  registryRevision : Option ℕ := none
  registryGeneratedAt : Option Timestamp := none
  selectedTarget : Option ExecutedTarget := none
  executedTarget : Option ExecutedTarget := none
  adapterName : Option SafeId := none
  adapterVersion : Option (BoundedText 128) := none
  cancelled : Bool := false
  calls : List CallObservation := []
  hasCallFacts : Bool := false
  limitNotes : List SafeId := []
  flowNotes : List SafeId := []

/-- What an execution does to the backends. -/
inductive BackendEvent where
  /-- `adapter.execute` is called with a call for the target. -/
  | dispatched (target : ExecutedTarget)
  /-- A claimed continuation is resumed; it was dispatched to the target. -/
  | resumed (target : Option ExecutedTarget)
  /-- `adapter.deliver_tool_result` is called for the record, with the tool's text. -/
  | delivered (record : PendingContinuation) (content : Text)
  /-- The cancel callback of the record is called. -/
  | cancelled (record : PendingContinuation)
  deriving DecidableEq

/-- The bookkeeping, the continuation registry, the audit trail, and the backend events so far. -/
structure GatewayState where
  life : LifecycleState
  registry : ContinuationRegistry
  trail : List AuditRecord := []
  events : List BackendEvent := []

/-- The programs of the coordinator. -/
abbrev Coordinator (α : Type) : Type := Stateful ExecutionException GatewayState α

namespace Coordinator

/-- An assignment to fields of the bookkeeping. -/
def update (f : LifecycleState → LifecycleState) : Coordinator Unit :=
  modify fun s => { s with life := f s.life }

/-- A section of the registry. -/
def updateRegistry (f : ContinuationRegistry → ContinuationRegistry) : Coordinator Unit :=
  modify fun s => { s with registry := f s.registry }

/-- A backend event. -/
def emit (event : BackendEvent) : Coordinator Unit :=
  modify fun s => { s with events := s.events ++ [event] }

/-- A stage that reaches no execution. -/
def stage {α : Type} (outcome : Except StageFailure α) : Coordinator α :=
  raise (outcome.mapError (·.exception))
where
  raise {α : Type} (x : Except ExecutionException α) : Coordinator α := Stateful.raise x

/-- An exception of code outside the coordinator. -/
def external {α : Type} (outcome : Except RaisedError α) : Coordinator α :=
  Stateful.raise (outcome.mapError (·.1))

section Rules

variable {α : Type} {E : ExecutionException → GatewayState → Prop} {s : GatewayState}

@[simp] theorem leaves_update {V : Unit → GatewayState → Prop}
    {f : LifecycleState → LifecycleState} :
    Leaves E V (update f) s ↔ V () { s with life := f s.life } := Iff.rfl

@[simp] theorem leaves_updateRegistry {V : Unit → GatewayState → Prop}
    {f : ContinuationRegistry → ContinuationRegistry} :
    Leaves E V (updateRegistry f) s ↔ V () { s with registry := f s.registry } := Iff.rfl

@[simp] theorem leaves_emit {V : Unit → GatewayState → Prop} {event : BackendEvent} :
    Leaves E V (emit event) s ↔ V () { s with events := s.events ++ [event] } := Iff.rfl

@[simp] theorem leaves_stage {V : α → GatewayState → Prop} {outcome : Except StageFailure α} :
    Leaves E V (stage outcome) s ↔ (∀ a, outcome = .ok a → V a s) ∧
      ∀ failure, outcome = .error failure → E failure.exception s := by
  cases outcome <;> simp [stage, stage.raise, Except.mapError]

@[simp] theorem leaves_external {V : α → GatewayState → Prop} {outcome : Except RaisedError α} :
    Leaves E V (external outcome) s ↔ (∀ a, outcome = .ok a → V a s) ∧
      ∀ e, outcome = .error e → E e.1 s := by
  cases outcome <;> simp [external, Except.mapError]

end Rules

end Coordinator

/-! ### Results -/

/-- What follows a result whose calls are recorded. -/
def concludeResult (started : Instant) (model : Text) (decisionId : Option SafeId)
    (result : AdapterResult) : Coordinator CompletionOutcome := do
  match result.status with
  | .cancelled =>
    if (← get).life.cancelled then throw .clientDisconnected
    else throw .adapterTimeout
  | .failed => throw .adapterPermanent
  | .completed =>
    match result.message, result.finishReason with
    | some message, some reason =>
      Stateful.raise (CompletionOutcome.make (← get).life.requestId started model message reason
        (aggregateUsage result.calls) decisionId)
    | _, _ => throw .adapterPermanent

/-- The outcome answers the request and names the decision. -/
structure CompletionOutcome.Answers (outcome : CompletionOutcome) (life : LifecycleState)
    (decisionId : Option SafeId) : Prop where
  request : outcome.requestId = life.requestId
  decision : outcome.decisionId = decisionId

/-- An outcome is made of what it represents. -/
theorem leaves_outcome {E : ExecutionException → GatewayState → Prop}
    {V : CompletionOutcome → GatewayState → Prop} {s : GatewayState} {life : LifecycleState}
    {started : Instant} {model : Text} {message : AdapterMessage} {reason : FinishReason}
    {usage : UsageAccounting} {decisionId : Option SafeId}
    (hV : ∀ outcome, outcome.Answers life decisionId → V outcome s)
    (hE : ¬ Representable started model → E .unexpected s) :
    Leaves E V (Stateful.raise (CompletionOutcome.make life.requestId started model message reason
      usage decisionId)) s := by
  unfold CompletionOutcome.make
  by_cases h : Representable started model
  · rw [dif_pos h]
    exact hV _ ⟨rfl, rfl⟩
  · rw [dif_neg h]
    exact hE h

/-- **A completed result is an outcome, and any other one an exception.** -/
theorem leaves_concludeResult {E : ExecutionException → GatewayState → Prop}
    {V : CompletionOutcome → GatewayState → Prop} {s : GatewayState} {started : Instant}
    {model : Text} {decisionId : Option SafeId} {result : AdapterResult}
    (hV : ∀ outcome, result.status = .completed → outcome.Answers s.life decisionId →
      V outcome s)
    (hE : ∀ e, e.Constructed → (Representable started model → result.status ≠ .completed) →
      E e s) :
    Leaves E V (concludeResult started model decisionId result) s := by
  unfold concludeResult
  cases hstatus : result.status with
  | cancelled =>
    dsimp only
    rw [leaves_bind, leaves_get]
    have hcancelled : Representable started model → result.status ≠ .completed := by
      rw [hstatus]
      exact fun _ => nofun
    split
    · exact hE .clientDisconnected trivial hcancelled
    · exact hE .adapterTimeout trivial hcancelled
  | failed =>
    apply hE .adapterPermanent trivial
    rw [hstatus]
    exact fun _ => nofun
  | completed =>
    obtain ⟨message, hmessage⟩ := Option.ne_none_iff_exists'.mp (result.carries_message hstatus)
    obtain ⟨reason, hreason⟩ := Option.ne_none_iff_exists'.mp (result.carries_reason hstatus)
    rw [hmessage, hreason]
    dsimp only
    rw [leaves_bind, leaves_get]
    apply leaves_outcome
    · exact fun outcome => hV outcome hstatus
    · exact fun hnot => hE .unexpected trivial fun h => absurd h hnot

/-! ### The record -/

/-- What the writing of a record reads from outside: the clock, and the sink of call facts, if
    there is one, with whether it fails. -/
structure AuditSurroundings where
  endedAt : Instant
  callFactSink : Option Bool := none

namespace LifecycleState

/-- The fields of the record. -/
def auditContent (life : LifecycleState) (endedAt : Instant) (resultStatus : AuditStatus) :
    AuditContent :=
  let totals := usageTotals life.calls
  { schemaVersion := expectedSchema life.selectedTarget
    requestId := life.requestId
    clientId := life.clientId
    decisionId := life.decisionId
    routingProfile := life.routingProfile
    routingPolicyVersion := life.routingPolicyVersion
    registryRevision := life.registryRevision
    registryGeneratedAt := life.registryGeneratedAt
    selectedTarget := life.selectedTarget
    executedTarget := life.executedTarget
    adapterName := life.adapterName
    adapterVersion := life.adapterVersion
    startedAt := life.startedAt
    endedAt := canonicalInstant endedAt
    resultStatus
    reasonCodes := []
    providerReportedUsage := totals.1
    estimatedUsage := totals.2
    callCount := life.calls.length }

/-- A sink of call facts that fails leaves a note. -/
def noteCallFacts (life : LifecycleState) (callFactSink : Option Bool) : LifecycleState :=
  if life.hasCallFacts && callFactSink = some true then
    { life with flowNotes := life.flowNotes ++ [.lit "source_call_facts_unavailable"] }
  else life

/-- The bookkeeping agrees with itself: an executed target was selected, and calls were made on
    one. -/
structure Accountable (life : LifecycleState) : Prop where
  selected : life.executedTarget ≠ none → life.selectedTarget ≠ none
  addressed : life.calls ≠ [] → life.executedTarget ≠ none

/-- The status can be recorded about the bookkeeping. -/
structure Admits (life : LifecycleState) (resultStatus : AuditStatus) : Prop
    extends life.Accountable where
  dispatched : resultStatus.dispatched = true → life.executedTarget ≠ none
  called : resultStatus = .completed → life.calls ≠ []

@[simp] theorem auditContent_noteCallFacts {life : LifecycleState} {callFactSink : Option Bool}
    {endedAt : Instant} {resultStatus : AuditStatus} :
    (life.noteCallFacts callFactSink).auditContent endedAt resultStatus =
      life.auditContent endedAt resultStatus := by
  unfold noteCallFacts
  split <;> rfl

/-- A record can be constructed exactly of a status that the bookkeeping admits. -/
theorem wellFormed_auditContent {life : LifecycleState} {endedAt : Instant}
    {resultStatus : AuditStatus} :
    (life.auditContent endedAt resultStatus).WellFormed ↔ life.Admits resultStatus := by
  constructor
  · intro h
    refine ⟨⟨h.selected, fun hcalls => h.addressed (List.length_pos_iff.mpr hcalls)⟩,
      fun hstatus hnone => ?_, fun hstatus hnil => h.called hstatus (by simp [auditContent, hnil])⟩
    have hfalse := h.dispatched hnone
    change resultStatus.dispatched = false at hfalse
    rw [hstatus] at hfalse
    cases hfalse
  · intro h
    refine ⟨rfl, h.selected, fun hnone => ?_, fun hstatus hzero => ?_, fun hpos => ?_⟩
    · exact Bool.eq_false_iff.mpr fun hstatus => h.dispatched hstatus hnone
    · exact h.called hstatus (List.length_eq_zero_iff.mp hzero)
    · exact h.addressed (List.length_pos_iff.mp hpos)

end LifecycleState

/-- `_write_audit`: a record that its constructor refuses is a `ValueError`. -/
def writeAudit (surroundings : AuditSurroundings) (resultStatus : AuditStatus) (code : String) :
    Coordinator Unit := do
  Coordinator.update (·.noteCallFacts surroundings.callFactSink)
  let life := (← get).life
  let record ← Stateful.raise <| (AuditRecord.make (life.auditContent surroundings.endedAt
    resultStatus) (code :: (life.limitNotes ++ life.flowNotes).map SafeId.text)).mapError
      fun _ => .unexpected
  modify fun s => { s with trail := s.trail ++ [record] }

/-- The record that is written about the bookkeeping. -/
structure Records (life : LifecycleState) (resultStatus : AuditStatus) (code : String)
    (record : AuditRecord) : Prop where
  status : record.resultStatus = resultStatus
  reason : code ∈ record.reasonCodes.map SafeId.text
  request : record.requestId = life.requestId
  client : record.clientId = life.clientId
  decision : record.decisionId = life.decisionId
  selected : record.selectedTarget = life.selectedTarget
  executed : record.executedTarget = life.executedTarget
  calls : record.callCount = life.calls.length

/-- **A status that the bookkeeping admits is recorded, and any other one is a `ValueError` that
    records nothing.** -/
theorem leaves_writeAudit {E : ExecutionException → GatewayState → Prop}
    {V : Unit → GatewayState → Prop} {surroundings : AuditSurroundings}
    {resultStatus : AuditStatus} {code : String} {s : GatewayState}
    (hcode : matchesSafeId code.toList = true)
    (hwritten : s.life.Admits resultStatus → ∀ record, Records s.life resultStatus code record →
      V () { s with
        life := s.life.noteCallFacts surroundings.callFactSink
        trail := s.trail ++ [record] })
    (hrefused : ¬ s.life.Admits resultStatus →
      E .unexpected { s with life := s.life.noteCallFacts surroundings.callFactSink }) :
    Leaves E V (writeAudit surroundings resultStatus code) s := by
  unfold writeAudit
  simp only [leaves_bind, Coordinator.leaves_update, leaves_get, leaves_raise, leaves_modify,
    LifecycleState.auditContent_noteCallFacts]
  generalize hcodes : (⟨code, hcode⟩ : SafeId) ::
    ((s.life.noteCallFacts surroundings.callFactSink).limitNotes ++
      (s.life.noteCallFacts surroundings.callFactSink).flowNotes) = codes
  have htexts : code :: ((s.life.noteCallFacts surroundings.callFactSink).limitNotes ++
      (s.life.noteCallFacts surroundings.callFactSink).flowNotes).map SafeId.text =
      codes.map SafeId.text := by
    rw [← hcodes]
    rfl
  rw [htexts]
  cases hresult : AuditRecord.make (s.life.auditContent surroundings.endedAt resultStatus)
      (codes.map SafeId.text) with
  | ok record =>
    obtain ⟨hcontent, hwell⟩ := AuditRecord.make_eq_ok.mp hresult
    refine ⟨fun made hmade => ?_, fun _ he => by cases he⟩
    obtain rfl := Except.ok.inj hmade
    apply hwritten (LifecycleState.wellFormed_auditContent.mp hwell)
    constructor
    case reason =>
      rw [hcontent, List.mem_map, ← hcodes]
      exact ⟨⟨code, hcode⟩, mem_sortedSet.mpr List.mem_cons_self, rfl⟩
    all_goals
      rw [hcontent]
      rfl
  | error fault =>
    refine ⟨fun _ hmade => (by cases hmade), fun e he => ?_⟩
    obtain rfl := Except.error.inj he
    apply hrefused
    intro hadmits
    obtain ⟨record, hok⟩ := AuditRecord.returns_make
      (LifecycleState.wellFormed_auditContent.mpr hadmits) codes
    rw [hresult] at hok
    cases hok

end ScarcityRouter
