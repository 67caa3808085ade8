import ScarcityRouter.Gateway.Execution

namespace ScarcityRouter

open ScarcityRouter.Lib

/-!
# Audit completeness

Every execution that begins leaves exactly one audit record, and the record tells how it ended.

* `Runs` — what one execution did so far, before its record.
* `Fails`, `Concludes` — how its work ends; `leaves_runRequest` proves one of them.
* `Audited` — what the record tells.
* `execute_audited` — **every execution is audited.**
-/

/-! ### What an execution does before its record -/

/-- The trail is as it was, the events are new, and the bookkeeping names the target that they
    address. -/
structure Runs (before after : GatewayState) (events : List BackendEvent) : Prop where
  trail : after.trail = before.trail
  appended : after.events = before.events ++ events
  request : after.life.requestId = before.life.requestId
  client : after.life.clientId = before.life.clientId
  accountable : after.life.Accountable
  executed : ∀ target, after.life.executedTarget = some target ↔
    .dispatched target ∈ events ∨ .resumed (some target) ∈ events
  delivered : ∀ record content, .delivered record content ∈ events →
    after.life.executedTarget ≠ none

/-- An adapter was called, and it completed or suspended its turn with these calls. -/
def ExecutionSurroundings.CompletesWith (x : ExecutionSurroundings) (events : List BackendEvent)
    (calls : List CallObservation) : Prop :=
  (∃ target result, .dispatched target ∈ events ∧ x.lifecycle.dispatch.result = .ok result ∧
      result.status = .completed ∧ result.calls = calls) ∨
    ∃ record content delivery, .delivered record content ∈ events ∧
      x.resumption.delivery = .ok delivery ∧ delivery.Succeeds ∧
      delivery.calls x.resumption.openCall = calls

/-- The work failed: only a stage fails without a target, and no adapter completed. -/
structure Fails (x : ExecutionSurroundings) (started : Instant) (model : Text)
    (before : GatewayState) (e : ExecutionException) (after : GatewayState)
    (events : List BackendEvent) : Prop extends Runs before after events where
  constructed : e.Constructed
  addressed : ¬ StageFailure.Stages e → after.life.executedTarget ≠ none
  incomplete : Representable started model → ∀ calls, ¬ x.CompletesWith events calls

/-- The work succeeded: an adapter completed with the calls that are recorded. -/
structure Concludes (x : ExecutionSurroundings) (before : GatewayState)
    (outcome : CompletionOutcome) (after : GatewayState) (events : List BackendEvent) : Prop
    extends Runs before after events where
  answers : outcome.Answers after.life after.life.decisionId
  addressed : after.life.executedTarget ≠ none
  completes : ∀ calls, x.CompletesWith events calls ↔ calls = after.life.calls

/-- The bookkeeping of an execution that has addressed nothing. -/
structure Fresh (s : GatewayState) : Prop where
  executed : s.life.executedTarget = none
  calls : s.life.calls = []

section Stages

variable {x : ExecutionSurroundings} {started : Instant} {model : Text} {before s : GatewayState}

/-- Before a dispatch nothing is addressed. -/
theorem Prepares.runs (hfresh : Fresh before) (h : Prepares before s) : Runs before s [] where
  trail := h.trail
  appended := by simp [h.events]
  request := h.request
  client := h.client
  accountable :=
    ⟨fun hne => absurd (h.executed.trans hfresh.executed) hne,
      fun hne => absurd (h.calls.trans hfresh.calls) hne⟩
  executed target := by simp [h.executed, hfresh.executed]
  delivered _ _ hmem := nomatch hmem

/-- A stage fails before anything is addressed. -/
theorem Prepares.fails (hfresh : Fresh before) (h : Prepares before s) {e : ExecutionException}
    (he : StageFailure.Stages e) : Fails x started model before e s [] where
  toRuns := h.runs hfresh
  constructed := StageFailure.constructed_of_stages he
  addressed hnot := absurd he hnot
  incomplete := by
    rintro - calls (⟨target, result, hmem, -⟩ | ⟨record, content, delivery, hmem, -⟩) <;> cases hmem

/-- A refusal that leaves the bookkeeping as it was. -/
theorem Fails.refused {after : GatewayState} {events : List BackendEvent}
    {e : ExecutionException} (hfresh : Fresh before) (he : StageFailure.Stages e)
    (htrail : after.trail = before.trail) (happended : after.events = before.events ++ events)
    (hlife : after.life = before.life)
    (hcancels : ∀ event ∈ events, ∃ removed, event = .cancelled removed) :
    Fails x started model before e after events where
  trail := htrail
  appended := happended
  request := by rw [hlife]
  client := by rw [hlife]
  accountable := by
    rw [hlife]
    exact ⟨fun hne => absurd hfresh.executed hne, fun hne => absurd hfresh.calls hne⟩
  executed target := by
    rw [hlife, hfresh.executed]
    refine iff_of_false nofun ?_
    rintro (hmem | hmem) <;> obtain ⟨removed, heq⟩ := hcancels _ hmem <;> cases heq
  delivered other text hmem := by
    obtain ⟨removed, heq⟩ := hcancels _ hmem
    cases heq
  constructed := StageFailure.constructed_of_stages he
  addressed hnot := absurd he hnot
  incomplete := by
    rintro - calls (⟨target, result, hmem, -⟩ | ⟨other, text, delivery, hmem, -⟩) <;>
      obtain ⟨removed, heq⟩ := hcancels _ hmem <;> cases heq

end Stages

/-! ### The dispatch -/

section Dispatch

variable {x : ExecutionSurroundings} {started : Instant} {model : Text} {before s : GatewayState}
  {target : RouteTarget}

/-- After the call of an adapter, with the calls as they are recorded. -/
theorem runs_of_dispatched {after : GatewayState} (htrail : after.trail = before.trail)
    (hevents : after.events = before.events ++ [.dispatched (auditTarget target)])
    (hrequest : after.life.requestId = before.life.requestId)
    (hclient : after.life.clientId = before.life.clientId)
    (hselected : after.life.selectedTarget = some (auditTarget target))
    (hexecuted : after.life.executedTarget = some (auditTarget target)) :
    Runs before after [.dispatched (auditTarget target)] where
  trail := htrail
  appended := hevents
  request := hrequest
  client := hclient
  accountable := by
    constructor <;> intro
    · simp [hselected]
    · simp [hexecuted]
  executed other := by
    rw [hexecuted]
    simp [eq_comm]
  delivered := by simp

/-- The calls of a dispatch are the ones of its result. -/
theorem completesWith_dispatched {calls : List CallObservation} {result : AdapterResult}
    (hresult : x.lifecycle.dispatch.result = .ok result) :
    x.CompletesWith [.dispatched (auditTarget target)] calls ↔
      result.status = .completed ∧ result.calls = calls := by
  unfold ExecutionSurroundings.CompletesWith
  constructor
  · rintro (⟨_, found, -, hfound, hcompleted⟩ | ⟨_, _, _, hmem, -⟩)
    · obtain rfl := Except.ok.inj (hresult.symm.trans hfound)
      exact hcompleted
    · simp at hmem
  · rintro ⟨hstatus, hcalls⟩
    exact .inl ⟨_, result, List.mem_singleton_self _, hresult, hstatus, hcalls⟩

/-- **A dispatch** addresses its target, and succeeds with a completed result. -/
theorem leaves_dispatch (hfresh : Fresh before) (hprepares : Prepares before s)
    (hselected : s.life.selectedTarget = some (auditTarget target)) :
    Leaves (fun e after => ∃ events, Fails x started model before e after events)
      (fun outcome after => ∃ events, Concludes x before outcome after events)
      (dispatch x.lifecycle.dispatch started model target) s := by
  have hstage : ∀ {failure : StageFailure} {s' : GatewayState}, Prepares before s' →
      ∃ events, Fails x started model before failure.exception s' events :=
    fun {failure _} h => ⟨[], h.fails hfresh failure.stages_exception⟩
  have hkept : ∀ {life : LifecycleState}, life.requestId = s.life.requestId →
      life.clientId = s.life.clientId → life.executedTarget = s.life.executedTarget →
      life.calls = s.life.calls → Prepares before { s with life } :=
    fun hrequest hclient hexecuted hcalls =>
      hprepares.trans ⟨rfl, rfl, rfl, hrequest, hclient, hexecuted, hcalls⟩
  unfold dispatch
  rw [leaves_bind, Coordinator.leaves_stage]
  refine ⟨fun _ _ => ?_, fun failure _ => hstage hprepares⟩
  rw [leaves_bind, Coordinator.leaves_update, leaves_bind, Coordinator.leaves_stage]
  refine ⟨fun adapter _ => ?_, fun failure _ => hstage (hkept rfl rfl rfl rfl)⟩
  rw [leaves_bind, Coordinator.leaves_update, leaves_bind, Coordinator.leaves_stage]
  refine ⟨fun _ _ => ?_, fun failure _ => hstage (hkept rfl rfl rfl rfl)⟩
  simp only [leaves_bind, Coordinator.leaves_update, Coordinator.leaves_emit,
    Coordinator.leaves_updateRegistry, Coordinator.leaves_external]
  -- From here on the target is addressed.
  have hevents : s.events ++ [.dispatched (auditTarget target)] =
      before.events ++ [.dispatched (auditTarget target)] := by rw [hprepares.events]
  constructor
  · intro result hresult
    rw [leaves_get]
    apply leaves_concludeResult
    · intro outcome hstatus hanswers
      exact ⟨_, runs_of_dispatched hprepares.trail hevents hprepares.request hprepares.client
        hselected hselected, hanswers, by simp [hselected], fun calls => by
          rw [completesWith_dispatched hresult, and_iff_right hstatus, eq_comm]⟩
    · intro e he hstatus
      refine ⟨_, runs_of_dispatched hprepares.trail hevents hprepares.request hprepares.client
        hselected hselected, he, fun _ => by simp [hselected], fun hrepresentable calls => ?_⟩
      rw [completesWith_dispatched hresult]
      exact fun h => hstatus hrepresentable h.1
  · intro e herror
    refine ⟨_, runs_of_dispatched hprepares.trail hevents hprepares.request hprepares.client
      hselected hselected, e.2, fun _ => by simp [hselected], ?_⟩
    rintro - calls (⟨_, found, -, hfound, -⟩ | ⟨_, _, _, hmem, -⟩)
    · rw [herror] at hfound
      cases hfound
    · simp at hmem

end Dispatch

/-! ### Lifecycles -/

/-- The codes that the stages of a lifecycle name in place. -/
def stageCodes : List String :=
  ["context_length_exceeded", "output_limit_exceeded", "output_limit_unknown",
    "output_limit_unenforceable", "tool_result_too_large", "continuation_mismatch",
    "continuation_expired", "continuation_already_resolved", "continuation_not_found"]

/-- They are identifiers. -/
theorem matchesSafeId_stageCodes :
    ∀ code ∈ stageCodes, matchesSafeId code.toList = true := by
  decide +kernel

theorem codeSafe_of_stageCode {error : GatewayError} {code : String} (h : error.code = some code)
    (hcode : code ∈ stageCodes) : error.CodeSafe := by
  intro found hfound
  obtain rfl := Option.some.inj (h.symm.trans hfound)
  exact matchesSafeId_stageCodes _ hcode

theorem codeSafe_enforceRequestLimits {limits : TokenLimits} {caps : TokenDemand} :
    Ends GatewayError.CodeSafe (fun _ => True) (enforceRequestLimits limits caps) := by
  unfold enforceRequestLimits
  simp only [ends_bind, ends_check]
  refine ⟨fun _ => ⟨fun _ => trivial, fun _ => ?_⟩, fun _ => ?_⟩
  · exact codeSafe_of_stageCode rfl (by simp [stageCodes])
  · exact codeSafe_of_stageCode rfl (by simp [stageCodes])

theorem codeSafe_enforceEffectiveLimits {catalog : ModelCatalog} {limits : TokenLimits}
    {snapshot : RegistrySnapshot} {target : RouteTarget} {caps : TokenDemand} :
    Ends GatewayError.CodeSafe (fun _ => True)
      (enforceEffectiveLimits catalog limits snapshot target caps) := by
  unfold enforceEffectiveLimits
  simp only [ends_bind, ends_check]
  refine ⟨fun _ => ?_, fun _ => ?_⟩
  · split
    · exact trivial
    · split
      · rename_i code _
        show GatewayError.CodeSafe (limitRejection code)
        cases code <;> exact codeSafe_of_stageCode rfl (by simp [stageCodes])
      · exact trivial
  · exact codeSafe_of_stageCode rfl (by simp [stageCodes])

/-- A stage of typed refusals. -/
theorem leaves_gatewayStage {α : Type} {E : ExecutionException → GatewayState → Prop}
    {V : α → GatewayState → Prop} {s : GatewayState} {outcome : Except GatewayError α}
    (hsafe : Ends GatewayError.CodeSafe (fun _ => True) outcome) (hV : ∀ a, V a s)
    (hE : ∀ e, StageFailure.Stages e → E e s) : Leaves E V (gatewayStage outcome) s := by
  cases outcome with
  | ok a => exact hV a
  | error error => exact hE (.gateway error) hsafe

section Lifecycle

variable [RouteHost] {x : ExecutionSurroundings} {started : Instant}
  {request : ChatCompletionRequest} {before : GatewayState}

/-- **A lifecycle** fails in a stage, or dispatches. -/
theorem leaves_runLifecycle (hfresh : Fresh before) :
    Leaves (fun e after => ∃ events, Fails x started request.model before e after events)
      (fun outcome after => ∃ events, Concludes x before outcome after events)
      (runLifecycle x.lifecycle started request) before := by
  have hfails : ∀ {e : ExecutionException} {s : GatewayState}, Prepares before s →
      StageFailure.Stages e → ∃ events, Fails x started request.model before e s events :=
    fun h he => ⟨[], h.fails hfresh he⟩
  unfold runLifecycle
  rw [leaves_bind]
  apply leaves_gatewayStage codeSafe_enforceRequestLimits _ fun e he => hfails (.refl _) he
  intro _
  rw [leaves_bind, Coordinator.leaves_stage]
  refine ⟨fun _ _ => ?_, fun failure _ => hfails (.refl _) failure.stages_exception⟩
  rw [leaves_bind]
  refine leaves_admit.mono (fun e s h => hfails h.2 h.1) ?_
  rintro target s ⟨hprepares, hselected⟩
  rw [leaves_bind, Coordinator.leaves_stage]
  refine ⟨fun _ _ => ?_, fun failure _ => hfails hprepares failure.stages_exception⟩
  rw [leaves_bind]
  apply leaves_gatewayStage codeSafe_enforceEffectiveLimits _ fun e he => hfails hprepares he
  intro normalized
  rw [leaves_bind, Coordinator.leaves_update, leaves_bind, Coordinator.leaves_stage]
  have hnoted : Prepares before { s with
      life := { s.life with
        limitNotes := s.life.limitNotes ++
          if normalized then [.lit "output_limit_normalized"] else [] } } :=
    hprepares.trans ⟨rfl, rfl, rfl, rfl, rfl, rfl, rfl⟩
  exact ⟨fun _ _ => leaves_dispatch hfresh hnoted hselected,
    fun failure _ => hfails hnoted failure.stages_exception⟩

end Lifecycle

/-! ### Continuations -/

section Validation

variable [FloatFormat] [Sha256] {record : PendingContinuation} {request : ChatCompletionRequest}

omit [Sha256] in
theorem stages_canonicalJson (value : Json) :
    Ends StageFailure.Stages (fun _ => True) (canonicalJson value) := by
  unfold canonicalJson
  split <;> trivial

omit [FloatFormat] [Sha256] in
theorem stages_continuationMismatch (message param : String) :
    StageFailure.Stages (continuationMismatch message param) :=
  codeSafe_of_stageCode rfl (by simp [stageCodes])

theorem stages_checkControls :
    Ends StageFailure.Stages (fun _ => True) (checkControls record request) := by
  have hdigest : Ends StageFailure.Stages (fun _ => True) (requirementsDigest request) := by
    unfold requirementsDigest ExecutableRequirements.fingerprint
    split
    · trivial
    · exact ends_map.mpr (ends_map.mpr (stages_canonicalJson _))
  have htools : Ends StageFailure.Stages (fun _ => True) (toolsFingerprint request.tools) := by
    unfold toolsFingerprint
    split
    · trivial
    · exact ends_map.mpr (stages_canonicalJson _)
  have hchoice : Ends StageFailure.Stages (fun _ => True)
      (canonicalJsonText request.toolChoice) := by
    unfold canonicalJsonText
    split
    · trivial
    · exact ends_map.mpr (stages_canonicalJson _)
  unfold checkControls
  simp only [ends_bind, ends_check]
  refine ⟨fun _ => ⟨fun _ => ?_, fun _ => stages_continuationMismatch _ _⟩,
    fun _ => stages_continuationMismatch _ _⟩
  refine (ends_iff_of_errors hdigest).mpr fun _ _ => ?_
  refine ⟨fun _ => ⟨fun _ => ?_, fun _ => stages_continuationMismatch _ _⟩,
    fun _ => stages_continuationMismatch _ _⟩
  refine (ends_iff_of_errors htools).mpr fun _ _ => ?_
  refine ⟨fun _ => ?_, fun _ => stages_continuationMismatch _ _⟩
  refine (ends_iff_of_errors hchoice).mpr fun _ _ => ?_
  exact ⟨fun _ => trivial, fun _ => stages_continuationMismatch _ _⟩

theorem stages_checkEcho {assistant final : AdapterMessage} :
    Ends StageFailure.Stages (fun _ => True) (checkEcho record assistant final) := by
  unfold checkEcho
  simp only [ends_bind, ends_check]
  refine ⟨fun _ => ?_, fun _ => stages_continuationMismatch _ _⟩
  split
  · exact ends_error.mpr (stages_continuationMismatch _ _)
  · simp only [ends_bind, ends_check]
    refine ⟨fun _ => ?_, fun _ => stages_continuationMismatch _ _⟩
    unfold toolCallsFingerprint
    refine ends_map.mpr ((stages_canonicalJson _).mono (fun _ h => h) fun _ _ _ => ?_)
    exact ⟨fun _ => trivial, fun _ => stages_continuationMismatch _ _⟩

/-- **A request of another shape is a typed refusal**, or cannot be fingerprinted. -/
theorem stages_validateContinuationRequest :
    Ends StageFailure.Stages (fun _ => True) (validateContinuationRequest record request) := by
  unfold validateContinuationRequest
  rw [ends_bind_of_errors stages_checkControls]
  intro _ _
  split
  · rw [ends_bind_of_errors stages_checkEcho]
    intro content _
    unfold messageFingerprint
    rw [ends_bind, ends_map]
    refine (stages_canonicalJson _).mono (fun _ h => h) fun _ _ _ => ?_
    simp only [ends_bind, ends_check]
    refine ⟨fun _ => ⟨fun _ => trivial, fun _ => ?_⟩, fun _ => stages_continuationMismatch _ _⟩
    exact codeSafe_of_stageCode rfl (by simp [stageCodes])
  · exact ends_error.mpr (stages_continuationMismatch _ _)

end Validation

section Resumption

variable {x : ResumptionSurroundings} {record : PendingContinuation} {content model : Text}
  {started : Instant} {before s : GatewayState}

/-- A close adds cancellations only. -/
theorem GatewayState.exists_closed_events (s : GatewayState) (token : String)
    (state : ContinuationState) : ∃ cancels : List BackendEvent,
      (s.closed token state).events = s.events ++ cancels ∧
        ∀ event ∈ cancels, ∃ removed, event = .cancelled removed := by
  unfold closed
  rcases s.registry.closeSection token with ⟨registry, _ | removed⟩
  · exact ⟨[], (List.append_nil _).symm, fun _ hevent => absurd hevent List.not_mem_nil⟩
  · refine ⟨_, rfl, fun event hevent => ⟨removed, ?_⟩⟩
    split at hevent
    · exact List.mem_singleton.mp hevent
    · cases hevent

/-- The events of a resumption address the target of the suspended turn. -/
theorem Resumed.runs {delivered : Bool} {calls : List CallObservation} {after : GatewayState}
    (h : Resumed x record content delivered calls s after) (htrail : s.trail = before.trail)
    (hevents : s.events = before.events) (hlife : s.life = before.life)
    (hcalls : calls ≠ [] → (x.turn record).executedTarget ≠ none) :
    ∃ events, Runs before after events ∧
      (∀ other text, .delivered other text ∈ events ↔
        delivered = true ∧ other = record ∧ text = content) ∧
      (∀ target, .dispatched target ∉ events) ∧
      after.life.calls = calls ∧ after.life.executedTarget = (x.turn record).executedTarget ∧
      after.life.requestId = s.life.requestId ∧
      after.life.decisionId = (x.turn record).decisionId := by
  obtain ⟨found, hrestored, rfl⟩ := h
  obtain ⟨cancels, hclosed, hcancels⟩ :=
    found.exists_closed_events record.continuationToken (terminalState x record)
  have hother : ∀ event ∈ cancels, (∀ target, event ≠ .dispatched target) ∧
      (∀ target, event ≠ .resumed target) ∧ ∀ other text, event ≠ .delivered other text := by
    intro event hevent
    obtain ⟨removed, rfl⟩ := hcancels event hevent
    simp
  have hdelivered : ∀ other text, .delivered other text ∈
      (.resumed (x.turn record).executedTarget ::
        if delivered then [.delivered record content] else []) ++ cancels ↔
      delivered = true ∧ other = record ∧ text = content := by
    intro other text
    have hnot : .delivered other text ∉ cancels := fun hmem => (hother _ hmem).2.2 _ _ rfl
    cases delivered <;> simp [hnot]
  have hdispatched : ∀ target, .dispatched target ∉
      (.resumed (x.turn record).executedTarget ::
        if delivered then [.delivered record content] else []) ++ cancels := by
    intro target
    have hnot : .dispatched target ∉ cancels := fun hmem => (hother _ hmem).1 _ rfl
    cases delivered <;> simp [hnot]
  refine ⟨(.resumed (x.turn record).executedTarget ::
      if delivered then [.delivered record content] else []) ++ cancels,
    { trail := ?_, appended := ?_, request := ?_, client := ?_, accountable := ⟨?_, ?_⟩,
      executed := ?_, delivered := ?_ },
    hdelivered, hdispatched, rfl, hrestored.executed, hrestored.request, hrestored.decision⟩
  · show (found.closed _ _).trail = _
    rw [GatewayState.closed_trail, hrestored.trail, htrail]
  · show (found.closed _ _).events = _
    rw [hclosed, hrestored.events, hevents, List.append_assoc]
  · show found.life.requestId = _
    rw [hrestored.request, hlife]
  · show found.life.clientId = _
    rw [hrestored.client, hlife]
  · show found.life.executedTarget ≠ none → found.life.selectedTarget ≠ none
    rw [hrestored.executed, hrestored.selected]
    exact (x.turn record).selected
  · show calls ≠ [] → found.life.executedTarget ≠ none
    rw [hrestored.executed]
    exact hcalls
  · intro target
    have hnot : .resumed (some target) ∉ cancels := fun hmem => (hother _ hmem).2.1 _ rfl
    show found.life.executedTarget = _ ↔ _
    rw [hrestored.executed, or_iff_right (hdispatched target)]
    cases delivered <;> simp [hnot, eq_comm]
  · intro other text hmem
    show found.life.executedTarget ≠ none
    rw [hrestored.executed]
    obtain ⟨htrue, -⟩ := (hdelivered other text).mp hmem
    exact executed_of_recheckAuthority (hrestored.reaches htrue).2

/-- A delivery that was called and returned ends the attempt. -/
theorem attempt_of_delivery {delivery : Delivery} (hok : recheckAuthority x record = .ok ())
    (hdelivery : x.delivery = .ok delivery) : x.attempt record = .ok delivery := by
  unfold ResumptionSurroundings.attempt
  rw [hok, hdelivery]
  rfl

theorem delivery_of_attempt {delivery : Delivery} (h : x.attempt record = .ok delivery) :
    x.delivery = .ok delivery := by
  unfold ResumptionSurroundings.attempt at h
  split at h
  · cases h
  · cases hdelivery : x.delivery with
    | error e =>
      rw [hdelivery] at h
      cases h
    | ok found =>
      rw [hdelivery] at h
      rw [Except.ok.inj h]

/-- **A claimed continuation** fails, or its delivery is called and succeeds. -/
theorem leaves_resumeClaimed {x : ExecutionSurroundings} (hfresh : Fresh before)
    (htrail : s.trail = before.trail) (hevents : s.events = before.events)
    (hlife : s.life = before.life) :
    Leaves (fun e after => ∃ events, Fails x started model before e after events)
      (fun outcome after => ∃ events, Concludes x before outcome after events)
      (resumeClaimed x.resumption started model record content) s := by
  have hnone : s.life.calls = [] := by rw [hlife, hfresh.calls]
  unfold resumeClaimed
  rw [leaves_bind, Coordinator.leaves_updateRegistry]
  by_cases hexpired : record.deadline ≤ x.resumption.resumedAt
  · rw [if_pos (sub_nonpos.mpr hexpired), leaves_failClosed rfl]
    -- The original target is restored only within the lifetime.
    obtain ⟨cancels, hclosed, hcancels⟩ := GatewayState.exists_closed_events
      { s with registry := x.resumption.meanwhile s.registry } record.continuationToken .expired
    have hexpires : StageFailure.Stages (.gateway (continuationError .expired)) := by
      exact codeSafe_of_stageCode rfl (by simp [stageCodes])
    refine ⟨cancels, Fails.refused hfresh hexpires ?_ ?_ ?_ hcancels⟩
    · rw [GatewayState.closed_trail, htrail]
    · rw [hclosed, hevents]
    · rw [GatewayState.closed_life, ← hlife]
  · rw [if_neg (mt sub_nonpos.mp hexpired)]
    refine (leaves_resumeTurn (not_le.mp hexpired)).mono ?_ ?_
    · rintro e after ⟨hfails, delivered, calls, hresumed, hcalls⟩
      rw [hnone] at hcalls
      obtain ⟨events, hruns, hdelivered, hdispatched, hrecorded, hexecuted, -⟩ :=
        hresumed.runs htrail hevents hlife hcalls
      refine ⟨events, hruns, hfails.constructed, ?_, ?_⟩
      · rw [hexecuted]
        exact hfails.executed
      · rintro hrepresentable found
          (⟨target, result, hmem, -⟩ | ⟨other, text, delivery, hmem, hdelivery, hsucceeds, -⟩)
        · exact hdispatched _ hmem
        · obtain ⟨htrue, -⟩ := (hdelivered _ _).mp hmem
          obtain ⟨_, hrestored, -⟩ := hresumed
          obtain ⟨hreaches, hok⟩ := hrestored.reaches htrue
          exact hfails.justified hreaches hrepresentable delivery
            (attempt_of_delivery hok hdelivery) hsucceeds
    · rintro outcome after ⟨hanswers, delivery, hattempt, hsucceeds, hresumed⟩
      have hexecuted : (x.resumption.turn record).executedTarget ≠ none := by
        obtain ⟨_, hrestored, -⟩ := hresumed
        exact executed_of_recheckAuthority (hrestored.reaches rfl).2
      obtain ⟨events, hruns, hdelivered, hdispatched, hrecorded, hkept, hrequest, hdecision⟩ :=
        hresumed.runs htrail hevents hlife fun _ => hexecuted
      refine ⟨events, hruns, ⟨?_, ?_⟩, by rwa [hkept], fun calls => ?_⟩
      · rw [hanswers.request, hrequest]
      · rw [hanswers.decision, hdecision]
      · rw [hrecorded]
        constructor
        · rintro (⟨target, result, hmem, -⟩ | ⟨other, text, found, -, hfound, -, hcalls⟩)
          · exact absurd hmem (hdispatched target)
          · obtain rfl := Except.ok.inj ((delivery_of_attempt hattempt).symm.trans hfound)
            exact hcalls.symm
        · rintro rfl
          exact .inr ⟨record, content, delivery, (hdelivered _ _).mpr ⟨rfl, rfl, rfl⟩,
            delivery_of_attempt hattempt, hsucceeds, rfl⟩

end Resumption

section Request

variable [FloatFormat] [Sha256] {x : ExecutionSurroundings} {started : Instant}
  {request : ChatCompletionRequest} {clientId : SafeId} {before : GatewayState}

omit [FloatFormat] [Sha256] in
theorem stages_continuationError (reason : ContinuationRejection) :
    StageFailure.Stages (.gateway (continuationError reason)) := by
  cases reason <;> exact codeSafe_of_stageCode rfl (by simp [stageCodes])

/-- **A tool result** is refused, or its continuation is resumed. -/
theorem leaves_runContinuation {record : PendingContinuation} (hfresh : Fresh before)
    (hcallback : ∀ e, x.expiredCallback = .error e → StageFailure.Stages e.1) :
    Leaves (fun e after => ∃ events, Fails x started request.model before e after events)
      (fun outcome after => ∃ events, Concludes x before outcome after events)
      (runContinuation x started request clientId record) before := by
  have hrefused : ∀ {e : ExecutionException} {after : GatewayState}, StageFailure.Stages e →
      after.trail = before.trail → after.events = before.events → after.life = before.life →
      ∃ events, Fails x started request.model before e after events := by
    intro e after he htrail hevents hlife
    exact ⟨[], .refused hfresh he htrail (by rw [hevents, List.append_nil]) hlife
      fun _ hevent => absurd hevent List.not_mem_nil⟩
  unfold runContinuation
  rw [leaves_ite]
  refine ⟨fun _ => ?_, fun _ => hrefused (stages_continuationError _) rfl rfl rfl⟩
  rw [leaves_bind, leaves_raise]
  refine ⟨fun content _ => ?_, fun e he => ?_⟩
  · rw [leaves_bind, leaves_get]
    rcases before.registry.claimSection record.continuationToken clientId.text x.claimedAt with
      ⟨registry, reason | expired | claimed⟩
    · exact hrefused (stages_continuationError _) rfl rfl rfl
    · dsimp only
      rw [leaves_bind, Coordinator.leaves_updateRegistry]
      split
      · rw [leaves_bind, Coordinator.leaves_emit, leaves_bind, Coordinator.leaves_external]
        have hcancelled : ∀ {e : ExecutionException}, StageFailure.Stages e →
            ∃ events, Fails x started request.model before e
              { before with registry, events := before.events ++ [.cancelled expired] } events :=
          fun he => ⟨[.cancelled expired], .refused hfresh he rfl rfl rfl fun _ hevent =>
            ⟨expired, List.mem_singleton.mp hevent⟩⟩
        exact ⟨fun _ _ => hcancelled (stages_continuationError _),
          fun e he => hcancelled (hcallback e he)⟩
      · exact hrefused (stages_continuationError _) rfl rfl rfl
    · exact leaves_resumeClaimed hfresh rfl rfl rfl
  · have hstages := @stages_validateContinuationRequest _ _ record request
    rw [he] at hstages
    exact hrefused hstages rfl rfl rfl

/-- **The work of one execution** fails or concludes. -/
theorem leaves_runRequest [RouteHost] (hfresh : Fresh before)
    (hcallback : ∀ e, x.expiredCallback = .error e → StageFailure.Stages e.1) :
    Leaves (fun e after => ∃ events, Fails x started request.model before e after events)
      (fun outcome after => ∃ events, Concludes x before outcome after events)
      (runRequest x started request clientId) before := by
  unfold runRequest
  rw [leaves_bind, leaves_get, leaves_bind, Coordinator.leaves_stage]
  refine ⟨fun continuation _ => ?_,
    fun failure _ => ⟨[], (Prepares.refl _).fails hfresh failure.stages_exception⟩⟩
  cases continuation with
  | some record => exact leaves_runContinuation hfresh hcallback
  | none => exact leaves_runLifecycle hfresh

end Request

/-! ### The record -/

/-- The status of a record agrees with how the execution ended. -/
def AuditRecord.Agrees (record : AuditRecord) :
    Except ExecutionException CompletionOutcome → Prop
  | .ok outcome => record.resultStatus = .completed ∧ outcome.requestId = record.requestId ∧
      outcome.decisionId = record.decisionId
  | .error .clientDisconnected => record.resultStatus = .cancelled
  | .error .outputRejected => record.resultStatus = .failed
  | .error (.gateway error) =>
    (record.resultStatus = .timedOut ∧ error = timeLimitError ∨
      record.resultStatus = .failedAmbiguous ∧ error = ambiguousError ∨
      record.resultStatus = .failed ∨ record.resultStatus = .rejected) ∧
    ∀ code ∈ error.code, code ∈ record.reasonCodes.map SafeId.text
  | .error _ => record.resultStatus = .failed ∨ record.resultStatus = .rejected

/-- What an execution leaves: one record, which tells how it ended and the target that was
    addressed. -/
structure Audits (x : ExecutionSurroundings) (started : Instant) (requestId clientId : SafeId)
    (model : Text) (before after : GatewayState)
    (ending : Except ExecutionException CompletionOutcome) (record : AuditRecord)
    (events : List BackendEvent) : Prop where
  recorded : after.trail = before.trail ++ [record]
  appended : after.events = before.events ++ events
  request : record.requestId = requestId
  client : record.clientId = clientId
  agrees : record.Agrees ending
  rejected : record.resultStatus = .rejected ↔ record.executedTarget = none
  executed : ∀ target, record.executedTarget = some target ↔
    .dispatched target ∈ events ∨ .resumed (some target) ∈ events
  delivered : ∀ paused content, .delivered paused content ∈ events → record.executedTarget ≠ none
  completes : Representable started model → ∀ calls, calls ≠ [] → x.CompletesWith events calls →
    ∃ outcome, ending = .ok outcome
  uncalled : Representable started model → x.CompletesWith events [] →
    ending = .error .unexpected ∧ record.resultStatus = .failed
  returned : ∀ outcome, ending = .ok outcome → ∃ calls, calls ≠ [] ∧ x.CompletesWith events calls

section Record

variable {x : ExecutionSurroundings} {started : Instant} {model : Text}
  {requestId clientId : SafeId} {before s : GatewayState} {events : List BackendEvent}
  {e : ExecutionException}

namespace LifecycleState

variable {life : LifecycleState} {sink : Option Bool}

@[simp] theorem noteCallFacts_executedTarget :
    (life.noteCallFacts sink).executedTarget = life.executedTarget := by
  unfold noteCallFacts
  split <;> rfl

@[simp] theorem noteCallFacts_selectedTarget :
    (life.noteCallFacts sink).selectedTarget = life.selectedTarget := by
  unfold noteCallFacts
  split <;> rfl

@[simp] theorem noteCallFacts_calls : (life.noteCallFacts sink).calls = life.calls := by
  unfold noteCallFacts
  split <;> rfl

@[simp] theorem noteCallFacts_requestId :
    (life.noteCallFacts sink).requestId = life.requestId := by
  unfold noteCallFacts
  split <;> rfl

@[simp] theorem noteCallFacts_clientId : (life.noteCallFacts sink).clientId = life.clientId := by
  unfold noteCallFacts
  split <;> rfl

end LifecycleState

/-- A report has a safe code. -/
theorem matchesSafeId_failureReport {executed : Bool} (he : e.Constructed) :
    matchesSafeId (failureReport executed e).code.toList = true := by
  have hgateway : ∀ (error : GatewayError) (code : String), error.CodeSafe →
      matchesSafeId code.toList = true → matchesSafeId (error.code.getD code).toList = true := by
    intro error code hsafe hcode
    cases herror : error.code with
    | none => exact hcode
    | some found => exact hsafe found herror
  cases e
  case gateway error =>
    cases executed with
    | false => exact hgateway error "rejected" he (by decide +kernel)
    | true => exact hgateway error "failed" he (by decide +kernel)
  all_goals cases executed <;> decide +kernel

/-- A failure is not recorded as completed. -/
theorem failureReport_ne_completed {executed : Bool} :
    (failureReport executed e).status ≠ .completed := by
  cases e <;> cases executed <;> simp [failureReport]

/-- The bookkeeping admits the status of its report. -/
theorem admits_failureReport {life : LifecycleState} (haccountable : life.Accountable)
    (haddressed : ¬ StageFailure.Stages e → life.executedTarget ≠ none) :
    life.Admits (failureReport life.executedTarget.isSome e).status := by
  refine ⟨haccountable, ?_, ?_⟩
  · intro hdispatched
    cases e
    case gateway error =>
      intro hnone
      rw [hnone] at hdispatched
      cases hdispatched
    case unexpected =>
      intro hnone
      rw [hnone] at hdispatched
      cases hdispatched
    all_goals exact haddressed id
  · exact fun hcompleted => absurd hcompleted failureReport_ne_completed

/-- A record of a report agrees with what is raised. -/
theorem agrees_failureReport {life : LifecycleState} {record : AuditRecord}
    (haddressed : ¬ StageFailure.Stages e → life.executedTarget ≠ none)
    (h : Records life (failureReport life.executedTarget.isSome e).status
      (failureReport life.executedTarget.isSome e).code record) :
    record.Agrees (.error (failureReport life.executedTarget.isSome e).raised) ∧
      (record.resultStatus = .rejected ↔ record.executedTarget = none) := by
  have hstatus := h.status
  have hreason := h.reason
  rw [h.executed]
  cases e
  case gateway error =>
    cases hexecuted : life.executedTarget with
    | none =>
      rw [hexecuted] at hstatus hreason
      refine ⟨⟨.inr (.inr (.inr hstatus)), fun code hcode => ?_⟩, iff_of_true hstatus rfl⟩
      change error.code.getD "rejected" ∈ _ at hreason
      rwa [show error.code = some code from hcode] at hreason
    | some target =>
      rw [hexecuted] at hstatus hreason
      refine ⟨⟨.inr (.inr (.inl hstatus)), fun code hcode => ?_⟩, ?_⟩
      · change error.code.getD "failed" ∈ _ at hreason
        rwa [show error.code = some code from hcode] at hreason
      · rw [hstatus]
        simp [failureReport]
  case unexpected =>
    cases hexecuted : life.executedTarget with
    | none =>
      rw [hexecuted] at hstatus
      exact ⟨.inr hstatus, iff_of_true hstatus rfl⟩
    | some target =>
      rw [hexecuted] at hstatus
      refine ⟨.inl hstatus, ?_⟩
      rw [hstatus]
      simp [failureReport]
  -- Every other exception is of a dispatch.
  all_goals
    have hne : life.executedTarget ≠ none := haddressed id
    obtain ⟨target, hexecuted⟩ := Option.ne_none_iff_exists'.mp hne
    rw [hexecuted] at hstatus hreason ⊢
    refine ⟨?_, by rw [hstatus]; simp [failureReport]⟩
  case clientDisconnected => exact hstatus
  case outputRejected => exact hstatus
  case adapterTimeout => exact ⟨.inl ⟨hstatus, rfl⟩, by rintro _ ⟨⟩; exact hreason⟩
  case adapterAmbiguous => exact ⟨.inr (.inl ⟨hstatus, rfl⟩), by rintro _ ⟨⟩; exact hreason⟩
  case adapterPermanent =>
    exact ⟨.inr (.inr (.inl hstatus)), by rintro _ ⟨⟩; exact hreason⟩
  case continuationLost => exact .inl hstatus

/-- **A failure is recorded** once, and told as its clause says. -/
theorem leaves_handleFailure {α : Type} {surroundings : AuditSurroundings}
    {E : ExecutionException → GatewayState → Prop} {V : α → GatewayState → Prop}
    (he : e.Constructed) (haccountable : s.life.Accountable)
    (haddressed : ¬ StageFailure.Stages e → s.life.executedTarget ≠ none)
    (hE : ∀ record : AuditRecord, record.requestId = s.life.requestId →
      record.clientId = s.life.clientId → record.executedTarget = s.life.executedTarget →
      record.Agrees (.error (failureReport s.life.executedTarget.isSome e).raised) →
      (record.resultStatus = .rejected ↔ record.executedTarget = none) →
      record.resultStatus = (failureReport s.life.executedTarget.isSome e).status →
      E (failureReport s.life.executedTarget.isSome e).raised
        { s with
          life := s.life.noteCallFacts surroundings.callFactSink
          trail := s.trail ++ [record] }) :
    Leaves E V (handleFailure surroundings e) s := by
  unfold handleFailure
  rw [leaves_bind, leaves_get, leaves_bind]
  apply leaves_writeAudit (matchesSafeId_failureReport he)
  · intro _ record hrecords
    obtain ⟨hagrees, hrejected⟩ := agrees_failureReport haddressed hrecords
    exact hE record hrecords.request hrecords.client hrecords.executed hagrees hrejected
      hrecords.status
  · exact fun hnot => absurd (admits_failureReport haccountable haddressed) hnot

end Record

section Execute

variable [RouteHost] [FloatFormat] [Sha256] {x : ExecutionSurroundings} {started : Instant}
  {requestId : SafeId}

/-- The `try` statement leaves one record. -/
theorem leaves_attemptExecution {request : ChatCompletionRequest} {clientId : SafeId}
    {before : GatewayState} (hfresh : Fresh before)
    (hcallback : ∀ e, x.expiredCallback = .error e → StageFailure.Stages e.1) :
    Leaves
      (fun e after => ∃ record events, Audits x started before.life.requestId before.life.clientId
        request.model before after (.error e) record events)
      (fun outcome after => ∃ record events, Audits x started before.life.requestId
        before.life.clientId request.model before after (.ok outcome) record events)
      (attemptExecution x started request clientId) before := by
  unfold attemptExecution
  rw [leaves_tryCatch, leaves_bind]
  refine (leaves_runRequest hfresh hcallback).mono ?_ ?_
  · -- The work failed, and the record says how.
    rintro e s ⟨events, hfails⟩
    apply leaves_handleFailure hfails.constructed hfails.accountable hfails.addressed
    intro record hrequest hclient hexecuted hagrees hrejected _
    refine ⟨record, events, by rw [hfails.trail], hfails.appended, hrequest.trans hfails.request,
      hclient.trans hfails.client, hagrees, hrejected, ?_, ?_, ?_, ?_, ?_⟩
    · rw [hexecuted]
      exact hfails.executed
    · rw [hexecuted]
      exact hfails.delivered
    · exact fun hrepresentable calls _ h => absurd h (hfails.incomplete hrepresentable calls)
    · exact fun hrepresentable h => absurd h (hfails.incomplete hrepresentable [])
    · intro _ h
      cases h
  · rintro outcome s ⟨events, hconcludes⟩
    rw [leaves_bind]
    apply leaves_writeAudit (by decide +kernel)
    · -- The result has calls.
      intro hadmits record hrecords
      have hcalls := hadmits.called rfl
      rw [leaves_pure]
      refine ⟨record, events, by rw [hconcludes.trail], hconcludes.appended,
        hrecords.request.trans hconcludes.request, hrecords.client.trans hconcludes.client,
        ⟨hrecords.status, ?_, ?_⟩, ?_, ?_, ?_, fun _ _ _ _ => ⟨outcome, rfl⟩, ?_, ?_⟩
      · rw [hconcludes.answers.request, hrecords.request]
      · rw [hconcludes.answers.decision, hrecords.decision]
      · rw [hrecords.status, hrecords.executed]
        exact iff_of_false nofun hconcludes.addressed
      · rw [hrecords.executed]
        exact hconcludes.executed
      · rw [hrecords.executed]
        exact hconcludes.delivered
      · exact fun _ h => absurd ((hconcludes.completes []).mp h).symm hcalls
      · exact fun _ _ => ⟨_, hcalls, (hconcludes.completes _).mpr rfl⟩
    · -- A result without calls cannot be recorded as completed.
      intro hnot
      have hcalls : s.life.calls = [] := by
        by_contra hne
        exact hnot ⟨hconcludes.accountable, fun _ => hconcludes.addressed, fun _ => hne⟩
      obtain ⟨target, htarget⟩ := Option.ne_none_iff_exists'.mp hconcludes.addressed
      apply leaves_handleFailure (s := { s with
        life := s.life.noteCallFacts x.audit.callFactSink })
      · exact trivial
      · constructor
        · simpa using hconcludes.accountable.selected
        · simpa using hconcludes.accountable.addressed
      · exact fun hne => absurd trivial hne
      intro record hrequest hclient hexecuted hagrees hrejected hstatus
      simp only [LifecycleState.noteCallFacts_requestId, LifecycleState.noteCallFacts_clientId,
        LifecycleState.noteCallFacts_executedTarget] at hrequest hclient hexecuted
      refine ⟨record, events, by rw [hconcludes.trail], hconcludes.appended,
        hrequest.trans hconcludes.request, hclient.trans hconcludes.client, hagrees, hrejected,
        ?_, ?_, ?_, ?_, ?_⟩
      · rw [hexecuted]
        exact hconcludes.executed
      · rw [hexecuted]
        exact hconcludes.delivered
      · intro _ calls hne h
        exact absurd (((hconcludes.completes calls).mp h).trans hcalls) hne
      · intro _ _
        refine ⟨rfl, ?_⟩
        rw [hstatus]
        simp [htarget, failureReport]
      · intro _ h
        cases h

/-- **Every execution is audited**: one that begins appends exactly one record, whose status agrees
    with what is returned or raised, and whose target is the one that was addressed. -/
theorem execute_audited (request : ChatCompletionRequest) (clientId : SafeId) (s : GatewayState)
    (hopened : x.opened = .ok (started, requestId))
    (hcallback : ∀ e, x.expiredCallback = .error e → StageFailure.Stages e.1) :
    ∃ record events, Audits x started requestId clientId request.model s
      ((execute x request clientId).result s).2 ((execute x request clientId).result s).1
      record events := by
  apply Leaves.result (P := fun ending after => ∃ record events,
    Audits x started requestId clientId request.model s after ending record events)
  unfold execute
  rw [hopened, leaves_bind, Coordinator.leaves_stage]
  refine ⟨?_, fun _ h => nomatch h⟩
  rintro _ ⟨⟩
  rw [leaves_bind, Coordinator.leaves_update]
  refine (leaves_attemptExecution ⟨rfl, rfl⟩ hcallback).mono ?_ ?_
  · rintro e after ⟨record, events, h⟩
    exact ⟨record, events, { h with }⟩
  · rintro outcome after ⟨record, events, h⟩
    exact ⟨record, events, { h with }⟩

end Execute

/-! ### A completed result with one call, and one without -/

/-- A completed result with these calls. -/
def completedResult (calls : List CallObservation) (ordered : calls.Pairwise (·.callIndex < ·.callIndex)) :
    AdapterResult where
  status := .completed
  calls
  message := some { role := .lit "assistant" }
  finishReason := some .stop
  ordered
  carries_message := fun _ h => nomatch h
  carries_reason := fun _ h => nomatch h

theorem firstCall_index : (0 : ℤ) ≤ 0 := le_rfl

/-- A call that was completed at once. -/
def sampleCall : CallObservation where
  callIndex := ⟨0, firstCall_index⟩
  startedAt := sampleMidnight
  endedAt := sampleMidnight
  status := .completed

/-- A request for the catalog's model. -/
def sampleCompletion : ChatCompletionRequest where
  model := Text.ofString "atlas"
  messages := []

/-- An execution whose adapter returns as given. -/
def sampleExecution (result : Except RaisedError AdapterResult) : ExecutionSurroundings where
  opened := .ok (0, .lit "request")
  claimedAt := 0
  resumption := quietResumption (.error ⟨.continuationLost, trivial⟩)
  lifecycle :=
    { routing := { request := .ok (cappedRequest none 2000) }
      catalog := twoThousandCatalog
      snapshot := (cappedRequest none 2000).registrySnapshot
      dispatch :=
        { adapter := .ok (.lit "adapter", ⟨Text.ofString "1", by decide +kernel⟩)
          result } }
  audit := { endedAt := 0 }

/-- A digest for samples. -/
@[reducible] def emptySha256 : Sha256 := ⟨fun _ => ""⟩

/-- A completed result with one call is audited. -/
theorem execute_audited_completed :
    let _ := utcHost
    let _ := binaryFormat
    let _ := emptySha256
    ∃ record events, Audits (sampleExecution (.ok (completedResult [sampleCall] (by simp)))) 0
      (.lit "request") (.lit "acme") sampleCompletion.model pausedGateway
      ((execute (sampleExecution (.ok (completedResult [sampleCall] (by simp)))) sampleCompletion
        (.lit "acme")).result pausedGateway).2
      ((execute (sampleExecution (.ok (completedResult [sampleCall] (by simp)))) sampleCompletion
        (.lit "acme")).result pausedGateway).1 record events := by
  intro host format digest
  exact execute_audited sampleCompletion (.lit "acme") pausedGateway rfl fun e h => nomatch h

/-- A completed result without calls is not returned. -/
theorem not_returns_uncalled : ¬ ∀ [RouteHost] [FloatFormat] [Sha256] (x : ExecutionSurroundings)
    (started : Instant) (requestId clientId : SafeId) (request : ChatCompletionRequest)
    (s : GatewayState) (target : ExecutedTarget) (result : AdapterResult),
    x.opened = .ok (started, requestId) → Representable started request.model → s.events = [] →
    .dispatched target ∈ ((execute x request clientId).result s).2.events →
    x.lifecycle.dispatch.result = .ok result → result.status = .completed →
    ((execute x request clientId).result s).1.toOption.isSome = true := by
  intro h
  let _ := utcHost
  let _ := binaryFormat
  let _ := emptySha256
  have hreturned := h (sampleExecution (.ok (completedResult [] .nil))) 0 (.lit "request")
    (.lit "acme") sampleCompletion pausedGateway pausedTarget _ rfl (by decide +kernel) rfl
    (by decide +kernel) rfl rfl
  revert hreturned
  decide +kernel

end ScarcityRouter
