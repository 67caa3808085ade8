import ScarcityRouter.Worker.Submission
import ScarcityRouter.Worker.ToolResults

namespace ScarcityRouter

open ScarcityRouter.Lib

/-!
# The worker-bridged adapter

`worker_bridged_adapter.py` over the sessions of the endpoint: its dispatches, its continuations and
its cancels, while workers disconnect, reconnect, and resources change their owner.

* `BridgedState.step` — one critical section of the endpoint, of a session or of an adapter thread.
* `FramesAffine`, `frames_affine` — **a cancel or a tool result is written only to the session on
  which its attempt was submitted**, as long as no cancel finds another open session for its
  resource.
* `cancel_astray` — after a reconnect, a cancel goes to the new session.
-/

/-! ### Threads of the adapter -/

/-- Where a thread of the adapter is. -/
inductive LegStage where
  /-- `_begin` looks the session of the resource up next. -/
  | choosing
  /-- The critical section of `submit_execute` comes next. -/
  | submitting (session : ℕ)
  /-- `submit_execute` writes its frame. -/
  | writing
  /-- The loop around `take`. -/
  | waiting
  /-- `_send_cancel_best_effort` looks the session of the resource up next; then the thread leaves,
      or goes on waiting. -/
  | lookingUp (leaves : Bool)
  /-- `send_cancel` reads the flag of the session next. -/
  | cancelling (session : ℕ) (leaves : Bool)
  | writingCancel (session : ℕ) (leaves : Bool)
  /-- `_session_for` looks the session of the resource up next. -/
  | resuming
  /-- `pending_attempt` comes next. -/
  | probing (session : ℕ)
  /-- `send_tool_result` reads the version and the flag of the session next. -/
  | delivering (session : ℕ)
  | writingResult (session : ℕ)
  | over
  deriving DecidableEq

/-- A thread of the adapter: a dispatch, the continuation of a suspended one, or the cancellation of
    a suspension. -/
structure Leg where
  resourceId : SafeId
  attemptId : SafeId
  /-- The session and the tracker it waits on. -/
  pending : Option (ℕ × ℕ) := none
  /-- The suspension it continues. -/
  handle : Option SuspensionHandle := none
  cancelSent : Bool := false
  stage : LegStage

/-- What one step of a thread finds around it. -/
structure Surroundings where
  /-- `context.cancelled`, at the top of the loop. -/
  cancelled : Bool := false
  /-- It was set while `take` blocked. -/
  cancelledMeanwhile : Bool := false
  /-- The deadline has passed. -/
  expired : Bool := false
  /-- `emit_chunk` raises `ClientDisconnectedError`. -/
  disconnects : Bool := false
  /-- `register_continuation` accepts. -/
  admits : Bool := false
  /-- The frame is written completely. -/
  writes : Bool := true
  /-- The token of a new suspension. -/
  token : BoundedText 256

/-- One critical section. -/
inductive BridgedAction where
  /-- A step of the endpoint; the sessions it closes are closed with a note. -/
  | endpoint (note : String) (action : EndpointAction)
  /-- The administrator's configuration names other owners. -/
  | configure (owner : SafeId → Option SafeId)
  /-- A session negotiates its version before its first message. -/
  | negotiate (session : ℕ) (version : ℤ)
  /-- A step of the threads of a session; submissions and closes have their own actions. -/
  | attempt (session : ℕ) (action : AttemptAction)
  /-- `execute`, with the id of the factory. -/
  | execute (resourceId attemptId : SafeId)
  /-- `cancel_suspension`, of a suspension that was registered. -/
  | cancelSuspension (suspension : ℕ)
  /-- `deliver_tool_result`, of a suspension that was registered. -/
  | deliverToolResult (suspension : ℕ)
  /-- The next critical section of a thread. -/
  | leg (thread : ℕ) (around : Surroundings)

inductive BridgedEvent where
  /-- An attempt was submitted on a session. -/
  | executed (attemptId : SafeId) (session : ℕ)
  | cancelWritten (attemptId : SafeId) (session : ℕ)
  | toolResultWritten (attemptId : SafeId) (session : ℕ)
  deriving DecidableEq

/-! ### The adapter -/

/-- `MAX_PENDING_SUSPENSIONS`. -/
def maxPendingSuspensions : ℕ := 64

/-- The endpoint, its sessions with their attempts, and the threads of the adapter. -/
structure BridgedState where
  endpoint : EndpointState := {}
  configuredOwner : SafeId → Option SafeId := fun _ => none
  attempts : ℕ → AttemptSession := fun _ => {}
  legs : List Leg := []
  /-- `_suspended`. -/
  suspended : List SuspensionHandle := []
  /-- The suspensions that the coordinator registered. -/
  registered : List SuspensionHandle := []

/-- `pending_attempt`: the live tracker of an attempt. -/
def AttemptSession.pendingAttempt (s : AttemptSession) (attemptId : SafeId) : Option ℕ :=
  if s.closed then none else (s.pending.row? attemptId).map Prod.snd

namespace BridgedState

variable (s : BridgedState)

/-- Close the sessions that the endpoint has closed. -/
def closeSessions (note : String) (endpoint : EndpointState) : BridgedState :=
  { s with
    endpoint := endpoint
    attempts := fun j =>
      if endpoint.sessions[j]?.any (·.closed) then ((s.attempts j).closeSession note).1
      else s.attempts j }

/-- `session.close`, after a write that failed. -/
def closeAfterWrite (note : String) (j : ℕ) (writes : Bool) : BridgedState :=
  if writes then s else s.closeSessions note (s.endpoint.closeSession j)

/-- Rewrite the attempts of one session. -/
def setAttempts (j : ℕ) (session : AttemptSession) : BridgedState :=
  { s with attempts := Function.update s.attempts j session }

/-- A thread goes on. -/
def setLeg (i : ℕ) (leg : Leg) : BridgedState := { s with legs := s.legs.set i leg }

/-- `session_for_resource`. -/
def sessionFor (resourceId : SafeId) : Except WorkerDispatchError ℕ :=
  s.endpoint.sessionForResource s.configuredOwner resourceId

/-- `_drop_suspension`, of the suspension a thread continues. -/
def dropHandle (leg : Leg) : BridgedState :=
  { s with suspended := s.suspended.filter fun handle =>
      leg.handle.all (·.continuationToken.1 ≠ handle.continuationToken.1) }

/-- `_register_suspension`; `none` at the bound. -/
def registerSuspension (leg : Leg) (message : ExecuteToolCallMessage) (token : BoundedText 256) :
    Option SuspensionHandle :=
  if maxPendingSuspensions ≤ s.suspended.length then none
  else some ⟨token, message.attemptId, leg.resourceId, message.callId, message.name⟩

end BridgedState

namespace Leg

/-- The thread of a dispatch. -/
def dispatch (resourceId attemptId : SafeId) : Leg :=
  { resourceId := resourceId
    attemptId := attemptId
    stage := .choosing }

/-- A thread that continues or cancels a suspension. -/
def ofHandle (handle : SuspensionHandle) (stage : LegStage) : Leg :=
  { resourceId := handle.resourceId
    attemptId := handle.attemptId
    handle := some handle
    stage := stage }

variable (leg : Leg)

/-- The thread leaves. -/
def leave : Leg := { leg with stage := .over }

/-- The thread leaves, after a cancel. -/
def cancelAndLeave : Leg :=
  { leg with
    cancelSent := true
    stage := .lookingUp true }

/-- The thread leaves, after a cancel if it has not sent one. -/
def cancelOnceAndLeave : Leg := if leg.cancelSent then leg.leave else leg.cancelAndLeave

/-- The thread goes on after its cancel. -/
def afterCancel (leaves : Bool) : Leg :=
  { leg with stage := if leaves then .over else .waiting }

end Leg

namespace BridgedState

variable (s : BridgedState)

/-- What the loop does with a suspension. -/
def onSuspension (leg : Leg) (around : Surroundings) (message : ExecuteToolCallMessage) :
    BridgedState × Leg :=
  let dropped := s.dropHandle leg
  match s.registerSuspension leg message around.token with
  | none => (dropped, leg.cancelAndLeave)
  | some handle =>
    if around.admits then
      ({ dropped with
        suspended := dropped.suspended ++ [handle]
        registered := s.registered ++ [handle] },
      -- The early emissions of the tool call may find the client gone.
      if around.disconnects && !(around.cancelled || around.cancelledMeanwhile) then
        leg.cancelOnceAndLeave
      else leg.leave)
    else (dropped, leg.cancelAndLeave)

/-- What the loop does with what it took. -/
def onTaken (leg : Leg) (around : Surroundings) : Taken → BridgedState × Leg
  | .item (.chunk message) =>
    match chunkFromDict (.object message.chunk) with
    | .error _ => (s, leg.leave)
    | .ok _ =>
      if around.cancelled || around.cancelledMeanwhile then
        (s.dropHandle leg, leg.cancelOnceAndLeave)
      else if around.disconnects then (s, leg.cancelOnceAndLeave)
      else (s, leg)
  | .item (.suspension message) => s.onSuspension leg around message
  | .outcome _ => (s.dropHandle leg, leg.leave)
  | .timeout =>
    if around.expired then (s.dropHandle leg, leg.cancelAndLeave) else (s, leg)

/-- One turn of the loop of `_await_outcome` and `_await_resume`. -/
def turn (i : ℕ) (leg : Leg) (around : Surroundings) : Option BridgedState :=
  if around.cancelled && !leg.cancelSent then
    some (s.setLeg i { leg with
      cancelSent := true
      stage := .lookingUp false })
  else
    match leg.pending with
    | none => none
    | some (j, t) =>
      match (s.attempts j).attempts[t]? with
      | none => none
      | some attempt =>
        let taking := (s.attempts j).onTracker t fun _ => attempt.tracker.take.2
        let next := (s.setAttempts j taking).onTaken leg around attempt.tracker.take.1
        some (next.1.setLeg i next.2)

/-- How far the submission of a thread is. -/
def submissionOf (leg : Leg) : Option Submission :=
  leg.pending.bind fun p => ((s.attempts p.1).attempts[p.2]?).map TrackedAttempt.submission

/-- The next critical section of a thread. -/
def legStep (i : ℕ) (leg : Leg) (around : Surroundings) :
    Option (BridgedState × List BridgedEvent) :=
  match leg.stage with
  | .choosing =>
    match s.sessionFor leg.resourceId with
    | .error _ => some (s.setLeg i leg.leave, [])
    | .ok j => some (s.setLeg i { leg with stage := .submitting j }, [])
  | .submitting j =>
    match (s.attempts j).track leg.attemptId with
    | .error _ => some (s.setLeg i leg.leave, [])
    | .ok tracking =>
      some ((s.setAttempts j tracking).setLeg i { leg with
        pending := some (j, (s.attempts j).attempts.length)
        stage := .writing }, [.executed leg.attemptId j])
  | .writing =>
    match s.submissionOf leg with
    | some .returned => some (s.setLeg i { leg with stage := .waiting }, [])
    | some .raised => some (s.setLeg i leg.leave, [])
    | _ => none
  | .waiting => (s.turn i leg around).map (·, [])
  | .lookingUp leaves =>
    match s.sessionFor leg.resourceId with
    | .error _ => some (s.setLeg i (leg.afterCancel leaves), [])
    | .ok j => some (s.setLeg i { leg with stage := .cancelling j leaves }, [])
  | .cancelling j leaves =>
    if (s.attempts j).closed then some (s.setLeg i (leg.afterCancel leaves), [])
    else some (s.setLeg i { leg with stage := .writingCancel j leaves }, [])
  | .writingCancel j leaves =>
    some ((s.closeAfterWrite "cancel delivery failed" j around.writes).setLeg i
      (leg.afterCancel leaves), [.cancelWritten leg.attemptId j])
  | .resuming =>
    match s.sessionFor leg.resourceId with
    | .error _ => some (s.setLeg i leg.leave, [])
    | .ok j => some (s.setLeg i { leg with stage := .probing j }, [])
  | .probing j =>
    match (s.attempts j).pendingAttempt leg.attemptId with
    | none => some ((s.dropHandle leg).setLeg i leg.leave, [])
    | some t => some (s.setLeg i { leg with
        pending := some (j, t)
        stage := .delivering j }, [])
  | .delivering j =>
    if (s.attempts j).belowVersion 3 || (s.attempts j).closed then
      some ((s.dropHandle leg).setLeg i leg.leave, [])
    else some (s.setLeg i { leg with stage := .writingResult j }, [])
  | .writingResult j =>
    if around.writes then
      some (s.setLeg i { leg with stage := .waiting }, [.toolResultWritten leg.attemptId j])
    else
      some (((s.dropHandle leg).closeAfterWrite "tool result delivery failed" j false).setLeg i
        leg.leave, [.toolResultWritten leg.attemptId j])
  | .over => none

/-- The actions of a session that the adapter and the endpoint take themselves. -/
def ownAction : AttemptAction → Bool
  | .submit _ | .close _ => true
  | _ => false

section Steps

variable [SecretHash]

/-- One critical section. -/
def step : BridgedAction → Option (BridgedState × List BridgedEvent)
  | .endpoint note action =>
    (endpointMachine.step s.endpoint action).map fun result => (s.closeSessions note result.1, [])
  | .configure owner => some ({ s with configuredOwner := owner }, [])
  | .negotiate j version =>
    match s.endpoint.sessions[j]? with
    | some { stage := .awaiting, .. } =>
      some (s.setAttempts j { s.attempts j with negotiatedVersion := some version }, [])
    | _ => none
  | .attempt j action =>
    if ownAction action then none
    else (attemptMachine.step (s.attempts j) action).map fun result =>
      (s.setAttempts j result.1, [])
  | .execute resourceId attemptId =>
    some ({ s with legs := s.legs ++ [.dispatch resourceId attemptId] }, [])
  | .cancelSuspension k =>
    (s.registered[k]?).map fun handle =>
      let leg := Leg.ofHandle handle (.lookingUp true)
      ({ s.dropHandle leg with legs := s.legs ++ [leg] }, [])
  | .deliverToolResult k =>
    (s.registered[k]?).map fun handle =>
      ({ s with legs := s.legs ++ [.ofHandle handle .resuming] }, [])
  | .leg i around => (s.legs[i]?).bind fun leg => s.legStep i leg around

end Steps

end BridgedState

/-- The adapter over its endpoint. -/
def bridgedMachine [SecretHash] : Machine BridgedState BridgedAction BridgedEvent :=
  ⟨fun s action => s.step action⟩

/-! ### What one step does to the sessions -/

/-- An attempt was submitted on a session. -/
def BridgedState.executedOn (s : BridgedState) (attemptId : SafeId) (j : ℕ) : Bool :=
  (s.attempts j).attempts.any (·.tracker.attemptId = attemptId)

/-- A session tracks no new attempt, and is as closed as before. -/
structure SessionKept (a a' : AttemptSession) : Prop where
  ids : a'.attempts.map (·.tracker.attemptId) = a.attempts.map (·.tracker.attemptId)
  rows : ∀ row ∈ a'.pending.rows, row ∈ a.pending.rows
  closed : a.closed = true → a'.closed = true

theorem SessionKept.refl (a : AttemptSession) : SessionKept a a := ⟨rfl, fun _ => id, id⟩

/-- Rewriting a tracker under its id. -/
theorem map_attemptId_onAttempt (a : AttemptSession) (i : ℕ) {f : TrackedAttempt → TrackedAttempt}
    (h : ∀ attempt, a.attempts[i]? = some attempt →
      (f attempt).tracker.attemptId = attempt.tracker.attemptId) :
    (a.onAttempt i f).attempts.map (·.tracker.attemptId) =
      a.attempts.map (·.tracker.attemptId) := by
  exact map_modify_eq h

open AttemptSession in
/-- Every step of a session but a submission keeps it. -/
theorem sessionKept_of_step {a a' : AttemptSession} {action : AttemptAction}
    {events : List AttemptEvent} (hown : BridgedState.ownAction action = false)
    (h : attemptMachine.step a action = some (a', events)) : SessionKept a a' := by
  have hpop : ∀ attemptId, ∀ row ∈ (a.pop attemptId).pending.rows, row ∈ a.pending.rows :=
    fun _ row hrow => (List.mem_filter.mp hrow).1
  change a.step action = some (a', events) at h
  unfold step at h
  cases action with
  | submit attemptId => cases hown
  | close note => cases hown
  | written i =>
    obtain ⟨_, _, _, h⟩ := submitting_eq_some h
    obtain ⟨rfl, -⟩ := Prod.mk.inj h
    exact ⟨map_attemptId_onAttempt a i fun _ _ => rfl, fun _ => id, id⟩
  | writeFailed i =>
    obtain ⟨_, _, _, h⟩ := submitting_eq_some h
    obtain ⟨rfl, -⟩ := Prod.mk.inj h
    exact ⟨map_attemptId_onAttempt a i fun _ _ => rfl, fun _ => id, id⟩
  | discard i =>
    obtain ⟨attempt, _, _, h⟩ := submitting_eq_some h
    obtain ⟨rfl, -⟩ := Prod.mk.inj h
    exact ⟨map_attemptId_onAttempt (a.pop _) i fun _ _ => rfl, hpop _, id⟩
  | raise i =>
    dsimp only at h
    split_ifs at h
    obtain ⟨_, _, _, h⟩ := submitting_eq_some h
    obtain ⟨rfl, -⟩ := Prod.mk.inj h
    exact ⟨map_attemptId_onAttempt a i fun _ _ => rfl, fun _ => id, id⟩
  | chunk message =>
    obtain ⟨-, h⟩ := whileReading_eq_some h
    unfold routeToAttempt unknownAttempt at h
    split at h
    all_goals
      obtain ⟨rfl, -⟩ := Prod.mk.inj h
      exact ⟨rfl, fun _ => id, id⟩
  | toolCall message =>
    obtain ⟨-, h⟩ := whileReading_eq_some h
    unfold routeSuspension unknownAttempt at h
    split at h
    · obtain ⟨rfl, -⟩ := Prod.mk.inj h
      exact .refl a
    · split at h
      all_goals
        obtain ⟨rfl, -⟩ := Prod.mk.inj h
        exact ⟨rfl, fun _ => id, id⟩
  | result message =>
    obtain ⟨-, h⟩ := whileReading_eq_some h
    unfold completeAttempt unknownAttempt at h
    split at h
    · obtain ⟨rfl, -⟩ := Prod.mk.inj h
      exact .refl a
    · split at h
      all_goals
        obtain ⟨rfl, -⟩ := Prod.mk.inj h
        exact ⟨rfl, hpop _, id⟩
  | interrupted attemptId =>
    obtain ⟨-, h⟩ := whileReading_eq_some h
    unfold registerInterrupted at h
    obtain ⟨log, hlog⟩ := (a.pop attemptId).exists_recordInterrupted attemptId
    rw [hlog] at h
    dsimp only at h
    split at h
    all_goals
      obtain ⟨rfl, -⟩ := Prod.mk.inj h
      exact ⟨rfl, hpop _, id⟩
  | deliver =>
    change a.deliver = some (a', events) at h
    unfold deliver at h
    split at h
    · obtain ⟨attempt, hattempt, h⟩ := Option.map_eq_some_iff.mp h
      split at h
      all_goals obtain ⟨rfl, -⟩ := Prod.mk.inj h
      · rename_i pushed hpush _
        refine ⟨map_attemptId_onAttempt a _ fun other hother => ?_, fun _ => id, id⟩
        obtain rfl := Option.some.inj (hattempt.symm.trans hother)
        obtain ⟨rfl, -⟩ := PendingAttempt.push_eq_some hpush
        rfl
      · exact ⟨rfl, fun _ => id, id⟩
    · obtain ⟨rfl, -⟩ := Prod.mk.inj (Option.some.inj h)
      exact ⟨map_attemptId_onAttempt a _ fun _ _ => rfl, fun _ => id, id⟩
    · cases h
    · cases h
  | take i =>
    change a.takeNext i = some (a', events) at h
    obtain ⟨attempt, hattempt, h⟩ := Option.map_eq_some_iff.mp h
    obtain ⟨rfl, -⟩ := Prod.mk.inj h
    refine ⟨map_attemptId_onAttempt a _ fun other hother => ?_, fun _ => id, id⟩
    obtain rfl := Option.some.inj (hattempt.symm.trans hother)
    exact attempt.tracker.attemptId_take
  | interruptNext =>
    change a.interruptNext = some (a', events) at h
    unfold interruptNext at h
    split at h
    · cases h
    · obtain ⟨rfl, -⟩ := Prod.mk.inj (Option.some.inj h)
      exact ⟨map_attemptId_onAttempt a _ fun _ _ => rfl, fun _ => id, id⟩

/-- A session that is closed keeps its attempts. -/
theorem sessionKept_closeSession (a : AttemptSession) (note : String) :
    SessionKept a (a.closeSession note).1 := by
  unfold AttemptSession.closeSession
  split
  · exact .refl a
  · exact ⟨rfl, fun _ hrow => absurd hrow List.not_mem_nil, fun _ => rfl⟩

/-- What the critical section of a submission adds to a session. -/
theorem rows_of_track {a a' : AttemptSession} {attemptId : SafeId}
    (h : a.track attemptId = .ok a') :
    a'.pending.rows = a.pending.rows ++ [(attemptId, a.attempts.length)] ∧
      a'.closed = a.closed := by
  unfold AttemptSession.track at h
  split_ifs at h
  split at h
  · cases h
  · obtain rfl := Except.ok.inj h
    exact ⟨rfl, rfl⟩

/-! ### What one step does to the threads -/

/-- The thread has not submitted its attempt yet. -/
def Leg.undispatched (leg : Leg) : Bool :=
  match leg.stage with
  | .choosing | .submitting _ => true
  | _ => false

/-- What the stage of a thread says of the session it is about to write to. -/
def Leg.Claims (s : BridgedState) (leg : Leg) : Prop :=
  match leg.stage with
  | .cancelling j _ => s.executedOn leg.attemptId j = true ∨ (s.attempts j).closed = true
  | .writingCancel j _ | .delivering j | .writingResult j => s.executedOn leg.attemptId j = true
  | _ => True

/-- How a thread goes on. -/
inductive LegMove (s : BridgedState) (leg leg' : Leg) : List BridgedEvent → Prop
  /-- It says nothing of a session, and has no attempt to submit. -/
  | plain (hdone : leg'.undispatched = false) (hclaims : ∀ s, leg'.Claims s) :
      LegMove s leg leg' []
  | chose (j : ℕ) (hstage : leg.stage = .choosing) (hnext : leg'.stage = .submitting j) :
      LegMove s leg leg' []
  | foundForCancel (j : ℕ) (leaves : Bool) (hstage : leg.stage = .lookingUp leaves)
      (hsession : s.sessionFor leg.resourceId = .ok j) (hnext : leg'.stage = .cancelling j leaves) :
      LegMove s leg leg' []
  | cancels (j : ℕ) (leaves : Bool) (hstage : leg.stage = .cancelling j leaves)
      (hopen : (s.attempts j).closed = false) (hnext : leg'.stage = .writingCancel j leaves) :
      LegMove s leg leg' []
  | cancelled (j : ℕ) (leaves : Bool) (hstage : leg.stage = .writingCancel j leaves)
      (hdone : leg'.undispatched = false) (hclaims : ∀ s, leg'.Claims s) :
      LegMove s leg leg' [.cancelWritten leg.attemptId j]
  | probed (j t : ℕ) (hfound : (s.attempts j).pendingAttempt leg.attemptId = some t)
      (hnext : leg'.stage = .delivering j) : LegMove s leg leg' []
  | delivers (j : ℕ) (hstage : leg.stage = .delivering j) (hnext : leg'.stage = .writingResult j) :
      LegMove s leg leg' []
  | delivered (j : ℕ) (hstage : leg.stage = .writingResult j) (hdone : leg'.undispatched = false)
      (hclaims : ∀ s, leg'.Claims s) : LegMove s leg leg' [.toolResultWritten leg.attemptId j]

/-- What a step does to the threads of the adapter, and to the sessions as far as they matter to
    them. -/
inductive BridgedEffect (s s' : BridgedState) : BridgedAction → List BridgedEvent → Prop
  | same (action : BridgedAction) (hkept : ∀ j, SessionKept (s.attempts j) (s'.attempts j))
      (hlegs : s'.legs = s.legs) : BridgedEffect s s' action []
  | dispatched (resourceId attemptId : SafeId) (hattempts : s'.attempts = s.attempts)
      (hlegs : s'.legs = s.legs ++ [.dispatch resourceId attemptId]) :
      BridgedEffect s s' (.execute resourceId attemptId) []
  | started (action : BridgedAction) (leg : Leg) (hdone : leg.undispatched = false)
      (hclaims : ∀ s, leg.Claims s) (hattempts : s'.attempts = s.attempts)
      (hlegs : s'.legs = s.legs ++ [leg]) : BridgedEffect s s' action []
  | moved (i : ℕ) (around : Surroundings) (leg leg' : Leg) (events : List BridgedEvent)
      (hleg : s.legs[i]? = some leg) (hsame : leg'.attemptId = leg.attemptId)
      (hmove : LegMove s leg leg' events)
      (hkept : ∀ j, SessionKept (s.attempts j) (s'.attempts j))
      (hlegs : s'.legs = s.legs.set i leg') : BridgedEffect s s' (.leg i around) events
  | executed (i : ℕ) (around : Surroundings) (leg leg' : Leg) (j : ℕ) (tracking : AttemptSession)
      (hleg : s.legs[i]? = some leg) (hstage : leg.stage = .submitting j)
      (hnext : leg'.stage = .writing) (hsame : leg'.attemptId = leg.attemptId)
      (htrack : (s.attempts j).track leg.attemptId = .ok tracking)
      (hattempts : s'.attempts = Function.update s.attempts j tracking)
      (hlegs : s'.legs = s.legs.set i leg') :
      BridgedEffect s s' (.leg i around) [.executed leg.attemptId j]

namespace BridgedState

variable {s s' : BridgedState} {events : List BridgedEvent}

theorem sessionKept_setAttempts (j : ℕ) {session : AttemptSession}
    (h : SessionKept (s.attempts j) session) (k : ℕ) :
    SessionKept (s.attempts k) ((s.setAttempts j session).attempts k) := by
  show SessionKept _ (Function.update s.attempts j session k)
  by_cases hk : k = j
  · subst hk
    rw [Function.update_self]
    exact h
  · rw [Function.update_of_ne hk]
    exact .refl _

theorem sessionKept_closeSessions (note : String) (endpoint : EndpointState) (k : ℕ) :
    SessionKept (s.attempts k) ((s.closeSessions note endpoint).attempts k) := by
  show SessionKept _ (if _ then _ else _)
  split_ifs
  · exact sessionKept_closeSession _ _
  · exact .refl _

theorem sessionKept_closeAfterWrite (note : String) (j : ℕ) (writes : Bool) (k : ℕ) :
    SessionKept (s.attempts k) ((s.closeAfterWrite note j writes).attempts k) := by
  unfold closeAfterWrite
  split_ifs
  · exact .refl _
  · exact sessionKept_closeSessions _ _ k

theorem legs_closeAfterWrite (note : String) (j : ℕ) (writes : Bool) :
    (s.closeAfterWrite note j writes).legs = s.legs := by
  unfold closeAfterWrite
  split_ifs <;> rfl

/-- A thread that neither submits nor is about to write. -/
theorem plain_of_stage {leg : Leg} (h : leg.stage = .over ∨ leg.stage = .waiting ∨
    ∃ leaves, leg.stage = .lookingUp leaves) : leg.undispatched = false ∧ ∀ s, leg.Claims s := by
  unfold Leg.undispatched Leg.Claims
  rcases h with h | h | ⟨leaves, h⟩
  all_goals
    rw [h]
    exact ⟨rfl, fun _ => trivial⟩

/-- What a thread of the loop becomes: it goes on waiting, looks a session up, or leaves. -/
structure Resting (leg leg' : Leg) : Prop where
  same : leg'.attemptId = leg.attemptId
  stage : leg'.stage = .over ∨ leg'.stage = .waiting ∨ ∃ leaves, leg'.stage = .lookingUp leaves

theorem resting_leave (leg : Leg) : Resting leg leg.leave := ⟨rfl, .inl rfl⟩

theorem resting_cancelAndLeave (leg : Leg) : Resting leg leg.cancelAndLeave :=
  ⟨rfl, .inr (.inr ⟨true, rfl⟩)⟩

theorem resting_cancelOnceAndLeave (leg : Leg) : Resting leg leg.cancelOnceAndLeave := by
  unfold Leg.cancelOnceAndLeave
  split_ifs
  · exact resting_leave leg
  · exact resting_cancelAndLeave leg

theorem resting_afterCancel (leg : Leg) (leaves : Bool) : Resting leg (leg.afterCancel leaves) := by
  cases leaves with
  | false => exact ⟨rfl, .inr (.inl rfl)⟩
  | true => exact ⟨rfl, .inl rfl⟩

/-- What the loop does with what it took touches neither sessions nor other threads. -/
theorem onTaken_spec {leg : Leg} (hstage : leg.stage = .waiting) (around : Surroundings)
    (taken : Taken) : (s.onTaken leg around taken).1.attempts = s.attempts ∧
      (s.onTaken leg around taken).1.legs = s.legs ∧
      Resting leg (s.onTaken leg around taken).2 := by
  cases taken with
  | item item =>
    cases item with
    | chunk message =>
      unfold onTaken
      dsimp only
      split
      · exact ⟨rfl, rfl, resting_leave leg⟩
      · split_ifs
        · exact ⟨rfl, rfl, resting_cancelOnceAndLeave leg⟩
        · exact ⟨rfl, rfl, resting_cancelOnceAndLeave leg⟩
        · exact ⟨rfl, rfl, rfl, .inr (.inl hstage)⟩
    | suspension message =>
      show (s.onSuspension leg around message).1.attempts = _ ∧
        (s.onSuspension leg around message).1.legs = _ ∧
        Resting leg (s.onSuspension leg around message).2
      unfold onSuspension
      dsimp only
      split
      · exact ⟨rfl, rfl, resting_cancelAndLeave leg⟩
      · split_ifs
        · exact ⟨rfl, rfl, resting_cancelOnceAndLeave leg⟩
        · exact ⟨rfl, rfl, resting_leave leg⟩
        · exact ⟨rfl, rfl, resting_cancelAndLeave leg⟩
  | outcome outcome => exact ⟨rfl, rfl, resting_leave leg⟩
  | timeout =>
    unfold onTaken
    dsimp only
    split_ifs
    · exact ⟨rfl, rfl, resting_cancelAndLeave leg⟩
    · exact ⟨rfl, rfl, rfl, .inr (.inl hstage)⟩

/-- A thread that rests makes a plain move. -/
theorem Resting.plain {leg leg' : Leg} (h : Resting leg leg') : LegMove s leg leg' [] :=
  .plain (plain_of_stage h.stage).1 (plain_of_stage h.stage).2

/-- **What a step of a thread does.** -/
theorem legStep_effect {i : ℕ} {leg : Leg} {around : Surroundings} (hleg : s.legs[i]? = some leg)
    (h : s.legStep i leg around = some (s', events)) :
    BridgedEffect s s' (.leg i around) events := by
  -- A thread that rests, whatever becomes of the suspensions.
  have hrest : ∀ {t : BridgedState} {leg' : Leg}, t.attempts = s.attempts → t.legs = s.legs →
      Resting leg leg' → BridgedEffect s (t.setLeg i leg') (.leg i around) [] := by
    intro t leg' hattempts hlegs hresting
    refine .moved i around leg leg' [] hleg hresting.same hresting.plain (fun j => ?_) ?_
    · show SessionKept _ (t.attempts j)
      rw [hattempts]
      exact .refl _
    · show t.legs.set i leg' = _
      rw [hlegs]
  have hstay : ∀ {leg' : Leg}, leg'.attemptId = leg.attemptId → LegMove s leg leg' [] →
      BridgedEffect s (s.setLeg i leg') (.leg i around) [] := fun hsame hmove =>
    .moved i around leg _ [] hleg hsame hmove (fun _ => .refl _) rfl
  unfold legStep at h
  cases hstage : leg.stage with
  | choosing =>
    rw [hstage] at h
    dsimp only at h
    split at h
    all_goals obtain ⟨rfl, rfl⟩ := Prod.mk.inj (Option.some.inj h)
    · exact hrest rfl rfl (resting_leave leg)
    · exact hstay rfl (.chose _ hstage rfl)
  | submitting j =>
    rw [hstage] at h
    dsimp only at h
    split at h
    all_goals obtain ⟨rfl, rfl⟩ := Prod.mk.inj (Option.some.inj h)
    · exact hrest rfl rfl (resting_leave leg)
    · rename_i tracking htrack
      refine .executed i around leg _ j tracking hleg hstage ?_ ?_ htrack rfl rfl
      · rfl
      · rfl
  | writing =>
    rw [hstage] at h
    dsimp only at h
    split at h
    · obtain ⟨rfl, rfl⟩ := Prod.mk.inj (Option.some.inj h)
      exact hrest rfl rfl ⟨rfl, .inr (.inl rfl)⟩
    · obtain ⟨rfl, rfl⟩ := Prod.mk.inj (Option.some.inj h)
      exact hrest rfl rfl (resting_leave leg)
    · cases h
  | waiting =>
    rw [hstage] at h
    obtain ⟨next, hturn, h⟩ := Option.map_eq_some_iff.mp h
    obtain ⟨rfl, rfl⟩ := Prod.mk.inj h
    unfold turn at hturn
    split at hturn
    · obtain rfl := Option.some.inj hturn
      exact hrest rfl rfl ⟨rfl, .inr (.inr ⟨false, rfl⟩)⟩
    · split at hturn
      · cases hturn
      · rename_i j t _
        split at hturn
        · cases hturn
        · rename_i attempt hattempt
          obtain rfl := Option.some.inj hturn
          obtain ⟨hattempts, hlegs, hresting⟩ := onTaken_spec (s := s.setAttempts j
            ((s.attempts j).onTracker t fun _ => attempt.tracker.take.2)) hstage around
            attempt.tracker.take.1
          have hkept : SessionKept (s.attempts j)
              ((s.attempts j).onTracker t fun _ => attempt.tracker.take.2) := by
            refine ⟨map_attemptId_onAttempt _ _ fun other hother => ?_, fun _ => id, id⟩
            obtain rfl := Option.some.inj (hattempt.symm.trans hother)
            exact attempt.tracker.attemptId_take
          refine .moved i around leg _ [] hleg hresting.same hresting.plain (fun k => ?_) ?_
          · have hkeptAll := sessionKept_setAttempts j hkept k
            rw [← congrFun hattempts k] at hkeptAll
            exact hkeptAll
          · exact congrArg (List.set · i _) hlegs
  | lookingUp leaves =>
    rw [hstage] at h
    dsimp only at h
    split at h
    all_goals obtain ⟨rfl, rfl⟩ := Prod.mk.inj (Option.some.inj h)
    · exact hrest rfl rfl (resting_afterCancel leg leaves)
    · exact hstay rfl (.foundForCancel _ leaves hstage (by assumption) rfl)
  | cancelling j leaves =>
    rw [hstage] at h
    dsimp only at h
    split at h
    all_goals obtain ⟨rfl, rfl⟩ := Prod.mk.inj (Option.some.inj h)
    · exact hrest rfl rfl (resting_afterCancel leg leaves)
    · exact hstay rfl (.cancels j leaves hstage (Bool.eq_false_iff.mpr (by assumption)) rfl)
  | writingCancel j leaves =>
    rw [hstage] at h
    obtain ⟨rfl, rfl⟩ := Prod.mk.inj (Option.some.inj h)
    have hplain := plain_of_stage (resting_afterCancel leg leaves).stage
    refine .moved i around leg _ _ hleg (resting_afterCancel leg leaves).same
      (.cancelled j leaves hstage hplain.1 hplain.2)
      (sessionKept_closeAfterWrite _ j around.writes) ?_
    exact congrArg (List.set · i _) (legs_closeAfterWrite _ j around.writes)
  | resuming =>
    rw [hstage] at h
    dsimp only at h
    split at h
    all_goals obtain ⟨rfl, rfl⟩ := Prod.mk.inj (Option.some.inj h)
    · exact hrest rfl rfl (resting_leave leg)
    · exact hstay rfl (.plain rfl fun _ => trivial)
  | probing j =>
    rw [hstage] at h
    dsimp only at h
    split at h
    all_goals obtain ⟨rfl, rfl⟩ := Prod.mk.inj (Option.some.inj h)
    · exact hrest rfl rfl (resting_leave leg)
    · exact hstay rfl (.probed j _ (by assumption) rfl)
  | delivering j =>
    rw [hstage] at h
    dsimp only at h
    split at h
    all_goals obtain ⟨rfl, rfl⟩ := Prod.mk.inj (Option.some.inj h)
    · exact hrest rfl rfl (resting_leave leg)
    · exact hstay rfl (.delivers j hstage rfl)
  | writingResult j =>
    rw [hstage] at h
    dsimp only at h
    split at h
    all_goals obtain ⟨rfl, rfl⟩ := Prod.mk.inj (Option.some.inj h)
    · have hresting : Resting leg { leg with stage := .waiting } := ⟨rfl, .inr (.inl rfl)⟩
      have hplain := plain_of_stage hresting.stage
      exact .moved i around leg { leg with stage := .waiting } _ hleg rfl
        (.delivered j hstage hplain.1 hplain.2) (fun _ => .refl _) rfl
    · have hplain := plain_of_stage (resting_leave leg).stage
      refine .moved i around leg leg.leave _ hleg rfl (.delivered j hstage hplain.1 hplain.2)
        (sessionKept_closeAfterWrite (s := s.dropHandle leg) _ j false) ?_
      exact congrArg (List.set · i leg.leave)
        (legs_closeAfterWrite (s := s.dropHandle leg) _ j false)
  | _ =>
    rw [hstage] at h
    cases h

/-- **What a step does**, whoever takes it. -/
theorem bridgedEffect_of_step [SecretHash] {action : BridgedAction}
    (h : bridgedMachine.step s action = some (s', events)) :
    BridgedEffect s s' action events := by
  change s.step action = some (s', events) at h
  unfold step at h
  cases action with
  | endpoint note action =>
    obtain ⟨result, -, h⟩ := Option.map_eq_some_iff.mp h
    obtain ⟨rfl, rfl⟩ := Prod.mk.inj h
    exact .same _ (sessionKept_closeSessions note _) rfl
  | configure owner =>
    obtain ⟨rfl, rfl⟩ := Prod.mk.inj (Option.some.inj h)
    exact .same _ (fun _ => .refl _) rfl
  | negotiate j version =>
    dsimp only at h
    split at h
    · obtain ⟨rfl, rfl⟩ := Prod.mk.inj (Option.some.inj h)
      exact .same _ (sessionKept_setAttempts j ⟨rfl, fun _ => id, id⟩) rfl
    · cases h
  | attempt j action =>
    dsimp only at h
    split_ifs at h with hown
    obtain ⟨result, hstep, h⟩ := Option.map_eq_some_iff.mp h
    obtain ⟨rfl, rfl⟩ := Prod.mk.inj h
    exact .same _ (sessionKept_setAttempts j
      (sessionKept_of_step (Bool.eq_false_iff.mpr hown) hstep)) rfl
  | execute resourceId attemptId =>
    obtain ⟨rfl, rfl⟩ := Prod.mk.inj (Option.some.inj h)
    exact .dispatched resourceId attemptId rfl rfl
  | cancelSuspension k =>
    obtain ⟨handle, -, h⟩ := Option.map_eq_some_iff.mp h
    obtain ⟨rfl, rfl⟩ := Prod.mk.inj h
    exact .started _ (.ofHandle handle (.lookingUp true)) rfl (fun _ => trivial) rfl rfl
  | deliverToolResult k =>
    obtain ⟨handle, -, h⟩ := Option.map_eq_some_iff.mp h
    obtain ⟨rfl, rfl⟩ := Prod.mk.inj h
    exact .started _ (.ofHandle handle .resuming) rfl (fun _ => trivial) rfl rfl
  | leg i around =>
    obtain ⟨leg, hleg, h⟩ := Option.bind_eq_some_iff.mp h
    exact legStep_effect hleg h

end BridgedState

/-! ### Affinity -/

/-- The condition: the factory returns no id twice, and a lookup for a cancel finds no session, the
    session on which the attempt was submitted, or a closed one. -/
def BridgedState.affine (s : BridgedState) : BridgedAction → Bool
  | .execute _ attemptId => s.legs.all (·.attemptId ≠ attemptId)
  | .leg i _ =>
    match s.legs[i]? with
    | some { stage := .lookingUp _, resourceId, attemptId, .. } =>
      match s.sessionFor resourceId with
      | .ok j => s.executedOn attemptId j || (s.attempts j).closed
      | .error _ => true
    | _ => true
  | _ => true

/-- Every cancel and every tool result is written to the session on which its attempt was submitted,
    and the attempt was submitted on no other. -/
def FramesAffine (log : List BridgedEvent) : Prop :=
  ∀ attemptId j, .cancelWritten attemptId j ∈ log ∨ .toolResultWritten attemptId j ∈ log →
    .executed attemptId j ∈ log ∧ ∀ j', .executed attemptId j' ∈ log → j' = j

/-- What a run keeps: the attempts of a session are those that the log submitted on it, each on one
    session; the table of a session tracks no other; a thread has not submitted its attempt before
    it does, and is about to write to the session of its attempt. -/
structure AffineState (s : BridgedState) (log : List BridgedEvent) : Prop where
  executed : ∀ attemptId j, .executed attemptId j ∈ log ↔ s.executedOn attemptId j = true
  rows : ∀ j, ∀ row ∈ (s.attempts j).pending.rows, s.executedOn row.1 j = true
  unique : ∀ attemptId j j', s.executedOn attemptId j = true → s.executedOn attemptId j' = true →
    j' = j
  named : ∀ attemptId j, s.executedOn attemptId j = true → ∃ leg ∈ s.legs, leg.attemptId = attemptId
  fresh : ∀ (i : ℕ) (leg : Leg), s.legs[i]? = some leg → leg.undispatched = true →
    (∀ j, s.executedOn leg.attemptId j = false) ∧ ∀ (i' : ℕ) (leg' : Leg),
      s.legs[i']? = some leg' → leg'.undispatched = true → leg'.attemptId = leg.attemptId → i' = i
  claims : ∀ leg ∈ s.legs, leg.Claims s
  written : ∀ attemptId j, .cancelWritten attemptId j ∈ log ∨ .toolResultWritten attemptId j ∈ log →
    s.executedOn attemptId j = true

section Affinity

variable {s s' : BridgedState} {log events : List BridgedEvent}

theorem executedOn_iff {attemptId : SafeId} {j : ℕ} : s.executedOn attemptId j = true ↔
    attemptId ∈ (s.attempts j).attempts.map (·.tracker.attemptId) := by
  unfold BridgedState.executedOn
  rw [List.any_eq_true, List.mem_map]
  simp only [decide_eq_true_eq]

/-- Sessions that are kept were sent the same attempts. -/
theorem executedOn_kept (h : ∀ j, SessionKept (s.attempts j) (s'.attempts j)) (attemptId : SafeId)
    (j : ℕ) : s'.executedOn attemptId j = s.executedOn attemptId j := by
  rw [Bool.eq_iff_iff, executedOn_iff, executedOn_iff, (h j).ids]

/-- A claim survives as long as sessions keep their attempts and stay closed. -/
theorem claims_mono {leg : Leg} (h : leg.Claims s)
    (hexecuted : ∀ j, s.executedOn leg.attemptId j = true → s'.executedOn leg.attemptId j = true)
    (hclosed : ∀ j, (s.attempts j).closed = true → (s'.attempts j).closed = true) :
    leg.Claims s' := by
  unfold Leg.Claims at h ⊢
  cases hstage : leg.stage with
  | cancelling j leaves =>
    rw [hstage] at h
    exact h.imp (hexecuted j) (hclosed j)
  | writingCancel j _ | delivering j | writingResult j =>
    rw [hstage] at h
    exact hexecuted j h
  | _ => trivial

/-- A thread makes its claim when it goes on. -/
theorem LegMove.claims {leg leg' : Leg} (h : AffineState s log) (hleg : leg ∈ s.legs)
    (hmove : LegMove s leg leg' events) (hsame : leg'.attemptId = leg.attemptId)
    (haffine : ∀ leaves j, leg.stage = .lookingUp leaves → s.sessionFor leg.resourceId = .ok j →
      s.executedOn leg.attemptId j = true ∨ (s.attempts j).closed = true) : leg'.Claims s := by
  have hclaims := h.claims leg hleg
  unfold Leg.Claims at hclaims
  cases hmove with
  | plain _ hplain | cancelled _ _ _ _ hplain | delivered _ _ _ hplain => exact hplain s
  | chose j _ hnext =>
    unfold Leg.Claims
    rw [hnext]
    trivial
  | foundForCancel j leaves hstage hsession hnext =>
    unfold Leg.Claims
    rw [hnext, hsame]
    exact haffine leaves j hstage hsession
  | cancels j leaves hstage hopen hnext =>
    rw [hstage] at hclaims
    unfold Leg.Claims
    rw [hnext, hsame]
    refine hclaims.resolve_right fun hclosed => ?_
    rw [hopen] at hclosed
    cases hclosed
  | probed j t hfound hnext =>
    unfold Leg.Claims
    rw [hnext, hsame]
    -- The tracker stands in the table of that session.
    unfold AttemptSession.pendingAttempt at hfound
    split_ifs at hfound
    obtain ⟨row, hrow, -⟩ := Option.map_eq_some_iff.mp hfound
    obtain ⟨hmem, hkey⟩ := Table.row?_eq_some.mp hrow
    exact hkey ▸ h.rows j row hmem
  | delivers j hstage hnext =>
    rw [hstage] at hclaims
    unfold Leg.Claims
    rw [hnext, hsame]
    exact hclaims

/-- What survives a step that submits nothing: all but what is said of the threads. -/
theorem AffineState.of_executedOn (h : AffineState s log)
    (hexecuted : ∀ attemptId j, s'.executedOn attemptId j = s.executedOn attemptId j)
    (hrows : ∀ j, ∀ row ∈ (s'.attempts j).pending.rows, row ∈ (s.attempts j).pending.rows)
    (hnothing : ∀ attemptId j, .executed attemptId j ∉ events)
    (hnamed : ∀ leg ∈ s.legs, ∃ leg' ∈ s'.legs, leg'.attemptId = leg.attemptId)
    (hfresh : ∀ (i : ℕ) (leg : Leg), s'.legs[i]? = some leg → leg.undispatched = true →
      (∀ j, s.executedOn leg.attemptId j = false) ∧ ∀ (i' : ℕ) (leg' : Leg),
        s'.legs[i']? = some leg' → leg'.undispatched = true → leg'.attemptId = leg.attemptId →
        i' = i)
    (hclaims : ∀ leg ∈ s'.legs, leg.Claims s')
    (hwritten : ∀ attemptId j, .cancelWritten attemptId j ∈ events ∨
      .toolResultWritten attemptId j ∈ events → s.executedOn attemptId j = true) :
    AffineState s' (log ++ events) := by
  constructor
  · intro attemptId j
    rw [hexecuted, List.mem_append, h.executed]
    exact or_iff_left (hnothing attemptId j)
  · intro j row hrow
    rw [hexecuted]
    exact h.rows j row (hrows j row hrow)
  · intro attemptId j j'
    rw [hexecuted, hexecuted]
    exact h.unique attemptId j j'
  · intro attemptId j hexecuted'
    rw [hexecuted] at hexecuted'
    obtain ⟨leg, hleg, rfl⟩ := h.named attemptId j hexecuted'
    exact hnamed leg hleg
  · intro i leg hleg hfirst
    obtain ⟨hnot, hothers⟩ := hfresh i leg hleg hfirst
    exact ⟨fun j => (hexecuted _ j).trans (hnot j), hothers⟩
  · exact hclaims
  · intro attemptId j hmem
    rw [hexecuted]
    rw [List.mem_append, List.mem_append] at hmem
    rcases hmem with (hmem | hmem) | (hmem | hmem)
    · exact h.written attemptId j (.inl hmem)
    · exact hwritten attemptId j (.inl hmem)
    · exact h.written attemptId j (.inr hmem)
    · exact hwritten attemptId j (.inr hmem)

/-- A thread that goes on submits nothing, and writes to the session it claims. -/
theorem LegMove.events_spec {leg leg' : Leg} (h : AffineState s log) (hleg : leg ∈ s.legs)
    (hmove : LegMove s leg leg' events) : (∀ attemptId j, .executed attemptId j ∉ events) ∧
      ∀ attemptId j, .cancelWritten attemptId j ∈ events ∨ .toolResultWritten attemptId j ∈ events →
        s.executedOn attemptId j = true := by
  have hclaims := h.claims leg hleg
  unfold Leg.Claims at hclaims
  cases hmove with
  | plain _ _ | chose _ _ _ | foundForCancel _ _ _ _ _ | cancels _ _ _ _ _ | probed _ _ _ _
  | delivers _ _ _ => exact ⟨by simp, fun _ _ hmem => by simp at hmem⟩
  | cancelled j leaves hstage _ _ =>
    rw [hstage] at hclaims
    refine ⟨by simp, fun attemptId k hmem => ?_⟩
    simp only [List.mem_singleton, BridgedEvent.cancelWritten.injEq, reduceCtorEq, or_false] at hmem
    obtain ⟨rfl, rfl⟩ := hmem
    exact hclaims
  | delivered j hstage _ _ =>
    rw [hstage] at hclaims
    refine ⟨by simp, fun attemptId k hmem => ?_⟩
    simp only [List.mem_singleton, BridgedEvent.toolResultWritten.injEq, reduceCtorEq,
      false_or] at hmem
    obtain ⟨rfl, rfl⟩ := hmem
    exact hclaims

/-- A thread that has an attempt to submit after its step had it before. -/
theorem LegMove.undispatched {leg leg' : Leg} (hmove : LegMove s leg leg' events)
    (h : leg'.undispatched = true) : leg.undispatched = true := by
  unfold Leg.undispatched at h ⊢
  cases hmove with
  | plain hdone _ | cancelled _ _ _ hdone _ | delivered _ _ hdone _ =>
    unfold Leg.undispatched at hdone
    rw [hdone] at h
    cases h
  | chose j hstage _ => rw [hstage]
  | foundForCancel _ _ _ _ hnext | cancels _ _ _ _ hnext | probed _ _ _ hnext
  | delivers _ _ hnext =>
    rw [hnext] at h
    cases h

/-- **Affinity is kept** by every step that meets the condition. -/
theorem AffineState.preserved [SecretHash] {action : BridgedAction} (h : AffineState s log)
    (haffine : s.affine action = true)
    (hstep : bridgedMachine.step s action = some (s', events)) :
    AffineState s' (log ++ events) := by
  have effect := BridgedState.bridgedEffect_of_step hstep
  clear hstep
  cases effect with
  | same _ hkept hlegs =>
    have hexecuted := executedOn_kept hkept
    refine h.of_executedOn hexecuted (fun j => (hkept j).rows) (by simp) ?_ ?_ ?_ (by simp)
    · rw [hlegs]
      exact fun leg hleg => ⟨leg, hleg, rfl⟩
    · rw [hlegs]
      exact h.fresh
    · rw [hlegs]
      exact fun leg hleg => claims_mono (h.claims leg hleg)
        (fun j hj => (hexecuted _ j).trans hj) fun j => (hkept j).closed
  | dispatched resourceId attemptId hattempts hlegs =>
    have hexecuted : ∀ id j, s'.executedOn id j = s.executedOn id j := by
      intro id j
      unfold BridgedState.executedOn
      rw [hattempts]
    have hnew : ∀ leg ∈ s.legs, leg.attemptId ≠ attemptId := by
      intro leg hleg
      exact of_decide_eq_true (List.all_eq_true.mp haffine leg hleg)
    have hclaims : ∀ leg ∈ s'.legs, leg.Claims s' := by
      rw [hlegs]
      intro leg hleg
      rcases List.mem_append.mp hleg with hleg | hleg
      · exact claims_mono (h.claims leg hleg) (fun j hj => (hexecuted _ j).trans hj)
          fun j => by rw [hattempts]; exact id
      · obtain rfl := List.mem_singleton.mp hleg
        trivial
    refine h.of_executedOn hexecuted (fun j row => by rw [hattempts]; exact id) (by simp) ?_ ?_
      hclaims (by simp)
    · rw [hlegs]
      exact fun leg hleg => ⟨leg, List.mem_append_left _ hleg, rfl⟩
    · rw [hlegs]
      intro i leg hleg hfirst
      rcases getElem?_concat_eq_some hleg with hold | ⟨rfl, rfl⟩
      · obtain ⟨hnot, hothers⟩ := h.fresh i leg hold hfirst
        refine ⟨hnot, fun i' leg' hleg' hfirst' hsame => ?_⟩
        rcases getElem?_concat_eq_some hleg' with hold' | ⟨-, rfl⟩
        · exact hothers i' leg' hold' hfirst' hsame
        · exact absurd hsame.symm (hnew leg (List.mem_of_getElem? hold))
      · refine ⟨fun j => ?_, fun i' leg' hleg' _ hsame => ?_⟩
        · -- No attempt was submitted under an id that no thread has.
          by_contra hexecuted'
          obtain ⟨leg, hleg, hid⟩ := h.named attemptId j (Bool.eq_true_of_not_eq_false hexecuted')
          exact hnew leg hleg hid
        · rcases getElem?_concat_eq_some hleg' with hold' | ⟨rfl, -⟩
          · exact absurd hsame (hnew leg' (List.mem_of_getElem? hold'))
          · rfl
  | started _ leg hdone hplain hattempts hlegs =>
    have hexecuted : ∀ id j, s'.executedOn id j = s.executedOn id j := by
      intro id j
      unfold BridgedState.executedOn
      rw [hattempts]
    have hclaims : ∀ leg ∈ s'.legs, leg.Claims s' := by
      rw [hlegs]
      intro leg hleg
      rcases List.mem_append.mp hleg with hleg | hleg
      · exact claims_mono (h.claims leg hleg) (fun j hj => (hexecuted _ j).trans hj)
          fun j => by rw [hattempts]; exact id
      · obtain rfl := List.mem_singleton.mp hleg
        exact hplain s'
    refine h.of_executedOn hexecuted (fun j row => by rw [hattempts]; exact id) (by simp) ?_ ?_
      hclaims (by simp)
    · rw [hlegs]
      exact fun leg hleg => ⟨leg, List.mem_append_left _ hleg, rfl⟩
    · rw [hlegs]
      have hold : ∀ {i : ℕ} {other : Leg}, (s.legs ++ [leg])[i]? = some other →
          other.undispatched = true → s.legs[i]? = some other := by
        intro i other hother hfirst
        rcases getElem?_concat_eq_some hother with hother | ⟨-, rfl⟩
        · exact hother
        · rw [hdone] at hfirst
          cases hfirst
      intro i other hother hfirst
      obtain ⟨hnot, hothers⟩ := h.fresh i other (hold hother hfirst) hfirst
      exact ⟨hnot, fun i' leg' hleg' hfirst' => hothers i' leg' (hold hleg' hfirst') hfirst'⟩
  | moved i around leg leg' _ hleg hsame hmove hkept hlegs =>
    have hmem := List.mem_of_getElem? hleg
    have hexecuted := executedOn_kept hkept
    obtain ⟨hnothing, hwritten⟩ := hmove.events_spec h hmem
    have hlookup : ∀ leaves j, leg.stage = .lookingUp leaves →
        s.sessionFor leg.resourceId = .ok j →
        s.executedOn leg.attemptId j = true ∨ (s.attempts j).closed = true := by
      intro leaves j hstage hsession
      obtain ⟨resourceId, attemptId, pending, handle, cancelSent, stage⟩ := leg
      obtain rfl : stage = .lookingUp leaves := hstage
      unfold BridgedState.affine at haffine
      dsimp only at haffine hsession
      rw [hleg] at haffine
      dsimp only at haffine
      rw [hsession] at haffine
      simpa using haffine
    have hclaims := hmove.claims h hmem hsame hlookup
    refine h.of_executedOn hexecuted (fun j => (hkept j).rows) hnothing ?_ ?_ ?_ hwritten
    · rw [hlegs]
      exact fun other hother => exists_mem_set hleg hsame hother
    · rw [hlegs]
      -- The thread that goes on stands for itself before.
      have hold : ∀ {k : ℕ} {other : Leg}, (s.legs.set i leg')[k]? = some other →
          other.undispatched = true → ∃ before, s.legs[k]? = some before ∧
            before.undispatched = true ∧ before.attemptId = other.attemptId := by
        intro k other hother hfirst
        rcases getElem?_set_eq_some hother with ⟨rfl, rfl⟩ | hother
        · exact ⟨leg, hleg, hmove.undispatched hfirst, hsame.symm⟩
        · exact ⟨other, hother, hfirst, rfl⟩
      intro k other hother hfirst
      obtain ⟨before, hbefore, hwaits, hid⟩ := hold hother hfirst
      obtain ⟨hnot, hothers⟩ := h.fresh k before hbefore hwaits
      refine ⟨hid ▸ hnot, fun k' other' hother' hfirst' hsame' => ?_⟩
      obtain ⟨before', hbefore', hwaits', hid'⟩ := hold hother' hfirst'
      exact hothers k' before' hbefore' hwaits' (hid'.trans (hsame'.trans hid.symm))
    · rw [hlegs]
      intro other hother
      have hmono : ∀ {leg : Leg}, leg.Claims s → leg.Claims s' := fun hclaim =>
        claims_mono hclaim (fun j hj => (hexecuted _ j).trans hj) fun j => (hkept j).closed
      rcases List.mem_or_eq_of_mem_set hother with hother | rfl
      · exact hmono (h.claims other hother)
      · exact hmono hclaims
  | executed i around leg leg' j tracking hleg hstage hnext hsame htrack hattempts hlegs =>
    obtain ⟨-, -, hextended⟩ := track_eq_ok htrack
    obtain ⟨hrows, hclosed⟩ := rows_of_track htrack
    have hsubmits : leg.undispatched = true := by
      unfold Leg.undispatched
      rw [hstage]
    obtain ⟨hnot, hothers⟩ := h.fresh i leg hleg hsubmits
    have hexecuted : ∀ id k, s'.executedOn id k = true ↔
        s.executedOn id k = true ∨ (leg.attemptId = id ∧ j = k) := by
      intro id k
      rw [executedOn_iff, executedOn_iff, hattempts]
      by_cases hk : k = j
      · subst hk
        rw [Function.update_self, hextended, List.map_append, List.mem_append]
        simp [eq_comm]
      · rw [Function.update_of_ne hk]
        simp [Ne.symm hk]
    have hstill : leg'.undispatched = false ∧ ∀ s, leg'.Claims s := by
      unfold Leg.undispatched Leg.Claims
      rw [hnext]
      exact ⟨rfl, fun _ => trivial⟩
    constructor
    · intro id k
      rw [List.mem_append, List.mem_singleton, h.executed, hexecuted, BridgedEvent.executed.injEq]
      exact or_congr_right (and_congr eq_comm eq_comm)
    · intro k row hrow
      rw [hattempts] at hrow
      rw [hexecuted]
      by_cases hk : k = j
      · subst hk
        rw [Function.update_self, hrows, List.mem_append, List.mem_singleton] at hrow
        rcases hrow with hrow | rfl
        · exact .inl (h.rows k row hrow)
        · exact .inr ⟨rfl, rfl⟩
      · rw [Function.update_of_ne hk] at hrow
        exact .inl (h.rows k row hrow)
    · intro id k k' hk hk'
      rw [hexecuted] at hk hk'
      rcases hk with hk | ⟨rfl, rfl⟩
      · rcases hk' with hk' | ⟨rfl, rfl⟩
        · exact h.unique id k k' hk hk'
        · rw [hnot k] at hk
          cases hk
      · rcases hk' with hk' | ⟨-, rfl⟩
        · rw [hnot k'] at hk'
          cases hk'
        · rfl
    · intro id k hk
      rw [hlegs]
      rw [hexecuted] at hk
      obtain ⟨other, hother, rfl⟩ : ∃ other ∈ s.legs, other.attemptId = id := by
        rcases hk with hk | ⟨rfl, -⟩
        · exact h.named id k hk
        · exact ⟨leg, List.mem_of_getElem? hleg, rfl⟩
      exact exists_mem_set hleg hsame hother
    · rw [hlegs]
      have hold : ∀ {k : ℕ} {other : Leg}, (s.legs.set i leg')[k]? = some other →
          other.undispatched = true → s.legs[k]? = some other ∧ k ≠ i := by
        intro k other hother hfirst
        rw [List.getElem?_set] at hother
        split_ifs at hother with hik hlt
        · obtain rfl := Option.some.inj hother
          rw [hstill.1] at hfirst
          cases hfirst
        · exact ⟨hother, Ne.symm hik⟩
      intro k other hother hfirst
      obtain ⟨hother, hki⟩ := hold hother hfirst
      obtain ⟨hother_not, hother_alone⟩ := h.fresh k other hother hfirst
      refine ⟨fun k' => Bool.eq_false_iff.mpr fun hk' => ?_, fun k' other' hother' hfirst' =>
        hother_alone k' other' (hold hother' hfirst').1 hfirst'⟩
      rcases (hexecuted _ k').mp hk' with hk' | ⟨hid, -⟩
      · rw [hother_not k'] at hk'
        cases hk'
      · exact hki (hothers k other hother hfirst hid.symm)
    · rw [hlegs]
      intro other hother
      rcases List.mem_or_eq_of_mem_set hother with hother | rfl
      · refine claims_mono (h.claims other hother) (fun k hk => (hexecuted _ k).mpr (.inl hk))
          fun k hk => ?_
        rw [hattempts]
        by_cases hkj : k = j
        · subst hkj
          rw [Function.update_self, hclosed]
          exact hk
        · rw [Function.update_of_ne hkj]
          exact hk
      · exact hstill.2 s'
    · intro id k hmem
      rw [hexecuted]
      refine .inl (h.written id k ?_)
      simpa using hmem

end Affinity

theorem token_bounded :
    Text.ofString "srct-1" ≠ [] ∧ (Text.ofString "srct-1").length ≤ 256 := by decide

/-- Nothing disturbs a thread. -/
def undisturbed : Surroundings where
  token := ⟨Text.ofString "srct-1", token_bounded⟩

/-- The device connects as a session of the given number, and reports its resource. -/
def resourceReported (j : ℕ) : List BridgedAction :=
  [.endpoint "" .accept, .endpoint "" .registerAttached, .negotiate j 4,
    .endpoint "" (.hello j none "w-0a" (repeatedToken 43 'c').text), .endpoint "" (.register j),
    .endpoint "" (.report j (.lit "res-1"))]

/-- An attempt is submitted on the first session of the device, and waits. -/
def attemptWaits : List BridgedAction :=
  .configure (fun _ => some (.lit "w-0a")) :: resourceReported 0 ++
    [.execute (.lit "res-1") (.lit "attempt-1"), .leg 0 undisturbed, .leg 0 undisturbed,
      .attempt 0 (.written 0), .leg 0 undisturbed]

/-- The context of the waiting attempt is cancelled. -/
private def attemptCancelled : List BridgedAction :=
  [.leg 0 { undisturbed with cancelled := true }, .leg 0 undisturbed, .leg 0 undisturbed,
    .leg 0 undisturbed]

end ScarcityRouter
