import ScarcityRouter.Gateway.Outcomes
import ScarcityRouter.Worker.Messages
import ScarcityRouter.Lib.Table
import ScarcityRouter.Worker.ToolBridge

namespace ScarcityRouter

open ScarcityRouter.Lib

/-!
# The worker client

`WorkerRuntime` of `worker_client.py`, its sessions and its execution threads, as one machine: the
reconnect loop, the handshake, the drain of the interrupted attempts, the read loop, the execution
threads with their tool bridges, and the end of a session.

* `ClientState.step` — one critical section of one thread, with what the transport, the local
  adapter, the clock and the local store do there.
* `ClientState.sends` — a frame is written completely: it has an encoding, its transport is open,
  and nothing cuts it.
* `ClientState.taskStep` — the steps of `_execute_task`.

Heartbeats, state reports and stream chunks are frames whose fate changes nothing here; an adapter
whose `emit` raises ends as any other adapter does.
-/

/-! ### Results -/

/-- The status of an adapter's result on the wire. -/
def ResultStatus.wire : ResultStatus → ExecuteStatus
  | .completed => .completed
  | .cancelled => .cancelled
  | .failed => .failed

/-- `ExecuteResultMessage`, as the worker builds it. -/
structure ResultMessage where
  attemptId : SafeId
  status : ExecuteStatus
  calls : List Record := []
  message : Option Record := none
  finishReason : Option FinishReason := none
  note : Option Text := none

namespace ResultMessage

/-- `ExecuteResultMessage.to_payload`. -/
def toPayload (result : ResultMessage) : Record :=
  [member "type" (textJson "execute_result"), member "attempt_id" result.attemptId.json,
    member "status" (textJson result.status.text),
    member "calls" (.list (result.calls.map .object))] ++
    optionalMember "message" (result.message.map .object) ++
    optionalMember "finish_reason" (result.finishReason.map fun reason => textJson reason.text) ++
    optionalMember "note" (result.note.map .string)

/-- A failed result with its note. -/
def failed (attemptId : SafeId) (note : Text) : ResultMessage where
  attemptId := attemptId
  status := .failed
  note := some note

end ResultMessage

/-- `exc.message[:200]` of `ensure_reasoning_representable`. -/
def reasoningUnrepresentable : Text :=
  (Text.ofString ("reasoning output cannot be represented on a negotiated " ++
    "protocol below 4")).take 200

/-- `_result_message`, and the failed result that stands for its `WorkerProtocolError`. -/
def resultMessage (version : ℤ) (attemptId : SafeId) (result : AdapterResult) : ResultMessage :=
  if version < 4 ∧ result.message.any (·.reasoning.isSome) then
    .failed attemptId reasoningUnrepresentable
  else
    { attemptId := attemptId
      status := result.status.wire
      calls := result.calls.map callObservationToDict
      message := result.message.map messageToDict
      finishReason := result.finishReason }

/-! ### Execution threads -/

/-- How a local adapter ends. -/
inductive InvokeOutcome where
  | returned (result : AdapterResult)
  | notAllowed
  /-- `WorkerProtocolError`, with its message. -/
  | protocolError (message : Text)
  /-- `ConnectionError` or `OSError`. -/
  | connectionLost
  /-- Any other exception, such as the two of the tool bridge. -/
  | uncaught

/-- What the `finally` clause of an execution leaves behind. -/
inductive TaskEnd where
  /-- The `except` clause has answered or recorded the attempt. -/
  | settled
  /-- No `except` clause took the exception: the thread dies. -/
  | died
  | returned (result : AdapterResult)

/-- Where an execution thread is. -/
inductive TaskStage where
  /-- `_deadline_seconds` comes next. -/
  | starting
  /-- In the local adapter, which may be in `suspend`. -/
  | invoking
  /-- `_send_result` of an `except` clause or of a malformed deadline, before the `finally`. -/
  | failing (result : ResultMessage)
  /-- `record_interrupted` of the `except` clause for a lost connection. -/
  | recording
  /-- The `finally` clause. -/
  | leaving (ending : TaskEnd)
  /-- The last `_send_result`. -/
  | answering (result : ResultMessage)
  | finished

/-- `_WorkerAttempt`, with the session and the thread it belongs to. -/
structure LocalTask where
  session : ℕ
  attemptId : SafeId
  adapterId : SafeId
  cancelled : Bool := false
  bridge : Option ToolBridge := none
  /-- The frame of the suspension. -/
  suspension : Record := []
  stage : TaskStage := .starting

/-! ### The runtime -/

/-- The paired identity as the worker stores it. -/
structure WorkerLocalIdentity where
  workerId : SafeId
  credential : BoundedText 512
  serverOrigin : BoundedText 512
  deviceLabel : Option SafeId := none

/-- What a runtime is built with. -/
structure ClientConfig where
  deviceLabel : Option SafeId := none
  /-- `ReconnectPolicy.max_attempts`. -/
  maxAttempts : ℤ := 10
  maxConcurrentAdapters : ℤ := 4
  /-- The adapter ids of the `LocalAdapterRegistry`. -/
  localAdapters : List SafeId := []

/-- `_ActiveSession`, with the transport of its sender. -/
structure ClientSession where
  identity : WorkerLocalIdentity
  /-- The transport is not closed. -/
  connected : Bool := true
  version : ℤ := 0
  /-- `_attempts`, of the execution threads. -/
  attempts : Table (Prod.fst : SafeId × ℕ → SafeId) := {}
  /-- `_stop_session`. -/
  stopped : Bool := false

/-- The terminal stop reasons of `run`; an exception that leaves it is the last one. -/
inductive StopReason where
  | requested | fatal | exhausted | raised
  deriving DecidableEq

/-- Why a session ended. -/
inductive SessionEnding where
  | retry
  | stop
  /-- `auth_failed`, `revoked` or `version`. -/
  | refused
  /-- An exception leaves the session. -/
  | raised
  deriving DecidableEq

/-- Where the thread of `run` is; the number is the session's. -/
inductive RunStage where
  | idle
  /-- The head of the reconnect loop. -/
  | connecting
  /-- The hello is sent next. -/
  | greeting (session : ℕ)
  | awaitingAck (session : ℕ)
  /-- The head of the drain of the interrupted attempts, after the handshake. -/
  | draining (session : ℕ) (version : ℤ)
  /-- An interrupted attempt was dequeued, and its frame is sent next. -/
  | reporting (session : ℕ) (version : ℤ) (attemptId : SafeId)
  /-- The head of the read loop. -/
  | reading (session : ℕ)
  /-- The read loop waits for a message. -/
  | receiving (session : ℕ)
  /-- The read loop calls `deliver` of the attempt's bridge next. -/
  | delivering (session task : ℕ) (callId content : Text)
  /-- The read loop is in `deliver`. -/
  | depositing (session task : ℕ)
  /-- The read loop was left, with an exception or without. -/
  | unwinding (session : ℕ) (raises : Bool)
  /-- `_fail_in_flight`, with the attempts it has still to record. -/
  | failingInFlight (session : ℕ) (attempts : List ℕ) (raises : Bool)
  /-- The transport is closed next. -/
  | closing (session : ℕ) (ending : SessionEnding)
  | backingOff
  | over (reason : StopReason)

/-- The session whose sender `request_stop` closes. -/
def RunStage.activeSender : RunStage → Option ℕ
  | greeting j | awaitingAck j | draining j _ | reporting j _ _ | reading j | receiving j
  | delivering j _ _ _ | depositing j _ | unwinding j _ | failingInFlight j _ _ => some j
  | _ => none

/-- The bound of `_interrupted`. -/
def maxInterruptedReports : ℕ := 1024

/-- The runtime, all sessions it has opened, and all execution threads it has started. -/
structure ClientState where
  /-- The identity row of the `WorkerLocalStore`. -/
  stored : Option WorkerLocalIdentity := none
  /-- The identity that `run` loaded. -/
  identity : Option WorkerLocalIdentity := none
  stage : RunStage := .idle
  stopRequested : Bool := false
  attemptIndex : ℕ := 0
  interrupted : List SafeId := []
  sessions : List ClientSession := []
  tasks : List LocalTask := []

inductive ClientEvent where
  /-- A hello, written completely or not. -/
  | hello (session : ℕ) (credential : Text)
  | persisted (credential : Text)
  | accepted (task : ℕ) (attemptId : SafeId)
  /-- A result frame is written completely, of an execution or of a refused message. -/
  | answered (task : Option ℕ) (attemptId : SafeId)
  | recorded (task : Option ℕ) (attemptId : SafeId)
  /-- An `attempt_interrupted` frame is written completely. -/
  | reported (session : ℕ) (attemptId : SafeId)
  deriving DecidableEq

/-- What the connect factory does. -/
inductive ConnectOutcome where
  | connected
  /-- `OSError` or `ssl.SSLError`. -/
  | failed
  /-- Any other exception leaves `run`. -/
  | raised

/-- What the runtime reads after its hello. -/
inductive HandshakeAnswer where
  /-- The read or the parser raises. -/
  | failed
  /-- The connection is at its end. -/
  | closed
  | message (message : ServerMessage)

/-- One step of an execution thread. -/
inductive TaskAction where
  /-- `_deadline_seconds` finds the time that is left, or a malformed deadline. -/
  | begin (remaining : Option ℤ)
  /-- The deadline timer fires. -/
  | expire
  | suspend (callId name arguments : Text) (content : Option Text)
  /-- The thread goes on in `suspend`. -/
  | bridge (transmits : Bool)
  | finish (outcome : InvokeOutcome)
  | send (transmits : Bool)
  | record
  /-- The `finally` clause. -/
  | leave

/-- One critical section of one thread. -/
inductive ClientAction where
  /-- `run` loads its identity and compares its origin. -/
  | run (paired : Bool)
  | connect (outcome : ConnectOutcome)
  | greet (transmits : Bool)
  | answer (answer : HandshakeAnswer)
  | drain
  | report (transmits : Bool)
  /-- The read loop looks at its flags. -/
  | poll
  /-- The read loop dispatches a message: its answer is transmitted, the store saves. -/
  | message (message : ServerMessage) (transmits saves : Bool)
  /-- The read loop goes on in `deliver`. -/
  | deliver
  /-- The read loop is left for what it reads, or with an exception. -/
  | leave (raises : Bool)
  /-- `_fail_in_flight` takes the attempts of the session. -/
  | takeInFlight
  | recordInFlight
  | closeTransport
  | backOff
  | requestStop
  | task (task : ℕ) (action : TaskAction)

/-! ### Frames -/

/-- `HelloMessage.to_payload`. -/
def helloPayload (identity : WorkerLocalIdentity) (deviceLabel : Option SafeId) : Record :=
  [member "type" (textJson "hello"), member "worker_id" identity.workerId.json,
    member "credential" (.string identity.credential.1),
    member "supported_versions" (.list [.int 4])] ++
    optionalMember "device_label" (deviceLabel.map SafeId.json)

/-- `AttemptInterruptedMessage.to_payload`. -/
def interruptedPayload (attemptId : SafeId) : Record :=
  [member "type" (textJson "attempt_interrupted"), member "attempt_id" attemptId.json]

/-- `ExecuteToolCallMessage.to_payload`. -/
def toolCallPayload (attemptId : SafeId) (callId name arguments : Text) (content : Option Text) :
    Record :=
  [member "type" (textJson "execute_tool_call"), member "attempt_id" attemptId.json,
    member "call_id" (.string callId), member "name" (.string name),
    member "arguments" (.string arguments)] ++
    optionalMember "content" (content.map .string)

namespace ClientState

variable (s : ClientState)

/-- Rewrite one session. -/
def onSession (j : ℕ) (f : ClientSession → ClientSession) : ClientState :=
  { s with sessions := s.sessions.modify j f }

/-- Rewrite one execution thread. -/
def onTask (i : ℕ) (f : LocalTask → LocalTask) : ClientState :=
  { s with tasks := s.tasks.modify i f }

/-- `_stop_session.set()`. -/
def stopSession (j : ℕ) : ClientState := s.onSession j ({ · with stopped := true })

/-- An execution thread goes on. -/
def advanceTask (i : ℕ) (stage : TaskStage) : ClientState := s.onTask i ({ · with stage := stage })

/-- The thread of `run` goes on. -/
def go (stage : RunStage) : ClientState := { s with stage := stage }

/-- `record_interrupted`: a full queue forgets its oldest entry. -/
def recordInterrupted (attemptId : SafeId) : ClientState :=
  { s with interrupted := pushRing maxInterruptedReports s.interrupted attemptId }

/-- The outcome of a session that a stop may have ended. -/
def retryOrStop : SessionEnding := if s.stopRequested then .stop else .retry

section Frames

variable [FloatFormat]

/-- `_FrameSender.send` writes the frame completely. -/
def sends (j : ℕ) (payload : Record) (transmits : Bool) : Bool :=
  transmits && s.sessions[j]?.any (·.connected) && (encodeFrame (.object payload)).isOk

/-- `_send_result`. -/
def sendResult (task : Option ℕ) (j : ℕ) (result : ResultMessage) (transmits : Bool) :
    ClientState × List ClientEvent :=
  if s.sends j result.toPayload transmits then (s, [.answered task result.attemptId])
  else (s.recordInterrupted result.attemptId, [.recorded task result.attemptId])

/-! ### The read loop -/

/-- `_start_execution`. -/
def startExecution (config : ClientConfig) (j : ℕ) (session : ClientSession)
    (attemptId adapterId : SafeId) (transmits : Bool) : ClientState × List ClientEvent :=
  if config.maxConcurrentAdapters ≤ session.attempts.rows.length then
    s.sendResult none j (.failed attemptId
      (Text.ofString "the worker is at its concurrent-execution bound")) transmits
  else
    match h : session.attempts.row? attemptId with
    | some _ => (s, [])
    | none =>
      let i := s.tasks.length
      ({ s with
        sessions := s.sessions.set j { session with
          attempts := session.attempts.insert (attemptId, i) h }
        tasks := s.tasks ++ [{
          session := j
          attemptId := attemptId
          adapterId := adapterId
          bridge := if 3 ≤ session.version then some {} else none }] },
        [.accepted i attemptId])

/-- `_deliver_tool_result`. -/
def deliverToolResult (j : ℕ) (session : ClientSession) (attemptId : SafeId)
    (callId content : Text) : ClientState :=
  if session.version < 3 then s.stopSession j
  else
    match session.attempts.row? attemptId with
    | none => s
    | some (_, i) => s.go (.delivering j i callId content)

/-- The identity that a session holds after a rotation. -/
def rotatedIdentity (identity : WorkerLocalIdentity) (credential : BoundedText 512) :
    WorkerLocalIdentity := { identity with credential := credential }

/-- `_dispatch`. -/
def dispatch (config : ClientConfig) (j : ℕ) (session : ClientSession) (transmits saves : Bool) :
    ServerMessage → ClientState × List ClientEvent
  | .heartbeatAck _ | .helloAck _ _ | .stateReportAck | .pairResult _ _ _ _ => (s, [])
  | .cancel attemptId =>
    match session.attempts.row? attemptId with
    | none => (s, [])
    | some (_, i) => (s.onTask i ({ · with cancelled := true }), [])
  | .execute _ attemptId adapterId _ _ =>
    s.startExecution config j session attemptId adapterId transmits
  | .executeToolResult attemptId callId content =>
    (s.deliverToolResult j session attemptId callId.1 content.1, [])
  | .credentialRotated credential =>
    if saves then
      let rotated := rotatedIdentity session.identity credential
      ({ s.onSession j ({ · with identity := rotated }) with stored := some rotated },
        [.persisted credential.1])
    else (s.go (.unwinding j true), [])
  | .error _ _ fatal =>
    if fatal then (s.stopSession j, []) else (s, [])

/-! ### Execution threads -/

/-- What an execution thread does when its adapter ends. -/
def endInvocation (attemptId : SafeId) : InvokeOutcome → TaskStage
  | .returned result => .leaving (.returned result)
  | .notAllowed => .failing (.failed attemptId (Text.ofString "adapter_not_allowed"))
  | .protocolError message => .failing (.failed attemptId (message.take 200))
  | .connectionLost => .recording
  | .uncaught => .leaving .died

/-- `run_allowlisted`, before it invokes the adapter. -/
def gate (config : ClientConfig) (task : LocalTask) : TaskStage :=
  if task.adapterId ∈ config.localAdapters then .invoking
  else endInvocation task.attemptId .notAllowed

/-- What the bridge of an execution sees: its own fields, the cancel event and `stopped`. -/
def bridgeState (task : LocalTask) (bridge : ToolBridge) : BridgeState where
  bridge := bridge
  cancelled := task.cancelled
  stopped := s.stopRequested || s.sessions[task.session]?.any (·.stopped)

/-- The bridge of an execution goes on. -/
def setBridge (i : ℕ) (bridge : ToolBridge) : ClientState :=
  s.onTask i ({ · with bridge := some bridge })

/-- The execution thread goes on in `suspend`.  `send_execute_tool_call` stops the session when its
    frame is not written. -/
def bridgeStep (i : ℕ) (task : LocalTask) (bridge : ToolBridge) (transmits : Bool) :
    Option ClientState :=
  let publishes := s.sends task.session task.suspension transmits
  ((s.bridgeState task bridge).step (.adapter publishes)).map fun result =>
    let moved := s.setBridge i result.1.bridge
    if bridge.unpublished publishes then moved.stopSession task.session else moved

/-- `self._attempts.pop(attempt_id, None)`. -/
def popAttempt (j : ℕ) (attemptId : SafeId) : ClientState :=
  s.onSession j fun session =>
    { session with attempts := session.attempts.delete (·.1 = attemptId) }

/-- The `finally` clause, and what comes after it. -/
def leaveTask (i : ℕ) (task : LocalTask) (ending : TaskEnd) : ClientState :=
  let popped := s.popAttempt task.session task.attemptId
  match ending with
  | .settled | .died => popped.advanceTask i .finished
  | .returned result =>
    let version := (s.sessions[task.session]?).elim 0 (·.version)
    popped.advanceTask i (.answering (resultMessage version task.attemptId result))

/-- One step of `_execute_task`. -/
def taskStep (config : ClientConfig) (i : ℕ) (task : LocalTask) (action : TaskAction) :
    Option (ClientState × List ClientEvent) :=
  match task.stage, action with
  | .starting, .begin none =>
    some (s.advanceTask i (.failing (.failed task.attemptId
      (Text.ofString "the execute deadline was malformed"))), [])
  | .starting, .begin (some remaining) =>
    some (s.onTask i fun task =>
      { task with
        cancelled := task.cancelled || remaining ≤ 0
        stage := gate config task }, [])
  | .invoking, .expire => some (s.onTask i ({ · with cancelled := true }), [])
  | .invoking, .suspend callId name arguments content =>
    task.bridge.bind fun bridge => (bridge.suspend callId).map fun result =>
      (s.onTask i fun task =>
        { task with
          bridge := some result.1
          suspension := toolCallPayload task.attemptId callId name arguments content }, [])
  | .invoking, .bridge transmits =>
    task.bridge.bind fun bridge => (s.bridgeStep i task bridge transmits).map (·, [])
  | .invoking, .finish outcome =>
    if task.bridge.all (·.adapter = .outside) then
      some (s.advanceTask i (endInvocation task.attemptId outcome), [])
    else none
  | .failing result, .send transmits =>
    let sent := s.sendResult (some i) task.session result transmits
    some (sent.1.advanceTask i (.leaving .settled), sent.2)
  | .recording, .record =>
    some ((s.recordInterrupted task.attemptId).advanceTask i (.leaving .settled),
      [.recorded (some i) task.attemptId])
  | .leaving ending, .leave => some (s.leaveTask i task ending, [])
  | .answering result, .send transmits =>
    let sent := s.sendResult (some i) task.session result transmits
    some (sent.1.advanceTask i .finished, sent.2)
  | _, _ => none

/-! ### The thread of `run` -/

/-- What the handshake makes of its answer. -/
def handshake (j : ℕ) : HandshakeAnswer → RunStage
  | .failed => .closing j .retry
  | .closed => .closing j s.retryOrStop
  | .message (.helloAck version _) => .draining j version.1
  | .message (.error .credentialRevoked _ _) | .message (.error .unauthorized _ _)
  | .message (.error .protocolVersion _ _) => .closing j .refused
  | .message (.error _ _ _) => .closing j s.retryOrStop
  | .message _ => .closing j .retry

/-- `run` after a session. -/
def afterSession : SessionEnding → RunStage
  | .retry => .backingOff
  | .stop => .over .requested
  | .refused => .over .fatal
  | .raised => .over .raised

/-- One critical section of one thread. -/
def step (config : ClientConfig) : ClientAction → Option (ClientState × List ClientEvent)
  | .run paired =>
    match s.stage, s.stored with
    | .idle, none => some (s.go (.over .fatal), [])
    | .idle, some identity =>
      if paired then
        some ({ s with
          identity := some identity
          stage := .connecting }, [])
      else some (s.go (.over .fatal), [])
    | _, _ => none
  | .connect outcome =>
    match s.stage, s.identity with
    | .connecting, some identity =>
      if s.stopRequested then some (s.go (.over .requested), [])
      else
        match outcome with
        | .connected => some ({ s with
            sessions := s.sessions ++ [{ identity := identity }]
            stage := .greeting s.sessions.length }, [])
        | .failed => some (s.go .backingOff, [])
        | .raised => some (s.go (.over .raised), [])
    | _, _ => none
  | .greet transmits =>
    match s.stage, s.identity with
    | .greeting j, some identity =>
      let sent := s.sends j (helloPayload identity config.deviceLabel) transmits
      some (s.go (if sent then .awaitingAck j else .closing j .retry),
        [.hello j identity.credential.1])
    | _, _ => none
  | .answer answer =>
    match s.stage with
    | .awaitingAck j => some (s.go (s.handshake j answer), [])
    | _ => none
  | .drain =>
    match s.stage, s.interrupted with
    | .draining j version, [] =>
      some ((s.onSession j ({ · with version := version })).go (.reading j), [])
    | .draining j version, attemptId :: rest =>
      some ({ s with
        interrupted := rest
        stage := .reporting j version attemptId }, [])
    | _, _ => none
  | .report transmits =>
    match s.stage with
    | .reporting j version attemptId =>
      if s.sends j (interruptedPayload attemptId) transmits then
        some (s.go (.draining j version), [.reported j attemptId])
      else some (s.go (.closing j .retry), [])
    | _ => none
  | .poll =>
    match s.stage with
    | .reading j =>
      if s.stopRequested || s.sessions[j]?.any (·.stopped) then
        some (s.go (.unwinding j false), [])
      else some (s.go (.receiving j), [])
    | _ => none
  | .message message transmits saves =>
    match s.stage with
    | .receiving j => (s.sessions[j]?).map fun session =>
        (s.go (.reading j)).dispatch config j session transmits saves message
    | _ => none
  | .deliver =>
    match s.stage with
    | .delivering j i callId content =>
      match (s.tasks[i]?).bind (·.bridge) with
      | none => some (s.go (.reading j), [])
      | some bridge => (bridge.deliver callId content).map fun after =>
          ((s.setBridge i after).go (.depositing j i), [])
    | .depositing j i =>
      match ((s.tasks[i]?).bind (·.bridge)).bind (·.readerStep) with
      | none => some (s.go (.reading j), [])
      | some result => some (s.setBridge i result.1, [])
    | _ => none
  | .leave raises =>
    match s.stage with
    | .receiving j => some (s.go (.unwinding j raises), [])
    | _ => none
  | .takeInFlight =>
    match s.stage with
    | .unwinding j raises => (s.sessions[j]?).map fun session =>
        ((s.onSession j ({ · with
          attempts := {}
          stopped := true })).go
          (.failingInFlight j (session.attempts.rows.map Prod.snd) raises), [])
    | _ => none
  | .recordInFlight =>
    match s.stage with
    | .failingInFlight j [] raises =>
      some (s.go (.closing j (if raises then .raised else s.retryOrStop)), [])
    | .failingInFlight j (i :: rest) raises => (s.tasks[i]?).map fun task =>
        (((s.onTask i ({ · with cancelled := true })).recordInterrupted task.attemptId).go
          (.failingInFlight j rest raises), [.recorded (some i) task.attemptId])
    | _ => none
  | .closeTransport =>
    match s.stage with
    | .closing j ending =>
      some ((s.onSession j ({ · with connected := false })).go (afterSession ending), [])
    | _ => none
  | .backOff =>
    match s.stage with
    | .backingOff =>
      if config.maxAttempts ≤ s.attemptIndex + 1 then some (s.go (.over .exhausted), [])
      else if s.stopRequested then some (s.go (.over .requested), [])
      else
        some ({ s with
          attemptIndex := s.attemptIndex + 1
          stage := .connecting }, [])
    | _ => none
  | .requestStop =>
    let stopping := { s with stopRequested := true }
    match s.stage.activeSender with
    | none => some (stopping, [])
    | some j => some (stopping.onSession j ({ · with connected := false }), [])
  | .task i action => (s.tasks[i]?).bind fun task => s.taskStep config i task action

end Frames

end ClientState

/-- The runtime with its sessions and its execution threads. -/
def clientMachine [FloatFormat] (config : ClientConfig) :
    Machine ClientState ClientAction ClientEvent :=
  ⟨fun s action => s.step config action⟩

end ScarcityRouter
