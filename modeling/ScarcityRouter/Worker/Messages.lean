import ScarcityRouter.Worker.Codec

namespace ScarcityRouter

open ScarcityRouter.Lib

/-!
# Messages of the worker protocol

`worker_protocol.py`: the typed records of both directions and their strict readers.

* `WorkerMessage`, `ServerMessage` — the closed vocabularies of both directions.
* `fromPayload` — what the readers of the messages share: shape, type, and the fields under one
  `except ValueError`.
* `parseWorkerMessage`, `parseServerMessage` — the readers of any message.

`execute_result` and `error` read one field outside their `try`, so they keep their own bodies.
-/

/-! ### Records -/

/-- `_version_list`: at most eight distinct positive versions, the highest first. -/
def VersionList : Type :=
  { versions : List ℤ // versions ≠ [] ∧ versions.length ≤ 8 ∧ (∀ v ∈ versions, 1 ≤ v) ∧
    versions.Pairwise (· > ·) }

/-- `EXECUTE_STATUSES`. -/
inductive ExecuteStatus where
  | completed | failed | cancelled
  deriving DecidableEq

def ExecuteStatus.text : ExecuteStatus → String
  | .completed => "completed"
  | .failed => "failed"
  | .cancelled => "cancelled"

/-- `_MAX_TOOL_RESULT_TEXT`. -/
def maxToolResultText : ℕ := 4 * 1048576

/-- The messages of a worker.  The message of an `execute_result` is cast, not checked. -/
inductive WorkerMessage where
  | hello (workerId : SafeId) (credential : BoundedText 512) (supportedVersions : VersionList)
      (deviceLabel : Option SafeId)
  | pairRequest (pairingCode : BoundedText 512) (supportedVersions : VersionList)
      (deviceLabel : Option SafeId)
  | heartbeat (seq : { n : ℤ // 0 ≤ n })
  | stateReport (report : Record) (inventories : List Record)
  | executeChunk (attemptId : SafeId) (chunk : Record)
  | executeResult (attemptId : SafeId) (status : ExecuteStatus) (calls : List Record)
      (message : Option Json) (finishReason : Option SafeId) (note : Option (BoundedText 200))
  | attemptInterrupted (attemptId : SafeId)
  | executeToolCall (attemptId : SafeId) (callId name : BoundedText 256)
      (arguments : BoundedText 1048576) (content : Option (BoundedText 1048576))
  | rotateCredential

/-- The messages of the server. -/
inductive ServerMessage where
  | helloAck (negotiatedVersion heartbeatIntervalSeconds : { n : ℤ // 1 ≤ n })
  | pairResult (negotiatedVersion : { n : ℤ // 1 ≤ n }) (workerId : SafeId)
      (credential : BoundedText 512) (heartbeatIntervalSeconds : { n : ℤ // 1 ≤ n })
  | heartbeatAck (seq : { n : ℤ // 0 ≤ n })
  | stateReportAck
  | execute (requestId attemptId adapterId : SafeId) (deadline : Text) (call : AdapterCall)
  | cancel (attemptId : SafeId)
  | executeToolResult (attemptId : SafeId) (callId : BoundedText 256)
      (content : BoundedText maxToolResultText)
  | credentialRotated (credential : BoundedText 512)
  | error (code : ProtocolErrorCode) (message : BoundedText 500) (fatal : Bool)

/-! ### Readers -/

/-- The type of a message is the given one. -/
def Record.hasType (record : Record) (name : String) : Bool :=
  match record.get? "type" with
  | some (.string s) => s = Text.ofString name
  | _ => false

/-- `_typed`. -/
def typed (dd : Record) (expected : String) : Except Raised Unit :=
  check (dd.hasType expected = true) (malformed
    (.refused ("message type does not match " ++ expected) ((dd.get? "type").getD .null)))

/-- One required field through a validator. -/
def Record.read {α : Type} (dd : Record) (key : String) (validate : Json → Except Fault α) :
    Except Raised α := do
  valueError (validate (← dd.item key))

/-- One optional field through a validator. -/
def Record.readOptional {α : Type} (dd : Record) (key : String)
    (validate : Json → Except Fault α) : Except Raised (Option α) :=
  dd.optionalItem key fun value => valueError (validate value)

/-- What the readers of the messages share: the shape, the type, and the fields under
    `except ValueError`. -/
def fromPayload {α : Type} (required optional : List String) (messageType : String)
    (fields : Record → Except Raised α) (d : Json) : Except Raised α := do
  let dd ← payloadShape d required optional messageType
  typed dd messageType
  exceptValueError (fields dd)

/-- One entry of a version list. -/
def versionOf : Json → Except Raised { n : ℤ // 1 ≤ n }
  | .int n =>
    if h : 1 ≤ n then .ok ⟨n, h⟩
    else .error (malformed (.stated "supported_versions: expected positive integers"))
  | _ => .error (malformed (.stated "supported_versions: expected positive integers"))

/-- `sorted(set(versions), reverse=True)`. -/
def descending (versions : List { n : ℤ // 1 ≤ n }) : List ℤ :=
  (sortedSet (versions.map (·.1))).reverse

theorem descending_valid {versions : List { n : ℤ // 1 ≤ n }} (hne : versions ≠ [])
    (hlength : versions.length ≤ 8) : descending versions ≠ [] ∧ (descending versions).length ≤ 8 ∧
      (∀ v ∈ descending versions, 1 ≤ v) ∧ (descending versions).Pairwise (· > ·) := by
  refine ⟨?_, ?_, fun v hv => ?_, List.pairwise_reverse.mpr (strictlySorted_sortedSet _)⟩
  · rw [descending, ne_eq, List.reverse_eq_nil_iff, sortedSet_eq_nil, List.map_eq_nil_iff]
    exact hne
  · have hdedup := (List.dedup_sublist (versions.map (·.1))).length_le
    rw [List.length_map] at hdedup
    rw [descending, List.length_reverse, sortedSet, length_sortBy]
    omega
  · rw [descending, List.mem_reverse, mem_sortedSet] at hv
    obtain ⟨version, -, rfl⟩ := List.mem_map.mp hv
    exact version.2

/-- The list of supported versions. -/
def VersionList.ofVersions (versions : List { n : ℤ // 1 ≤ n }) (hne : versions ≠ [])
    (hlength : versions.length ≤ 8) : VersionList :=
  ⟨descending versions, descending_valid hne hlength⟩

/-- `_version_list`. -/
def versionList : Json → Except Raised VersionList
  | .list items =>
    if hbounds : items ≠ [] ∧ items.length ≤ 8 then
      match h : items.mapM versionOf with
      | .error e => .error e
      | .ok versions =>
        have hlength : items.length = versions.length := (mapM_eq_ok.mp h).length_eq
        .ok (VersionList.ofVersions versions
          (fun hnil => hbounds.1 (List.length_eq_zero_iff.mp (by simp [hlength, hnil])))
          (hlength ▸ hbounds.2))
    else .error (malformed (.stated "supported_versions: expected 1..8 entries"))
  | _ => .error (malformed (.stated "supported_versions: expected a list"))

/-- A member that must be an object. -/
def objectOf (fault : Fault) : Json → Except Raised Record
  | .object record => .ok record
  | _ => .error (malformed fault)

/-! ### Messages of a worker -/

/-- `HelloMessage.from_payload`. -/
def helloFromPayload : Json → Except Raised WorkerMessage :=
  fromPayload ["type", "worker_id", "credential", "supported_versions"] ["device_label"] "hello"
    fun dd => do
      let versions ← versionList (← dd.item "supported_versions")
      let workerId ← dd.read "worker_id" (vSafeId · "hello.worker_id")
      let credential ← dd.read "credential" (vText · "hello.credential" 512)
      let deviceLabel ← dd.readOptional "device_label" (vSafeId · "hello.device_label")
      .ok (.hello workerId credential versions deviceLabel)

/-- `PairRequestMessage.from_payload`. -/
def pairRequestFromPayload : Json → Except Raised WorkerMessage :=
  fromPayload ["type", "pairing_code", "supported_versions"] ["device_label"] "pair_request"
    fun dd => do
      let pairingCode ← dd.read "pairing_code" (vText · "pair_request.pairing_code" 512)
      let versions ← versionList (← dd.item "supported_versions")
      let deviceLabel ← dd.readOptional "device_label" (vSafeId · "pair_request.device_label")
      .ok (.pairRequest pairingCode versions deviceLabel)

/-- `HeartbeatMessage.from_payload`. -/
def heartbeatFromPayload : Json → Except Raised WorkerMessage :=
  fromPayload ["type", "seq"] [] "heartbeat" fun dd => do
    .ok (.heartbeat (← dd.read "seq" (vInt · "heartbeat.seq" 0)))

/-- The inventories of a state report: none when the member is missing. -/
def inventoriesOf : Option Json → Except Raised (List Record)
  | none => .ok []
  | some (.list items) => do
    check (items.length ≤ 8) (malformed (.stated "state_report.inventories: expected a bounded list"))
    items.mapM (objectOf (.stated "state_report.inventories: expected objects"))
  | some _ => .error (malformed (.stated "state_report.inventories: expected a bounded list"))

/-- `StateReportMessage.from_payload`. -/
def stateReportFromPayload : Json → Except Raised WorkerMessage :=
  fromPayload ["type", "report"] ["inventories"] "state_report" fun dd => do
    let report ← objectOf (.stated "state_report.report: expected an object") (← dd.item "report")
    let inventories ← inventoriesOf (dd.get? "inventories")
    .ok (.stateReport report inventories)

/-- `ExecuteChunkMessage.from_payload`. -/
def executeChunkFromPayload : Json → Except Raised WorkerMessage :=
  fromPayload ["type", "attempt_id", "chunk"] [] "execute_chunk" fun dd => do
    let chunk ← objectOf (.stated "execute_chunk.chunk: expected an object") (← dd.item "chunk")
    let attemptId ← dd.read "attempt_id" (vSafeId · "execute_chunk.attempt_id")
    .ok (.executeChunk attemptId chunk)

/-- `EXECUTE_STATUSES`. -/
def executeStatuses : List ExecuteStatus := [.completed, .failed, .cancelled]

/-- `status in EXECUTE_STATUSES`. -/
def executeStatusOf (status : Text) : Except Raised ExecuteStatus :=
  match executeStatuses.find? fun s => Text.ofString s.text = status with
  | some status => .ok status
  | none => .error (malformed (.notAllowed "execute_result.status" status))

/-- `ExecuteResultMessage.from_payload`: the status is read outside the `try`. -/
def executeResultFromPayload (d : Json) : Except Raised WorkerMessage := do
  let dd ← payloadShape d ["type", "attempt_id", "status", "calls"]
    ["message", "finish_reason", "note"] "execute_result"
  typed dd "execute_result"
  let rawCalls ← listOf "execute_result.calls" (← dd.item "calls")
  let calls ← rawCalls.mapM (objectOf (.stated "execute_result.calls: expected objects"))
  let status ← dd.read "status" (vStr · "execute_result.status")
  let status ← executeStatusOf status
  exceptValueError do
    let attemptId ← dd.read "attempt_id" (vSafeId · "execute_result.attempt_id")
    let finishReason ← dd.readOptional "finish_reason" (vSafeId · "execute_result.finish_reason")
    let note ← dd.readOptional "note" (vText · "execute_result.note" 200)
    .ok (.executeResult attemptId status calls (dd.present "message") finishReason note)

/-- `AttemptInterruptedMessage.from_payload`. -/
def attemptInterruptedFromPayload : Json → Except Raised WorkerMessage :=
  fromPayload ["type", "attempt_id"] [] "attempt_interrupted" fun dd => do
    .ok (.attemptInterrupted (← dd.read "attempt_id" (vSafeId · "attempt_interrupted.attempt_id")))

/-- `ExecuteToolCallMessage.from_payload`. -/
def executeToolCallFromPayload : Json → Except Raised WorkerMessage :=
  fromPayload ["type", "attempt_id", "call_id", "name", "arguments"] ["content"]
    "execute_tool_call" fun dd => do
      let attemptId ← dd.read "attempt_id" (vSafeId · "execute_tool_call.attempt_id")
      let callId ← dd.read "call_id" (vText · "execute_tool_call.call_id" 256)
      let name ← dd.read "name" (vText · "execute_tool_call.name" 256)
      let arguments ← dd.read "arguments" (vText · "execute_tool_call.arguments" 1048576)
      let content ← dd.readOptional "content" (vText · "execute_tool_call.content" 1048576)
      .ok (.executeToolCall attemptId callId name arguments content)

/-- `RotateCredentialMessage.from_payload`. -/
def rotateCredentialFromPayload : Json → Except Raised WorkerMessage :=
  fromPayload ["type"] [] "rotate_credential" fun _ => .ok .rotateCredential

/-- `parse_worker_message`. -/
def parseWorkerMessage (payload : Record) : Except Raised WorkerMessage :=
  let d : Json := .object payload
  if payload.hasType "hello" then helloFromPayload d
  else if payload.hasType "pair_request" then pairRequestFromPayload d
  else if payload.hasType "heartbeat" then heartbeatFromPayload d
  else if payload.hasType "state_report" then stateReportFromPayload d
  else if payload.hasType "execute_chunk" then executeChunkFromPayload d
  else if payload.hasType "execute_result" then executeResultFromPayload d
  else if payload.hasType "attempt_interrupted" then attemptInterruptedFromPayload d
  else if payload.hasType "execute_tool_call" then executeToolCallFromPayload d
  else if payload.hasType "rotate_credential" then rotateCredentialFromPayload d
  else .error (.workerProtocol ⟨.unknownMessage,
    .refused "unknown worker message type" ((payload.get? "type").getD .null)⟩)

/-! ### Messages of the server -/

/-- `HelloAckMessage.from_payload`. -/
def helloAckFromPayload : Json → Except Raised ServerMessage :=
  fromPayload ["type", "negotiated_version", "heartbeat_interval_seconds"] [] "hello_ack"
    fun dd => do
      let version ← dd.read "negotiated_version" (vInt · "hello_ack.negotiated_version" 1)
      let interval ← dd.read "heartbeat_interval_seconds"
        (vInt · "hello_ack.heartbeat_interval_seconds" 1)
      .ok (.helloAck version interval)

/-- `PairResultMessage.from_payload`. -/
def pairResultFromPayload : Json → Except Raised ServerMessage :=
  fromPayload ["type", "negotiated_version", "worker_id", "credential",
    "heartbeat_interval_seconds"] [] "pair_result" fun dd => do
      let version ← dd.read "negotiated_version" (vInt · "pair_result.negotiated_version" 1)
      let workerId ← dd.read "worker_id" (vSafeId · "pair_result.worker_id")
      let credential ← dd.read "credential" (vText · "pair_result.credential" 512)
      let interval ← dd.read "heartbeat_interval_seconds"
        (vInt · "pair_result.heartbeat_interval_seconds" 1)
      .ok (.pairResult version workerId credential interval)

/-- `HeartbeatAckMessage.from_payload`. -/
def heartbeatAckFromPayload : Json → Except Raised ServerMessage :=
  fromPayload ["type", "seq"] [] "heartbeat_ack" fun dd => do
    .ok (.heartbeatAck (← dd.read "seq" (vInt · "heartbeat_ack.seq" 0)))

/-- `StateReportAckMessage.from_payload`. -/
def stateReportAckFromPayload : Json → Except Raised ServerMessage :=
  fromPayload ["type"] [] "state_report_ack" fun _ => .ok .stateReportAck

/-- `ExecuteMessage.from_payload`. -/
def executeFromPayload : Json → Except Raised ServerMessage :=
  fromPayload ["type", "request_id", "attempt_id", "adapter_id", "deadline", "call"] [] "execute"
    fun dd => do
      let requestId ← dd.read "request_id" (vSafeId · "execute.request_id")
      let attemptId ← dd.read "attempt_id" (vSafeId · "execute.attempt_id")
      let adapterId ← dd.read "adapter_id" (vSafeId · "execute.adapter_id")
      let deadline ← dd.read "deadline" (vStr · "execute.deadline")
      let call ← adapterCallFromDict (← dd.item "call")
      .ok (.execute requestId attemptId adapterId deadline call)

/-- `CancelMessage.from_payload`. -/
def cancelFromPayload : Json → Except Raised ServerMessage :=
  fromPayload ["type", "attempt_id"] [] "cancel" fun dd => do
    .ok (.cancel (← dd.read "attempt_id" (vSafeId · "cancel.attempt_id")))

/-- `ExecuteToolResultMessage.from_payload`. -/
def executeToolResultFromPayload : Json → Except Raised ServerMessage :=
  fromPayload ["type", "attempt_id", "call_id", "content"] [] "execute_tool_result" fun dd => do
    let attemptId ← dd.read "attempt_id" (vSafeId · "execute_tool_result.attempt_id")
    let callId ← dd.read "call_id" (vText · "execute_tool_result.call_id" 256)
    let content ← dd.read "content" (vText · "execute_tool_result.content" maxToolResultText)
    .ok (.executeToolResult attemptId callId content)

/-- `CredentialRotatedMessage.from_payload`. -/
def credentialRotatedFromPayload : Json → Except Raised ServerMessage :=
  fromPayload ["type", "credential"] [] "credential_rotated" fun dd => do
    .ok (.credentialRotated (← dd.read "credential" (vText · "credential_rotated.credential" 512)))

/-- `PROTOCOL_ERROR_CODES`. -/
def protocolErrorCodes : List ProtocolErrorCode :=
  [.protocolVersion, .unauthorized, .credentialRevoked, .pairingInvalid, .pairingExpired,
    .pairingUsed, .pairingUnavailable, .unknownMessage, .malformed, .frameTooLarge,
    .attemptUnknown, .internal]

/-- `code in PROTOCOL_ERROR_CODES`. -/
def errorCodeOf (code : Text) : Except Raised ProtocolErrorCode :=
  match protocolErrorCodes.find? fun c => Text.ofString c.text = code with
  | some code => .ok code
  | none => .error (malformed (.notAllowed "error.code" code))

/-- `ErrorMessage.from_payload`: the code is read outside the `try`. -/
def errorFromPayload (d : Json) : Except Raised ServerMessage := do
  let dd ← payloadShape d ["type", "code", "message", "fatal"] [] "error"
  typed dd "error"
  let code ← dd.read "code" (vStr · "error.code")
  let code ← errorCodeOf code
  exceptValueError do
    let message ← dd.read "message" (vText · "error.message" 500)
    let fatal ← dd.read "fatal" (vBool · "error.fatal")
    .ok (.error code message fatal)

/-- `parse_server_message`. -/
def parseServerMessage (payload : Record) : Except Raised ServerMessage :=
  let d : Json := .object payload
  if payload.hasType "hello_ack" then helloAckFromPayload d
  else if payload.hasType "pair_result" then pairResultFromPayload d
  else if payload.hasType "heartbeat_ack" then heartbeatAckFromPayload d
  else if payload.hasType "state_report_ack" then stateReportAckFromPayload d
  else if payload.hasType "execute" then executeFromPayload d
  else if payload.hasType "cancel" then cancelFromPayload d
  else if payload.hasType "execute_tool_result" then executeToolResultFromPayload d
  else if payload.hasType "credential_rotated" then credentialRotatedFromPayload d
  else if payload.hasType "error" then errorFromPayload d
  else .error (.workerProtocol ⟨.unknownMessage,
    .refused "unknown server message type" ((payload.get? "type").getD .null)⟩)

end ScarcityRouter
