import ScarcityRouter.Gateway.Adapters
import ScarcityRouter.Worker.Frames

namespace ScarcityRouter

open ScarcityRouter.Lib

/-!
# Call codecs of the worker protocol

`worker_protocol.py`: the dictionaries of calls, stream chunks and observations, and their strict
readers.

* `Raised` — the exceptions a reader can end with, and the `except` clauses around the readers.
* `dictOf` — `dict(value)`, which also takes lists of pairs.
* `messageToDict`, `messageFromDict` — one conversation message.
* `adapterCallToDict`, `adapterCallFromDict` — one call.
* `chunkToDict`, `chunkFromDict` — one stream chunk.
* `callObservationToDict`, `callObservationFromDict` — one call observation.
-/

/-! ### Exceptions -/

/-- The exceptions of the readers: the validation errors of the resource and selection contracts
    are no `ValueError`. -/
inductive Raised where
  | workerProtocol (error : WorkerProtocolError)
  | value (fault : Fault)
  | type (fault : Fault)
  | key (key : String)
  | capacityValidation (fault : Fault)
  | selectionContractValidation (fault : Fault)

/-- `WorkerProtocolError(ERR_MALFORMED, …)`. -/
def malformed (fault : Fault) : Raised := .workerProtocol ⟨.malformed, fault⟩

/-- A validator raises a `ValueError`. -/
def valueError {α : Type} (x : Except Fault α) : Except Raised α := x.mapError .value

/-- `except ValueError as exc: raise WorkerProtocolError(ERR_MALFORMED, str(exc))`. -/
def exceptValueError {α : Type} (x : Except Raised α) : Except Raised α :=
  match x with
  | .error (.value fault) => .error (malformed fault)
  | x => x

/-- `except (ValueError, TypeError) as exc: raise WorkerProtocolError(ERR_MALFORMED, str(exc))`. -/
def exceptValueOrTypeError {α : Type} (x : Except Raised α) : Except Raised α :=
  match x with
  | .error (.value fault) | .error (.type fault) => .error (malformed fault)
  | x => x

/-- `_payload_shape`. -/
def payloadShape (d : Json) (required optional : List String) (label : String) :
    Except Raised Record :=
  exceptValueError (valueError (exactShape d required optional label))

/-- `dd[key]`. -/
def Record.item (record : Record) (key : String) : Except Raised Json :=
  match record.get? key with
  | some value => .ok value
  | none => .error (.key key)

/-- `None if dd.get(key) is None else read(dd[key])`. -/
def Record.optionalItem {α : Type} (record : Record) (key : String)
    (read : Json → Except Raised α) : Except Raised (Option α) :=
  match record.present key with
  | none => .ok none
  | some value => some <$> read value

/-- `value in vocabulary` for a set of texts: a list or an object has no hash. -/
def inVocabulary {α : Type} (members : List α) (text : α → String) (value : Json) :
    Except Raised (Option α) :=
  match value with
  | .list _ => .error (.type (.stated "unhashable type: 'list'"))
  | .object _ => .error (.type (.stated "unhashable type: 'dict'"))
  | .string s => .ok (members.find? fun a => Text.ofString (text a) = s)
  | _ => .ok none

/-! ### Mappings -/

/-- A value that is a dictionary. -/
def IsObject (value : Json) : Prop := ∃ record, value = .object record

/-- `mapping[key] = value`: an equal key keeps its place and its spelling. -/
def Mapping.set (key value : Json) : Mapping → Mapping
  | [] => [(key, value)]
  | entry :: mapping =>
    if entry.1.sameKey key then (entry.1, value) :: mapping
    else entry :: Mapping.set key value mapping

/-- The key and the value that `dict` takes from one element of a sequence. -/
def pairOf : Json → Except Raised (Json × Json)
  | .list [key, value] => .ok (key, value)
  | .string [key, value] => .ok (.string [key], .string [value])
  | .object [(key, _), (value, _)] => .ok (.string key, .string value)
  | .list _ | .string _ | .object _ =>
    .error (.value (.stated "dictionary update sequence element has a length other than 2"))
  | _ => .error (.type (.stated "cannot convert dictionary update sequence element to a sequence"))

/-- One element of a sequence is added to a dictionary. -/
def addPair (mapping : Mapping) (element : Json) : Except Raised Mapping := do
  let (key, value) ← pairOf element
  check key.hashable (.type (.stated "unhashable type"))
  .ok (mapping.set key value)

/-- A mapping of texts. -/
def Mapping.ofRecord (record : Record) : Mapping := record.map fun m => (.string m.1, m.2)

/-- `dict(value)`. -/
def dictOf : Json → Except Raised Mapping
  | .object members => .ok (Mapping.ofRecord members)
  | .list elements => elements.foldlM addPair []
  | .string [] => .ok []
  | .string _ => .error (.value (.stated "dictionary update sequence element #0 has length 1"))
  | _ => .error (.type (.stated "object is not iterable"))

/-- The record that a mapping is when its keys are texts. -/
def Mapping.record? (mapping : Mapping) : Option Record :=
  mapping.mapM fun entry : Json × Json =>
    match entry.1 with
    | .string key => some (key, entry.2)
    | _ => none

/-! ### Identities -/

/-- A text as a value. -/
def textJson (text : String) : Json := .string (Text.ofString text)

/-- An identifier as a value. -/
def SafeId.json (id : SafeId) : Json := .string id.toText

/-- A list of values that may be left out when it is empty. -/
def nonemptyList : List Json → Option Json
  | [] => none
  | items => some (.list items)

/-- `EXECUTION_CHANNELS`. -/
def executionChannels : List Channel := [.serverDirectHttp, .workerBridged, .localAppAdapter]

/-- `ENTITLEMENT_CLASSES`. -/
def entitlementClasses : List Entitlement :=
  [.subscriptionIncluded, .promotional, .paygMetered, .prepaidCredits, .localUngated, .unknown]

/-- `ResourceIdentity.to_dict`. -/
def resourceToDict (resource : ResourceIdentity) : Record :=
  [member "resource_id" resource.resourceId.json,
    member "channel" (textJson resource.channel.text.text),
    member "provider" resource.provider.json, member "model" resource.model.json,
    member "entitlement" (textJson resource.entitlement.text)] ++
    optionalMember "variant" (resource.variant.map SafeId.json) ++
    optionalMember "quota_pool_ids" (nonemptyList (resource.quotaPoolIds.map SafeId.json))

/-- `_v_sorted_unique`. -/
def vSortedUnique (values : List SafeId) (label : String) :
    Except Fault { pools : List SafeId // pools.Pairwise (· < ·) } :=
  if h : values.Pairwise (· < ·) then .ok ⟨values, h⟩
  else if sortBy id values = values then
    .error (.stated (label ++ ": duplicate values are not permitted"))
  else .error (.stated (label ++ ": must be deterministically sorted"))

/-- A validator of the capacity contract raises its own error. -/
def capacityError {α : Type} (x : Except Fault α) : Except Raised α :=
  x.mapError .capacityValidation

/-- A validator of the selection contract raises its own error. -/
def selectionError {α : Type} (x : Except Fault α) : Except Raised α :=
  x.mapError .selectionContractValidation

/-- The raw pools of a resource: none when the member is missing or null. -/
def rawPools : Option Json → Except Raised (List Json)
  | none => .ok []
  | some (.list pools) => .ok pools
  | some _ => .error (.capacityValidation
    (.stated "resource_identity.quota_pool_ids: expected list"))

/-- `ResourceIdentity.from_dict`. -/
def resourceFromDict (d : Json) : Except Raised ResourceIdentity := do
  let dd ← capacityError (vExactShape d
    ["resource_id", "channel", "provider", "model", "entitlement"] ["variant", "quota_pool_ids"]
    "resource_identity")
  let pools ← rawPools (dd.present "quota_pool_ids")
  let resourceId ← capacityError
    (vSafeId (← dd.item "resource_id") "resource_identity.resource_id")
  let channel ← capacityError (vEnum executionChannels (fun c => c.text.text) (← dd.item "channel")
    "resource_identity.channel")
  let provider ← capacityError (vSafeId (← dd.item "provider") "resource_identity.provider")
  let model ← capacityError (vSafeId (← dd.item "model") "resource_identity.model")
  let entitlement ← capacityError (vEnum entitlementClasses Entitlement.text
    (← dd.item "entitlement") "resource_identity.entitlement")
  let variant ← dd.optionalItem "variant" fun value =>
    capacityError (vSafeId value "resource_identity.variant")
  let pools ← pools.mapM fun pool =>
    capacityError (vSafeId pool "resource_identity.quota_pool_ids")
  let ⟨pools, sorted⟩ ← capacityError (vSortedUnique pools "resource_identity.quota_pool_ids")
  .ok ⟨resourceId, channel, provider, model, entitlement, variant, pools, sorted⟩

/-- `ModelIdentity.to_dict`. -/
def modelToDict (model : ModelIdentity) : Record :=
  [member "provider" model.provider.json, member "model" model.model.json,
    member "variant" model.variant.json]

/-- `ModelIdentity.from_dict`. -/
def modelFromDict (d : Json) : Except Raised ModelIdentity := do
  let dd ← selectionError (vExactShape d ["provider", "model", "variant"] [] "model_identity")
  let provider ← selectionError (vSafeId (← dd.item "provider") "model_identity.provider")
  let model ← selectionError (vSafeId (← dd.item "model") "model_identity.model")
  let variant ← selectionError (vSafeId (← dd.item "variant") "model_identity.variant")
  .ok ⟨provider, model, variant⟩

/-! ### Messages -/

def toolCallToDict (call : AdapterToolCall) : Record :=
  [member "id" (.string call.id.1), member "name" (.string call.name.1),
    member "arguments" (.string call.arguments.1)]

/-- One tool call under a label: of a message, or of a chunk. -/
def toolCallFromDict (label : String) (d : Json) : Except Raised AdapterToolCall := do
  let dd ← payloadShape d ["id", "name", "arguments"] [] label
  exceptValueError do
    let id ← valueError (vText (← dd.item "id") (label ++ ".id") 256)
    let name ← valueError (vText (← dd.item "name") (label ++ ".name") 256)
    let arguments ← valueError (vText (← dd.item "arguments") (label ++ ".arguments") 1048576)
    .ok ⟨id, name, arguments⟩

/-- `message_to_dict`. -/
def messageToDict (message : AdapterMessage) : Record :=
  [member "role" message.role.json] ++
    optionalMember "content" (message.content.map fun t => .string t.1) ++
    optionalMember "reasoning" (message.reasoning.map fun t => .string t.1) ++
    optionalMember "tool_call_id" (message.toolCallId.map fun t => .string t.1) ++
    optionalMember "name" (message.name.map fun t => .string t.1) ++
    optionalMember "tool_calls"
      (nonemptyList (message.toolCalls.map fun call => .object (toolCallToDict call)))

/-- The length check of an optional text of `AdapterMessage.__post_init__`. -/
def vLimited (text : Option Text) (field : String) :
    Except Fault (Option (LimitedText 16777216)) :=
  match text with
  | none => .ok none
  | some text =>
    if h : 16777216 < text.length then .error (.tooLong field 16777216)
    else .ok (some ⟨text, not_lt.mp h⟩)

/-- The tool calls of a message: none when the member is missing or null. -/
def toolCallsFromDict : Option Json → Except Raised (List AdapterToolCall)
  | none => .ok []
  | some (.list calls) => calls.mapM (toolCallFromDict "protocol.tool_call")
  | some _ => .error (malformed (.stated "protocol.message.tool_calls: expected a list"))

/-- `message_from_dict`. -/
def messageFromDict (d : Json) : Except Raised AdapterMessage := do
  let dd ← payloadShape d ["role"] ["content", "reasoning", "tool_calls", "tool_call_id", "name"]
    "protocol.message"
  let toolCalls ← toolCallsFromDict (dd.present "tool_calls")
  exceptValueError do
    let role ← valueError (vSafeId (← dd.item "role") "protocol.message.role")
    let content ← dd.optionalItem "content" fun value =>
      valueError (vStr value "protocol.message.content")
    let toolCallId ← dd.optionalItem "tool_call_id" fun value =>
      valueError (vText value "protocol.message.tool_call_id" 256)
    let name ← dd.optionalItem "name" fun value =>
      valueError (vText value "protocol.message.name" 256)
    let reasoning ← dd.optionalItem "reasoning" fun value =>
      valueError (vStr value "protocol.message.reasoning")
    let content ← valueError (vLimited content "adapter_message.content")
    let reasoning ← valueError (vLimited reasoning "adapter_message.reasoning")
    .ok ⟨role, content, toolCalls, toolCallId, name, reasoning⟩

/-! ### Calls -/

/-- `None if call.response_format is None else dict(call.response_format)`. -/
def responseFormatJson? : Option Mapping → Option Json
  | none => some .null
  | some mapping => mapping.record?.map .object

/-- The document of `adapter_call_to_dict` with the records of its mappings. -/
def callDocument (call : AdapterCall) (tools : List Record) (responseFormat : Json)
    (generationParams : Record) : Record :=
  [member "resource" (.object (resourceToDict call.resource)),
    member "model" (.object (modelToDict call.model)),
    member "messages" (.list (call.messages.map fun m => .object (messageToDict m))),
    member "stream" (.bool call.stream), member "tools" (.list (tools.map .object)),
    member "tool_choice" call.toolChoice, member "response_format" responseFormat,
    member "reasoning_effort" ((call.reasoningEffort.map SafeId.json).getD .null),
    member "max_output_tokens" ((call.maxOutputTokens.map fun n => .int n.1).getD .null),
    member "generation_params" (.object generationParams)]

/-- `adapter_call_to_dict`; `none` when a mapping has a key that is no text, so that the dictionary
    is no JSON value. -/
def adapterCallToDict (call : AdapterCall) : Option Record := do
  let tools ← call.tools.mapM Mapping.record?
  let responseFormat ← responseFormatJson? call.responseFormat
  let generationParams ← call.generationParams.record?
  some (callDocument call tools responseFormat generationParams)

/-- `_resource_identity_from_dict`. -/
def resourceIdentityFromDict (d : Json) : Except Raised ResourceIdentity :=
  exceptValueError (resourceFromDict d)

/-- `isinstance(value, list)`, or a malformed message. -/
def listOf (label : String) : Json → Except Raised (List Json)
  | .list items => .ok items
  | _ => .error (malformed (.stated (label ++ ": expected a list")))

/-- One tool of a call: an object, copied. -/
def toolFromDict : Json → Except Raised Mapping
  | .object members => .ok (Mapping.ofRecord members)
  | _ => .error (malformed (.stated "protocol.call.tools: expected objects"))

/-- `None if value is None else read(value)`. -/
def nullable {α : Type} (read : Json → Except Raised α) (value : Json) :
    Except Raised (Option α) :=
  if value.isNull then .ok none else some <$> read value

/-- The keys of a serialized call. -/
def callKeys : List String :=
  ["resource", "model", "messages", "stream", "tools", "tool_choice", "response_format",
    "reasoning_effort", "max_output_tokens", "generation_params"]

/-- `adapter_call_from_dict`. -/
def adapterCallFromDict (d : Json) : Except Raised AdapterCall := do
  let dd ← payloadShape d callKeys [] "protocol.call"
  let messages ← listOf "protocol.call.messages" (← dd.item "messages")
  let tools ← listOf "protocol.call.tools" (← dd.item "tools")
  exceptValueOrTypeError do
    let tools ← tools.mapM toolFromDict
    let resource ← resourceIdentityFromDict (← dd.item "resource")
    let model ← modelFromDict (← dd.item "model")
    let messages ← messages.mapM messageFromDict
    let stream ← valueError (vBool (← dd.item "stream") "protocol.call.stream")
    let toolChoice ← dd.item "tool_choice"
    let responseFormat ← nullable dictOf (← dd.item "response_format")
    let reasoningEffort ← nullable
      (fun value => valueError (vSafeId value "protocol.call.reasoning_effort"))
      (← dd.item "reasoning_effort")
    let maxOutputTokens ← nullable
      (fun value => valueError (vInt value "protocol.call.max_output_tokens" 1))
      (← dd.item "max_output_tokens")
    let generationParams ← dictOf (← dd.item "generation_params")
    .ok ⟨resource, model, messages, stream, tools, toolChoice, responseFormat, reasoningEffort,
      maxOutputTokens, generationParams⟩

/-! ### Usage, chunks and observations -/

/-- `usage_to_dict`. -/
def usageToDict (usage : UsageTokens) : Record :=
  [member "prompt_tokens" (.int usage.promptTokens.1),
    member "completion_tokens" (.int usage.completionTokens.1)]

/-- `usage_from_dict`. -/
def usageFromDict (d : Json) : Except Raised UsageTokens :=
  exceptValueOrTypeError do
    let dd ← valueError (exactShape d ["prompt_tokens", "completion_tokens"] [] "usage")
    let promptTokens ← valueError (vInt (← dd.item "prompt_tokens") "usage.prompt_tokens" 0)
    let completionTokens ← valueError
      (vInt (← dd.item "completion_tokens") "usage.completion_tokens" 0)
    .ok ⟨promptTokens, completionTokens⟩

/-- `chunk_to_dict`. -/
def chunkToDict (chunk : AdapterStreamChunk) : Record :=
  [member "kind" (textJson chunk.kind.text)] ++
    optionalMember "text" (chunk.text?.map fun t => .string t.1) ++
    optionalMember "tool_call" (chunk.toolCall?.map fun call => .object (toolCallToDict call)) ++
    optionalMember "finish_reason" (chunk.finishReason?.map fun r => textJson r.text) ++
    optionalMember "usage" (chunk.usage?.map fun u => .object (usageToDict u))

/-- `CHUNK_KINDS`. -/
def chunkKinds : List ChunkKind := [.textDelta, .reasoningDelta, .toolCall, .finish, .usage]

/-- `FINISH_REASONS`. -/
def finishReasons : List FinishReason := [.stop, .toolCalls, .length, .cancelled]

/-- `CALL_STATUSES`. -/
def callStatuses : List CallStatus := [.completed, .failed, .cancelled, .unknown]

/-- The finish reason of a chunk. -/
def finishReasonFromDict (value : Json) : Except Raised FinishReason := do
  match ← inVocabulary finishReasons FinishReason.text value with
  | none =>
    .error (malformed (.refused "protocol.chunk.finish_reason: is not a finish reason" value))
  | some reason => .ok reason

/-- `chunk_from_dict`. -/
def chunkFromDict (d : Json) : Except Raised AdapterStreamChunk := do
  let dd ← payloadShape d ["kind"] ["text", "tool_call", "finish_reason", "usage"]
    "protocol.chunk"
  let value ← dd.item "kind"
  match ← inVocabulary chunkKinds ChunkKind.text value with
  | none =>
    .error (malformed (.refused "protocol.chunk.kind: is not a chunk kind" value))
  | some kind =>
    exceptValueError do
      let toolCall ← dd.optionalItem "tool_call" (toolCallFromDict "protocol.chunk.tool_call")
      let finishReason ← dd.optionalItem "finish_reason" finishReasonFromDict
      let text ← dd.optionalItem "text" fun value =>
        valueError (vText value "protocol.chunk.text" maxStreamDeltaChars)
      let usage ← dd.optionalItem "usage" usageFromDict
      valueError (AdapterStreamChunk.make kind text toolCall finishReason usage)

/-- `call_observation_to_dict`. -/
def callObservationToDict (observation : CallObservation) : Record :=
  [member "call_index" (.int observation.callIndex.1),
    member "started_at" (.string observation.startedAt.1),
    member "ended_at" (.string observation.endedAt.1),
    member "status" (textJson observation.status.text)] ++
    optionalMember "provider_reported_usage"
      (observation.providerReportedUsage.map fun u => .object (usageToDict u)) ++
    optionalMember "estimated_usage"
      (observation.estimatedUsage.map fun u => .object (usageToDict u)) ++
    optionalMember "note" (observation.note.map fun t => .string t.1)

/-- `call_observation_from_dict`. -/
def callObservationFromDict (d : Json) : Except Raised CallObservation := do
  let dd ← payloadShape d ["call_index", "started_at", "ended_at", "status"]
    ["provider_reported_usage", "estimated_usage", "note"] "protocol.call_observation"
  exceptValueError do
    let value ← dd.item "status"
    match ← inVocabulary callStatuses CallStatus.text value with
    | none =>
      .error (malformed (.refused "protocol.call_observation.status: unknown" value))
    | some status =>
      let callIndex ← valueError
        (vInt (← dd.item "call_index") "protocol.call_observation.call_index" 0)
      let startedAt ← valueError
        (vStr (← dd.item "started_at") "protocol.call_observation.started_at")
      let endedAt ← valueError
        (vStr (← dd.item "ended_at") "protocol.call_observation.ended_at")
      let reported ← dd.optionalItem "provider_reported_usage" usageFromDict
      let estimated ← dd.optionalItem "estimated_usage" usageFromDict
      let note ← dd.optionalItem "note" fun value =>
        valueError (vText value "protocol.call_observation.note" 200)
      let startedAt ← valueError (vCanonicalTs startedAt "call_observation.started_at")
      let endedAt ← valueError (vCanonicalTs endedAt "call_observation.ended_at")
      .ok ⟨callIndex, startedAt, endedAt, status, reported, estimated, note⟩

end ScarcityRouter
