import ScarcityRouter.Gateway.ResponsesEvents

namespace ScarcityRouter

open ScarcityRouter.Lib
open ScarcityRouter.Lib.Stateful

/-!
# Answers of the request handler

The writing half of `GatewayRequestHandler` in `gateway_server.py`: what is written for a request,
and the stream of a chat completion.

* `Written`, `Frame` — what is written: a response, or the head and the frames of a stream.
* `Output` — the state that the writing methods change.
* `sendGatewayError` — the answer to a failure, before a stream and in one.
* `ChatStream` — `_StreamState`, and `runStreaming` — `_run_streaming`.
* `answering` — the `try` statement of `_dispatch`.

The writes succeed; a stream whose client is gone is told so before it renders a chunk.
-/

/-! ### What is written -/

/-- What a handler method can raise: `other` is every exception that no clause names. -/
inductive HandlerException where
  | gateway (error : GatewayError)
  | rejected (error : GatewayError)
  | disconnected
  | other
  deriving DecidableEq

/-- The payload of a response; `success` is that of any successful route. -/
inductive Payload where
  | empty
  | error (error : GatewayError) (retryable : Option Bool)
  | success

/-- `chunk_payload`. -/
structure ChunkPayload where
  requestId : Text
  created : ℤ
  modelEcho : Text
  chunk : AdapterStreamChunk
  toolCallIndex : ℕ

/-- One frame of a stream: the first one gives the role. -/
inductive Frame where
  | role (requestId : Text) (created : ℤ) (model : Text)
  | chunk (payload : ChunkPayload)
  | error (error : GatewayError)
  | event (event : ResponsesEvent)
  | done

/-- What is written at once: a whole response, or the head or a frame of a stream. -/
inductive Written where
  | response (status : ℕ) (payload : Payload)
  | head
  | frame (frame : Frame)

/-- The state that the writing methods change.  `streamStarted` and `toolCallIndex` are those of the
    stream of the request. -/
structure Output where
  closeConnection : Bool
  sseCommitted : Bool := false
  responsesSurface : Bool := false
  responsesStream : Option ResponsesStreamEvents := none
  streamStarted : Bool := false
  toolCallIndex : ℕ := 0
  written : List Written := []

/-- A writing method. -/
abbrev Answering (α : Type) : Type := Stateful HandlerException Output α

namespace Output

/-- Something is written. -/
def write (w : Written) (o : Output) : Output := { o with written := o.written ++ [w] }

/-- `close_connection = True`. -/
def close (o : Output) : Output := { o with closeConnection := true }

end Output

open Output

/-! ### Responses -/

/-- The client and server errors of `HTTPStatus`; it has no member for any other status. -/
def knownErrorStatus (status : ℕ) : Bool :=
  (400 ≤ status && status ≤ 418) || (421 ≤ status && status ≤ 426) || status = 428 || status = 429 ||
    status = 431 || status = 451 || (500 ≤ status && status ≤ 508) || status = 510 || status = 511

/-- `_send_json`. -/
def sendJson (status : ℕ) (payload : Payload) : Answering Unit :=
  modify (write (.response status payload))

/-- `_send_empty`. -/
def sendEmpty (status : ℕ) : Answering Unit := modify (write (.response status .empty))

/-- `_ResponsesStreamState.fail`, with its frames. -/
def failResponses (error : GatewayError) (stream : ResponsesStreamEvents) : Answering Unit :=
  match (ResponsesStreamEvents.fail error).result stream with
  | (.ok events, stream) => modify fun o => { o with
      responsesStream := some stream
      written := o.written ++ events.map fun event => .frame (.event event) }
  | (.error _, stream) => modify fun o => { o with responsesStream := some stream }

/-- `_send_gateway_error`. -/
def sendGatewayError (error : GatewayError) : Answering Unit := do
  modify fun o => if o.responsesSurface then o.close else o
  let o ← get
  match o.responsesSurface && o.sseCommitted, o.responsesStream with
  | true, some stream => failResponses error stream
  | _, _ =>
    if o.sseCommitted then do
      modify (write (.frame (.error error)))
      modify (write (.frame .done))
      modify close
    else if knownErrorStatus error.httpStatus then
      sendJson error.httpStatus (.error error (if o.responsesSurface then some false else none))
    else throw .other

/-! ### Chat streams -/

/-- `_StreamState`, with what it reads of the request and of the clock. -/
structure ChatStream where
  requestId : Text
  model : Text
  includeUsage : Bool
  now : ℤ

/-- `json.dumps` writes a chunk, unless a number has too many digits. -/
def AdapterStreamChunk.dumpable : AdapterStreamChunk → Bool
  | .usage tokens =>
    (Json.int (tokens.promptTokens + tokens.completionTokens)).writable &&
      ((Json.int tokens.promptTokens).writable && (Json.int tokens.completionTokens).writable)
  | _ => true

namespace ChatStream

/-- `_begin`. -/
def begin (stream : ChatStream) (created : Option ℤ := none) : Answering Unit := do
  let o ← get
  if o.streamStarted then pure ()
  else do
    modify fun o => { o with
      streamStarted := true
      sseCommitted := true
      closeConnection := true }
    modify (write .head)
    modify (write (.frame (.role stream.requestId (created.getD stream.now) stream.model)))

/-- `_render_chunk`. -/
def renderChunk (stream : ChatStream) (chunk : AdapterStreamChunk) (created : ℤ) :
    Answering Unit := do
  let o ← get
  let payload : ChunkPayload :=
    { requestId := stream.requestId
      created
      modelEcho := stream.model
      chunk
      toolCallIndex := o.toolCallIndex }
  modify fun o => if chunk.kind = .toolCall then { o with toolCallIndex := o.toolCallIndex + 1 } else o
  raise (check (chunk.dumpable = true) .other)
  modify (write (.frame (.chunk payload)))

/-- `emit`; `gone` is what `_client_gone` finds. -/
def emit (stream : ChatStream) (gone : Bool) (chunk : AdapterStreamChunk) : Answering Unit := do
  if gone then throw .disconnected
  else if chunk.kind = .usage ∧ stream.includeUsage = false then pure ()
  else do
    stream.begin
    stream.renderChunk chunk stream.now

/-- `_write_done`. -/
def writeDone : Answering Unit := modify (write (.frame .done))

/-- `AdapterStreamChunk` of a text: one that is too long raises. -/
def textChunk (kind : PartKind) (text : Text) : Except HandlerException AdapterStreamChunk :=
  if h : text ≠ [] ∧ text.length ≤ maxStreamDeltaChars then
    .ok (match kind with
      | .text => .textDelta ⟨text, h⟩
      | .reasoning => .reasoningDelta ⟨text, h⟩)
  else .error .other

/-- The text of a whole message, rendered as one chunk if there is one. -/
def renderText (stream : ChatStream) (kind : PartKind) (created : ℤ) :
    Option (LimitedText 16777216) → Answering Unit
  | none => pure ()
  | some text =>
    if text.1 = [] then pure ()
    else do
      let chunk ← raise (textChunk kind text.1)
      stream.renderChunk chunk created

/-- `_synthesize`. -/
def synthesize (stream : ChatStream) (outcome : CompletionOutcome) : Answering Unit := do
  stream.begin (some outcome.created)
  stream.renderText .reasoning outcome.created outcome.message.reasoning
  stream.renderText .text outcome.created outcome.message.content
  outcome.message.toolCalls.forM fun call => stream.renderChunk (.toolCall call) outcome.created
  stream.renderChunk (.finish outcome.finishReason) outcome.created
  if stream.includeUsage then
    match outcome.usage.providerReportedUsage.orElse fun _ => outcome.usage.estimatedUsage with
    | none => pure ()
    | some usage => stream.renderChunk (.usage usage) outcome.created
  writeDone

/-- `finish`. -/
def finish (stream : ChatStream) (outcome : Option CompletionOutcome) : Answering Unit := do
  let o ← get
  if o.streamStarted then writeDone
  else match outcome with
    | none => pure ()
    | some outcome => stream.synthesize outcome

end ChatStream

/-- What an execution does: the chunks that it emits, each with what the check for the client finds
    then, and how it ends.  What `emit` raises is its own affair. -/
structure Execution where
  emitted : List (Bool × AdapterStreamChunk)
  result : Except HandlerException CompletionOutcome

/-- `execute`, with the emitter of a stream. -/
def Execution.run (execution : Execution) (stream : ChatStream) :
    Answering CompletionOutcome := do
  execution.emitted.forM fun emission =>
    tryCatch (stream.emit emission.1 emission.2) fun _ => pure ()
  raise execution.result

/-- `_run_streaming`: the stream is finished however the execution ends. -/
def runStreaming (stream : ChatStream) (execution : Execution) : Answering Unit := do
  modify fun o => { o with
    streamStarted := false
    toolCallIndex := 0 }
  let outcome ← tryCatch (execution.run stream) fun e => do
    stream.finish none
    throw e
  stream.finish (some outcome)

/-! ### Dispatching -/

/-- The `except` clauses of `_dispatch`. -/
def handleException : HandlerException → Answering Unit
  | .gateway error => sendGatewayError error
  | .rejected error => do
    sendGatewayError error
    modify close
  | .disconnected => modify close
  | .other => sendGatewayError (.api "internal gateway error" (some "gateway_error"))

/-- The `try` statement of `_dispatch`. -/
def answering (route : Answering Unit) : Answering Unit := tryCatch route handleException

end ScarcityRouter
