import ScarcityRouter.Gateway.Responses
import ScarcityRouter.Lib.Effects

namespace ScarcityRouter

open ScarcityRouter.Lib
open ScarcityRouter.Lib.Stateful

/-!
# Events of a response

`ResponsesStreamEvents` of `gateway_responses.py`: the events that a stream is rendered as, and the
output they build.

* `ResponsesEvent` — an event, with its sequence number.
* `ResponsesStreamEvents` — the accumulation; `built` lists every event that was built, so that the
  list of events of one call is what the call adds to it.
* `ResponsesStreamEvents.push`, `.finish`, `.fail` — the three methods.

A call that raises returns no events, but the state it leaves is that of the events it has built.
-/

/-! ### Events -/

/-- What an event says. -/
inductive EventBody where
  | created (response : Response)
  | inProgress (response : Response)
  | itemAdded (index : ℕ) (item : OutputItem)
  /-- The part is the empty one. -/
  | partAdded (index : ℕ) (itemId : Text) (kind : PartKind)
  | delta (kind : PartKind) (index : ℕ) (itemId delta : Text)
  | argumentsDelta (index : ℕ) (itemId delta : Text)
  | argumentsDone (index : ℕ) (itemId arguments : Text)
  | textDone (kind : PartKind) (index : ℕ) (itemId text : Text)
  | partDone (index : ℕ) (itemId : Text) (kind : PartKind) (text : Text)
  | itemDone (index : ℕ) (item : OutputItem)
  | completed (response : Response)
  | incomplete (response : Response)
  | error (code : Option String) (message : String) (param : Option String)

/-- The events that carry an obfuscation. -/
def EventBody.obfuscated : EventBody → Bool
  | delta .. | argumentsDelta .. => true
  | _ => false

/-- An event. -/
structure ResponsesEvent where
  body : EventBody
  sequenceNumber : ℕ
  obfuscation : Option String := none

/-! ### The state -/

/-- `ResponsesStreamEvents`.  `text` holds the joined deltas; `tokenHex` is what
    `secrets.token_hex` gives for each event. -/
structure ResponsesStreamEvents where
  request : ResponsesRequest
  responseId : SafeId
  created : ℕ
  tokenHex : ℕ → String
  output : List OutputItem := []
  parts : PartKind → Option ℕ := fun _ => none
  text : PartKind → Text := fun _ => []
  tools : List AdapterToolCall := []
  usage : Option UsageTokens := none
  usageUpdates : ℕ := 0
  sequence : ℕ := 0
  size : ℕ := 0
  chunks : ℕ := 0
  started : Bool := false
  done : Bool := false
  finishReason : Option FinishReason := none
  /-- Every event that was built. -/
  built : List ResponsesEvent := []

/-- A method of the stream. -/
abbrev EventStream (α : Type) : Type := Stateful GatewayError ResponsesStreamEvents α

namespace ResponsesStreamEvents

/-- `_error`. -/
def streamError : GatewayError := unsupportedResponse "unsupported or inconsistent Responses stream"

/-- The state after an event is built. -/
def build (body : EventBody) (s : ResponsesStreamEvents) : ResponsesStreamEvents :=
  { s with
    sequence := s.sequence + 1
    built := s.built ++
      [{ body
         sequenceNumber := s.sequence
         obfuscation :=
          if s.request.includeObfuscation && body.obfuscated then some (s.tokenHex s.sequence)
          else none }] }

/-- `_event`. -/
def event (body : EventBody) : EventStream Unit := modify (build body)

/-- The response that is announced. -/
def announced (s : ResponsesStreamEvents) : Response :=
  responseFields s.request s.responseId s.created .inProgress [] none

/-- `_begin`. -/
def begin : EventStream Unit := do
  let s ← get
  if s.started then pure ()
  else
    modify fun s => { s with started := true }
    event (.created s.announced)
    event (.inProgress s.announced)

/-- The size and the chunks are within the bounds of the surface. -/
def Fits (s : ResponsesStreamEvents) : Prop := s.size ≤ maxResponseChars ∧ s.chunks ≤ 1000000

instance (s : ResponsesStreamEvents) : Decidable s.Fits := by
  unfold Fits
  infer_instance

/-- `_reserve`. -/
def reserve (characters : ℕ) : EventStream Unit := do
  modify fun s => { s with
    size := s.size + characters
    chunks := s.chunks + 1 }
  let s ← get
  raise (check s.Fits streamError)

/-- A new item of the output. -/
def append (item : OutputItem) (s : ResponsesStreamEvents) : ResponsesStreamEvents :=
  { s with output := s.output ++ [item] }

/-- An item of the output is replaced. -/
def replace (index : ℕ) (item : OutputItem) (s : ResponsesStreamEvents) : ResponsesStreamEvents :=
  { s with output := s.output.set index item }

/-- The item of a new part is added. -/
def addPart (kind : PartKind) (s : ResponsesStreamEvents) : ResponsesStreamEvents :=
  { s.append (.part kind (kind.itemId s.responseId) .inProgress none) with
    parts := Function.update s.parts kind (some s.output.length) }

/-- `_part`. -/
def part (kind : PartKind) : EventStream ℕ := do
  let s ← get
  match s.parts kind with
  | some index => return index
  | none => do
    let index := s.output.length
    let id := kind.itemId s.responseId
    modify (addPart kind)
    event (.itemAdded index (.part kind id .inProgress none))
    modify (replace index (.part kind id .inProgress (some [])))
    event (.partAdded index id kind)
    return index

/-- The id of an item. -/
def itemIdAt (s : ResponsesStreamEvents) (index : ℕ) : Text :=
  (s.output[index]?).elim [] OutputItem.id

/-- The text of a delta is kept. -/
def addText (kind : PartKind) (text : Text) (s : ResponsesStreamEvents) : ResponsesStreamEvents :=
  { s with text := Function.update s.text kind (s.text kind ++ text) }

/-- `_delta`. -/
def delta (kind : PartKind) (text : Text) : EventStream Unit := do
  raise (outputText text)
  reserve text.length
  let index ← part kind
  modify (addText kind text)
  let s ← get
  event (.delta kind index (s.itemIdAt index) text)

/-! ### Pushing -/

/-- The first check of `push`: only compatible calls and usage follow a finish marker. -/
def refuses (s : ResponsesStreamEvents) (chunk : AdapterStreamChunk) : Bool :=
  s.done || s.finishReason.any fun reason =>
    chunk.kind ≠ .usage && !(chunk.kind = .toolCall && reason ≠ .stop)

/-- The checks of a call, before its size is reserved. -/
def checkPushedCall (call : AdapterToolCall) (s : ResponsesStreamEvents) :
    Except GatewayError Unit := do
  checkCall s.request call
  call.texts.forM outputText
  check (s.tools.length < maxTools ∧ ∀ prior ∈ s.tools, prior.id ≠ call.id) streamError
  check (s.tools = [] ∨ s.request.parallelToolCalls) streamError

/-- The item of a call, without its arguments. -/
def emptyCallItem (call : AdapterToolCall) (s : ResponsesStreamEvents) : OutputItem :=
  .functionCall (callItemId s.responseId s.tools.length) .inProgress call.id.1 call.name.1 []

/-- The item of a new call is added. -/
def addCall (call : AdapterToolCall) (s : ResponsesStreamEvents) : ResponsesStreamEvents :=
  { s.append (emptyCallItem call s) with tools := s.tools ++ [call] }

/-- The part of `push` for a call. -/
def pushCall (call : AdapterToolCall) : EventStream Unit := do
  let s ← get
  raise (checkPushedCall call s)
  reserve call.chars
  let index := s.output.length
  let id := callItemId s.responseId s.tools.length
  modify (addCall call)
  event (.itemAdded index (emptyCallItem call s))
  modify (replace index
    (.functionCall id .inProgress call.id.1 call.name.1 call.arguments.1))
  event (.argumentsDelta index id call.arguments.1)

/-- The rest of `push`, once the stream is open. -/
def pushOpened : AdapterStreamChunk → EventStream Unit
  | .textDelta text => delta .text text.1
  | .reasoningDelta text => delta .reasoning text.1
  | .toolCall call => pushCall call
  | .finish reason => modify fun s => { s with finishReason := some reason }
  | .usage tokens => do
    reserve 0
    modify fun s => { s with
      usage := some tokens
      usageUpdates := s.usageUpdates + 1 }

/-- `push`, without the list of its events. -/
def pushChunk (chunk : AdapterStreamChunk) : EventStream Unit := do
  let s ← get
  raise (check (s.refuses chunk = false) streamError)
  begin
  pushOpened chunk

/-! ### Finishing -/

/-- The slices of a text that the loop of `finish` takes. -/
def pieces (text : Text) : List Text :=
  (List.range ((text.length + maxStreamDeltaChars - 1) / maxStreamDeltaChars)).map fun i =>
    (text.drop (i * maxStreamDeltaChars)).take maxStreamDeltaChars

/-- The loop of `finish`, for one kind of text. -/
def reconcileText (kind : PartKind) (final : Option Text) : EventStream Unit := do
  match final with
  | none => pure ()
  | some final => do
    let s ← get
    raise (check (s.text kind <+: final) streamError)
    if final = [] ∧ s.parts kind = none then do
      let _ ← part kind
    else (pieces (final.drop (s.text kind).length)).forM (delta kind)

/-- The part of `finish` for the calls. -/
def reconcileTools (final : List AdapterToolCall) : EventStream Unit := do
  let s ← get
  raise (check (s.tools = final.take s.tools.length) streamError)
  (final.drop s.tools.length).forM fun call => pushChunk (.toolCall call)

/-- The text of a part. -/
def withText (text : Text) : OutputItem → OutputItem
  | .part kind id status _ => .part kind id status (some text)
  | item => item

/-- `part["text"] = …`. -/
def setText (kind : PartKind) (s : ResponsesStreamEvents) : ResponsesStreamEvents :=
  match s.parts kind with
  | none => s
  | some index => { s with output := s.output.modify index (withText (s.text kind)) }

/-- The loop of `finish` that closes an item. -/
def closeItem (status : ItemStatus) (index : ℕ) : EventStream Unit := do
  modify fun s => { s with output := s.output.modify index (OutputItem.withStatus status) }
  let s ← get
  match s.output[index]? with
  | none => pure ()
  | some (.functionCall id status callId name arguments) => do
    if status = .completed then event (.argumentsDone index id arguments)
    event (.itemDone index (.functionCall id status callId name arguments))
  | some (.part kind id status text) => do
    event (.textDone kind index id (text.getD []))
    event (.partDone index id kind (text.getD []))
    event (.itemDone index (.part kind id status text))

/-- `fail`, without the list of its events. -/
def failWith (error : GatewayError) : EventStream Unit := do
  let s ← get
  if s.done then pure ()
  else
    modify fun s => { s with done := true }
    event (.error error.code error.message error.param)

/-- The first checks of `finish`: the outcome is that of this stream. -/
def Addressed (s : ResponsesStreamEvents) (outcome : CompletionOutcome) : Prop :=
  outcome.requestId = s.responseId ∧ outcome.modelEcho.1 = s.request.canonical.model ∧
    ∀ reason, s.finishReason = some reason → reason = outcome.finishReason

instance (s : ResponsesStreamEvents) (outcome : CompletionOutcome) :
    Decidable (s.Addressed outcome) :=
  match h : s.finishReason with
  | none => decidable_of_iff (outcome.requestId = s.responseId ∧
      outcome.modelEcho.1 = s.request.canonical.model) <| by
        unfold Addressed
        simp [h]
  | some reason => decidable_of_iff (outcome.requestId = s.responseId ∧
      outcome.modelEcho.1 = s.request.canonical.model ∧ reason = outcome.finishReason) <| by
        unfold Addressed
        simp [h]

/-- The reconciliation of `finish`: what was not streamed is rendered, and the outcome checked. -/
def reconcile (outcome : CompletionOutcome) : EventStream Response := do
  modify fun s => { s with finishReason := none }
  begin
  reconcileText .reasoning (outcome.message.reasoning.map Subtype.val)
  reconcileText .text (outcome.message.content.map Subtype.val)
  reconcileTools outcome.message.toolCalls
  modify fun s => setText .text (setText .reasoning s)
  let s ← get
  raise (responsePayload s.request outcome (some s.output))

/-- The response of the terminal event. -/
def terminalResponse (response : Response) (outcome : CompletionOutcome)
    (s : ResponsesStreamEvents) : Response :=
  { response with
    createdAt := s.created
    output := s.output
    outcome := response.outcome.map fun extension => { extension with
      executionCreated := some outcome.created
      observedStreamUsage := s.usage.map fun usage => (usage, s.usageUpdates) } }

/-- The terminal event of `finish`. -/
def terminate (response : Response) (outcome : CompletionOutcome) : EventStream Unit := do
  if outcome.finishReason = .cancelled then
    failWith (.api "execution cancelled; settlement is not inferred" (some "request_cancelled"))
  else do
    let s ← get
    let response := terminalResponse response outcome s
    event (if response.status = .completed then .completed response else .incomplete response)
    modify fun s => { s with done := true }

/-- `finish`, without the list of its events. -/
def finishWith (outcome : Option CompletionOutcome) : EventStream Unit := do
  let s ← get
  match outcome with
  | none => pure ()
  | some outcome =>
    if s.done then pure ()
    else do
      raise (check (s.Addressed outcome) streamError)
      let response ← reconcile outcome
      let s ← get
      (List.range s.output.length).forM (closeItem response.status.items)
      terminate response outcome

/-! ### The methods -/

/-- The list of events that a method returns: what it has built. -/
def returning (method : EventStream Unit) : EventStream (List ResponsesEvent) := do
  let before ← get
  method
  let after ← get
  return after.built.drop before.built.length

/-- `push`. -/
def push (chunk : AdapterStreamChunk) : EventStream (List ResponsesEvent) := returning (pushChunk chunk)

/-- `finish`. -/
def finish (outcome : Option CompletionOutcome) : EventStream (List ResponsesEvent) :=
  returning (finishWith outcome)

/-- `fail`. -/
def fail (error : GatewayError) : EventStream (List ResponsesEvent) := returning (failWith error)

end ResponsesStreamEvents

end ScarcityRouter
