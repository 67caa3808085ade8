import ScarcityRouter.Gateway.ContinuationRequest
import ScarcityRouter.Gateway.Outcomes

namespace ScarcityRouter

open ScarcityRouter.Lib

/-!
# Responses

`gateway_responses.py`: the request of the Responses surface, and what a completed execution is
rendered as.

* `ResponsesRequest` — the request, with its canonical chat request.
* `OutputItem` — one item of the output of a response.
* `checkOutput` — the checks that an outcome has to pass, and `responsePayload` — the response.

The members of a response that repeat the request are represented by the request.
-/

instance {maxLen : ℕ} : DecidableEq (BoundedText maxLen) := inferInstanceAs (DecidableEq (Subtype _))

deriving instance DecidableEq for AdapterToolCall

/-! ### Requests -/

/-- A function that the request declares, with its other members. -/
structure ResponsesTool where
  name : Text
  members : Record := []

/-- `tool_choice`, on the wire. -/
inductive ToolChoice where
  | auto | none | required
  | function (name : Text)
  deriving DecidableEq

/-- `ResponsesRequest`. -/
structure ResponsesRequest where
  canonical : ChatCompletionRequest
  tools : List ResponsesTool := []
  textFormat : Record := []
  toolChoice : ToolChoice := .auto
  parallelToolCalls : Bool := true
  inputItemIds : List Text := []
  includeObfuscation : Bool := true

/-- `MAX_TOOLS`. -/
def maxTools : ℕ := 128

/-- `MAX_RESPONSE_CHARS`. -/
def maxResponseChars : ℕ := 16777216

/-! ### Items -/

/-- The status of an item. -/
inductive ItemStatus where
  | inProgress | completed | incomplete
  deriving DecidableEq

/-- The two kinds of text. -/
inductive PartKind where
  | text | reasoning
  deriving DecidableEq

/-- One item of the output: a message or a reasoning, with its one part once that is there, or a
    function call. -/
inductive OutputItem where
  | part (kind : PartKind) (id : Text) (status : ItemStatus) (text : Option Text)
  | functionCall (id : Text) (status : ItemStatus) (callId name arguments : Text)
  deriving DecidableEq

namespace OutputItem

def id : OutputItem → Text
  | part _ id _ _ | functionCall id _ _ _ _ => id

def status : OutputItem → ItemStatus
  | part _ _ status _ | functionCall _ status _ _ _ => status

/-- `item["status"] = …`. -/
def withStatus (status : ItemStatus) : OutputItem → OutputItem
  | part kind id _ text => part kind id status text
  | functionCall id _ callId name arguments => functionCall id status callId name arguments

/-- What an item says: the kind and the text of its part, or the call. -/
inductive Content where
  | text (kind : PartKind) (text : Text)
  | call (callId name arguments : Text)
  deriving DecidableEq

def content : OutputItem → Content
  | part kind _ _ text => .text kind (text.getD [])
  | functionCall _ _ callId name arguments => .call callId name arguments

@[simp] theorem content_withStatus (status : ItemStatus) (item : OutputItem) :
    (item.withStatus status).content = item.content := by
  cases item <;> rfl

@[simp] theorem status_withStatus (status : ItemStatus) (item : OutputItem) :
    (item.withStatus status).status = status := by
  cases item <;> rfl

end OutputItem

/-! ### Responses -/

/-- The status of a response. -/
inductive ResponseStatus where
  | inProgress | completed | incomplete | cancelled
  deriving DecidableEq

/-- The status of the items of a response. -/
def ResponseStatus.items (status : ResponseStatus) : ItemStatus :=
  if status = .completed then .completed else .incomplete

/-- What a response says of its outcome. -/
structure ResponseOutcome where
  decisionId : Option SafeId
  finishReason : FinishReason
  usage : UsageAccounting
  /-- `execution_created`, in the response of a stream. -/
  executionCreated : Option ℕ := none
  /-- `observed_stream_usage` and `usage_update_count`, in the response of a stream. -/
  observedStreamUsage : Option (UsageTokens × ℕ) := none

/-- A response. -/
structure Response where
  id : SafeId
  createdAt : ℕ
  status : ResponseStatus
  model : Text
  output : List OutputItem
  request : ResponsesRequest
  outcome : Option ResponseOutcome := none

/-- `_response_fields`. -/
def responseFields (request : ResponsesRequest) (responseId : SafeId) (created : ℕ)
    (status : ResponseStatus) (output : List OutputItem) (outcome : Option CompletionOutcome) :
    Response where
  id := responseId
  createdAt := created
  status := status
  model := outcome.elim request.canonical.model (·.modelEcho.1)
  output := output
  request := request
  outcome := outcome.map fun outcome =>
    { decisionId := outcome.decisionId
      finishReason := outcome.finishReason
      usage := outcome.usage }

/-! ### Outcomes -/

/-- The error of an output that the surface does not support. -/
def unsupportedResponse (message : String) : GatewayError :=
  .api message (some "unsupported_response") 502

/-- The identity of a call that the request allows. -/
def ResponsesRequest.Allows (request : ResponsesRequest) (call : AdapterToolCall) : Prop :=
  call.name.1 ∈ request.tools.map (·.name) ∧ request.toolChoice ≠ .none ∧
    ∀ name, request.toolChoice = .function name → name = call.name.1

instance (request : ResponsesRequest) (call : AdapterToolCall) :
    Decidable (request.Allows call) :=
  match h : request.toolChoice with
  | .function name =>
    decidable_of_iff (call.name.1 ∈ request.tools.map (·.name) ∧ name = call.name.1) <| by
      unfold ResponsesRequest.Allows
      simp [h]
  | .auto | .none | .required =>
    decidable_of_iff (call.name.1 ∈ request.tools.map (·.name) ∧ request.toolChoice ≠ .none) <| by
      unfold ResponsesRequest.Allows
      simp [h]

/-- `_check_call`. -/
def checkCall (request : ResponsesRequest) (call : AdapterToolCall) : Except GatewayError Unit :=
  check (request.Allows call) (unsupportedResponse "unexpected Responses function identity")

/-- `_output_text`. -/
def outputText (text : Text) : Except GatewayError Unit :=
  check (Text.encodable text = true) (unsupportedResponse "unrepresentable Responses output")

/-- The texts of a call. -/
def AdapterToolCall.texts (call : AdapterToolCall) : List Text :=
  [call.id.1, call.name.1, call.arguments.1]

/-- The characters of a call. -/
def AdapterToolCall.chars (call : AdapterToolCall) : ℕ :=
  call.id.1.length + call.name.1.length + call.arguments.1.length

/-- A choice that requires a call. -/
def ToolChoice.requires : ToolChoice → Bool
  | .required | .function _ => true
  | .auto | .none => false

/-- The calls agree with the finish reason and with the request. -/
def Consistent (request : ResponsesRequest) (outcome : CompletionOutcome) : Prop :=
  (request.parallelToolCalls ∨ outcome.message.toolCalls.length ≤ 1) ∧
    (outcome.finishReason = .toolCalls → outcome.message.toolCalls ≠ []) ∧
    (outcome.finishReason = .stop → outcome.message.toolCalls = []) ∧
    (outcome.finishReason ≠ .cancelled → outcome.finishReason ≠ .length →
      request.toolChoice.requires → outcome.message.toolCalls ≠ [])

instance (request : ResponsesRequest) (outcome : CompletionOutcome) :
    Decidable (Consistent request outcome) := by
  unfold Consistent
  have : Decidable (outcome.message.toolCalls = []) :=
    decidable_of_iff _ List.isEmpty_iff
  infer_instance

/-- The checks of `response_payload`. -/
def checkOutput (request : ResponsesRequest) (outcome : CompletionOutcome) :
    Except GatewayError Unit := do
  check (outcome.message.role = .lit "assistant")
    (unsupportedResponse "unsupported Responses output role")
  check (outcome.message.toolCalls.length ≤ maxTools ∧
      (outcome.message.toolCalls.map (·.id)).Nodup)
    (unsupportedResponse "unsupported Responses function output")
  check (Consistent request outcome)
    (unsupportedResponse "inconsistent Responses function completion")
  outcome.message.toolCalls.forM fun call => do
    checkCall request call
    call.texts.forM outputText
  outcome.message.content.forM fun text => outputText text.1
  outcome.message.reasoning.forM fun text => outputText text.1

/-- The status of the response to an outcome. -/
def CompletionOutcome.responseStatus (outcome : CompletionOutcome) : ResponseStatus :=
  match outcome.finishReason with
  | .cancelled => .cancelled
  | .length => .incomplete
  | .stop | .toolCalls => .completed

/-- The characters of the output of an outcome. -/
def CompletionOutcome.chars (outcome : CompletionOutcome) : ℕ :=
  (outcome.message.content.elim 0 (·.1.length)) +
    (outcome.message.reasoning.elim 0 (·.1.length)) +
      (outcome.message.toolCalls.map AdapterToolCall.chars).sum

/-- The prefix of an identifier of the output. -/
def itemId (stem : String) (responseId : SafeId) : Text :=
  Text.ofString stem ++ Text.ofString "-" ++ responseId.toText

/-- The id of the message or of the reasoning. -/
def PartKind.itemId (kind : PartKind) (responseId : SafeId) : Text :=
  match kind with
  | .text => ScarcityRouter.itemId "msg" responseId
  | .reasoning => ScarcityRouter.itemId "rs" responseId

/-- The id of a function call. -/
def callItemId (responseId : SafeId) (index : ℕ) : Text :=
  itemId "fc" responseId ++ Text.ofString "-" ++ Text.ofString (toString index)

/-- The item of the message or of the reasoning of an outcome. -/
def partItem (outcome : CompletionOutcome) (kind : PartKind) (text : Option (LimitedText 16777216)) :
    List OutputItem :=
  text.toList.map fun text =>
    .part kind (kind.itemId outcome.requestId) outcome.responseStatus.items (some text.1)

/-- The item of a call of an outcome. -/
def callItem (outcome : CompletionOutcome) (call : AdapterToolCall) (index : ℕ) : OutputItem :=
  .functionCall (callItemId outcome.requestId index) outcome.responseStatus.items call.id.1
    call.name.1 call.arguments.1

/-- The output of an outcome. -/
def outcomeItems (outcome : CompletionOutcome) : List OutputItem :=
  partItem outcome .reasoning outcome.message.reasoning ++
    partItem outcome .text outcome.message.content ++
      outcome.message.toolCalls.zipIdx.map fun call => callItem outcome call.1 call.2

/-- The check of the size, where there is no output yet. -/
def checkSize (outcome : CompletionOutcome) : Except GatewayError Unit :=
  check (outcome.chars ≤ maxResponseChars)
    (unsupportedResponse "Responses output exceeds the bounded surface limit")

/-- `response_payload`. -/
def responsePayload (request : ResponsesRequest) (outcome : CompletionOutcome)
    (output : Option (List OutputItem)) : Except GatewayError Response := do
  checkOutput request outcome
  let output ← match output with
    | some output => pure output
    | none => do
      checkSize outcome
      pure (outcomeItems outcome)
  return responseFields request outcome.requestId outcome.created outcome.responseStatus output
    (some outcome)

end ScarcityRouter
