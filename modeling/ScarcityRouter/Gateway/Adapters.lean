import ScarcityRouter.Gateway.Validation
import ScarcityRouter.ResourceState

namespace ScarcityRouter

open ScarcityRouter.Lib

/-!
# Adapter records

`gateway_adapters.py` and the usage record of `gateway_contracts.py`: what one dispatch consumes
and produces.

* `AdapterToolCall`, `AdapterMessage`, `AdapterCall` — the conversation and the call.
* `AdapterStreamChunk` — one stream chunk; each kind carries its own value and no other.
* `CallObservation` — one provider call's observation.

The checks of the `__post_init__` methods are the types of the fields.
-/

/-! ### Calls -/

/-- One tool call carried in a conversation message. -/
structure AdapterToolCall where
  id : BoundedText 256
  name : BoundedText 256
  arguments : BoundedText 1048576

/-- One client conversation message. -/
structure AdapterMessage where
  role : SafeId
  content : Option (LimitedText 16777216) := none
  toolCalls : List AdapterToolCall := []
  toolCallId : Option (BoundedText 256) := none
  name : Option (BoundedText 256) := none
  reasoning : Option (LimitedText 16777216) := none

/-- A Python mapping.  Its type says that the keys are texts; `dict(…)` of decoded JSON can also
    give it other keys. -/
abbrev Mapping := List (Json × Json)

/-- Everything one dispatch consumes. -/
structure AdapterCall where
  resource : ResourceIdentity
  model : ModelIdentity
  messages : List AdapterMessage
  stream : Bool := false
  tools : List Mapping := []
  toolChoice : Json := .null
  responseFormat : Option Mapping := none
  reasoningEffort : Option SafeId := none
  maxOutputTokens : Option { n : ℤ // 1 ≤ n } := none
  generationParams : Mapping := []

/-! ### Usage and observations -/

/-- Token usage of one internal provider call. -/
structure UsageTokens where
  promptTokens : { n : ℤ // 0 ≤ n }
  completionTokens : { n : ℤ // 0 ≤ n }

/-- `CALL_STATUSES`. -/
inductive CallStatus where
  | completed | failed | cancelled | unknown
  deriving DecidableEq

def CallStatus.text : CallStatus → String
  | .completed => "completed"
  | .failed => "failed"
  | .cancelled => "cancelled"
  | .unknown => "unknown"

theorem CallStatus.text_injective : Function.Injective CallStatus.text := by
  intro a b h
  cases a <;> cases b <;> first | rfl | exact absurd h (by decide)

/-- One internal provider call's observation. -/
structure CallObservation where
  callIndex : { n : ℤ // 0 ≤ n }
  startedAt : CanonicalTs
  endedAt : CanonicalTs
  status : CallStatus
  providerReportedUsage : Option UsageTokens := none
  estimatedUsage : Option UsageTokens := none
  note : Option (BoundedText 200) := none

/-! ### Stream chunks -/

/-- `CHUNK_KINDS`. -/
inductive ChunkKind where
  | textDelta | reasoningDelta | toolCall | finish | usage
  deriving DecidableEq

def ChunkKind.text : ChunkKind → String
  | .textDelta => "text_delta"
  | .reasoningDelta => "reasoning_delta"
  | .toolCall => "tool_call"
  | .finish => "finish"
  | .usage => "usage"

theorem ChunkKind.text_injective : Function.Injective ChunkKind.text := by
  intro a b h
  cases a <;> cases b <;> first | rfl | exact absurd h (by decide)

/-- `FINISH_REASONS`. -/
inductive FinishReason where
  | stop | toolCalls | length | cancelled
  deriving DecidableEq

def FinishReason.text : FinishReason → String
  | .stop => "stop"
  | .toolCalls => "tool_calls"
  | .length => "length"
  | .cancelled => "cancelled"

theorem FinishReason.text_injective : Function.Injective FinishReason.text := by
  intro a b h
  cases a <;> cases b <;> first | rfl | exact absurd h (by decide)

/-- `MAX_STREAM_DELTA_CHARS`. -/
abbrev maxStreamDeltaChars : ℕ := 1048576

/-- One normalized stream chunk emitted by an adapter. -/
inductive AdapterStreamChunk where
  | textDelta (text : BoundedText maxStreamDeltaChars)
  | reasoningDelta (text : BoundedText maxStreamDeltaChars)
  | toolCall (call : AdapterToolCall)
  | finish (reason : FinishReason)
  | usage (tokens : UsageTokens)

namespace AdapterStreamChunk

def kind : AdapterStreamChunk → ChunkKind
  | .textDelta _ => .textDelta
  | .reasoningDelta _ => .reasoningDelta
  | .toolCall _ => .toolCall
  | .finish _ => .finish
  | .usage _ => .usage

def text? : AdapterStreamChunk → Option (BoundedText maxStreamDeltaChars)
  | .textDelta text | .reasoningDelta text => some text
  | _ => none

def toolCall? : AdapterStreamChunk → Option AdapterToolCall
  | .toolCall call => some call
  | _ => none

def finishReason? : AdapterStreamChunk → Option FinishReason
  | .finish reason => some reason
  | _ => none

def usage? : AdapterStreamChunk → Option UsageTokens
  | .usage tokens => some tokens
  | _ => none

/-- The value that the kind of a chunk requires. -/
private def required {α : Type} (fault : Fault) : Option α → Except Fault α
  | none => .error fault
  | some a => .ok a

/-- `AdapterStreamChunk.__post_init__`. -/
def make (kind : ChunkKind) (text : Option (BoundedText maxStreamDeltaChars))
    (toolCall : Option AdapterToolCall) (finishReason : Option FinishReason)
    (usage : Option UsageTokens) : Except Fault AdapterStreamChunk := do
  let chunk ← match kind with
    | .textDelta =>
      AdapterStreamChunk.textDelta <$> required (.expectedStr "adapter_stream_chunk.text" .null) text
    | .reasoningDelta =>
      AdapterStreamChunk.reasoningDelta <$>
        required (.expectedStr "adapter_stream_chunk.text" .null) text
    | .toolCall =>
      AdapterStreamChunk.toolCall <$> required
        (.stated "adapter_stream_chunk.tool_call: expected a AdapterToolCall, got NoneType") toolCall
    | .finish =>
      AdapterStreamChunk.finish <$>
        required (.expectedStr "adapter_stream_chunk.finish_reason" .null) finishReason
    | .usage =>
      AdapterStreamChunk.usage <$> required
        (.stated "adapter_stream_chunk.usage: expected a UsageTokens, got NoneType") usage
  check (text.isNone ∨ kind = .textDelta ∨ kind = .reasoningDelta)
    (.stated ("adapter_stream_chunk: text is only valid on a text_delta or " ++
      "reasoning_delta chunk"))
  check (toolCall.isNone ∨ kind = .toolCall)
    (.stated "adapter_stream_chunk: tool_call is only valid on a tool_call chunk")
  check (finishReason.isNone ∨ kind = .finish)
    (.stated "adapter_stream_chunk: finish_reason is only valid on a finish chunk")
  check (usage.isNone ∨ kind = .usage)
    (.stated "adapter_stream_chunk: usage is only valid on a usage chunk")
  .ok chunk

/-- **A chunk is made from its own values.** -/
theorem make_self (chunk : AdapterStreamChunk) :
    make chunk.kind chunk.text? chunk.toolCall? chunk.finishReason? chunk.usage? = .ok chunk := by
  cases chunk <;> rfl

end AdapterStreamChunk

end ScarcityRouter
