import ScarcityRouter.Gateway.Continuation
import ScarcityRouter.Gateway.Errors
import ScarcityRouter.Gateway.Executable

namespace ScarcityRouter

open ScarcityRouter.Lib

/-!
# Continuation requests

`gateway_coordinator.py` and `gateway_continuation.py`: the request that carries the result of a
client's tool, and the checks it passes before it claims its continuation.

* `ChatCompletionRequest` — one parsed request.
* `messageFingerprint`, `toolsFingerprint`, `toolCallsFingerprint` — digests over canonical JSON.
* `validateContinuationRequest` — the exact shape of a continuation; it returns the tool's text.
-/

/-! ### Requests -/

/-- Compatibility requirements inferred from the structure of a request. -/
structure RequestCapabilities where
  requiresToolCalls : Bool := false
  requiresToolResults : Bool := false
  requiresRolesHistory : Bool := false
  requiresStructuredOutput : Bool := false
  requiresStreaming : Bool := false
  requiresReasoningControls : Bool := false
  estimatedInputTokens : Option ℕ := none
  requestedOutputTokens : Option ℕ := none
  deriving DecidableEq

/-- One strictly parsed `chat/completions` request. -/
structure ChatCompletionRequest where
  model : Text
  messages : List AdapterMessage
  stream : Bool := false
  capabilities : RequestCapabilities := {}
  tools : List Record := []
  toolChoice : Json := .null
  reasoningEffort : Option String := none
  executionRequirements : Option ExecutableRequirements := none

/-! ### Fingerprints -/

/-- `hashlib.sha256(text.encode("utf-8")).hexdigest()`. -/
class Sha256 where
  hexdigest : List Char → String

section Fingerprints

variable [FloatFormat] [Sha256]

/-- `_canonical_json`: a value that cannot be written raises a `ValueError`. -/
def canonicalJson (value : Json) : Except ExecutionException (List Char) :=
  match value.dumps with
  | some text => .ok text
  | none => .error .unexpected

/-- `canonical_json_text`. -/
def canonicalJsonText (value : Json) : Except ExecutionException (Option String) :=
  if value.isNull then .ok none else (some <| String.ofList ·) <$> canonicalJson value

/-- `message_fingerprint`: a message counts without its reasoning. -/
def messageFingerprint (messages : List AdapterMessage) : Except ExecutionException String :=
  Sha256.hexdigest <$> canonicalJson (.list (messages.map fun message =>
    .object (messageToDict { message with reasoning := none })))

/-- `tools_fingerprint`. -/
def toolsFingerprint (tools : List Record) : Except ExecutionException (Option String) :=
  if tools = [] then .ok none
  else (some <| Sha256.hexdigest ·) <$> canonicalJson (.list (tools.map .object))

/-- `tool_calls_fingerprint`. -/
def toolCallsFingerprint (calls : List AdapterToolCall) : Except ExecutionException String :=
  Sha256.hexdigest <$> canonicalJson (.list (calls.map fun call => .object (toolCallToDict call)))

/-- `ExecutableRequirements.fingerprint`. -/
def ExecutableRequirements.fingerprint (retained : ExecutableRequirements) :
    Except ExecutionException String :=
  Sha256.hexdigest <$> canonicalJson (.object retained.toDict)

end Fingerprints

/-! ### The checks -/

/-- `MAX_TOOL_RESULT_TEXT`. -/
def maxGatewayToolResultText : ℕ := 4 * 1048576

/-- A failed check of the continuation's shape. -/
def continuationMismatch (message param : String) : ExecutionException :=
  .gateway (.invalidRequest message (some "continuation_mismatch") (some param))

section Checks

variable [FloatFormat] [Sha256]

/-- The digest of the executable requirements, if the request has them. -/
def requirementsDigest (request : ChatCompletionRequest) :
    Except ExecutionException (Option String) :=
  match request.executionRequirements with
  | none => .ok none
  | some retained => some <$> retained.fingerprint

/-- The checks on the controls that a continuation repeats. -/
def checkControls (record : PendingContinuation) (request : ChatCompletionRequest) :
    Except ExecutionException Unit := do
  check (record.clientId = "" ∨ request.model = Text.ofString record.modelEcho)
    (continuationMismatch "a continuation must repeat the original model" "model")
  check (request.reasoningEffort = record.reasoningEffort)
    (continuationMismatch "a continuation must repeat the original reasoning effort"
      "reasoning_effort")
  let digest ← requirementsDigest request
  check (digest = record.executionRequirementsDigest)
    (continuationMismatch "a continuation must retain its original executable requirements"
      "execution_requirements")
  check (request.executionRequirements = none ∨
      request.capabilities.requestedOutputTokens = record.executionOutputCeiling)
    (continuationMismatch "an executable continuation must retain its original output control"
      "max_completion_tokens")
  -- A request without tools means the unchanged set.
  let tools ← toolsFingerprint request.tools
  check (tools = record.toolsFingerprint ∨ request.tools = [])
    (continuationMismatch
      "a continuation's tool declarations must match the suspended turn's declared set" "tools")
  let choice ← canonicalJsonText request.toolChoice
  check (choice = record.toolChoiceJson)
    (continuationMismatch "a continuation must repeat the original tool_choice" "tool_choice")

/-- The last two messages echo the returned tool calls and address this result to them. -/
def checkEcho (record : PendingContinuation) (assistant final : AdapterMessage) :
    Except ExecutionException Text := do
  let mismatch := continuationMismatch ("the continuation's final messages must echo the " ++
    "returned tool_calls and address this tool result to them") "messages"
  check (final.role = .lit "tool" ∧
    final.toolCallId.map (·.1) = some (Text.ofString record.continuationToken)) mismatch
  match final.content with
  | none => .error mismatch
  | some content =>
    check (assistant.role = .lit "assistant") mismatch
    let digest ← toolCallsFingerprint assistant.toolCalls
    check (digest = record.assistantToolCallsDigest) mismatch
    .ok content.1

/-- `_validate_continuation_request`. -/
def validateContinuationRequest (record : PendingContinuation) (request : ChatCompletionRequest) :
    Except ExecutionException Text := do
  checkControls record request
  match request.messages.reverse with
  | final :: assistant :: last :: rest =>
    let content ← checkEcho record assistant final
    let prefixDigest ← messageFingerprint (last :: rest).reverse
    check (prefixDigest = record.prefixFingerprint)
      (continuationMismatch
        "the continued conversation prefix has changed since the model suspended" "messages")
    check (content.length ≤ maxGatewayToolResultText)
      (.gateway (.invalidRequest "the tool result exceeds the maximum continuation size"
        (some "tool_result_too_large") (some "messages")))
    .ok content
  | _ => .error (continuationMismatch
      "a continuation carries the conversation, the assistant tool_calls and the tool result"
      "messages")

/-- **An accepted text is within the gateway's bound.** -/
theorem length_of_validateContinuationRequest {record : PendingContinuation}
    {request : ChatCompletionRequest} {content : Text}
    (h : validateContinuationRequest record request = .ok content) :
    content.length ≤ maxGatewayToolResultText := by
  obtain ⟨-, -, h⟩ := bind_eq_ok.mp h
  split at h
  · obtain ⟨text, -, h⟩ := bind_eq_ok.mp h
    obtain ⟨digest, -, h⟩ := bind_eq_ok.mp h
    obtain ⟨-, h⟩ := check_bind_eq_ok.mp h
    obtain ⟨hlength, h⟩ := check_bind_eq_ok.mp h
    rwa [← Except.ok.inj h]
  · cases h

end Checks

end ScarcityRouter
