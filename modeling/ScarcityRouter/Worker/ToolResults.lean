import ScarcityRouter.Gateway.ContinuationRequest
import ScarcityRouter.Worker.Strictness

namespace ScarcityRouter

open ScarcityRouter.Lib

/-!
# Delivery of tool results

`WorkerSession.send_tool_result`: the frame that carries a tool's text to the worker, and what the
worker reads from it.

* `SuspensionHandle` — the call that waits for the result.
* `toolResultPayload` — the `execute_tool_result` message.
* `encodeFrame_toolResult_iff` — the frame is built exactly when the escaped message fits into it.
* `executeToolResult_iff` — the message is read exactly when its text is not empty.
-/

/-- The adapter-side identity of one suspended execution. -/
structure SuspensionHandle where
  continuationToken : BoundedText 256
  attemptId : SafeId
  resourceId : SafeId
  callId : BoundedText 256
  toolName : BoundedText 256

/-- `ExecuteToolResultMessage.to_payload`. -/
def toolResultPayload (handle : SuspensionHandle) (content : Text) : Record :=
  [member "type" (textJson "execute_tool_result"), member "attempt_id" handle.attemptId.json,
    member "call_id" (.string handle.callId.1), member "content" (.string content)]

/-! ### The frame -/

/-- The text of the message around its three strings. -/
def toolResultOverhead : ℕ := 72

/-- How many bytes the message takes: every string as it is escaped. -/
def toolResultSize (handle : SuspensionHandle) (content : Text) : ℕ :=
  toolResultOverhead + (escapes handle.attemptId.toText).length +
    (escapes handle.callId.1).length + (escapes content).length

section Format

variable [FloatFormat]

omit [FloatFormat] in
/-- The message with its keys sorted. -/
theorem sortBy_toolResultPayload (handle : SuspensionHandle) (content : Text) :
    sortBy Prod.fst (toolResultPayload handle content) =
      [member "attempt_id" handle.attemptId.json, member "call_id" (.string handle.callId.1),
        member "content" (.string content), member "type" (textJson "execute_tool_result")] :=
  rfl

/-- The text of the message. -/
theorem text_toolResultPayload (handle : SuspensionHandle) (content : Text) :
    (Json.object (toolResultPayload handle content)).text =
      "\x7b\"attempt_id\":\"".toList ++ escapes handle.attemptId.toText ++
        "\",\"call_id\":\"".toList ++ escapes handle.callId.1 ++
        "\",\"content\":\"".toList ++ escapes content ++
        "\",\"type\":\"execute_tool_result\"\x7d".toList := by
  have hattempt : escapes (Text.ofString "attempt_id") = "attempt_id".toList := by decide +kernel
  have hcall : escapes (Text.ofString "call_id") = "call_id".toList := by decide +kernel
  have hcontent : escapes (Text.ofString "content") = "content".toList := by decide +kernel
  have htype : escapes (Text.ofString "type") = "type".toList := by decide +kernel
  have hname : escapes (Text.ofString "execute_tool_result") = "execute_tool_result".toList := by
    decide +kernel
  rw [Json.text_object, sortBy_toolResultPayload]
  simp only [List.map_cons, List.map_nil, member, textJson, SafeId.json, Json.text, Json.commaJoin,
    Json.memberText, Json.quoted, hattempt, hcall, hcontent, htype, hname]
  simp

omit [FloatFormat] in
/-- A text that is ASCII character by character. -/
theorem ascii_of_all {text : List Char} (h : text.all (·.toNat < 0x80) = true) :
    ∀ c ∈ text, c.toNat < 0x80 :=
  fun c hc => of_decide_eq_true (List.all_eq_true.mp h c hc)

/-- The message takes the given number of characters, all of them ASCII. -/
theorem length_toolResultPayload (handle : SuspensionHandle) (content : Text) :
    (encodeUtf8 (Json.object (toolResultPayload handle content)).text).length =
      toolResultSize handle content := by
  have hascii : ∀ c ∈ (Json.object (toolResultPayload handle content)).text, c.toNat < 0x80 := by
    rw [text_toolResultPayload]
    have hliteral : ∀ c ∈ "\x7b\"attempt_id\":\"".toList ++ "\",\"call_id\":\"".toList ++
        "\",\"content\":\"".toList ++ "\",\"type\":\"execute_tool_result\"\x7d".toList,
        c.toNat < 0x80 := ascii_of_all (by decide +kernel)
    simp only [List.forall_mem_append] at hliteral ⊢
    obtain ⟨⟨⟨hopen, hcall⟩, hcontent⟩, hclose⟩ := hliteral
    exact ⟨⟨⟨⟨⟨⟨hopen, fun _ => toNat_lt_of_mem_escapes⟩, hcall⟩,
      fun _ => toNat_lt_of_mem_escapes⟩, hcontent⟩, fun _ => toNat_lt_of_mem_escapes⟩, hclose⟩
  rw [length_encodeUtf8 hascii, text_toolResultPayload]
  simp only [List.length_append]
  have hopen : "\x7b\"attempt_id\":\"".toList.length = 15 := by decide +kernel
  have hcall : "\",\"call_id\":\"".toList.length = 13 := by decide +kernel
  have hcontent : "\",\"content\":\"".toList.length = 13 := by decide +kernel
  have hclose : "\",\"type\":\"execute_tool_result\"\x7d".toList.length = 31 := by decide +kernel
  rw [hopen, hcall, hcontent, hclose, toolResultSize, toolResultOverhead]
  omega

/-- **The frame is built exactly when the escaped message fits into it.** -/
theorem encodeFrame_toolResult_iff (handle : SuspensionHandle) (content : Text) :
    Returns (encodeFrame (.object (toolResultPayload handle content))) ↔
      toolResultSize handle content ≤ maxFrameBytes := by
  have hwritable : (Json.object (toolResultPayload handle content)).all Json.writable = true := by
    rw [Json.all_object]
    refine ⟨rfl, fun m hm => ?_⟩
    simp only [toolResultPayload, member, List.mem_cons, List.not_mem_nil, or_false] at hm
    rcases hm with rfl | rfl | rfl | rfl <;> rfl
  have hdumps : (Json.object (toolResultPayload handle content)).dumps =
      some (Json.object (toolResultPayload handle content)).text := if_pos hwritable
  unfold encodeFrame
  rw [hdumps]
  dsimp only
  rw [length_toolResultPayload]
  split_ifs with hlarge
  · simp [hlarge]
  · simp [not_lt.mp hlarge]

omit [FloatFormat] in
theorem returns_vText_string {t : Text} {field : String} {maxLen : ℕ} :
    Returns (vText (.string t) field maxLen) ↔ t ≠ [] ∧ t.length ≤ maxLen := by
  unfold vText
  rw [vStr_string, ok_bind]
  split_ifs with hempty hlong
  · simp [hempty]
  · simp [hlong]
  · exact iff_of_true (returns_ok _) ⟨hempty, not_lt.mp hlong⟩

omit [FloatFormat] in
/-- **The message is read exactly when its text is not empty and within the bound.** -/
theorem executeToolResult_iff (handle : SuspensionHandle) (content : Text) :
    Returns (executeToolResultFromPayload (.object (toolResultPayload handle content))) ↔
      content ≠ [] ∧ content.length ≤ maxToolResultText := by
  have hshape : payloadShape (.object (toolResultPayload handle content))
      ["type", "attempt_id", "call_id", "content"] [] "execute_tool_result" =
        .ok (toolResultPayload handle content) :=
    payloadShape_of (by simp [toolResultPayload]) (by simp [toolResultPayload])
  have htype : Record.hasType (toolResultPayload handle content) "execute_tool_result" = true := by
    simp [Record.hasType, toolResultPayload, textJson]
  unfold executeToolResultFromPayload fromPayload
  have hid : Record.read (toolResultPayload handle content) "attempt_id"
      (vSafeId · "execute_tool_result.attempt_id") = .ok handle.attemptId := by
    rw [Record.read, Record.item_of (show Record.get? (toolResultPayload handle content)
      "attempt_id" = some handle.attemptId.json by simp [toolResultPayload]), ok_bind,
      vSafeId_json, valueError_ok]
  have hcall : Record.read (toolResultPayload handle content) "call_id"
      (vText · "execute_tool_result.call_id" 256) = .ok handle.callId := by
    rw [Record.read, Record.item_of (show Record.get? (toolResultPayload handle content)
      "call_id" = some (.string handle.callId.1) by simp [toolResultPayload]), ok_bind, vText_val,
      valueError_ok]
  have hcontent : Returns (Record.read (toolResultPayload handle content) "content"
      (vText · "execute_tool_result.content" maxToolResultText)) ↔
        content ≠ [] ∧ content.length ≤ maxToolResultText := by
    rw [Record.read, Record.item_of (show Record.get? (toolResultPayload handle content)
      "content" = some (.string content) by simp [toolResultPayload]), ok_bind,
      returns_valueError, returns_vText_string]
  rw [hshape, ok_bind, typed, check_pos htype, ok_bind, ← hcontent]
  dsimp only
  rw [hid, ok_bind, hcall, ok_bind]
  constructor
  · rintro ⟨message, h⟩
    obtain ⟨text, htext, -⟩ := bind_eq_ok.mp (exceptValueError_eq_ok.mp h)
    exact ⟨text, htext⟩
  · rintro ⟨text, htext⟩
    rw [htext]
    exact ⟨_, rfl⟩

/-! ### Accepted results -/

/-- **An accepted tool result is framed and read exactly when its text is not empty and its escaped
    message fits into a frame.** -/
theorem acceptedToolResult_delivered_iff [Sha256] {record : PendingContinuation}
    {request : ChatCompletionRequest} {content : Text} (handle : SuspensionHandle)
    (h : validateContinuationRequest record request = .ok content) :
    (Returns (encodeFrame (.object (toolResultPayload handle content))) ∧
      Returns (executeToolResultFromPayload (.object (toolResultPayload handle content)))) ↔
      toolResultSize handle content ≤ maxFrameBytes ∧ content ≠ [] := by
  have hlength : content.length ≤ maxToolResultText := length_of_validateContinuationRequest h
  rw [encodeFrame_toolResult_iff, executeToolResult_iff, and_iff_left hlength]

end Format

/-- The digests of the conversation below, as SHA-256 gives them. -/
@[reducible] private def sampleSha256 : Sha256 where
  hexdigest cs :=
    if cs = "[\x7b\"content\":\"hi\",\"role\":\"user\"\x7d]".toList then
      "4e79873118cd9be7a1f0308b9cd772950c5410c74ca3fe1ba2626cba009a9237"
    else "1b566ff775b8f4687e1198ca75841f2c13a1be56f28f8bc6447844ad95736117"

private def sampleToken : BoundedText 256 := ⟨Text.ofString "srct-1", by decide, by decide⟩

private def sampleRecord : PendingContinuation where
  identity := 0
  continuationToken := "srct-1"
  deadline := 10
  clientId := "acme"
  modelEcho := "gpt"
  prefixFingerprint := "4e79873118cd9be7a1f0308b9cd772950c5410c74ca3fe1ba2626cba009a9237"
  assistantToolCallsDigest := "1b566ff775b8f4687e1198ca75841f2c13a1be56f28f8bc6447844ad95736117"

private theorem sampleName_bounded :
    Text.ofString "ls" ≠ [] ∧ (Text.ofString "ls").length ≤ 256 := by decide

private theorem sampleCall_bounded :
    Text.ofString "call-1" ≠ [] ∧ (Text.ofString "call-1").length ≤ 256 := by decide

private def sampleRequest (content : LimitedText 16777216) : ChatCompletionRequest where
  model := Text.ofString "gpt"
  messages :=
    [{ role := .lit "user", content := some ⟨Text.ofString "hi", by decide⟩ },
      { role := .lit "assistant",
        toolCalls := [⟨sampleToken, ⟨Text.ofString "ls", sampleName_bounded⟩,
          ⟨Text.ofString "-", by decide, by decide⟩⟩] },
      { role := .lit "tool", toolCallId := some sampleToken, content := some content }]

private def sampleHandle : SuspensionHandle where
  continuationToken := sampleToken
  attemptId := .lit "attempt-1"
  resourceId := .lit "res-1"
  callId := ⟨Text.ofString "call-1", sampleCall_bounded⟩
  toolName := ⟨Text.ofString "ls", sampleName_bounded⟩

/-- A short text is delivered. -/
theorem acceptedToolResult_delivered_short : let _ := binaryFormat
    Returns (encodeFrame (.object (toolResultPayload sampleHandle (Text.ofString "ok")))) ∧
      Returns (executeToolResultFromPayload
        (.object (toolResultPayload sampleHandle (Text.ofString "ok")))) := by
  intro format
  let _ := sampleSha256
  have haccepted : validateContinuationRequest sampleRecord
      (sampleRequest ⟨Text.ofString "ok", by decide⟩) = .ok (Text.ofString "ok") :=
    eq_ok_of_toOption (by decide +kernel)
  exact (acceptedToolResult_delivered_iff sampleHandle haccepted).mpr
    ⟨by decide +kernel, by decide⟩

/-- An empty text is accepted and cannot be read. -/
theorem acceptedToolResult_empty : let _ := binaryFormat
    let _ := sampleSha256
    ¬ ∀ (record : PendingContinuation) (request : ChatCompletionRequest) (content : Text)
      (handle : SuspensionHandle), validateContinuationRequest record request = .ok content →
      Returns (encodeFrame (.object (toolResultPayload handle content))) ∧
        Returns (executeToolResultFromPayload (.object (toolResultPayload handle content))) := by
  intro format digests h
  have haccepted : validateContinuationRequest sampleRecord (sampleRequest ⟨[], by decide⟩) =
      .ok [] := eq_ok_of_toOption (by decide +kernel)
  exact ((executeToolResult_iff sampleHandle []).mp (h _ _ _ sampleHandle haccepted).2).1 rfl

end ScarcityRouter
