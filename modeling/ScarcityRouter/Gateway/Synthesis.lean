import ScarcityRouter.Gateway.ChatTranscript

namespace ScarcityRouter

open ScarcityRouter.Lib
open ScarcityRouter.Lib.Stateful

/-!
# Streams of chunkless completions

What a streaming request writes whose execution succeeds and commits no chunk.

* `AdapterStreamChunk.content`, `reasoning` — what a chunk adds to a message.
* `InFull` — the stream that tells a whole outcome, and nothing else.
* `Renderable` — the outcomes that one chunk for each part can carry.
* `chunkless_in_full_iff` — **a chunkless completion is told in full exactly when it is
  renderable**.

A text of a message is rendered as one chunk, whose bound is lower than the message's.
-/

/-! ### What a stream tells -/

namespace AdapterStreamChunk

/-- What a chunk adds to the content. -/
def content : AdapterStreamChunk → Text
  | .textDelta text => text.1
  | _ => []

/-- What a chunk adds to the reasoning. -/
def reasoning : AdapterStreamChunk → Text
  | .reasoningDelta text => text.1
  | _ => []

end AdapterStreamChunk

/-- The text of an optional member. -/
def memberText (text : Option (LimitedText 16777216)) : Text := text.elim [] Subtype.val

/-- **The stream tells the outcome in full**: between its head and its only `[DONE]` there are the
    role, the deltas of the reasoning, of the content and of the tool calls, the finish, and at most
    usage after it. -/
def InFull (stream : ChatStream) (outcome : CompletionOutcome) (written : List Written) : Prop :=
  ∃ (deltas usage : List AdapterStreamChunk) (payloads : List ChunkPayload),
    written = .head :: (Frame.role stream.requestId outcome.created stream.model ::
      payloads.map Frame.chunk ++ [Frame.done]).map .frame ∧
    payloads.map ChunkPayload.chunk = deltas ++ .finish outcome.finishReason :: usage ∧
    deltas.flatMap AdapterStreamChunk.reasoning = memberText outcome.message.reasoning ∧
    deltas.flatMap AdapterStreamChunk.content = memberText outcome.message.content ∧
    deltas.filterMap AdapterStreamChunk.toolCall? = outcome.message.toolCalls ∧
    (∀ chunk ∈ deltas, chunk.finishReason? = none) ∧ ∀ chunk ∈ usage, chunk.kind = .usage

/-- The usage that is told, if any. -/
def toldUsage (stream : ChatStream) (outcome : CompletionOutcome) : Option UsageTokens :=
  if stream.includeUsage then
    outcome.usage.providerReportedUsage.orElse fun _ => outcome.usage.estimatedUsage
  else none

/-- **The outcomes that one chunk for each part can carry**: the two texts are within the bound of a
    chunk, and the usage that is told has no number with too many digits. -/
structure Renderable (stream : ChatStream) (outcome : CompletionOutcome) : Prop where
  reasoning : (memberText outcome.message.reasoning).length ≤ maxStreamDeltaChars
  content : (memberText outcome.message.content).length ≤ maxStreamDeltaChars
  usage : ∀ tokens, toldUsage stream outcome = some tokens →
    (AdapterStreamChunk.usage tokens).dumpable = true

/-! ### Rendering -/

variable {stream : ChatStream} {o o' : Output} {created : ℤ} {chunk : AdapterStreamChunk}

/-- The chunks were written, and nothing else. -/
structure Rendered (chunks : List AdapterStreamChunk) (o o' : Output) : Prop where
  committed : o'.sseCommitted = o.sseCommitted
  surface : o'.responsesSurface = o.responsesSurface
  written : ∃ payloads : List ChunkPayload, payloads.map ChunkPayload.chunk = chunks ∧
    o'.written = o.written ++ (payloads.map Frame.chunk).map .frame

theorem Rendered.refl : Rendered [] o o := ⟨rfl, rfl, [], rfl, (List.append_nil _).symm⟩

theorem Rendered.trans {o₁ o₂ o₃ : Output} {chunks chunks' : List AdapterStreamChunk}
    (h : Rendered chunks o₁ o₂) (h' : Rendered chunks' o₂ o₃) :
    Rendered (chunks ++ chunks') o₁ o₃ := by
  obtain ⟨payloads, hpayloads, hwritten⟩ := h.written
  obtain ⟨payloads', hpayloads', hwritten'⟩ := h'.written
  refine ⟨h'.committed.trans h.committed, h'.surface.trans h.surface, payloads ++ payloads', ?_, ?_⟩
  · rw [List.map_append, hpayloads, hpayloads']
  · rw [hwritten', hwritten, List.append_assoc, List.map_append, List.map_append]

/-- What a rendering step leaves: its chunks, or an exception after some others. -/
def Renders (chunks : List AdapterStreamChunk) (possible : Prop) (o : Output)
    (method : Answering Unit) : Prop :=
  Leaves (fun e o' => e = .other ∧ ¬ possible ∧ o'.sseCommitted = o.sseCommitted ∧
      o'.responsesSurface = o.responsesSurface)
    (fun _ o' => possible ∧ Rendered chunks o o') method o

/-- Two steps one after the other. -/
theorem Renders.bind {chunks chunks' : List AdapterStreamChunk} {possible possible' : Prop}
    {method : Answering Unit} {next : Unit → Answering Unit} (h : Renders chunks possible o method)
    (h' : ∀ o', Renders chunks' possible' o' (next ())) :
    Renders (chunks ++ chunks') (possible ∧ possible') o (method >>= next) := by
  unfold Renders
  rw [leaves_bind]
  refine Leaves.mono h (fun e o' he => ⟨he.1, fun hp => he.2.1 hp.1, he.2.2⟩) fun _ o₁ h₁ => ?_
  obtain ⟨hpossible, hrendered⟩ := h₁
  refine Leaves.mono (h' o₁) (fun e o₂ he => ?_) fun _ o₂ h₂ => ?_
  · exact ⟨he.1, fun hp => he.2.1 hp.2, he.2.2.1.trans hrendered.committed,
      he.2.2.2.trans hrendered.surface⟩
  · exact ⟨⟨hpossible, h₂.1⟩, hrendered.trans h₂.2⟩

namespace ChatStream

/-- A chunk is rendered if it can be dumped. -/
theorem renderChunk_renders :
    Renders [chunk] (chunk.dumpable = true) o (stream.renderChunk chunk created) := by
  unfold Renders renderChunk
  rw [leaves_bind, leaves_get, leaves_bind, leaves_modify, leaves_bind, leaves_raise]
  set o₁ := if chunk.kind = .toolCall then { o with toolCallIndex := o.toolCallIndex + 1 } else o
    with ho₁
  have hsame : o₁.sseCommitted = o.sseCommitted ∧ o₁.responsesSurface = o.responsesSurface ∧
      o₁.written = o.written := by
    rw [ho₁]
    split_ifs <;> exact ⟨rfl, rfl, rfl⟩
  refine ⟨fun _ hdump => ?_, fun e hdump => ?_⟩
  · rw [leaves_modify]
    refine ⟨check_eq_ok.mp hdump, hsame.1, hsame.2.1,
      [⟨stream.requestId, created, stream.model, chunk, o.toolCallIndex⟩], rfl, ?_⟩
    show o₁.written ++ _ = _
    rw [hsame.2.2]
    rfl
  · obtain ⟨hnot, rfl⟩ := check_eq_error.mp hdump
    exact ⟨rfl, hnot, hsame.1, hsame.2.1⟩

/-- What a text of a kind adds to the content. -/
def partContent (kind : PartKind) (text : Text) : Text :=
  match kind with
  | .text => text
  | .reasoning => []

/-- What a text of a kind adds to the reasoning. -/
def partReasoning (kind : PartKind) (text : Text) : Text :=
  match kind with
  | .text => []
  | .reasoning => text

/-- The chunk of a text, if it has one. -/
def textChunks (kind : PartKind) (text : Text) : List AdapterStreamChunk :=
  match textChunk kind text with
  | .ok chunk => [chunk]
  | .error _ => []

/-- A text without a chunk is empty or too long. -/
theorem textChunk_error {kind : PartKind} {text : Text} {e : HandlerException}
    (h : textChunk kind text = .error e) :
    e = .other ∧ ¬ (text ≠ [] ∧ text.length ≤ maxStreamDeltaChars) := by
  unfold textChunk at h
  split_ifs at h with hfits
  exact ⟨(Except.error.inj h).symm, hfits⟩

/-- The chunk of a text is that text. -/
theorem textChunk_ok {kind : PartKind} {text : Text} {chunk : AdapterStreamChunk}
    (h : textChunk kind text = .ok chunk) : text.length ≤ maxStreamDeltaChars ∧
      chunk.dumpable = true ∧ chunk.toolCall? = none ∧ chunk.finishReason? = none ∧
      chunk.content = partContent kind text ∧ chunk.reasoning = partReasoning kind text := by
  unfold textChunk at h
  split_ifs at h with hfits
  obtain rfl := Except.ok.inj h
  cases kind <;> exact ⟨hfits.2, rfl, rfl, rfl, rfl, rfl⟩

/-- A text is rendered if it is within the bound of a chunk. -/
theorem renderText_renders {kind : PartKind} {text : Option (LimitedText 16777216)} :
    Renders (textChunks kind (memberText text))
      ((memberText text).length ≤ maxStreamDeltaChars) o (stream.renderText kind created text) := by
  have hempty : textChunks kind [] = [] := by
    unfold textChunks
    cases hchunk : textChunk kind [] with
    | error e => rfl
    | ok chunk =>
      unfold textChunk at hchunk
      rw [dif_neg fun h => h.1 rfl] at hchunk
      cases hchunk
  cases text with
  | none =>
    refine ⟨Nat.zero_le _, ?_⟩
    show Rendered (textChunks kind []) o o
    rw [hempty]
    exact Rendered.refl
  | some text =>
    show Renders (textChunks kind text.1) (text.1.length ≤ maxStreamDeltaChars) o _
    dsimp only [renderText]
    split_ifs with hnil
    · rw [hnil, hempty]
      exact ⟨Nat.zero_le _, Rendered.refl⟩
    · unfold Renders
      rw [leaves_bind, leaves_raise]
      refine ⟨fun chunk hchunk => ?_, fun e hchunk => ?_⟩
      · obtain ⟨hfits, hdump, -⟩ := textChunk_ok hchunk
        have hchunks : textChunks kind text.1 = [chunk] := by
          unfold textChunks
          rw [hchunk]
        rw [hchunks]
        exact renderChunk_renders.mono
          (fun _ _ h => absurd hdump h.2.1) fun _ _ h => ⟨hfits, h.2⟩
      · obtain ⟨rfl, hlong⟩ := textChunk_error hchunk
        exact ⟨rfl, fun h => hlong ⟨hnil, h⟩, rfl, rfl⟩

/-- The calls are rendered. -/
theorem renderCalls_renders {calls : List AdapterToolCall} :
    Renders (calls.map .toolCall) True o
      (calls.forM fun call => stream.renderChunk (.toolCall call) created) := by
  induction calls generalizing o with
  | nil => exact ⟨trivial, Rendered.refl⟩
  | cons call calls ih =>
    rw [List.forM_eq_forM, List.forM_cons]
    have hcall : Renders [.toolCall call] True o (stream.renderChunk (.toolCall call) created) :=
      renderChunk_renders.mono (fun _ _ h => absurd rfl h.2.1) fun _ _ h => ⟨trivial, h.2⟩
    exact (hcall.bind fun _ => ih).mono (fun _ _ h => absurd ⟨trivial, trivial⟩ h.2.1)
      fun _ _ h => ⟨trivial, h.2⟩

/-- The chunks of a whole outcome. -/
def outcomeDeltas (outcome : CompletionOutcome) : List AdapterStreamChunk :=
  textChunks .reasoning (memberText outcome.message.reasoning) ++
    (textChunks .text (memberText outcome.message.content) ++
      outcome.message.toolCalls.map .toolCall)

/-- The usage chunks of a whole outcome. -/
def outcomeUsage (stream : ChatStream) (outcome : CompletionOutcome) : List AdapterStreamChunk :=
  (toldUsage stream outcome).toList.map .usage

/-- The outcome cannot be rendered: an exception is raised in a committed stream. -/
def Broken (stream : ChatStream) (outcome : CompletionOutcome) (e : HandlerException) (o : Output) :
    Prop :=
  e = .other ∧ ¬ Renderable stream outcome ∧ o.sseCommitted = true ∧ o.responsesSurface = false

/-- One rendering step of an outcome. -/
theorem Renders.next {outcome : CompletionOutcome} {chunks : List AdapterStreamChunk}
    {possible : Prop} {V : Unit → Output → Prop} {method : Answering Unit}
    {rest : Unit → Answering Unit} (h : Renders chunks possible o method)
    (hcommitted : o.sseCommitted = true) (hsurface : o.responsesSurface = false)
    (hpossible : Renderable stream outcome → possible)
    (hrest : ∀ o', possible → Rendered chunks o o' →
      Leaves (Broken stream outcome) V (rest ()) o') :
    Leaves (Broken stream outcome) V (method >>= rest) o := by
  rw [leaves_bind]
  refine Leaves.mono h (fun e o' he => ?_) fun _ o' h' => hrest o' h'.1 h'.2
  obtain ⟨rfl, hnot, hc, hs⟩ := he
  exact ⟨rfl, fun hr => hnot (hpossible hr), hc.trans hcommitted, hs.trans hsurface⟩

/-- What a rendered outcome leaves. -/
def Told (stream : ChatStream) (outcome : CompletionOutcome) (o : Output) : Prop :=
  ∃ payloads : List ChunkPayload,
    o.written = .head :: (Frame.role stream.requestId outcome.created stream.model ::
      payloads.map Frame.chunk ++ [Frame.done]).map .frame ∧
    payloads.map ChunkPayload.chunk =
      outcomeDeltas outcome ++ .finish outcome.finishReason :: outcomeUsage stream outcome

/-- `[DONE]` is written after the chunks. -/
theorem told_of_rendered {outcome : CompletionOutcome} {chunks : List AdapterStreamChunk}
    (hstart : o.written =
      [.head, .frame (.role stream.requestId outcome.created stream.model)])
    (h : Rendered chunks o o') (hchunks : chunks =
      outcomeDeltas outcome ++ .finish outcome.finishReason :: outcomeUsage stream outcome) :
    Told stream outcome (o'.write (.frame .done)) := by
  obtain ⟨payloads, hpayloads, hwritten⟩ := h.written
  refine ⟨payloads, ?_, hpayloads.trans hchunks⟩
  show o'.written ++ _ = _
  rw [hwritten, hstart]
  simp

/-- **A whole outcome is told if it is renderable**; else an exception is raised in the stream. -/
theorem synthesize_told {outcome : CompletionOutcome} (h : Unbegun o) :
    Leaves (Broken stream outcome) (fun _ o' => Renderable stream outcome ∧ Told stream outcome o')
      (stream.synthesize outcome) o := by
  have hbegin : Leaves (fun _ _ => False) (fun _ o' => o'.sseCommitted = true ∧
      o'.responsesSurface = false ∧
      o'.written = [.head, .frame (.role stream.requestId outcome.created stream.model)])
      (stream.begin (some outcome.created)) o := by
    unfold ChatStream.begin
    rw [leaves_bind, leaves_get, if_neg (by rw [h.started]; exact Bool.false_ne_true)]
    simp only [leaves_bind, leaves_modify]
    refine ⟨rfl, h.surface, ?_⟩
    show o.written ++ [.head] ++ _ = _
    rw [h.written]
    rfl
  unfold synthesize
  rw [leaves_bind]
  refine hbegin.mono (fun _ _ => False.elim) fun _ o₁ h₁ => ?_
  obtain ⟨hc₁, hs₁, hwritten⟩ := h₁
  refine Renders.next renderText_renders hc₁ hs₁ Renderable.reasoning fun o₂ hreasoning h₂ => ?_
  have hc₂ := h₂.committed.trans hc₁
  have hs₂ := h₂.surface.trans hs₁
  refine Renders.next renderText_renders hc₂ hs₂ Renderable.content fun o₃ hcontent h₃ => ?_
  have hc₃ := h₃.committed.trans hc₂
  have hs₃ := h₃.surface.trans hs₂
  refine Renders.next renderCalls_renders hc₃ hs₃ (fun _ => trivial) fun o₄ _ h₄ => ?_
  have hc₄ := h₄.committed.trans hc₃
  have hs₄ := h₄.surface.trans hs₃
  refine Renders.next renderChunk_renders hc₄ hs₄ (fun _ => rfl) fun o₅ _ h₅ => ?_
  have hc₅ := h₅.committed.trans hc₄
  have hs₅ := h₅.surface.trans hs₄
  have hrendered : Rendered (outcomeDeltas outcome ++ [.finish outcome.finishReason]) o₁ o₅ := by
    have hall := ((h₂.trans h₃).trans h₄).trans h₅
    rwa [List.append_assoc (textChunks _ _)] at hall
  -- Without usage the stream is ended here.
  have hplain : toldUsage stream outcome = none →
      Renderable stream outcome ∧ Told stream outcome (o₅.write (.frame .done)) := fun hnone => by
    refine ⟨⟨hreasoning, hcontent, fun tokens htokens => ?_⟩,
      told_of_rendered hwritten hrendered ?_⟩
    · rw [hnone] at htokens
      cases htokens
    · unfold outcomeUsage
      rw [hnone]
      rfl
  rw [leaves_ite]
  refine ⟨fun hinclude => ?_, fun hinclude => hplain (if_neg hinclude)⟩
  have htold : toldUsage stream outcome =
      outcome.usage.providerReportedUsage.orElse fun _ => outcome.usage.estimatedUsage :=
    if_pos hinclude
  split
  next hnone => exact hplain (htold.trans hnone)
  next tokens htokens =>
    have htokens' : toldUsage stream outcome = some tokens := htold.trans htokens
    refine Renders.next renderChunk_renders hc₅ hs₅ (fun hr => hr.usage tokens htokens')
      fun o₆ hdump h₆ => ?_
    refine ⟨⟨hreasoning, hcontent, fun tokens' htold' => ?_⟩,
      told_of_rendered hwritten (hrendered.trans h₆) ?_⟩
    · obtain rfl := Option.some.inj (htokens'.symm.trans htold')
      exact hdump
    · unfold outcomeUsage
      rw [htokens', List.append_assoc]
      rfl

end ChatStream

/-! ### Deltas -/

open ChatStream

/-- What the chunk of a text adds. -/
theorem textChunks_spec {kind : PartKind} {text : Text}
    (h : text.length ≤ maxStreamDeltaChars) :
    (textChunks kind text).flatMap AdapterStreamChunk.content = partContent kind text ∧
      (textChunks kind text).flatMap AdapterStreamChunk.reasoning = partReasoning kind text ∧
      (textChunks kind text).filterMap AdapterStreamChunk.toolCall? = [] ∧
      ∀ chunk ∈ textChunks kind text, chunk.finishReason? = none := by
  unfold textChunks
  cases hchunk : textChunk kind text with
  | ok chunk =>
    obtain ⟨-, -, hcall, hfinish, hcontent, hreasoning⟩ := textChunk_ok hchunk
    refine ⟨?_, ?_, ?_, fun other hother => ?_⟩
    · rw [List.flatMap_singleton, hcontent]
    · rw [List.flatMap_singleton, hreasoning]
    · rw [List.filterMap_cons_none hcall, List.filterMap_nil]
    · rw [List.mem_singleton.mp hother, hfinish]
  | error e =>
    -- Only the empty text has no chunk.
    have hnil : text = [] := by
      by_contra hne
      exact (textChunk_error hchunk).2 ⟨hne, h⟩
    rw [hnil]
    cases kind <;> exact ⟨rfl, rfl, rfl, fun _ hmem => absurd hmem List.not_mem_nil⟩

/-- What the chunks of calls add. -/
theorem toolCalls_spec {calls : List AdapterToolCall} :
    (calls.map AdapterStreamChunk.toolCall).flatMap AdapterStreamChunk.content = [] ∧
      (calls.map AdapterStreamChunk.toolCall).flatMap AdapterStreamChunk.reasoning = [] ∧
      (calls.map AdapterStreamChunk.toolCall).filterMap AdapterStreamChunk.toolCall? = calls := by
  refine ⟨?_, ?_, ?_⟩
  · rw [List.flatMap_map, List.flatMap_eq_nil_iff]
    exact fun _ _ => rfl
  · rw [List.flatMap_map, List.flatMap_eq_nil_iff]
    exact fun _ _ => rfl
  · rw [List.filterMap_map]
    exact List.filterMap_some

/-- A told outcome is told in full. -/
theorem ChatStream.Told.inFull {stream : ChatStream} {outcome : CompletionOutcome} {o : Output}
    (h : Told stream outcome o) (hr : Renderable stream outcome) :
    InFull stream outcome o.written := by
  obtain ⟨payloads, hwritten, hpayloads⟩ := h
  obtain ⟨hc, hrsn, hcall, hfin⟩ := @textChunks_spec .reasoning _ hr.reasoning
  obtain ⟨hc', hrsn', hcall', hfin'⟩ := @textChunks_spec .text _ hr.content
  obtain ⟨hc'', hrsn'', hcall''⟩ := @toolCalls_spec outcome.message.toolCalls
  refine ⟨outcomeDeltas outcome, outcomeUsage stream outcome, payloads, hwritten, hpayloads,
    ?_, ?_, ?_, fun chunk hchunk => ?_, fun chunk hchunk => ?_⟩
  · unfold outcomeDeltas
    rw [List.flatMap_append, List.flatMap_append, hrsn, hrsn', hrsn'', List.append_nil]
    exact List.append_nil _
  · unfold outcomeDeltas
    rw [List.flatMap_append, List.flatMap_append, hc, hc', hc'', List.append_nil]
    rfl
  · unfold outcomeDeltas
    rw [List.filterMap_append, List.filterMap_append, hcall, hcall', hcall'', List.nil_append,
      List.nil_append]
  · rcases List.mem_append.mp hchunk with hchunk | hchunk
    · exact hfin chunk hchunk
    · rcases List.mem_append.mp hchunk with hchunk | hchunk
      · exact hfin' chunk hchunk
      · obtain ⟨call, -, rfl⟩ := List.mem_map.mp hchunk
        rfl
  · obtain ⟨tokens, -, rfl⟩ := List.mem_map.mp hchunk
    rfl

/-- A stream that tells an outcome names no failure. -/
theorem InFull.no_error {stream : ChatStream} {outcome : CompletionOutcome}
    {written : List Written} (h : InFull stream outcome written) (error : GatewayError) :
    Written.frame (.error error) ∉ written := by
  obtain ⟨_, _, payloads, rfl, -⟩ := h
  simp

/-- What a chunkless completion leaves. -/
theorem chunkless_spec {stream : ChatStream} {execution : Execution} {outcome : CompletionOutcome}
    {closes : Bool} (hresult : execution.result = .ok outcome)
    (hnone : ¬ execution.Commits stream) :
    Leaves (fun _ o => InFull stream outcome o.written ↔ Renderable stream outcome)
      (fun _ o => InFull stream outcome o.written ↔ Renderable stream outcome)
      (answering (runStreaming stream execution)) { closeConnection := closes } := by
  have hstart : Unbegun { closeConnection := closes } := ⟨rfl, rfl, rfl, rfl⟩
  have hnot : ∀ emission ∈ execution.emitted, ¬ stream.Commits emission :=
    fun emission hmem hcommits => hnone ⟨emission, hmem, hcommits⟩
  unfold answering
  rw [leaves_tryCatch]
  unfold runStreaming Execution.run
  rw [leaves_bind, leaves_modify, leaves_bind, leaves_tryCatch, leaves_bind, hresult]
  refine (ChatStream.emissions_uncommitted hnot).mono (fun _ _ => False.elim) ?_
  rintro _ o₁ rfl
  show Leaves _ _ (stream.finish (some outcome)) _
  unfold ChatStream.finish
  rw [leaves_bind, leaves_get, if_neg Bool.false_ne_true]
  refine (synthesize_told hstart.reset).mono (fun e o' h => ?_) fun _ o' h => ?_
  · obtain ⟨rfl, hbroken, hcommitted, hsurface⟩ := h
    refine (handleException_committed hcommitted hsurface).mono (fun _ _ => False.elim)
      fun _ o'' h'' => ?_
    rcases h'' with ⟨hgone, -⟩ | ⟨error, hwritten⟩
    · cases hgone
    · refine iff_of_false (fun hfull => hfull.no_error error ?_) hbroken
      rw [hwritten]
      simp
  · exact iff_of_true (h.2.inFull h.1) h.1

/-- **A chunkless completion is told in full exactly when it is renderable.** -/
theorem chunkless_in_full_iff (stream : ChatStream) (execution : Execution)
    (outcome : CompletionOutcome) (closes : Bool) (hresult : execution.result = .ok outcome)
    (hnone : ¬ execution.Commits stream) :
    InFull stream outcome
        ((answering (runStreaming stream execution)).result { closeConnection := closes }).2.written ↔
      Renderable stream outcome :=
  Leaves.state (P := fun o : Output => InFull stream outcome o.written ↔ _)
    (chunkless_spec hresult hnone)

theorem modelEcho_bounded :
    Text.ofString "model" ≠ [] ∧ (Text.ofString "model").length ≤ 512 := by decide

/-- A whole answer without usage. -/
def wholeOutcome (content : LimitedText 16777216) : CompletionOutcome where
  requestId := .lit "chatcmpl-1"
  created := 0
  modelEcho := ⟨Text.ofString "model", modelEcho_bounded⟩
  message := { role := .lit "assistant", content := some content }
  finishReason := .stop
  usage := unavailableUsage

/-- Its stream. -/
def wholeStream : ChatStream := ⟨Text.ofString "chatcmpl-1", Text.ofString "model", false, 0⟩

/-- Its execution emits nothing. -/
def wholeExecution (content : LimitedText 16777216) : Execution := ⟨[], .ok (wholeOutcome content)⟩

/-- An execution that emits nothing commits no chunk. -/
theorem wholeExecution_chunkless (content : LimitedText 16777216) :
    ¬ (wholeExecution content).Commits wholeStream :=
  fun ⟨_, hmem, _⟩ => List.not_mem_nil hmem

/-- One letter is told in full. -/
theorem letter_in_full : InFull wholeStream (wholeOutcome ⟨Text.ofString "a", by decide⟩)
    ((answering (runStreaming wholeStream
      (wholeExecution ⟨Text.ofString "a", by decide⟩))).result { closeConnection := true }).2.written :=
  (chunkless_in_full_iff wholeStream _ _ true rfl (wholeExecution_chunkless _)).mpr
    ⟨by decide, by decide, fun _ h => by cases h⟩

/-- A text of one character more than a chunk carries. -/
def longContent : LimitedText 16777216 :=
  ⟨List.replicate (maxStreamDeltaChars + 1) (codePoint 'a'), by
    rw [List.length_replicate]
    decide⟩

/-- It is not told: the stream breaks off with an error. -/
theorem long_content_breaks : ¬ ∀ (stream : ChatStream) (execution : Execution)
    (outcome : CompletionOutcome) (closes : Bool), execution.result = .ok outcome →
      ¬ execution.Commits stream →
      InFull stream outcome ((answering (runStreaming stream execution)).result
        { closeConnection := closes }).2.written := by
  intro h
  generalize hcontent : longContent = content at h
  have hresult : (wholeExecution content).result = .ok (wholeOutcome content) := rfl
  have hspec := Leaves.state (P := fun o : Output =>
      InFull wholeStream (wholeOutcome content) o.written ↔
        Renderable wholeStream (wholeOutcome content))
    (@chunkless_spec wholeStream (wholeExecution content) (wholeOutcome content) true hresult
      (wholeExecution_chunkless content))
  have hrenderable := hspec.mp (h wholeStream (wholeExecution content) (wholeOutcome content) true
    hresult (wholeExecution_chunkless content))
  have hlength : content.1.length = maxStreamDeltaChars + 1 := by
    rw [← hcontent]
    exact List.length_replicate
  have hbound : content.1.length ≤ maxStreamDeltaChars := hrenderable.content
  omega

end ScarcityRouter
