import ScarcityRouter.Gateway.Handler

namespace ScarcityRouter

open ScarcityRouter.Lib
open ScarcityRouter.Lib.Stateful

/-!
# Transcripts of chat streams

What a streaming execution writes, from the first byte to the last.

* `Transcript` — one plain response, or one stream that ends with its only `[DONE]` and names a
  failure before it.
* `Unbegun`, `Begun`, `Ended` — what has been written at each stage, with one lemma for each method.
* `chat_transcript_iff` — **an execution writes a transcript exactly when it succeeds, or fails
  before it commits a chunk with an exception that is answered**.

A failure after the first chunk is written after the `[DONE]` of the `finally` clause.
-/

/-! ### Transcripts -/

/-- A frame of a chunk. -/
def Frame.content : Frame → Bool
  | role .. | chunk .. => true
  | _ => false

/-- The frame that ends a stream. -/
def Frame.isDone : Frame → Bool
  | done => true
  | _ => false

/-- **What a client can take for what happened**: one plain response, or one stream in which
    `[DONE]` is the last frame and no other one, and a failure is named before it. -/
inductive Transcript (failed : Prop) : List Written → Prop
  | plain (status : ℕ) (payload : Payload) : Transcript failed [.response status payload]
  | stream (frames : List Frame) (once : ∀ frame ∈ frames, frame.isDone = false)
      (named : failed → ∃ error, Frame.error error ∈ frames) :
      Transcript failed (.head :: (frames ++ [Frame.done]).map .frame)

/-! ### Stages -/

variable {stream : ChatStream} {o o' : Output} {chunk : AdapterStreamChunk} {created : ℤ}
  {gone : Bool} {execution : Execution}

/-- Nothing was written yet. -/
structure Unbegun (o : Output) : Prop where
  started : o.streamStarted = false
  committed : o.sseCommitted = false
  surface : o.responsesSurface = false
  written : o.written = []

/-- The stream was begun, and only chunks were written. -/
structure Begun (o : Output) : Prop where
  started : o.streamStarted = true
  committed : o.sseCommitted = true
  surface : o.responsesSurface = false
  written : ∃ frames : List Frame, o.written = .head :: frames.map .frame ∧
    ∀ frame ∈ frames, frame.content = true

/-- The stream was ended. -/
structure Ended (o : Output) : Prop where
  committed : o.sseCommitted = true
  surface : o.responsesSurface = false
  written : ∃ frames : List Frame, o.written = .head :: (frames ++ [Frame.done]).map .frame ∧
    ∀ frame ∈ frames, frame.content = true

/-- A chunk more was written. -/
theorem Begun.write {frame : Frame} (h : Begun o) (hframe : frame.content = true) :
    Begun (o.write (.frame frame)) := by
  obtain ⟨frames, hwritten, hcontent⟩ := h.written
  refine ⟨h.started, h.committed, h.surface, frames ++ [frame], ?_, fun f hf => ?_⟩
  · show o.written ++ _ = _
    rw [hwritten, List.map_append]
    rfl
  · rcases List.mem_append.mp hf with hf | hf
    · exact hcontent f hf
    · obtain rfl := List.mem_singleton.mp hf
      exact hframe

/-- `[DONE]` was written. -/
theorem Begun.done (h : Begun o) : Ended (o.write (.frame .done)) := by
  obtain ⟨frames, hwritten, hcontent⟩ := h.written
  refine ⟨h.committed, h.surface, frames, ?_, hcontent⟩
  show o.written ++ _ = _
  rw [hwritten, List.map_append]
  rfl

namespace ChatStream

/-- `_begin` leaves a stream that was begun. -/
theorem begin_spec {created : Option ℤ} (h : Unbegun o ∨ Begun o) :
    Leaves (fun _ _ => False) (fun _ => Begun) (stream.begin created) o := by
  unfold ChatStream.begin
  rw [leaves_bind, leaves_get]
  rcases h with h | h
  · rw [if_neg (by rw [h.started]; exact Bool.false_ne_true)]
    simp only [leaves_bind, leaves_modify]
    refine ⟨rfl, rfl, h.surface, [.role stream.requestId (created.getD stream.now) stream.model], ?_,
      fun frame hframe => ?_⟩
    · show o.written ++ [.head] ++ _ = _
      rw [h.written]
      rfl
    · obtain rfl := List.mem_singleton.mp hframe
      rfl
  · rw [if_pos h.started]
    exact h

/-- A chunk keeps the stage, and one that cannot be written raises. -/
theorem renderChunk_spec (h : Begun o) :
    Leaves (fun e o' => e = .other ∧ Begun o') (fun _ => Begun)
      (stream.renderChunk chunk created) o := by
  have hindex : Begun (if chunk.kind = .toolCall then { o with toolCallIndex := o.toolCallIndex + 1 }
      else o) := by
    split_ifs
    · exact ⟨h.started, h.committed, h.surface, h.written⟩
    · exact h
  unfold renderChunk
  simp only [leaves_bind, leaves_get, leaves_modify, leaves_raise]
  refine ⟨fun _ _ => hindex.write rfl, fun e herror => ⟨?_, hindex⟩⟩
  by_cases hwritable : chunk.dumpable = true
  · rw [check_pos hwritable] at herror
    cases herror
  · rw [check_neg hwritable] at herror
    exact (Except.error.inj herror).symm

/-- The emission commits a chunk to the stream. -/
def Commits (stream : ChatStream) (emission : Bool × AdapterStreamChunk) : Prop :=
  emission.1 = false ∧ ¬ (emission.2.kind = .usage ∧ stream.includeUsage = false)

instance (stream : ChatStream) (emission : Bool × AdapterStreamChunk) :
    Decidable (stream.Commits emission) := by
  unfold Commits
  infer_instance

/-- What an emission leaves, however it ends: a stream that was begun, if it commits a chunk. -/
theorem emit_spec {emission : Bool × AdapterStreamChunk} (h : Unbegun o ∨ Begun o) :
    Leaves (fun _ o' => (¬ stream.Commits emission ∧ o' = o) ∨ Begun o')
      (fun _ o' => (¬ stream.Commits emission ∧ o' = o) ∨ Begun o')
      (stream.emit emission.1 emission.2) o := by
  obtain ⟨gone, chunk⟩ := emission
  unfold emit
  cases gone with
  | true =>
    rw [if_pos rfl]
    exact .inl ⟨fun hcommits => Bool.noConfusion hcommits.1, rfl⟩
  | false =>
    rw [if_neg Bool.false_ne_true]
    split_ifs with hskipped
    · exact .inl ⟨fun hcommits => hcommits.2 hskipped, rfl⟩
    · rw [leaves_bind]
      refine (begin_spec h).mono (fun _ _ => False.elim) fun _ o₁ hbegun => ?_
      exact (renderChunk_spec hbegun).mono (fun _ _ h => .inr h.2) fun _ _ h => .inr h

/-- **What the emissions leave**: a stream that was begun exactly if one commits a chunk. -/
theorem emissions_spec {emitted : List (Bool × AdapterStreamChunk)} (h : Unbegun o ∨ Begun o) :
    Leaves (fun _ _ => False)
      (fun _ o' => ((∀ emission ∈ emitted, ¬ stream.Commits emission) ∧ o' = o) ∨ Begun o')
      (emitted.forM fun emission => tryCatch (stream.emit emission.1 emission.2) fun _ => pure ())
      o := by
  induction emitted generalizing o with
  | nil => exact .inl ⟨fun _ hmem => absurd hmem List.not_mem_nil, rfl⟩
  | cons emission emitted ih =>
    have hrest : ∀ o', (¬ stream.Commits emission ∧ o' = o) ∨ Begun o' → Leaves (fun _ _ => False)
        (fun _ o'' => ((∀ e ∈ emission :: emitted, ¬ stream.Commits e) ∧ o'' = o) ∨ Begun o'')
        (emitted.forM fun emission =>
          tryCatch (stream.emit emission.1 emission.2) fun _ => pure ()) o' := by
      rintro o' (⟨hnot, rfl⟩ | hbegun)
      · refine (ih h).mono (fun _ _ => id) fun _ o'' h'' => ?_
        rcases h'' with ⟨hnone, rfl⟩ | hbegun
        · exact .inl ⟨List.forall_mem_cons.mpr ⟨hnot, hnone⟩, rfl⟩
        · exact .inr hbegun
      · refine (ih (.inr hbegun)).mono (fun _ _ => id) fun _ o'' h'' => .inr ?_
        rcases h'' with ⟨-, rfl⟩ | hbegun'
        · exact hbegun
        · exact hbegun'
    rw [List.forM_eq_forM, List.forM_cons, leaves_bind, leaves_tryCatch]
    exact (emit_spec h).mono (fun _ o' h' => hrest o' h') fun _ o' h' => hrest o' h'

/-- A commitment among the emissions leaves a stream that was begun. -/
theorem emissions_committed {emitted : List (Bool × AdapterStreamChunk)}
    (h : Unbegun o ∨ Begun o) (hcommits : ∃ emission ∈ emitted, stream.Commits emission) :
    Leaves (fun _ _ => False) (fun _ => Begun)
      (emitted.forM fun emission => tryCatch (stream.emit emission.1 emission.2) fun _ => pure ())
      o := by
  refine (emissions_spec h).mono (fun _ _ => id) fun _ o' h' => ?_
  rcases h' with ⟨hnone, -⟩ | hbegun
  · obtain ⟨emission, hmem, hcommit⟩ := hcommits
    exact absurd hcommit (hnone emission hmem)
  · exact hbegun

/-- Without a commitment the emissions leave what they found. -/
theorem emissions_uncommitted {emitted : List (Bool × AdapterStreamChunk)}
    (hnone : ∀ emission ∈ emitted, ¬ stream.Commits emission) :
    Leaves (fun _ _ => False) (fun _ o' => o' = o)
      (emitted.forM fun emission => tryCatch (stream.emit emission.1 emission.2) fun _ => pure ())
      o := by
  induction emitted with
  | nil => exact rfl
  | cons emission emitted ih =>
    obtain ⟨gone, chunk⟩ := emission
    obtain ⟨hnot, hrest⟩ := List.forall_mem_cons.mp hnone
    rw [List.forM_eq_forM, List.forM_cons, leaves_bind, leaves_tryCatch]
    have hsame : Leaves (fun _ o' => o' = o) (fun _ o' => o' = o) (stream.emit gone chunk) o := by
      unfold emit
      cases gone with
      | true => exact rfl
      | false =>
        have hskipped : chunk.kind = .usage ∧ stream.includeUsage = false := by
          by_contra hrendered
          exact hnot ⟨rfl, hrendered⟩
        rw [if_neg Bool.false_ne_true, if_pos hskipped]
        exact rfl
    refine hsame.mono ?_ ?_
    · rintro _ o' rfl
      exact ih hrest
    · rintro _ o' rfl
      exact ih hrest

/-- The text of a whole message keeps the stage. -/
theorem renderText_spec {kind : PartKind} {text : Option (LimitedText 16777216)} (h : Begun o) :
    Leaves (fun e o' => e = .other ∧ Begun o') (fun _ => Begun)
      (stream.renderText kind created text) o := by
  cases text with
  | none => exact h
  | some text =>
    dsimp only [renderText]
    split_ifs with hempty
    · exact h
    · simp only [leaves_bind, leaves_raise]
      refine ⟨fun chunk _ => renderChunk_spec h, fun e herror => ⟨?_, h⟩⟩
      unfold textChunk at herror
      split_ifs at herror
      exact (Except.error.inj herror).symm

/-- The calls of a whole message keep the stage. -/
theorem renderCalls_spec {calls : List AdapterToolCall} (h : Begun o) :
    Leaves (fun e o' => e = .other ∧ Begun o') (fun _ => Begun)
      (calls.forM fun call => stream.renderChunk (.toolCall call) created) o := by
  induction calls generalizing o with
  | nil => exact h
  | cons call calls ih =>
    rw [List.forM_eq_forM, List.forM_cons, leaves_bind]
    exact (renderChunk_spec h).mono (fun _ _ => id) fun _ _ hbegun => ih hbegun

/-- **A chunkless completion is rendered as a stream that is ended**, or raises before it is. -/
theorem synthesize_spec {outcome : CompletionOutcome} (h : Unbegun o) :
    Leaves (fun e o' => e = .other ∧ Begun o') (fun _ => Ended) (stream.synthesize outcome) o := by
  unfold synthesize
  rw [leaves_bind]
  refine (begin_spec (.inl h)).mono (fun _ _ => False.elim) fun _ o₁ h₁ => ?_
  rw [leaves_bind]
  refine (renderText_spec h₁).mono (fun _ _ => id) fun _ o₂ h₂ => ?_
  rw [leaves_bind]
  refine (renderText_spec h₂).mono (fun _ _ => id) fun _ o₃ h₃ => ?_
  rw [leaves_bind]
  refine (renderCalls_spec h₃).mono (fun _ _ => id) fun _ o₄ h₄ => ?_
  rw [leaves_bind]
  refine (renderChunk_spec h₄).mono (fun _ _ => id) fun _ o₅ h₅ => ?_
  rw [leaves_ite]
  refine ⟨fun _ => ?_, fun _ => h₅.done⟩
  split
  · exact h₅.done
  · rw [leaves_bind]
    exact (renderChunk_spec h₅).mono (fun _ _ => id) fun _ _ h₆ => h₆.done

end ChatStream

/-! ### Executions -/

/-- The state of a stream that was reset for a request. -/
theorem Unbegun.reset (h : Unbegun o) : Unbegun { o with
    streamStarted := false
    toolCallIndex := 0 } := ⟨rfl, h.committed, h.surface, h.written⟩

/-- What a successful execution leaves: a stream that was ended, or an exception while the whole
    message was rendered. -/
theorem runStreaming_ok {outcome : CompletionOutcome} (h : Unbegun o)
    (hresult : execution.result = .ok outcome) :
    Leaves (fun e o' => e = .other ∧ Begun o') (fun _ => Ended) (runStreaming stream execution) o := by
  unfold runStreaming Execution.run
  rw [leaves_bind, leaves_modify, leaves_bind, leaves_tryCatch, leaves_bind, hresult]
  refine (ChatStream.emissions_spec (.inl h.reset)).mono (fun _ _ => False.elim) fun _ o₁ h₁ => ?_
  show Leaves _ _ (stream.finish (some outcome)) o₁
  unfold ChatStream.finish
  rw [leaves_bind, leaves_get]
  rcases h₁ with ⟨-, rfl⟩ | hbegun
  · rw [if_neg Bool.false_ne_true]
    exact ChatStream.synthesize_spec h.reset
  · rw [if_pos hbegun.started]
    exact hbegun.done

/-- The execution commits a chunk to the stream. -/
def Execution.Commits (execution : Execution) (stream : ChatStream) : Prop :=
  ∃ emission ∈ execution.emitted, stream.Commits emission

/-- **What a failed execution leaves that has committed a chunk**: a stream that was ended. -/
theorem runStreaming_committed {e : HandlerException} (h : Unbegun o)
    (hresult : execution.result = .error e) (hcommits : execution.Commits stream) :
    Leaves (fun e' o' => e' = e ∧ Ended o') (fun _ _ => False) (runStreaming stream execution) o := by
  unfold runStreaming Execution.run
  rw [leaves_bind, leaves_modify, leaves_bind, leaves_tryCatch, leaves_bind, hresult]
  refine (ChatStream.emissions_committed (.inl h.reset) hcommits).mono (fun _ _ => False.elim)
    fun _ o₁ hbegun => ?_
  show Leaves _ _ (do
    stream.finish none
    throw e) o₁
  unfold ChatStream.finish
  rw [leaves_bind, leaves_bind, leaves_get, if_pos hbegun.started]
  exact ⟨rfl, hbegun.done⟩

/-- **What another failed execution leaves**: nothing was written. -/
theorem runStreaming_uncommitted {e : HandlerException} (h : Unbegun o)
    (hresult : execution.result = .error e) (hnone : ¬ execution.Commits stream) :
    Leaves (fun e' o' => e' = e ∧ Unbegun o') (fun _ _ => False)
      (runStreaming stream execution) o := by
  have hnot : ∀ emission ∈ execution.emitted, ¬ stream.Commits emission :=
    fun emission hmem hcommits => hnone ⟨emission, hmem, hcommits⟩
  unfold runStreaming Execution.run
  rw [leaves_bind, leaves_modify, leaves_bind, leaves_tryCatch, leaves_bind, hresult]
  refine (ChatStream.emissions_uncommitted hnot).mono (fun _ _ => False.elim) ?_
  rintro _ o₁ rfl
  refine leaves_raise.mpr ⟨fun _ hok => absurd hok nofun, fun _ herror => ?_⟩
  obtain rfl := Except.error.inj herror
  unfold ChatStream.finish
  rw [leaves_bind, leaves_bind, leaves_get, if_neg Bool.false_ne_true]
  exact ⟨rfl, h.reset⟩

/-! ### Answers -/

/-- The answer to an exception before anything was written. -/
def Answered : HandlerException → Prop
  | .gateway error | .rejected error => knownErrorStatus error.httpStatus = true
  | .disconnected => False
  | .other => True

/-- The answer to an error before anything was written. -/
theorem sendGatewayError_unbegun {error : GatewayError} (h : Unbegun o) :
    Leaves (fun _ o' => knownErrorStatus error.httpStatus = false ∧ o'.written = [])
      (fun _ o' => knownErrorStatus error.httpStatus = true ∧
        ∃ payload, o'.written = [.response error.httpStatus payload])
      (sendGatewayError error) o := by
  unfold sendGatewayError
  rw [leaves_bind, leaves_modify, leaves_bind, leaves_get]
  simp only [h.surface, Bool.false_eq_true, if_false, Bool.false_and, h.committed]
  split_ifs with hknown
  · refine ⟨hknown, .error error none, ?_⟩
    show o.written ++ _ = _
    rw [h.written]
    rfl
  · exact ⟨Bool.not_eq_true _ ▸ hknown, h.written⟩

/-- The answer to an error once the stream was committed. -/
theorem sendGatewayError_committed {error : GatewayError} (hcommitted : o.sseCommitted = true)
    (hsurface : o.responsesSurface = false) :
    Leaves (fun _ _ => False)
      (fun _ o' => o'.written = o.written ++ [.frame (.error error), .frame .done])
      (sendGatewayError error) o := by
  unfold sendGatewayError
  rw [leaves_bind, leaves_modify, leaves_bind, leaves_get]
  simp only [hsurface, Bool.false_eq_true, if_false, Bool.false_and, hcommitted, if_true]
  exact List.append_assoc _ _ _

/-- The answer to a failure once the stream was committed: it is written last. -/
theorem handleException_committed {e : HandlerException} (hcommitted : o.sseCommitted = true)
    (hsurface : o.responsesSurface = false) :
    Leaves (fun _ _ => False)
      (fun _ o' => (e = .disconnected ∧ o'.written = o.written) ∨
        ∃ error, o'.written = o.written ++ [.frame (.error error), .frame .done])
      (handleException e) o := by
  cases e with
  | gateway error | other =>
    exact (sendGatewayError_committed hcommitted hsurface).mono (fun _ _ => id)
      fun _ _ h => .inr ⟨_, h⟩
  | rejected error =>
    unfold handleException
    rw [leaves_bind]
    exact (sendGatewayError_committed hcommitted hsurface).mono (fun _ _ => id)
      fun _ _ h => .inr ⟨_, h⟩
  | disconnected => exact .inl ⟨rfl, rfl⟩

/-- The answer to a failure before anything was written. -/
theorem handleException_unbegun {e : HandlerException} (h : Unbegun o) :
    Leaves (fun _ o' => ¬ Answered e ∧ o'.written = [])
      (fun _ o' => (Answered e ∧ ∃ status payload, o'.written = [.response status payload]) ∨
        ¬ Answered e ∧ o'.written = [])
      (handleException e) o := by
  have herror : ∀ error : GatewayError, Leaves
      (fun _ o' => ¬ knownErrorStatus error.httpStatus = true ∧ o'.written = [])
      (fun _ o' => knownErrorStatus error.httpStatus = true ∧
        ∃ status payload, o'.written = [.response status payload])
      (sendGatewayError error) o := fun error =>
    (sendGatewayError_unbegun h).mono
      (fun _ _ h' => ⟨by rw [h'.1]; exact Bool.false_ne_true, h'.2⟩)
      fun _ _ h' => ⟨h'.1, _, h'.2⟩
  cases e with
  | gateway error => exact (herror error).mono (fun _ _ => id) fun _ _ => .inl
  | rejected error =>
    unfold handleException
    rw [leaves_bind]
    exact (herror error).mono (fun _ _ => id) fun _ _ => .inl
  | disconnected => exact .inr ⟨id, h.written⟩
  | other =>
    refine (herror _).mono (fun _ _ h' => absurd (by decide) h'.1) fun _ _ h' => .inl ⟨trivial, h'.2⟩

/-! ### Transcripts of executions -/

/-- What a transcript that is a stream is. -/
theorem transcript_stream {failed : Prop} {all : List Frame} :
    Transcript failed (.head :: all.map .frame) ↔ ∃ frames : List Frame, all = frames ++ [.done] ∧
      (∀ frame ∈ frames, frame.isDone = false) ∧ (failed → ∃ error, Frame.error error ∈ frames) := by
  constructor
  · intro h
    generalize hw : Written.head :: all.map .frame = written at h
    cases h with
    | plain status payload => cases hw
    | stream frames once named =>
      have hinjective : Function.Injective Written.frame := fun _ _ => Written.frame.inj
      exact ⟨frames, List.map_injective_iff.mpr hinjective (List.cons.inj hw).2, once, named⟩
  · rintro ⟨frames, rfl, once, named⟩
    exact .stream frames once named

theorem isDone_of_content {frame : Frame} (h : frame.content = true) : frame.isDone = false := by
  cases frame <;> first | rfl | cases h

/-- A stream that was ended is a transcript, unless there is a failure to name. -/
theorem Ended.transcript {failed : Prop} (h : Ended o) : Transcript failed o.written ↔ ¬ failed := by
  obtain ⟨frames, hwritten, hcontent⟩ := h.written
  rw [hwritten, transcript_stream]
  constructor
  · rintro ⟨frames', hframes, -, hnamed⟩ hfailed
    obtain ⟨rfl, -⟩ := List.append_inj' hframes rfl
    obtain ⟨error, hmem⟩ := hnamed hfailed
    cases hcontent _ hmem
  · intro hnot
    exact ⟨frames, rfl, fun frame hmem => isDone_of_content (hcontent frame hmem),
      fun hfailed => absurd hfailed hnot⟩

/-- A failure that is written after the end is no transcript. -/
theorem Ended.not_transcript {failed : Prop} {error : GatewayError} (h : Ended o) :
    ¬ Transcript failed (o.written ++ [.frame (.error error), .frame .done]) := by
  obtain ⟨frames, hwritten, -⟩ := h.written
  have hall : o.written ++ [.frame (.error error), .frame .done] =
      .head :: (frames ++ [Frame.done, .error error, .done]).map .frame := by
    rw [hwritten]
    simp
  rw [hall, transcript_stream]
  rintro ⟨frames', hframes, honce, -⟩
  have hsplit : (frames ++ [Frame.done, .error error]) ++ [Frame.done] = frames' ++ [Frame.done] := by
    rw [← hframes, List.append_assoc]
    rfl
  obtain ⟨rfl, -⟩ := List.append_inj' hsplit rfl
  have hdone := honce .done (by simp)
  cases hdone

/-- A failure that is written before the end is named. -/
theorem Begun.transcript {failed : Prop} {error : GatewayError} (h : Begun o) :
    Transcript failed (o.written ++ [.frame (.error error), .frame .done]) := by
  obtain ⟨frames, hwritten, hcontent⟩ := h.written
  have hall : o.written ++ [.frame (.error error), .frame .done] =
      .head :: ((frames ++ [Frame.error error]) ++ [Frame.done]).map .frame := by
    rw [hwritten]
    simp
  rw [hall, transcript_stream]
  refine ⟨_, rfl, fun frame hmem => ?_, fun _ => ⟨error, by simp⟩⟩
  rcases List.mem_append.mp hmem with hmem | hmem
  · exact isDone_of_content (hcontent frame hmem)
  · obtain rfl := List.mem_singleton.mp hmem
    rfl

theorem not_transcript_nil {failed : Prop} : ¬ Transcript failed [] := by
  intro h
  cases h

/-- An exception that is not answered meets no condition. -/
theorem not_answered_of {e : HandlerException} {commits : Prop} (h : ¬ Answered e) :
    ¬ ((∃ outcome : CompletionOutcome, Except.error e = .ok outcome) ∨
      ¬ commits ∧ ∃ e', (Except.error e : Except _ CompletionOutcome) = .error e' ∧ Answered e') := by
  rintro (⟨outcome, hok⟩ | ⟨-, e', he, hanswered⟩)
  · cases hok
  · obtain rfl := Except.error.inj he
    exact h hanswered

/-- **A streaming execution writes a transcript exactly when it succeeds, or fails before it commits
    a chunk with an exception that is answered.** -/
theorem chat_transcript_iff (stream : ChatStream) (execution : Execution) (closes : Bool) :
    Transcript (∃ e, execution.result = .error e)
        ((answering (runStreaming stream execution)).result { closeConnection := closes }).2.written ↔
      (∃ outcome, execution.result = .ok outcome) ∨
        ¬ execution.Commits stream ∧ ∃ e, execution.result = .error e ∧ Answered e := by
  have hstart : Unbegun { closeConnection := closes } := ⟨rfl, rfl, rfl, rfl⟩
  refine Leaves.state (P := fun o : Output => Transcript _ o.written ↔ _) ?_
  unfold answering
  rw [leaves_tryCatch]
  cases hresult : execution.result with
  | ok outcome =>
    have hsucceeds : ¬ ∃ e : HandlerException, Except.ok outcome = Except.error e :=
      fun ⟨_, h⟩ => nomatch h
    refine (runStreaming_ok hstart hresult).mono ?_ ?_
    · rintro _ o ⟨rfl, hbegun⟩
      refine (handleException_committed hbegun.committed hbegun.surface).mono
        (fun _ _ => False.elim) ?_
      rintro _ o' (⟨hgone, -⟩ | ⟨error, hwritten⟩)
      · cases hgone
      · rw [hwritten]
        exact iff_of_true hbegun.transcript (.inl ⟨outcome, rfl⟩)
    · intro _ o hended
      exact iff_of_true (hended.transcript.mpr hsucceeds) (.inl ⟨outcome, rfl⟩)
  | error e =>
    have hfails : ∃ e', (Except.error e : Except _ CompletionOutcome) = .error e' := ⟨e, rfl⟩
    by_cases hcommits : execution.Commits stream
    · refine (runStreaming_committed hstart hresult hcommits).mono ?_ fun _ _ => False.elim
      rintro _ o ⟨rfl, hended⟩
      refine (handleException_committed hended.committed hended.surface).mono
        (fun _ _ => False.elim) ?_
      intro _ o' hwritten
      refine iff_of_false ?_ ?_
      · rcases hwritten with ⟨-, hwritten⟩ | ⟨error, hwritten⟩
        · rw [hwritten, hended.transcript]
          exact fun hnot => hnot hfails
        · rw [hwritten]
          exact hended.not_transcript
      · rintro (⟨outcome, hok⟩ | ⟨hnone, -⟩)
        · cases hok
        · exact hnone hcommits
    · refine (runStreaming_uncommitted hstart hresult hcommits).mono ?_ fun _ _ => False.elim
      rintro _ o ⟨rfl, hunbegun⟩
      refine (handleException_unbegun hunbegun).mono ?_ ?_
      · rintro _ o' ⟨hnot, hwritten⟩
        rw [hwritten]
        exact iff_of_false not_transcript_nil (not_answered_of hnot)
      · rintro _ o' (⟨hanswered, status, payload, hwritten⟩ | ⟨hnot, hwritten⟩)
        · rw [hwritten]
          exact iff_of_true (.plain status payload) (.inr ⟨hcommits, _, rfl, hanswered⟩)
        · rw [hwritten]
          exact iff_of_false not_transcript_nil (not_answered_of hnot)

/-- An execution that emits one letter and then fails. -/
def brokenExecution : Execution where
  emitted := [(false, .textDelta ⟨Text.ofString "a", by decide⟩)]
  result := .error (.gateway (.api "upstream failed" (some "upstream_error") 502))

/-- Its failure is written after `[DONE]`, and `[DONE]` once more. -/
theorem failure_after_done : ¬ ∀ (stream : ChatStream) (execution : Execution) (closes : Bool),
    execution.result ≠ .error .disconnected →
      Transcript (∃ e, execution.result = .error e)
        ((answering (runStreaming stream execution)).result
          { closeConnection := closes }).2.written := by
  intro h
  have htranscript : Transcript _ (Written.head :: [Frame.role [] 0 [],
      .chunk ⟨[], 0, [], .textDelta ⟨Text.ofString "a", by decide⟩, 0⟩, .done,
      .error (.api "upstream failed" (some "upstream_error") 502), .done].map .frame) :=
    h ⟨[], [], false, 0⟩ brokenExecution true nofun
  obtain ⟨frames, hframes, honce, -⟩ := transcript_stream.mp htranscript
  have hdrop := congrArg List.dropLast hframes
  rw [List.dropLast_concat] at hdrop
  have hmem : Frame.done ∈ frames := by
    rw [← hdrop]
    simp
  cases honce _ hmem

end ScarcityRouter
