import ScarcityRouter.Gateway.ResponsesProtocol

namespace ScarcityRouter

open ScarcityRouter.Lib
open ScarcityRouter.Lib.Stateful

/-!
# Sessions of a response stream

Any pushes and one last call, of which each may raise.

* `session` — the events that the calls return, in their order.
* `ChunkAccepted` — the chunks that a new stream accepts.
* `pushes_spec`, `pushes_new` — what the pushes have built and what of it they have returned.
* `session_protocol_iff` — **a session keeps the protocol exactly when its first chunk is accepted
  and its last call is**.

A call that raises loses the events it has built, and the stream goes on with their numbers.
-/

/-- The last call of a session. -/
inductive LastCall where
  | finish (outcome : Option CompletionOutcome)
  | fail (error : GatewayError)

namespace ResponsesStreamEvents

variable {s s' : ResponsesStreamEvents} {chunk : AdapterStreamChunk}
  {chunks : List AdapterStreamChunk}

/-! ### Calls -/

/-- What a call returns, if it does, and the state it leaves. -/
def returned (method : EventStream (List ResponsesEvent)) (s : ResponsesStreamEvents) :
    List ResponsesEvent × ResponsesStreamEvents :=
  match method.result s with
  | (.ok events, s') => (events, s')
  | (.error _, s') => ([], s')

/-- What the pushes return, and the state they leave. -/
def pushes : List AdapterStreamChunk → ResponsesStreamEvents →
    List ResponsesEvent × ResponsesStreamEvents
  | [], s => ([], s)
  | chunk :: chunks, s =>
    let first := returned (push chunk) s
    let rest := pushes chunks first.2
    (first.1 ++ rest.1, rest.2)

/-- The last call. -/
def lastCall : LastCall → EventStream (List ResponsesEvent)
  | .finish outcome => finish outcome
  | .fail error => fail error

/-- The events that a session returns. -/
def session (chunks : List AdapterStreamChunk) (last : LastCall) (s : ResponsesStreamEvents) :
    List ResponsesEvent :=
  let pushed := pushes chunks s
  pushed.1 ++ (returned (lastCall last) pushed.2).1

/-- A new stream. -/
def new (request : ResponsesRequest) (responseId : SafeId) (created : ℕ) (tokenHex : ℕ → String) :
    ResponsesStreamEvents where
  request := request
  responseId := responseId
  created := created
  tokenHex := tokenHex

/-- A method returns what it has built. -/
theorem returned_returning {method : EventStream Unit} : returned (returning method) s =
    match method.result s with
    | (.ok _, s') => (s'.built.drop s.built.length, s')
    | (.error _, s') => ([], s') := by
  unfold returned returning
  rw [result_bind, result_get]
  dsimp only
  rw [result_bind]
  rcases method.result s with ⟨_ | _, s'⟩
  · rfl
  · dsimp only
    rw [result_bind, result_get]
    rfl

/-! ### Pushes -/

/-- The chunks that a new stream accepts. -/
def ChunkAccepted (request : ResponsesRequest) : AdapterStreamChunk → Prop
  | .textDelta text | .reasoningDelta text => Text.encodable text.1 = true
  | .toolCall call => request.Allows call ∧ ∀ t ∈ call.texts, Text.encodable t = true
  | .finish _ | .usage _ => True

instance (request : ResponsesRequest) : DecidablePred (ChunkAccepted request) := by
  intro chunk
  cases chunk <;> unfold ChunkAccepted <;> infer_instance

/-- A stream that has built events is open. -/
theorem Coherent.started_of_built (h : Coherent s) (hbuilt : s.built ≠ []) : s.started = true := by
  by_contra hnot
  exact hbuilt (h.unopened (Bool.not_eq_true _ ▸ hnot)).1

theorem Coherent.built_of_started (h : Coherent s) (hstart : s.started = true) : s.built ≠ [] := by
  intro hnil
  obtain ⟨response, rest, hopen⟩ := h.opened hstart
  unfold bodies at hopen
  rw [hnil] at hopen
  cases hopen

/-- What a push of an open stream returns is what it has built. -/
theorem push_spec (h : Coherent s) (hstart : s.started = true) :
    Continues s (returned (push chunk) s).2 ∧ (returned (push chunk) s).2.started = true ∧
      (returned (push chunk) s).2.built = s.built ++ (returned (push chunk) s).1 := by
  have hspec : Leaves _ _ (pushChunk chunk) s := pushChunk_spec h
  have hbegun : s.begun = s := if_pos hstart
  unfold Leaves at hspec
  unfold push
  rw [returned_returning]
  rcases hresult : (pushChunk chunk).result s with ⟨_ | _, s'⟩ <;> rw [hresult] at hspec
  · obtain ⟨hcontinues, hbuilt⟩ := hspec
    rw [hbegun, ite_self] at hbuilt
    refine ⟨hcontinues, hcontinues.coherent.started_of_built ?_, ?_⟩
    · rw [hbuilt]
      exact h.built_of_started hstart
    · exact hbuilt.trans (List.append_nil _).symm
  · obtain ⟨hcontinues, hstart'⟩ := hspec
    exact ⟨hcontinues, hstart', (List.prefix_iff_eq_append.mp hcontinues.grows).symm⟩

/-- **The pushes of an open stream return what they have built.** -/
theorem pushes_spec (h : Coherent s) (hstart : s.started = true) :
    Continues s (pushes chunks s).2 ∧ (pushes chunks s).2.built = s.built ++ (pushes chunks s).1 := by
  induction chunks generalizing s with
  | nil => exact ⟨.refl h, (List.append_nil _).symm⟩
  | cons chunk chunks ih =>
    have hpush : Continues s (returned (push chunk) s).2 ∧ _ := push_spec h hstart
    obtain ⟨hcontinues, hstart', hbuilt⟩ := hpush
    obtain ⟨hrest, hbuilt'⟩ := ih hcontinues.coherent hstart'
    refine ⟨hcontinues.trans hrest, ?_⟩
    show (pushes chunks (returned (push chunk) s).2).2.built = s.built ++ (_ ++ _)
    rw [hbuilt', hbuilt, List.append_assoc]

/-- A first chunk fits. -/
theorem fits_first {n : ℕ} (hsize : s.size = 0) (hchunks : s.chunks = 0)
    (hn : n ≤ maxResponseChars) : (s.reserved n).Fits := by
  refine ⟨?_, ?_⟩
  · show s.size + n ≤ maxResponseChars
    rw [hsize, Nat.zero_add]
    exact hn
  · show s.chunks + 1 ≤ 1000000
    rw [hchunks]
    exact Nat.succ_le_of_lt (by decide)

theorem delta_le {n : ℕ} (h : n ≤ maxStreamDeltaChars) : n ≤ maxResponseChars :=
  h.trans (by decide)

/-- The first call passes the checks exactly when it is accepted. -/
theorem checkPushedCall_first {call : AdapterToolCall} (htools : s.tools = []) :
    checkPushedCall call s = .ok () ↔ ChunkAccepted s.request (.toolCall call) := by
  constructor
  · intro hok
    obtain ⟨_, hallows, hok⟩ := bind_eq_ok.mp hok
    obtain ⟨_, htexts, -⟩ := bind_eq_ok.mp hok
    exact ⟨check_eq_ok.mp hallows, fun t ht => check_eq_ok.mp (forM_eq_ok.mp htexts t ht)⟩
  · rintro ⟨hallows, htexts⟩
    have hone : (s.tools ++ [call]).length = 1 := by
      rw [htools]
      rfl
    have hallowed : CallsAllowed s [call] :=
      { allowed := fun c hc => by
          obtain rfl := List.mem_singleton.mp hc
          exact ⟨hallows, htexts⟩
        length := by rw [hone]; decide
        distinct := by rw [htools]; exact List.nodup_singleton _
        parallel := .inr hone.le }
    exact hallowed.check

/-- The rest of a first push: it returns exactly for the chunks that are accepted. -/
theorem pushOpened_first (hsize : s.size = 0) (hchunks : s.chunks = 0) (htools : s.tools = []) :
    Leaves (fun _ _ => ¬ ChunkAccepted s.request chunk) (fun _ _ => ChunkAccepted s.request chunk)
      (pushOpened chunk) s := by
  cases chunk with
  | textDelta text | reasoningDelta text =>
    unfold Leaves
    dsimp only [pushOpened]
    rw [result_delta]
    split_ifs with hencodable hfits
    · exact hencodable
    · exact absurd (fits_first hsize hchunks (delta_le text.2.2)) hfits
    · exact hencodable
  | toolCall call =>
    unfold Leaves
    dsimp only [pushOpened]
    rw [result_pushCall]
    cases hcheck : checkPushedCall call s with
    | error e =>
      intro haccepted
      rw [(checkPushedCall_first htools).mpr haccepted] at hcheck
      cases hcheck
    | ok _ =>
      have hchars : call.chars ≤ 256 + 256 + maxStreamDeltaChars :=
        add_le_add (add_le_add call.id.2.2 call.name.2.2) call.arguments.2.2
      dsimp only
      rw [if_pos (fits_first hsize hchunks (hchars.trans (by decide)))]
      exact (checkPushedCall_first htools).mp hcheck
  | finish reason => trivial
  | usage tokens =>
    unfold pushOpened
    rw [leaves_bind]
    unfold Leaves
    rw [result_reserve, check_pos (fits_first hsize hchunks (Nat.zero_le _))]
    trivial

/-- A stream that nothing was pushed to. -/
structure Fresh (s : ResponsesStreamEvents) : Prop where
  started : s.started = false
  done : s.done = false
  finishReason : s.finishReason = none
  size : s.size = 0
  chunks : s.chunks = 0
  tools : s.tools = []
  built : s.built = []

/-- A first push returns exactly for the chunks that are accepted. -/
theorem pushChunk_first (h : Coherent s) (hfresh : Fresh s) :
    Leaves (fun _ _ => ¬ ChunkAccepted s.request chunk) (fun _ _ => ChunkAccepted s.request chunk)
      (pushChunk chunk) s := by
  have hopen : s.refuses chunk = false := by
    unfold refuses
    rw [hfresh.done, hfresh.finishReason]
    rfl
  have hbegun := reconciled_begun h
  unfold pushChunk
  rw [leaves_bind, leaves_get, leaves_bind, check_pos hopen, leaves_raise]
  refine ⟨fun _ _ => ?_, nofun⟩
  rw [leaves_bind, leaves_begin, ← hbegun.request]
  exact pushOpened_first (hbegun.size.trans hfresh.size) (hbegun.chunks.trans hfresh.chunks)
    (hbegun.tools.trans hfresh.tools)

/-- **The first push of a stream**: where it raises it loses the events that open the stream. -/
theorem push_first (h : Coherent s) (hfresh : Fresh s) :
    Continues s (returned (push chunk) s).2 ∧ (returned (push chunk) s).2.started = true ∧
      ∃ lost, (returned (push chunk) s).2.built = lost ++ (returned (push chunk) s).1 ∧
        (lost = [] ↔ ChunkAccepted s.request chunk) := by
  have hspec : Leaves _ _ (pushChunk chunk) s := pushChunk_spec h
  have hfirst : Leaves _ _ (pushChunk chunk) s := pushChunk_first h hfresh
  have hopened : s.begun.built ≠ [] := h.begun.built_of_started started_begun
  have hopen : s.refuses chunk = false := by
    unfold refuses
    rw [hfresh.done, hfresh.finishReason]
    rfl
  unfold Leaves at hspec hfirst
  unfold push
  rw [returned_returning]
  rcases hresult : (pushChunk chunk).result s with ⟨_ | _, s'⟩ <;> rw [hresult] at hspec hfirst
  · obtain ⟨hcontinues, hbuilt⟩ := hspec
    rw [hopen, if_neg Bool.false_ne_true] at hbuilt
    refine ⟨hcontinues, hcontinues.coherent.started_of_built (hbuilt ▸ hopened), s.begun.built, ?_,
      fun hnil => absurd hnil hopened, fun haccepted => absurd haccepted hfirst⟩
    exact hbuilt.trans (List.append_nil _).symm
  · obtain ⟨hcontinues, hstart⟩ := hspec
    refine ⟨hcontinues, hstart, [], ?_, fun _ => hfirst, fun _ => rfl⟩
    rw [hfresh.built]
    rfl

/-- **What the pushes of a new stream have built**: what they return, after what was lost. -/
theorem pushes_new (h : Coherent s) (hfresh : Fresh s) :
    Continues s (pushes chunks s).2 ∧ ∃ lost,
      (pushes chunks s).2.built = lost ++ (pushes chunks s).1 ∧
        (lost = [] ↔ ∀ chunk ∈ chunks.head?, ChunkAccepted s.request chunk) := by
  cases chunks with
  | nil => exact ⟨.refl h, [], hfresh.built, fun _ _ hmem => (by cases hmem), fun _ => rfl⟩
  | cons chunk chunks =>
    have hpush : Continues s (returned (push chunk) s).2 ∧ _ := push_first h hfresh
    obtain ⟨hcontinues, hstart, lost, hbuilt, hlost⟩ := hpush
    have hpushes : Continues _ (pushes chunks (returned (push chunk) s).2).2 ∧ _ :=
      pushes_spec hcontinues.coherent hstart
    obtain ⟨hrest, hbuilt'⟩ := hpushes
    refine ⟨hcontinues.trans hrest, lost, ?_, hlost.trans (by simp)⟩
    show (pushes chunks (returned (push chunk) s).2).2.built = lost ++ (_ ++ _)
    rw [hbuilt', hbuilt, List.append_assoc]

/-! ### Sessions -/

/-- The last calls that a stream accepts. -/
def Accepts (s : ResponsesStreamEvents) : LastCall → Prop
  | .finish none => False
  | .finish (some outcome) => FinishAccepts s outcome
  | .fail _ => True

/-- **The last call**: what it returns is what it has built, a protocol with all that was built
    before, or it returns nothing. -/
theorem lastCall_spec {last : LastCall} (h : Coherent s) (hdone : s.done = false) :
    (Accepts s last ∧ EventProtocol (s.built ++ (returned (lastCall last) s).1)) ∨
      ¬ Accepts s last ∧ (returned (lastCall last) s).1 = [] := by
  cases last with
  | fail error =>
    have hspec : Leaves _ _ (failWith error) s := fail_spec h hdone
    unfold Leaves at hspec
    show (_ ∧ EventProtocol (s.built ++ (returned (returning (failWith error)) s).1)) ∨ _
    rw [returned_returning]
    rcases hresult : (failWith error).result s with ⟨_ | _, s'⟩ <;> rw [hresult] at hspec
    · exact hspec.elim
    · obtain ⟨hprotocol, hgrows⟩ := hspec
      refine .inl ⟨trivial, ?_⟩
      dsimp only
      rw [List.prefix_iff_eq_append.mp hgrows]
      exact hprotocol
  | finish outcome =>
    show (_ ∧ EventProtocol (s.built ++ (returned (returning (finishWith outcome)) s).1)) ∨
      _ ∧ (returned (returning (finishWith outcome)) s).1 = []
    rw [returned_returning]
    cases outcome with
    | none => exact .inr ⟨id, List.drop_length⟩
    | some outcome =>
      have hspec : Leaves _ _ (finishWith (some outcome)) s := finish_spec h hdone
      unfold Leaves at hspec
      rcases hresult : (finishWith (some outcome)).result s with ⟨_ | _, s'⟩ <;> rw [hresult] at hspec
      · exact .inr ⟨hspec, rfl⟩
      · obtain ⟨haccepts, hprotocol, hgrows⟩ := hspec
        refine .inl ⟨haccepts, ?_⟩
        dsimp only
        rw [List.prefix_iff_eq_append.mp hgrows]
        exact hprotocol

/-- Events whose numbers do not start at zero keep no protocol. -/
theorem not_protocol_of_lost {lost events : List ResponsesEvent} {n : ℕ}
    (hnumbered : (lost ++ events).map (·.sequenceNumber) = List.range n) (hlost : lost ≠ []) :
    ¬ EventProtocol events := by
  intro hprotocol
  obtain ⟨before, body, hbodies, -⟩ := hprotocol.terminal
  cases events with
  | nil => simp at hbodies
  | cons event events =>
    have hfirst : event.sequenceNumber = 0 := by
      have hhead := congrArg List.head? hprotocol.numbered
      rw [List.length_cons, List.range_succ_eq_map] at hhead
      exact Option.some.inj hhead
    have hthere := congrArg (·[lost.length]?) hnumbered
    simp only [List.map_append, List.map_cons] at hthere
    rw [List.getElem?_append_right (by rw [List.length_map]), List.length_map, Nat.sub_self] at hthere
    have hlt : lost.length < n := by
      have hlength := congrArg List.length hnumbered
      rw [List.length_map, List.length_append, List.length_cons, List.length_range] at hlength
      omega
    rw [List.getElem?_range hlt, List.getElem?_cons_zero, hfirst] at hthere
    exact hlost (List.length_eq_zero_iff.mp (Option.some.inj hthere).symm)

/-- **The events of a session keep the protocol exactly when its first chunk and its last call are
    accepted.** -/
theorem session_protocol_iff (request : ResponsesRequest) (responseId : SafeId) (created : ℕ)
    (tokenHex : ℕ → String) (chunks : List AdapterStreamChunk) (last : LastCall) :
    EventProtocol (session chunks last (new request responseId created tokenHex)) ↔
      (∀ chunk ∈ chunks.head?, ChunkAccepted request chunk) ∧
        Accepts (pushes chunks (new request responseId created tokenHex)).2 last := by
  have hfresh : Fresh (new request responseId created tokenHex) := ⟨rfl, rfl, rfl, rfl, rfl, rfl, rfl⟩
  have hpushes : Continues _ (pushes chunks (new request responseId created tokenHex)).2 ∧
      ∃ lost, _ ∧ (lost = [] ↔ ∀ chunk ∈ chunks.head?, ChunkAccepted request chunk) :=
    pushes_new coherent_new hfresh
  unfold session
  dsimp only
  generalize pushes chunks (new request responseId created tokenHex) = pushed at hpushes ⊢
  obtain ⟨hcontinues, lost, hbuilt, hlost⟩ := hpushes
  have hlast : (Accepts pushed.2 last ∧ _) ∨ _ := lastCall_spec hcontinues.coherent hcontinues.done
  rw [← hlost]
  rcases hlast with ⟨haccepts, hprotocol⟩ | ⟨hnot, hnone⟩
  · rw [and_iff_left haccepts]
    rw [hbuilt, List.append_assoc] at hprotocol
    constructor
    · intro hsession
      by_contra hlost
      exact not_protocol_of_lost hprotocol.numbered hlost hsession
    · rintro rfl
      exact hprotocol
  · refine iff_of_false (fun hsession => ?_) fun h => hnot h.2
    -- Without the last call nothing that was returned is terminal.
    obtain ⟨before, body, hbodies, hterminal, -⟩ := hsession.terminal
    rw [hnone, List.append_nil] at hbodies
    have hmem : body ∈ pushed.2.bodies := by
      unfold bodies
      rw [hbuilt, List.map_append, hbodies]
      exact List.mem_append_right _ (List.mem_append_right _ (List.mem_singleton_self _))
    rw [(hcontinues.coherent.unclosed body hmem).1] at hterminal
    cases hterminal

/-- A request without tools. -/
def plainRequest : ResponsesRequest where
  canonical :=
    { model := Text.ofString "model"
      messages := [] }

/-- An unpaired surrogate has no encoding: the push of it raises, and the number of the error event
    that follows is two. -/
theorem session_unnumbered : ¬ ∀ (request : ResponsesRequest) (responseId : SafeId) (created : ℕ)
    (tokenHex : ℕ → String) (chunks : List AdapterStreamChunk) (last : LastCall),
    EventProtocol (session chunks last (new request responseId created tokenHex)) := by
  intro h
  have hprotocol := h plainRequest ⟨"resp-1", by decide⟩ 0 (fun _ => "")
    [.textDelta ⟨[0xD800], by decide⟩] (.fail (.api "stream failed"))
  exact absurd hprotocol.numbered (by decide)

end ResponsesStreamEvents

end ScarcityRouter
