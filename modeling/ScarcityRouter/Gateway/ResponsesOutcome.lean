import ScarcityRouter.Gateway.ResponsesSession
import ScarcityRouter.Lib.Positions

namespace ScarcityRouter

open ScarcityRouter.Lib
open ScarcityRouter.Lib.Stateful

/-!
# Streams and outcomes

What the response of a stream says, compared with the response that is built from the outcome alone.

* `contents_perm` — the items of a settled stream are its parts and its calls.
* `Accounted` — what the accepted pushes of a stream leave.
* `SameOutput` — the response that `response_payload` builds, up to the order and the ids of the
  items.
* `stream_equals_outcome_iff` — **a stream ends with the output of its outcome exactly when the
  outcome has a text of every kind that was streamed**.
-/

namespace ResponsesStreamEvents

open OutputItem (Content)

variable {s s' : ResponsesStreamEvents} {kind : PartKind} {chunk : AdapterStreamChunk}
  {chunks : List AdapterStreamChunk} {outcome : CompletionOutcome}

/-! ### What an output says -/

/-- The part of a kind. -/
def isPart (kind : PartKind) : OutputItem → Bool
  | .part kind' .. => kind' = kind
  | .functionCall .. => false

/-- What a call says. -/
def callContent (call : AdapterToolCall) : Content :=
  .call call.id.1 call.name.1 call.arguments.1

/-- What the part of a kind says, if there is one. -/
def partContents (kind : PartKind) (s : ResponsesStreamEvents) : List Content :=
  if s.parts kind = none then [] else [.text kind (s.text kind)]

/-- The parts of a kind are the one that the stream keeps. -/
theorem filter_part (h : Coherent s) (htold : Told kind s) :
    (s.output.filter (isPart kind)).map OutputItem.content = partContents kind s := by
  have hpart : ∀ i item, s.output[i]? = some item → isPart kind item = true →
      s.parts kind = some i ∧ item.content = .text kind (s.text kind) := by
    intro i item hitem his
    cases item with
    | functionCall => cases his
    | part kind' id status text =>
      obtain rfl := of_decide_eq_true his
      refine ⟨h.part_at hitem, ?_⟩
      rw [htold i id status text hitem]
      rfl
  unfold partContents
  cases hkind : s.parts kind with
  | none =>
    rw [if_pos rfl, List.filter_eq_nil_iff.mpr, List.map_nil]
    intro item hmem his
    obtain ⟨i, hitem⟩ := List.mem_iff_getElem?.mp hmem
    rw [(hpart i item hitem his).1] at hkind
    cases hkind
  | some i =>
    obtain ⟨id, status, text, hitem⟩ := h.parts kind i hkind
    have his : isPart kind (.part kind id status (some text)) = true := decide_eq_true rfl
    have hfilter := filter_of_unique hitem his fun k item hk hitem' =>
      Option.some.inj ((hpart k item hk hitem').1.symm.trans hkind)
    rw [if_neg nofun, hfilter, List.map_singleton, (hpart i _ hitem his).2]

/-- The other items are the calls. -/
theorem filter_calls (output : List OutputItem) :
    (output.filter fun item => !isPart .text item && !isPart .reasoning item).map
      OutputItem.content = (callsOf output).map fun call => .call call.1 call.2.1 call.2.2 := by
  induction output with
  | nil => rfl
  | cons item output ih =>
    cases item with
    | part kind id status text => cases kind <;> exact ih
    | functionCall id status callId name arguments => exact congrArg (List.cons _) ih

/-- **The items of a settled stream are its parts and its calls.** -/
theorem contents_perm (h : Coherent s) (htold : ∀ kind, Told kind s) :
    (s.output.map OutputItem.content).Perm
      (partContents .reasoning s ++ (partContents .text s ++ s.tools.map callContent)) := by
  have hreasoning := List.filter_append_perm (isPart .reasoning) s.output
  have htext := List.filter_append_perm (isPart .text)
    (s.output.filter fun item => !isPart .reasoning item)
  have hdisjoint : (fun item => isPart .text item && !isPart .reasoning item) = isPart .text := by
    funext item
    cases item with
    | part kind id status text => cases kind <;> rfl
    | functionCall => rfl
  rw [List.filter_filter, List.filter_filter, hdisjoint] at htext
  have hall := (hreasoning.symm.trans (htext.symm.append_left _)).map OutputItem.content
  rw [List.map_append, List.map_append, filter_part h (htold _), filter_part h (htold _),
    filter_calls, h.calls, List.map_map] at hall
  exact hall

/-! ### Accepted pushes -/

/-- The chunk is text of the kind. -/
def streams (kind : PartKind) : AdapterStreamChunk → Bool
  | .textDelta _ => kind = .text
  | .reasoningDelta _ => kind = .reasoning
  | _ => false

/-- What accepted pushes leave: the size is that of the texts and of the calls. -/
structure Accounted (s : ResponsesStreamEvents) : Prop where
  coherent : Coherent s
  done : s.done = false
  size : s.size =
    (s.text .text).length + (s.text .reasoning).length + (s.tools.map AdapterToolCall.chars).sum
  bounded : s.size ≤ maxResponseChars

/-- A text goes on: the lengths of both. -/
theorem length_update {texts : PartKind → Text} {t : Text} :
    (Function.update texts kind (texts kind ++ t) .text).length +
      (Function.update texts kind (texts kind ++ t) .reasoning).length =
        (texts .text).length + (texts .reasoning).length + t.length := by
  cases kind <;> simp [Function.update] <;> omega

/-- The rule of an accepted push, once the stream is open. -/
theorem pushOpened_accounted (h : Accounted s) (hstart : s.started = true) :
    Leaves (fun _ _ => True) (fun _ s' => Accounted s' ∧ Continues s s' ∧
        ∀ kind, s'.parts kind = none ↔ s.parts kind = none ∧ streams kind chunk = false)
      (pushOpened chunk) s := by
  obtain ⟨hcoherent, hdone, hsize, hbounded⟩ := h
  have hdelta : ∀ (kind : PartKind) (t : Text), (∀ kind', streams kind' chunk = decide (kind' = kind)) →
      Leaves (fun _ _ => True) (fun _ s' => Accounted s' ∧ Continues s s' ∧
        ∀ kind, s'.parts kind = none ↔ s.parts kind = none ∧ streams kind chunk = false)
      (delta kind t) s := by
    intro kind t hstreams
    have htold : Reconciled [t.length] _ (· = kind) _ s (s.withDelta kind t) :=
      reconciled_delta hcoherent hstart
    unfold Leaves
    rw [result_delta]
    split_ifs with htext hfits
    · refine ⟨⟨htold.coherent, htold.done.trans hdone, ?_, ?_⟩, htold.toContinues, fun kind' => ?_⟩
      · rw [htold.size, htold.text, htold.tools, length_update, hsize, List.sum_singleton]
        omega
      · rw [htold.size, List.sum_singleton]
        exact hfits.1
      · rw [htold.parts, hstreams, decide_eq_false_iff_not]
    · trivial
    · trivial
  cases chunk with
  | textDelta text => exact hdelta .text text.1 fun _ => rfl
  | reasoningDelta text => exact hdelta .reasoning text.1 fun _ => rfl
  | toolCall call =>
    have htold : Reconciled [call.chars] _ _ _ s ((s.reserved call.chars).openCall call) :=
      reconciled_call hcoherent hstart
    unfold Leaves
    dsimp only [pushOpened]
    rw [result_pushCall]
    cases checkPushedCall call s with
    | error e => trivial
    | ok _ =>
      dsimp only
      split_ifs with hfits
      · refine ⟨⟨htold.coherent, htold.done.trans hdone, ?_, ?_⟩, htold.toContinues, fun kind => ?_⟩
        · rw [htold.size, htold.text, htold.tools, hsize, List.map_append, List.sum_append]
          exact Nat.add_assoc _ _ _
        · rw [htold.size, List.sum_singleton]
          exact hfits.1
        · rw [htold.parts, not_false_eq_true, and_true]
          exact (and_iff_left rfl).symm
      · trivial
  | finish reason =>
    exact ⟨⟨hcoherent.of_same ⟨rfl, rfl, rfl, rfl, rfl, rfl, rfl⟩, hdone, hsize, hbounded⟩,
      ⟨hcoherent.of_same ⟨rfl, rfl, rfl, rfl, rfl, rfl, rfl⟩, List.prefix_rfl, rfl, rfl, rfl⟩,
      fun kind => (and_iff_left rfl).symm⟩
  | usage tokens =>
    unfold pushOpened
    rw [leaves_bind]
    unfold Leaves
    rw [result_reserve]
    by_cases hfits : (s.reserved 0).Fits
    · rw [check_pos hfits]
      exact ⟨⟨hcoherent.of_same ⟨rfl, rfl, rfl, rfl, rfl, rfl, rfl⟩, hdone, hsize, hbounded⟩,
        ⟨hcoherent.of_same ⟨rfl, rfl, rfl, rfl, rfl, rfl, rfl⟩, List.prefix_rfl, rfl, rfl, rfl⟩,
        fun kind => (and_iff_left rfl).symm⟩
    · rw [check_neg hfits]
      trivial

/-- The rule of an accepted push. -/
theorem pushChunk_accounted (h : Accounted s) :
    Leaves (fun _ _ => True) (fun _ s' => Accounted s' ∧ Continues s s' ∧
        ∀ kind, s'.parts kind = none ↔ s.parts kind = none ∧ streams kind chunk = false)
      (pushChunk chunk) s := by
  have hbegun := reconciled_begun h.coherent
  have haccounted : Accounted s.begun :=
    { coherent := hbegun.coherent
      done := hbegun.done.trans h.done
      size := by rw [hbegun.size, hbegun.text, hbegun.tools]; exact h.size
      bounded := by rw [hbegun.size]; exact h.bounded }
  unfold pushChunk
  rw [leaves_bind, leaves_get, leaves_bind, leaves_raise]
  refine ⟨fun _ _ => ?_, fun _ _ => trivial⟩
  rw [leaves_bind, leaves_begin]
  refine (pushOpened_accounted haccounted hbegun.started).mono (fun _ _ => id) ?_
  rintro _ s' ⟨haccounted', hcontinues, hparts⟩
  refine ⟨haccounted', hbegun.toContinues.trans hcontinues, fun kind => ?_⟩
  rw [hparts, hbegun.parts, not_false_eq_true, and_true]

/-- A push that returns is a push without its events that does. -/
theorem result_push {events : List ResponsesEvent} (h : (push chunk).result s = (.ok events, s')) :
    (pushChunk chunk).result s = (.ok (), s') := by
  unfold push returning at h
  rw [result_bind, result_get] at h
  dsimp only at h
  rw [result_bind] at h
  rcases hresult : (pushChunk chunk).result s with ⟨_ | _, s₁⟩ <;> rw [hresult] at h
  · cases h
  · obtain ⟨-, rfl⟩ := Prod.mk.inj h
    rfl

/-- **What accepted pushes leave**: a part for every kind of text that they streamed. -/
theorem pushes_accounted {pushed : List (List ResponsesEvent)} (h : Accounted s)
    (hpushes : (chunks.mapM push).result s = (.ok pushed, s')) :
    Accounted s' ∧ Continues s s' ∧ ∀ kind, s'.parts kind = none ↔
      s.parts kind = none ∧ ∀ chunk ∈ chunks, streams kind chunk = false := by
  induction chunks generalizing s pushed with
  | nil =>
    obtain ⟨-, rfl⟩ := Prod.mk.inj hpushes
    exact ⟨h, .refl h.coherent, fun kind => by simp⟩
  | cons chunk chunks ih =>
    have hpush : Leaves _ _ (pushChunk chunk) s := pushChunk_accounted h
    rw [List.mapM_cons, result_bind] at hpushes
    unfold Leaves at hpush
    rcases hresult : (push chunk).result s with ⟨_ | _, s₁⟩ <;> rw [hresult] at hpushes
    · cases hpushes
    · rw [result_push hresult] at hpush
      obtain ⟨haccounted, hcontinues, hparts⟩ := hpush
      dsimp only at hpushes
      rw [result_bind] at hpushes
      rcases hrest : (chunks.mapM push).result s₁ with ⟨_ | _, s₂⟩ <;> rw [hrest] at hpushes
      · cases hpushes
      · obtain ⟨-, rfl⟩ := Prod.mk.inj hpushes
        obtain ⟨haccounted', hcontinues', hparts'⟩ := ih haccounted hrest
        refine ⟨haccounted', hcontinues.trans hcontinues', fun kind => ?_⟩
        rw [hparts', hparts, List.forall_mem_cons, and_assoc]

/-! ### The size of an outcome -/

/-- What was streamed of a text and what is still to be rendered of it are the text. -/
theorem sum_textSizes {t : Text} (h : s.text kind <+: t) :
    (s.text kind).length + (textSizes kind (some t) s).sum = t.length := by
  obtain ⟨rest, rfl⟩ := h
  rw [textSizes_append, ← List.length_flatten, flatten_pieces, List.length_append]

/-- An outcome that is accepted and has a text of every kind that was streamed fits. -/
theorem chars_le (h : Accounted s) (haccepts : FinishAccepts s outcome)
    (hkinds : ∀ kind, s.parts kind ≠ none → finalText outcome kind ≠ none) :
    outcome.chars ≤ maxResponseChars := by
  have htext : ∀ kind, (s.text kind).length + (textSizes kind (finalText outcome kind) s).sum =
      (finalText outcome kind).elim 0 List.length := by
    intro kind
    cases hfinal : finalText outcome kind with
    | some t => exact sum_textSizes (haccepts.text kind t hfinal)
    | none =>
      have hpart : s.parts kind = none := by
        by_contra hpart
        exact hkinds kind hpart hfinal
      rw [h.coherent.unparted kind hpart]
      rfl
  have hcalls : (s.tools.map AdapterToolCall.chars).sum +
      ((outcome.message.toolCalls.drop s.tools.length).map AdapterToolCall.chars).sum =
        (outcome.message.toolCalls.map AdapterToolCall.chars).sum := by
    rw [← List.sum_append, ← List.map_append, List.prefix_iff_eq_append.mp haccepts.tools]
  have hcontent : (finalText outcome .text).elim 0 List.length =
      outcome.message.content.elim 0 (·.1.length) := by
    unfold finalText
    cases outcome.message.content <;> rfl
  have hreasoning : (finalText outcome .reasoning).elim 0 List.length =
      outcome.message.reasoning.elim 0 (·.1.length) := by
    unfold finalText
    cases outcome.message.reasoning <;> rfl
  have hchars : outcome.chars = s.size + (remaining outcome s).sum := by
    unfold CompletionOutcome.chars remaining
    rw [List.sum_append, List.sum_append, ← hcontent, ← hreasoning, ← htext, ← htext, ← hcalls, h.size]
    omega
  rw [hchars]
  rcases haccepts.room with hnone | hroom
  · rw [hnone]
    exact h.bounded
  · exact hroom.1

/-! ### Streams and outcomes -/

/-- The terminal response of the events that are returned. -/
def terminalResponse? (events : List ResponsesEvent) : Option Response :=
  events.getLast?.bind (·.body.response?)

/-- The response has the output of the one that is built from the outcome alone, up to the order and
    the ids of the items. -/
def SameOutput (request : ResponsesRequest) (outcome : CompletionOutcome) (response : Response) :
    Prop :=
  ∃ direct, responsePayload request outcome none = .ok direct ∧
    (response.output.map fun item => (item.status, item.content)).Perm
      (direct.output.map fun item => (item.status, item.content))

/-- The contents of the output of an outcome. -/
theorem contents_outcomeItems (outcome : CompletionOutcome) :
    (outcomeItems outcome).map OutputItem.content =
      (finalText outcome .reasoning).toList.map (Content.text .reasoning) ++
        ((finalText outcome .text).toList.map (Content.text .text) ++
          outcome.message.toolCalls.map callContent) := by
  have hcalls : (outcome.message.toolCalls.zipIdx.map fun call => callItem outcome call.1 call.2).map
      OutputItem.content = outcome.message.toolCalls.map callContent := by
    rw [List.map_map]
    conv_rhs => rw [← List.zipIdx_map_fst 0 outcome.message.toolCalls, List.map_map]
    rfl
  unfold outcomeItems partItem finalText
  rw [List.map_append, List.map_append, hcalls, List.append_assoc]
  cases outcome.message.reasoning <;> cases outcome.message.content <;> rfl

/-- Every item of the output of an outcome has the status of the response. -/
theorem status_outcomeItems {item : OutputItem} (h : item ∈ outcomeItems outcome) :
    item.status = outcome.responseStatus.items := by
  unfold outcomeItems partItem at h
  simp only [List.mem_append, List.mem_map] at h
  rcases h with (⟨_, -, rfl⟩ | ⟨_, -, rfl⟩) | ⟨_, -, rfl⟩ <;> rfl

/-- Pairs with one first member are compared by the second. -/
theorem perm_of_pairs {status : ItemStatus} {xs ys : List Content}
    (h : (xs.map (status, ·)).Perm (ys.map (status, ·))) : xs.Perm ys := by
  have hsnd := h.map Prod.snd
  simpa [List.map_map, Function.comp_def] using hsnd

/-- The items of a settled stream and of its outcome are compared by their contents. -/
theorem sameOutput_iff {request : ResponsesRequest} {settled : ResponsesStreamEvents}
    {response : Response} (hcheck : checkOutput request outcome = .ok ())
    (houtput : response.output = settled.output.map (·.withStatus outcome.responseStatus.items)) :
    SameOutput request outcome response ↔ outcome.chars ≤ maxResponseChars ∧
      (settled.output.map OutputItem.content).Perm
        ((outcomeItems outcome).map OutputItem.content) := by
  have hleft : response.output.map (fun item => (item.status, item.content)) =
      (settled.output.map OutputItem.content).map (outcome.responseStatus.items, ·) := by
    rw [houtput, List.map_map, List.map_map]
    simp [Function.comp_def]
  have hright : (outcomeItems outcome).map (fun item => (item.status, item.content)) =
      ((outcomeItems outcome).map OutputItem.content).map (outcome.responseStatus.items, ·) := by
    rw [List.map_map]
    exact List.map_congr_left fun item hitem => by rw [status_outcomeItems hitem]; rfl
  unfold SameOutput
  rw [hleft]
  constructor
  · rintro ⟨direct, hdirect, hperm⟩
    unfold responsePayload at hdirect
    rw [hcheck] at hdirect
    obtain ⟨_, -, hdirect⟩ := bind_eq_ok.mp hdirect
    obtain ⟨_, hsize, hdirect⟩ := bind_eq_ok.mp hdirect
    have hchars : outcome.chars ≤ maxResponseChars := check_eq_ok.mp hsize
    obtain rfl := Except.ok.inj hdirect
    have hpairs : List.Perm _ ((outcomeItems outcome).map fun item => (item.status, item.content)) :=
      hperm
    rw [hright] at hpairs
    exact ⟨hchars, perm_of_pairs hpairs⟩
  · rintro ⟨hchars, hperm⟩
    refine ⟨responseFields request outcome.requestId outcome.created outcome.responseStatus
      (outcomeItems outcome) (some outcome), ?_, ?_⟩
    · unfold responsePayload checkSize
      rw [hcheck, check_pos hchars]
      rfl
    · show List.Perm _ ((outcomeItems outcome).map _)
      rw [hright]
      exact hperm.map _

/-- A part of a settled stream is the text of the outcome, if it has one of every kind that was
    streamed. -/
theorem partContents_settled {settled : ResponsesStreamEvents} (h : Settled outcome s settled)
    (hkind : s.parts kind ≠ none → finalText outcome kind ≠ none) :
    partContents kind settled = (finalText outcome kind).toList.map (Content.text kind) := by
  unfold partContents
  have hparts := h.parts kind
  cases hfinal : finalText outcome kind with
  | none =>
    have hnone : s.parts kind = none := by
      by_contra hnot
      exact hkind hnot hfinal
    rw [if_pos (hparts.mpr ⟨hnone, hfinal⟩)]
    rfl
  | some t =>
    have hsome : settled.parts kind ≠ none := by
      intro hnone
      rw [(hparts.mp hnone).2] at hfinal
      cases hfinal
    rw [if_neg hsome, h.text, hfinal]
    rfl

/-- **The contents of a settled stream are those of the outcome exactly when it has a text of every
    kind that was streamed.** -/
theorem contents_iff {settled : ResponsesStreamEvents} (h : Settled outcome s settled) :
    (settled.output.map OutputItem.content).Perm ((outcomeItems outcome).map OutputItem.content) ↔
      ∀ kind, s.parts kind ≠ none → finalText outcome kind ≠ none := by
  have hcontents := contents_perm h.coherent h.told
  rw [h.tools] at hcontents
  rw [contents_outcomeItems]
  constructor
  · intro hperm kind hstreamed hnone
    -- The part that was streamed is in the output, but not in the outcome.
    have hpart : partContents kind settled = [.text kind (settled.text kind)] :=
      if_neg fun hparts => hstreamed ((h.parts kind).mp hparts).1
    have hmem : Content.text kind (settled.text kind) ∈ settled.output.map OutputItem.content := by
      refine hcontents.symm.subset ?_
      cases kind with
      | reasoning => rw [hpart]; exact List.mem_append_left _ (List.mem_singleton_self _)
      | text =>
        rw [hpart]
        exact List.mem_append_right _ (List.mem_append_left _ (List.mem_singleton_self _))
    have hthere := hperm.subset hmem
    simp only [List.mem_append, List.mem_map, Option.mem_toList] at hthere
    rcases hthere with ⟨t, ht, heq⟩ | ⟨t, ht, heq⟩ | ⟨call, -, heq⟩
    · obtain ⟨rfl, -⟩ := Content.text.inj heq
      rw [hnone] at ht
      cases ht
    · obtain ⟨rfl, -⟩ := Content.text.inj heq
      rw [hnone] at ht
      cases ht
    · cases heq
  · intro hkinds
    rw [partContents_settled h (hkinds _), partContents_settled h (hkinds _)] at hcontents
    exact hcontents

/-- **The terminal response of a stream has the output of its outcome exactly when the outcome has a
    text of every kind that was streamed.** -/
theorem stream_equals_outcome_iff {request : ResponsesRequest} {responseId : SafeId} {created : ℕ}
    {tokenHex : ℕ → String} {pushed : List (List ResponsesEvent)} {events : List ResponsesEvent}
    (hpushes : (chunks.mapM push).result (new request responseId created tokenHex) =
      (.ok pushed, s))
    (hfinish : (finish (some outcome)).result s = (.ok events, s'))
    (hsuccess : outcome.finishReason ≠ .cancelled) :
    (∃ response, terminalResponse? events = some response ∧ SameOutput request outcome response) ↔
      ∀ kind, (∃ chunk ∈ chunks, streams kind chunk = true) → finalText outcome kind ≠ none := by
  have hnew : Accounted (new request responseId created tokenHex) :=
    ⟨coherent_new, rfl, rfl, Nat.zero_le _⟩
  obtain ⟨haccounted, hcontinues, hparts⟩ := pushes_accounted hnew hpushes
  have hrequest : s.request = request := hcontinues.request
  have hstreamed : ∀ kind, s.parts kind ≠ none ↔ ∃ chunk ∈ chunks, streams kind chunk = true := by
    intro kind
    rw [ne_eq, hparts, not_and]
    simp [new]
  have hended : Leaves _ _ (finishWith (some outcome)) s :=
    finish_ended haccounted.coherent haccounted.done
  unfold Leaves at hended
  unfold finish returning at hfinish
  rw [result_bind, result_get] at hfinish
  dsimp only at hfinish
  rw [result_bind] at hfinish
  rcases hresult : (finishWith (some outcome)).result s with ⟨_ | _, s₁⟩ <;>
    rw [hresult] at hended hfinish
  · cases hfinish
  obtain ⟨rfl, rfl⟩ : s₁.built.drop s.built.length = events ∧ s₁ = s' := by
    obtain ⟨hevents, hs⟩ := Prod.mk.inj hfinish
    exact ⟨Except.ok.inj hevents, hs⟩
  obtain ⟨haccepts, hgrows, settled, last, hsettled, hended⟩ := hended
  -- The terminal event is the last of those that are returned.
  have hlast : terminalResponse? (s₁.built.drop s.built.length) = last.response? := by
    have hbodies := hended.bodies
    have hsplit := List.prefix_iff_eq_append.mp hgrows
    have hnonempty : s₁.built.drop s.built.length ≠ [] := by
      intro hnil
      rw [hnil, List.append_nil] at hsplit
      have hmem : last ∈ s.bodies := by
        unfold bodies
        rw [hsplit]
        show last ∈ s₁.bodies
        rw [hbodies]
        exact List.mem_append_right _ (List.mem_singleton_self _)
      have hopen := (haccounted.coherent.unclosed last hmem).1
      rw [hended.terminal] at hopen
      cases hopen
    have hfinal : (s₁.built.map (·.body)).getLast? = some last := by
      show s₁.bodies.getLast? = some last
      rw [hbodies, List.getLast?_concat]
    rw [← hsplit, List.map_append, List.getLast?_append_of_ne_nil _ (by simpa using hnonempty),
      List.getLast?_map] at hfinal
    unfold terminalResponse?
    obtain ⟨event, hevent, rfl⟩ := Option.map_eq_some_iff.mp hfinal
    rw [hevent]
    rfl
  obtain ⟨response, hresponse⟩ := Option.ne_none_iff_exists'.mp (hended.succeeds hsuccess)
  have hsame : SameOutput request outcome response ↔ _ :=
    sameOutput_iff (hrequest ▸ haccepts.output) (hended.response response hresponse)
  rw [hlast, hresponse]
  simp only [Option.some.injEq, exists_eq_left', ← hstreamed]
  rw [hsame, contents_iff hsettled]
  exact and_iff_right_of_imp fun hkinds => chars_le haccounted haccepts hkinds

/-- A stream of the plain request. -/
def plainStream : ResponsesStreamEvents := new plainRequest (.lit "resp-1") 0 fun _ => ""

/-- An outcome of the plain request, with a content or without one. -/
def plainOutcome (content : Option (LimitedText 16777216)) : CompletionOutcome where
  requestId := .lit "resp-1"
  created := 0
  modelEcho := ⟨Text.ofString "model", by decide⟩
  message := { role := .lit "assistant", content }
  finishReason := .stop
  usage := unavailableUsage

theorem letter_limited :
    Text.ofString "a" ≠ [] ∧ (Text.ofString "a").length ≤ maxStreamDeltaChars := by decide

/-- One letter is streamed. -/
def letter : AdapterStreamChunk := .textDelta ⟨Text.ofString "a", letter_limited⟩

/-- A text that was streamed is in the terminal response also when the outcome has none. -/
theorem streamed_text_kept : ¬ ∀ (request : ResponsesRequest) (responseId : SafeId) (created : ℕ)
    (tokenHex : ℕ → String) (chunks : List AdapterStreamChunk) (pushed : List (List ResponsesEvent))
    (s : ResponsesStreamEvents) (outcome : CompletionOutcome) (events : List ResponsesEvent)
    (s' : ResponsesStreamEvents),
    (chunks.mapM push).result (new request responseId created tokenHex) = (.ok pushed, s) →
    (finish (some outcome)).result s = (.ok events, s') → outcome.finishReason ≠ .cancelled →
    ∃ response, terminalResponse? events = some response ∧ SameOutput request outcome response := by
  intro h
  obtain ⟨response, hresponse, direct, hdirect, hperm⟩ := h plainRequest (.lit "resp-1") 0
    (fun _ => "") [letter] _ _ (plainOutcome none) _ _ rfl rfl (by decide)
  obtain rfl := Option.some.inj hresponse
  obtain rfl := Except.ok.inj hdirect
  exact absurd hperm.length_eq (by decide)

/-- A text that goes on is that of the outcome. -/
theorem streamed_text_continued : ∃ pushed s events s',
    ([letter].mapM push).result plainStream = (.ok pushed, s) ∧
    (finish (some (plainOutcome (some ⟨Text.ofString "ab", by decide⟩)))).result s =
      (.ok events, s') ∧
    ((∃ response, terminalResponse? events = some response ∧
      SameOutput plainRequest (plainOutcome (some ⟨Text.ofString "ab", by decide⟩)) response) ↔
        ∀ kind, (∃ chunk ∈ [letter], streams kind chunk = true) →
          finalText (plainOutcome (some ⟨Text.ofString "ab", by decide⟩)) kind ≠ none) := by
  have hpushes : ([letter].mapM push).result (new plainRequest (.lit "resp-1") 0 fun _ => "") =
    (.ok _, _) := rfl
  exact ⟨_, _, _, _, hpushes, rfl, stream_equals_outcome_iff hpushes rfl (by decide)⟩

end ResponsesStreamEvents

end ScarcityRouter
