import ScarcityRouter.Gateway.ResponsesReconcile

namespace ScarcityRouter

open ScarcityRouter.Lib
open ScarcityRouter.Lib.Stateful

/-!
# The protocol of the events

What the events that a response stream returns are, taken together.

* `EventProtocol` — the numbers, the opening, the items with their deltas, and the terminal event.
* `closings` — the events that close the items of an output.
* `finish_spec`, `fail_spec` — **what the last call of a session has built keeps the protocol**,
  where `finish` accepts the outcome.
-/

/-! ### The protocol -/

/-- The item is closed once, after its deltas, and what its closing events say is what they said. -/
structure ClosedItem (bodies : List EventBody) (i : ℕ) (item : OutputItem) : Prop where
  added : bodies.countP (·.adds i) = 1
  closed : bodies.countP (·.closes i) = 1
  after : ∃ before after, bodies = before ++ .itemDone i item :: after ∧
    ∀ body ∈ after, body.deltaAt i = none
  said : item.said = deltasOf i bodies
  echoed : ∀ body ∈ bodies, ∀ text, body.echoAt i = some text → text = item.said

/-- **The protocol of the events that a stream returns.** -/
structure EventProtocol (events : List ResponsesEvent) : Prop where
  numbered : events.map (·.sequenceNumber) = List.range events.length
  opened : (∃ event code message param, events = [event] ∧ event.body = .error code message param) ∨
    ∃ response rest, events.map (·.body) = .created response :: rest
  /-- An item is added at most once, and before its deltas. -/
  addedOnce : ∀ i, (events.map (·.body)).countP (·.adds i) ≤ 1
  added : ∀ before body after i, events.map (·.body) = before ++ body :: after →
    body.deltaAt i ≠ none → before.countP (·.adds i) = 1
  closed : ∀ body ∈ events.map (·.body), ∀ response, body.response? = some response →
    ∀ i item, response.output[i]? = some item → ClosedItem (events.map (·.body)) i item
  terminal : ∃ before body, events.map (·.body) = before ++ [body] ∧ body.terminal = true ∧
    ∀ other ∈ before, other.terminal = false

namespace EventBody

variable {body : EventBody} {i : ℕ}

/-- An event that neither adds an item nor says something of one, nor ends the stream. -/
structure Silent (body : EventBody) : Prop where
  delta : ∀ i, body.deltaAt i = none
  adds : ∀ i, body.adds i = false
  terminal : body.terminal = false
  response : body.response? = none

/-- A terminal event is about no item. -/
theorem of_terminal (h : body.terminal = true) :
    body.deltaAt i = none ∧ body.adds i = false ∧ body.closes i = false ∧ body.echoAt i = none := by
  cases body <;> simp_all [terminal, deltaAt, adds, closes, echoAt]

/-- Only a terminal event carries a final response. -/
theorem response?_of_terminal (h : body.terminal = false) : body.response? = none := by
  cases body <;> simp_all [terminal, response?]

end EventBody

/-! ### Closing events -/

open EventBody in
/-- The events that close an item. -/
def itemClosings (i : ℕ) : OutputItem → List EventBody
  | .functionCall id status callId name arguments =>
    (if status = .completed then [argumentsDone i id arguments] else []) ++
      [itemDone i (.functionCall id status callId name arguments)]
  | .part kind id status text =>
    [textDone kind i id (text.getD []), partDone i id kind (text.getD []),
      itemDone i (.part kind id status text)]

/-- The events that close the items of an output, from an index on. -/
def closings (k : ℕ) : List OutputItem → List EventBody
  | [] => []
  | item :: items => itemClosings k item ++ closings (k + 1) items

section Closings

variable {k i : ℕ} {item : OutputItem} {items : List OutputItem} {body : EventBody}

theorem mem_itemClosings (h : body ∈ itemClosings k item) :
    body.Silent ∧ (∀ i text, body.echoAt i = some text → i = k ∧ text = item.said) := by
  cases item with
  | functionCall id status callId name arguments =>
    rcases List.mem_append.mp h with h | h
    · split_ifs at h
      · obtain rfl := List.mem_singleton.mp h
        refine ⟨⟨fun _ => rfl, fun _ => rfl, rfl, rfl⟩, fun i text htext => ?_⟩
        simp only [EventBody.echoAt] at htext
        split_ifs at htext with hk
        exact ⟨hk.symm, (Option.some.inj htext).symm⟩
      · cases h
    · obtain rfl := List.mem_singleton.mp h
      exact ⟨⟨fun _ => rfl, fun _ => rfl, rfl, rfl⟩, nofun⟩
  | part kind id status text =>
    have hsaid : ∀ i text', (if k = i then some (text.getD []) else none) = some text' →
        i = k ∧ text' = text.getD [] := by
      intro i text' htext
      split_ifs at htext with hk
      exact ⟨hk.symm, (Option.some.inj htext).symm⟩
    rcases List.mem_cons.mp h with rfl | h
    · exact ⟨⟨fun _ => rfl, fun _ => rfl, rfl, rfl⟩, hsaid⟩
    · rcases List.mem_pair.mp h with rfl | rfl
      · exact ⟨⟨fun _ => rfl, fun _ => rfl, rfl, rfl⟩, hsaid⟩
      · exact ⟨⟨fun _ => rfl, fun _ => rfl, rfl, rfl⟩, nofun⟩

theorem itemDone_mem_itemClosings : .itemDone k item ∈ itemClosings k item := by
  cases item <;> simp [itemClosings]

theorem countP_itemClosings : (itemClosings k item).countP (·.closes i) = if k = i then 1 else 0 := by
  cases item with
  | functionCall id status callId name arguments =>
    unfold itemClosings
    rw [List.countP_append]
    split_ifs <;> simp_all [EventBody.closes]
  | part kind id status text =>
    unfold itemClosings
    simp only [List.countP_cons, List.countP_nil, EventBody.closes]
    split_ifs <;> simp_all

/-- What the closing events are. -/
theorem mem_closings (h : body ∈ closings k items) :
    body.Silent ∧ (∀ i text, body.echoAt i = some text →
      ∃ j item, i = k + j ∧ items[j]? = some item ∧ text = item.said) := by
  induction items generalizing k with
  | nil => cases h
  | cons item items ih =>
    rcases List.mem_append.mp h with h | h
    · obtain ⟨hsilent, hsaid⟩ := mem_itemClosings h
      refine ⟨hsilent, fun i text htext => ?_⟩
      obtain ⟨rfl, rfl⟩ := hsaid i text htext
      exact ⟨0, item, rfl, rfl, rfl⟩
    · obtain ⟨hsilent, hsaid⟩ := ih h
      refine ⟨hsilent, fun i text htext => ?_⟩
      obtain ⟨j, item', rfl, hitem, rfl⟩ := hsaid i text htext
      exact ⟨j + 1, item', by omega, hitem, rfl⟩

theorem itemDone_mem_closings (h : items[i]? = some item) :
    .itemDone (k + i) item ∈ closings k items := by
  induction items generalizing k i with
  | nil => cases h
  | cons first items ih =>
    cases i with
    | zero =>
      obtain rfl := Option.some.inj h
      exact List.mem_append_left _ itemDone_mem_itemClosings
    | succ i =>
      have hrest : .itemDone (k + 1 + i) item ∈ closings (k + 1) items := ih h
      rw [Nat.add_assoc, Nat.add_comm 1 i] at hrest
      exact List.mem_append_right _ hrest

/-- Every item is closed once. -/
theorem countP_closings : (closings k items).countP (·.closes i) =
    if k ≤ i ∧ i < k + items.length then 1 else 0 := by
  induction items generalizing k with
  | nil =>
    rw [if_neg (by rw [List.length_nil]; omega)]
    rfl
  | cons item items ih =>
    unfold closings
    rw [List.countP_append, countP_itemClosings, ih, List.length_cons]
    split_ifs <;> omega

end Closings

namespace ResponsesStreamEvents

variable {s s' s'' : ResponsesStreamEvents} {outcome : CompletionOutcome}

/-- Events were built and items changed, but nothing that the events are about. -/
structure Builds (more : List EventBody) (s s' : ResponsesStreamEvents) : Prop where
  bodies : s'.bodies = s.bodies ++ more
  numbered : s.built.map (·.sequenceNumber) = List.range s.sequence →
    s'.built.map (·.sequenceNumber) = List.range s'.sequence
  grows : s.built <+: s'.built
  done : s'.done = s.done

theorem Builds.trans {more more' : List EventBody} (h : Builds more s s')
    (h' : Builds more' s' s'') : Builds (more ++ more') s s'' where
  bodies := by rw [h'.bodies, h.bodies, List.append_assoc]
  numbered hs := h'.numbered (h.numbered hs)
  grows := h.grows.trans h'.grows
  done := h'.done.trans h.done

theorem builds_build {body : EventBody} : Builds [body] s (build body s) where
  bodies := bodies_build
  numbered := numbered_build
  grows := List.prefix_append _ _
  done := rfl

/-- An item is replaced, and nothing is built. -/
theorem builds_output {output : List OutputItem} : Builds [] s { s with output } where
  bodies := (List.append_nil _).symm
  numbered := id
  grows := List.prefix_rfl
  done := rfl

/-- The step of the loop that closes the items. -/
theorem closeItem_spec {status : ItemStatus} {before rest : List OutputItem} {item : OutputItem}
    (houtput : s.output = before ++ item :: rest) :
    Leaves (fun _ _ => False)
      (fun _ s' => s'.output = before ++ item.withStatus status :: rest ∧
        Builds (itemClosings before.length (item.withStatus status)) s s')
      (closeItem status before.length) s := by
  have hmodify : s.output.modify before.length (OutputItem.withStatus status) =
      before ++ item.withStatus status :: rest := by
    rw [houtput, List.modify_eq_take_drop, List.take_left, List.drop_left]
    rfl
  have hitem : (before ++ item.withStatus status :: rest)[before.length]? =
      some (item.withStatus status) := by
    rw [List.getElem?_append_right le_rfl, Nat.sub_self]
    rfl
  unfold closeItem
  simp only [leaves_bind, leaves_modify, leaves_get, hmodify, hitem]
  have hbuilds : Builds [] s { s with output := before ++ item.withStatus status :: rest } :=
    builds_output
  cases item with
  | functionCall id old callId name arguments =>
    simp only [OutputItem.withStatus, event, itemClosings] at hbuilds ⊢
    by_cases hstatus : status = .completed
    · simp only [if_pos hstatus]
      exact ⟨rfl, (hbuilds.trans builds_build).trans builds_build⟩
    · simp only [if_neg hstatus]
      exact ⟨rfl, hbuilds.trans builds_build⟩
  | part kind id old text =>
    exact ⟨rfl, ((hbuilds.trans builds_build).trans builds_build).trans builds_build⟩

/-- **The loop that closes the items.** -/
theorem closeItems_spec {status : ItemStatus} {before rest : List OutputItem}
    (houtput : s.output = before ++ rest) :
    Leaves (fun _ _ => False)
      (fun _ s' => s'.output = before ++ rest.map (·.withStatus status) ∧
        Builds (closings before.length (rest.map (·.withStatus status))) s s')
      ((List.range' before.length rest.length).forM (closeItem status)) s := by
  induction rest generalizing before s with
  | nil => exact ⟨houtput, ⟨(List.append_nil _).symm, id, List.prefix_rfl, rfl⟩⟩
  | cons item rest ih =>
    rw [List.length_cons, List.range'_succ, List.forM_eq_forM, List.forM_cons, leaves_bind]
    refine (closeItem_spec houtput).mono (fun _ _ => id) ?_
    rintro _ s₁ ⟨houtput₁, hbuilds₁⟩
    have hsplit : s₁.output = (before ++ [item.withStatus status]) ++ rest := by
      rw [houtput₁, List.append_assoc]
      rfl
    have hrest := ih hsplit
    rw [List.length_append, List.length_singleton] at hrest
    refine hrest.mono (fun _ _ => id) ?_
    rintro _ s₂ ⟨houtput₂, hbuilds₂⟩
    refine ⟨?_, hbuilds₁.trans hbuilds₂⟩
    rw [houtput₂, List.append_assoc]
    rfl

/-! ### The terminal event -/

theorem failWith_spec {error : GatewayError} (hdone : s.done = false) :
    Leaves (fun _ _ => False)
      (fun _ s' => s'.bodies = s.bodies ++ [.error error.code error.message error.param] ∧
        (s.built.map (·.sequenceNumber) = List.range s.sequence →
          s'.built.map (·.sequenceNumber) = List.range s'.sequence) ∧ s.built <+: s'.built)
      (failWith error) s := by
  unfold failWith
  rw [leaves_bind, leaves_get, if_neg (by rw [hdone]; exact Bool.false_ne_true)]
  exact ⟨bodies_build, numbered_build, List.prefix_append _ _⟩

/-- **The terminal event of `finish`.**  A successful one carries the output of the stream. -/
theorem terminate_spec {response : Response} (hdone : s.done = false) :
    Leaves (fun _ _ => False)
      (fun _ s' => ∃ body : EventBody, body.terminal = true ∧
        (body.response? = if outcome.finishReason = .cancelled then none
          else some (terminalResponse response outcome s)) ∧
        s'.bodies = s.bodies ++ [body] ∧
        (s.built.map (·.sequenceNumber) = List.range s.sequence →
          s'.built.map (·.sequenceNumber) = List.range s'.sequence) ∧ s.built <+: s'.built)
      (terminate response outcome) s := by
  unfold terminate
  by_cases hcancelled : outcome.finishReason = .cancelled
  · rw [if_pos hcancelled, if_pos hcancelled]
    refine (failWith_spec hdone).mono (fun _ _ => id) ?_
    rintro _ s' ⟨hbodies, hnumbered, hgrows⟩
    exact ⟨_, rfl, rfl, hbodies, hnumbered, hgrows⟩
  · rw [if_neg hcancelled, if_neg hcancelled]
    simp only [event, leaves_bind, leaves_get, leaves_modify]
    refine ⟨_, ?_, ?_, bodies_build, numbered_build, List.prefix_append _ _⟩
    · split_ifs <;> rfl
    · split_ifs <;> rfl

/-! ### The protocol of what is built -/

variable {closing : List EventBody} {last : EventBody} {events : List ResponsesEvent}

/-- Silent events keep the items and their deltas. -/
theorem deltasOf_silent {i : ℕ} (h : ∀ body ∈ closing, body.deltaAt i = none) :
    deltasOf i closing = [] := by
  unfold deltasOf
  rw [List.filterMap_eq_nil_iff.mpr h]
  rfl

/-- What a stream has built, and silent events up to a terminal one, keeps the protocol. -/
theorem protocol_of_coherent (h : Coherent s) (hsilent : ∀ body ∈ closing, body.Silent)
    (hlast : last.terminal = true) (hevents : events.map (·.body) = s.bodies ++ closing ++ [last])
    (hnumbered : ∃ n, events.map (·.sequenceNumber) = List.range n)
    (hstart : s.started = false → closing = [] ∧ ∃ code message param,
      last = .error code message param)
    (hclosed : ∀ response, last.response? = some response → ∀ i item,
      response.output[i]? = some item → ClosedItem (s.bodies ++ closing ++ [last]) i item) :
    EventProtocol events := by
  have hquiet : ∀ body ∈ closing ++ [last], ∀ i, body.deltaAt i = none ∧ body.adds i = false := by
    intro body hbody i
    rcases List.mem_append.mp hbody with hbody | hbody
    · exact ⟨(hsilent body hbody).delta i, (hsilent body hbody).adds i⟩
    · obtain rfl := List.mem_singleton.mp hbody
      exact ⟨(EventBody.of_terminal hlast).1, (EventBody.of_terminal hlast).2.1⟩
  have hcount : ∀ i,
      (s.bodies ++ closing ++ [last]).countP (·.adds i) = s.bodies.countP (·.adds i) := by
    intro i
    have hzero : (closing ++ [last]).countP (·.adds i) = 0 := by
      refine List.countP_eq_zero.mpr fun body hbody => ?_
      rw [(hquiet body hbody i).2]
      exact Bool.false_ne_true
    rw [List.append_assoc, List.countP_append, hzero]
    rfl
  refine
    { numbered := ?_
      opened := ?_
      addedOnce := fun i => ?_
      added := fun before body after i hsplit hdelta => ?_
      closed := fun body hbody response hresponse => ?_
      terminal := ⟨s.bodies ++ closing, last, hevents, hlast, fun body hbody => ?_⟩ }
  · obtain ⟨n, hn⟩ := hnumbered
    have hlength : events.length = n := by
      have hmap := congrArg List.length hn
      rwa [List.length_map, List.length_range] at hmap
    rw [hn, hlength]
  · cases hs : s.started with
    | true =>
      obtain ⟨response, rest, hopen⟩ := h.opened hs
      refine .inr ⟨response, rest ++ closing ++ [last], ?_⟩
      rw [hevents, hopen]
      rfl
    | false =>
      obtain ⟨rfl, code, message, param, rfl⟩ := hstart hs
      have hnone : s.bodies = [] := by
        unfold bodies
        rw [(h.unopened hs).1, List.map_nil]
      rw [hnone] at hevents
      obtain ⟨event, rfl, hbody⟩ := List.map_eq_singleton_iff.mp hevents
      exact .inl ⟨event, code, message, param, rfl, hbody⟩
  · rw [hevents, hcount, h.addedItems]
    split_ifs <;> omega
  · rw [hevents, List.append_assoc] at hsplit
    rcases append_eq_append_cons hsplit with ⟨rest, hbodies, -⟩ | ⟨rest, -, hrest⟩
    · exact h.added before body rest i hbodies hdelta
    · exact absurd (hquiet body (hrest ▸ List.mem_append_right _ List.mem_cons_self) i).1 hdelta
  · rw [hevents] at hbody ⊢
    have hearlier : ∀ body ∈ s.bodies ++ closing, body.response? = none := by
      intro body hbody
      rcases List.mem_append.mp hbody with hbody | hbody
      · exact EventBody.response?_of_terminal (h.unclosed body hbody).1
      · exact (hsilent body hbody).response
    rcases List.mem_append.mp hbody with hbody | hbody
    · rw [hearlier body hbody] at hresponse
      cases hresponse
    · obtain rfl := List.mem_singleton.mp hbody
      exact hclosed response hresponse
  · rcases List.mem_append.mp hbody with hbody | hbody
    · exact (h.unclosed body hbody).1
    · exact (hsilent body hbody).terminal

/-- **What a session that fails has built keeps the protocol.** -/
theorem fail_spec {error : GatewayError} (h : Coherent s) (hdone : s.done = false) :
    Leaves (fun _ _ => False) (fun _ s' => EventProtocol s'.built ∧ s.built <+: s'.built)
      (failWith error) s := by
  refine (failWith_spec hdone).mono (fun _ _ => id) ?_
  rintro _ s' ⟨hbodies, hnumbered, hgrows⟩
  have hall : s'.built.map (·.body) =
      s.bodies ++ [] ++ [.error error.code error.message error.param] := by
    rw [List.append_nil]
    exact hbodies
  have hnone : ∀ body ∈ ([] : List EventBody), body.Silent := fun _ hmem => absurd hmem List.not_mem_nil
  refine ⟨protocol_of_coherent h hnone rfl hall ⟨_, hnumbered h.numbered⟩
    (fun _ => ⟨rfl, _, _, _, rfl⟩) (fun response hresponse => ?_), hgrows⟩
  cases hresponse

/-- **The items of a successful terminal event are closed.** -/
theorem closed_of_settled {status : ItemStatus} {i : ℕ} {item : OutputItem} (h : Coherent s)
    (htold : ∀ kind, Told kind s) (hlast : last.terminal = true)
    (hitem : (s.output.map (·.withStatus status))[i]? = some item) :
    ClosedItem (s.bodies ++ closings 0 (s.output.map (·.withStatus status)) ++ [last]) i item := by
  obtain ⟨hdelta, hadds, hcloses, hecho⟩ := EventBody.of_terminal (i := i) hlast
  obtain ⟨before, hbefore, rfl⟩ : ∃ before, s.output[i]? = some before ∧
      before.withStatus status = item := by
    rw [List.getElem?_map] at hitem
    exact Option.map_eq_some_iff.mp hitem
  have hlt : i < s.output.length := (List.getElem?_eq_some_iff.mp hbefore).1
  have hsilent : ∀ body ∈ closings 0 (s.output.map (·.withStatus status)), body.Silent :=
    fun body hbody => (mem_closings hbody).1
  have hdeltas : deltasOf i (s.bodies ++ closings 0 (s.output.map (·.withStatus status)) ++ [last]) =
      deltasOf i s.bodies := by
    rw [deltasOf_append, deltasOf_append, deltasOf_silent fun body hbody => (hsilent body hbody).delta i,
      deltasOf_singleton, hdelta]
    simp
  have hsaid : (before.withStatus status).said = deltasOf i s.bodies := by
    cases h.items i before hbefore with
    | part hpart hsaid =>
      rw [hsaid]
      exact congrArg (fun text => Option.getD text []) (htold _ i _ _ _ hbefore)
    | call hsaid => exact hsaid.symm
  refine ⟨?_, ?_, ?_, hsaid.trans hdeltas.symm, fun body hbody text htext => ?_⟩
  · rw [List.countP_append, List.countP_append, h.addedItems, if_pos hlt, List.countP_singleton, hadds,
      List.countP_eq_zero.mpr fun body hbody => by
        rw [(hsilent body hbody).adds]
        exact Bool.false_ne_true]
    rfl
  · rw [List.countP_append, List.countP_append, countP_closings, List.countP_singleton, hcloses,
      List.countP_eq_zero.mpr fun body hbody => by
        rw [((h.unclosed body hbody).2 i).1]
        exact Bool.false_ne_true,
      if_pos ⟨Nat.zero_le _, by rw [List.length_map]; omega⟩]
    rfl
  · have hmem : .itemDone (0 + i) (before.withStatus status) ∈ closings 0 _ :=
      itemDone_mem_closings hitem
    rw [Nat.zero_add] at hmem
    obtain ⟨first, after, hsplit⟩ := List.append_of_mem hmem
    refine ⟨s.bodies ++ first, after ++ [last], ?_, fun body hbody => ?_⟩
    · rw [hsplit]
      simp
    · rcases List.mem_append.mp hbody with hbody | hbody
      · refine (hsilent body ?_).delta i
        rw [hsplit]
        exact List.mem_append_right _ (List.mem_cons_of_mem _ hbody)
      · obtain rfl := List.mem_singleton.mp hbody
        exact hdelta
  · rcases List.mem_append.mp hbody with hbody | hbody
    · rcases List.mem_append.mp hbody with hbody | hbody
      · rw [((h.unclosed body hbody).2 i).2] at htext
        cases htext
      · obtain ⟨j, other, rfl, hother, rfl⟩ := (mem_closings hbody).2 i text htext
        rw [Nat.zero_add, hother] at hitem
        rw [Option.some.inj hitem]
    · obtain rfl := List.mem_singleton.mp hbody
      rw [hecho] at htext
      cases htext

/-- The events that a reconciled stream ends with: its items are closed, and it is ended. -/
structure Ended (outcome : CompletionOutcome) (s s' : ResponsesStreamEvents) (last : EventBody) :
    Prop where
  terminal : last.terminal = true
  response : ∀ final, last.response? = some final →
    final.output = s.output.map (·.withStatus outcome.responseStatus.items)
  succeeds : outcome.finishReason ≠ .cancelled → last.response? ≠ none
  bodies : s'.bodies =
    s.bodies ++ closings 0 (s.output.map (·.withStatus outcome.responseStatus.items)) ++ [last]
  numbered : s'.built.map (·.sequenceNumber) = List.range s'.sequence

/-- **What `finish` leaves**: it returns exactly for the outcomes that it accepts, with the stream
    reconciled and ended. -/
theorem finish_ended (h : Coherent s) (hdone : s.done = false) :
    Leaves (fun _ _ => ¬ FinishAccepts s outcome)
      (fun _ s' => FinishAccepts s outcome ∧ s.built <+: s'.built ∧
        ∃ settled last, Settled outcome s settled ∧ Ended outcome settled s' last)
      (finishWith (some outcome)) s := by
  unfold finishWith
  simp only [leaves_bind, leaves_get]
  rw [if_neg (by rw [hdone]; exact Bool.false_ne_true)]
  simp only [leaves_bind, leaves_raise]
  refine ⟨fun _ haddressed => ?_, fun _ herror haccepts => ?_⟩
  · refine (reconcile_spec h hdone (check_eq_ok.mp haddressed)).mono (fun _ _ hnot => hnot) ?_
    rintro _ s₁ ⟨haccepts, hsettled, rfl⟩
    have hclose : Leaves _ _ ((List.range' ([] : List OutputItem).length s₁.output.length).forM
        (closeItem outcome.responseStatus.items)) s₁ := closeItems_spec rfl
    rw [leaves_bind, leaves_get, leaves_bind, List.range_eq_range']
    refine hclose.mono (fun _ _ => False.elim) ?_
    rintro _ s₂ ⟨houtput, hbuilds⟩
    rw [List.nil_append] at houtput
    refine (terminate_spec (hbuilds.done.trans (hsettled.done.trans hdone))).mono
      (fun _ _ => False.elim) ?_
    rintro _ s₃ ⟨last, hlast, hresponse, hbodies, hnumbered, hgrows⟩
    rw [hbuilds.bodies] at hbodies
    refine ⟨haccepts, hsettled.grows.trans (hbuilds.grows.trans hgrows), s₁, last, hsettled,
      hlast, fun final hfinal => ?_, fun hsucceeds => ?_, hbodies,
      hnumbered (hbuilds.numbered hsettled.coherent.numbered)⟩
    · rw [hresponse] at hfinal
      split_ifs at hfinal
      rw [← Option.some.inj hfinal]
      exact houtput
    · rw [hresponse, if_neg hsucceeds]
      simp
  · rw [check_pos haccepts.addressed] at herror
    cases herror

/-- **What a session that finishes has built keeps the protocol**, and it finishes exactly for the
    outcomes that `finish` accepts. -/
theorem finish_spec (h : Coherent s) (hdone : s.done = false) :
    Leaves (fun _ _ => ¬ FinishAccepts s outcome)
      (fun _ s' => FinishAccepts s outcome ∧ EventProtocol s'.built ∧ s.built <+: s'.built)
      (finishWith (some outcome)) s := by
  refine (finish_ended h hdone).mono (fun _ _ => id) ?_
  rintro _ s' ⟨haccepts, hgrows, settled, last, hsettled, hended⟩
  refine ⟨haccepts, ?_, hgrows⟩
  refine protocol_of_coherent hsettled.coherent (fun body hbody => (mem_closings hbody).1)
    hended.terminal hended.bodies ⟨_, hended.numbered⟩
    (fun hnot => absurd (hsettled.started.symm.trans hnot) (by decide)) ?_
  intro final hfinal i item hitem
  rw [hended.response final hfinal] at hitem
  exact closed_of_settled hsettled.coherent hsettled.told hended.terminal hitem

end ResponsesStreamEvents

end ScarcityRouter
