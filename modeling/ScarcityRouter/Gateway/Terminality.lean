import ScarcityRouter.Gateway.Resumption

namespace ScarcityRouter

open ScarcityRouter.Lib

/-!
# How a resumption ends

Every exit of `_run_continuation` after its claim, and what it makes of the continuation.

* `terminalState`, `Interrupts` — the state in which the method leaves the continuation, and the
  exits at which the backend may still be waiting.
* `leaves_resumeTurn` — **within the record's lifetime**, what every exit leaves.
* `resumeClaimed_closes` — **every exit closes the continuation exactly once.**
-/

/-! ### How a continuation is closed -/

namespace ResumptionSurroundings

variable (x : ResumptionSurroundings) (record : PendingContinuation)

/-- How the re-check and the delivery end. -/
def attempt : Except ExecutionException Delivery :=
  match recheckAuthority x record with
  | .error failure => .error failure.exception
  | .ok () => x.delivery.mapError (·.1)

/-- The method gets as far as the re-check. -/
structure Reaches : Prop where
  within : x.resumedAt < record.deadline
  capable : x.capable = true
  usable : record.hasHandle = true

instance : Decidable (x.Reaches record) :=
  decidable_of_iff (x.resumedAt < record.deadline ∧ x.capable = true ∧ record.hasHandle = true)
    ⟨fun h => ⟨h.1, h.2.1, h.2.2⟩, fun h => ⟨h.within, h.capable, h.usable⟩⟩

/-- The exits at which the backend may still be waiting for its result: past the deadline, and
    after a typed refusal, a client that left, a timeout, or a result that says it was stopped. -/
def Interrupts : Prop :=
  record.deadline ≤ x.resumedAt ∨ x.Reaches record ∧
    match x.attempt record with
    | .error (.gateway _) | .error .clientDisconnected | .error .outputRejected
    | .error .adapterTimeout => True
    | .error _ => False
    | .ok (.suspended _) => False
    | .ok (.ended result) => result.status = .cancelled

end ResumptionSurroundings

/-- How a delivery that returned closes the continuation. -/
def Delivery.closes : Delivery → ContinuationState
  | .suspended _ => .completed
  | .ended result =>
    match result.status with
    | .completed => .completed
    | .cancelled => .cancelled
    | .failed => .lost

/-- How the re-check and the delivery close the continuation. -/
def closesAttempt : Except ExecutionException Delivery → ContinuationState
  | .error e => closedAs e
  | .ok delivery => delivery.closes

/-- The state in which the method leaves the continuation. -/
def terminalState (x : ResumptionSurroundings) (record : PendingContinuation) :
    ContinuationState :=
  if record.deadline ≤ x.resumedAt then .expired
  else if x.capable && record.hasHandle then closesAttempt (x.attempt record)
  else .lost

theorem terminal_closedAs (e : ExecutionException) : (closedAs e).terminal = true := by
  cases e <;> rfl

/-- **The backend is cancelled exactly where it may still be waiting.** -/
theorem cancelsBackend_terminalState {x : ResumptionSurroundings} {record : PendingContinuation} :
    (terminalState x record).cancelsBackend = true ↔ x.Interrupts record := by
  unfold terminalState ResumptionSurroundings.Interrupts
  by_cases hexpired : record.deadline ≤ x.resumedAt
  · rw [if_pos hexpired]
    exact iff_of_true rfl (.inl hexpired)
  rw [if_neg hexpired, or_iff_right hexpired]
  by_cases husable : (x.capable && record.hasHandle) = true
  · obtain ⟨hcapable, hhandle⟩ := (Bool.and_eq_true _ _).mp husable
    have hreaches : x.Reaches record := ⟨not_le.mp hexpired, hcapable, hhandle⟩
    rw [if_pos husable, and_iff_right hreaches]
    rcases x.attempt record with e | suspension | result
    · cases e <;> simp [closesAttempt, closedAs, ContinuationState.cancelsBackend]
    · exact iff_of_false nofun id
    · dsimp only [closesAttempt, Delivery.closes]
      cases result.status <;> simp [ContinuationState.cancelsBackend]
  · rw [if_neg husable]
    refine iff_of_false nofun ?_
    rintro ⟨hreaches, -⟩
    exact husable (by rw [hreaches.capable, hreaches.usable]; rfl)

/-! ### Closing -/

/-- The removal, the tombstone, the terminal state and the callback of one `close`. -/
def GatewayState.closed (s : GatewayState) (token : String) (state : ContinuationState) :
    GatewayState :=
  let (registry, removed) := s.registry.closeSection token
  match removed with
  | none => { s with registry }
  | some removed =>
    { s with
      registry := registry.setState removed.identity state
      events := s.events ++
        if state.cancelsBackend && removed.hasCancelCallback then [.cancelled removed] else [] }

@[simp] theorem leaves_closeContinuation {E : ExecutionException → GatewayState → Prop}
    {V : Unit → GatewayState → Prop} {record : PendingContinuation} {state : ContinuationState}
    {s : GatewayState} (hterminal : state.terminal = true) :
    Leaves E V (closeContinuation record state) s ↔
      V () (s.closed record.continuationToken state) := by
  unfold closeContinuation GatewayState.closed
  rw [hterminal]
  simp only [Bool.not_true, Bool.false_eq_true, if_false, leaves_bind, leaves_get]
  rcases s.registry.closeSection record.continuationToken with ⟨registry, _ | removed⟩
  · simp
  · simp only [leaves_bind, Coordinator.leaves_updateRegistry]
    cases state.cancelsBackend && removed.hasCancelCallback <;> simp

@[simp] theorem leaves_failClosed {α : Type} {E : ExecutionException → GatewayState → Prop}
    {V : α → GatewayState → Prop} {record : PendingContinuation} {state : ContinuationState}
    {e : ExecutionException} {s : GatewayState} (hterminal : state.terminal = true) :
    Leaves E V (failClosed record state e) s ↔ E e (s.closed record.continuationToken state) := by
  unfold failClosed
  rw [leaves_bind, leaves_closeContinuation hterminal]
  rfl

section Closed

variable {s : GatewayState} {token : String} {state : ContinuationState}

@[simp] theorem GatewayState.closed_life : (s.closed token state).life = s.life := by
  unfold closed
  rcases s.registry.closeSection token with ⟨registry, _ | removed⟩ <;> rfl

@[simp] theorem GatewayState.closed_trail : (s.closed token state).trail = s.trail := by
  unfold closed
  rcases s.registry.closeSection token with ⟨registry, _ | removed⟩ <;> rfl

end Closed

/-- The delivery ended the turn well or suspended it again. -/
def Delivery.Succeeds : Delivery → Prop
  | .suspended _ => True
  | .ended result => result.status = .completed

/-- The calls that are recorded for a delivery. -/
def Delivery.calls (openCall : CallObservation) : Delivery → List CallObservation
  | .suspended _ => [openCall]
  | .ended result => result.calls

theorem leaves_concludeDelivery {E : ExecutionException → GatewayState → Prop}
    {V : CompletionOutcome → GatewayState → Prop} {s : GatewayState} {x : ResumptionSurroundings}
    {started : Instant} {model : Text} {record : PendingContinuation} {delivery : Delivery}
    (hV : ∀ outcome, delivery.Succeeds → outcome.Answers s.life (x.turn record).decisionId →
      V outcome { s.closed record.continuationToken delivery.closes with
        life := { s.life with calls := delivery.calls x.openCall } })
    (hE : ∀ e, e.Constructed → (Representable started model → ¬ delivery.Succeeds) →
      E e { s.closed record.continuationToken delivery.closes with
        life := { s.life with calls := delivery.calls x.openCall } }) :
    Leaves E V (concludeDelivery x started model record delivery) s := by
  cases delivery with
  | suspended suspension =>
    unfold concludeDelivery
    rw [leaves_bind, leaves_closeContinuation rfl, leaves_bind, Coordinator.leaves_update,
      leaves_bind, leaves_get]
    refine leaves_outcome (fun outcome h => ?_) fun hnot => ?_
    · rw [GatewayState.closed_life]
      apply hV outcome trivial
      exact ⟨h.request.trans (by simp), h.decision⟩
    · rw [GatewayState.closed_life]
      exact hE .unexpected trivial fun h => absurd h hnot
  | ended result =>
    have hclosed : ({ s with life := { s.life with calls := result.calls } } : GatewayState).closed
        record.continuationToken (Delivery.ended result).closes =
        { s.closed record.continuationToken (Delivery.ended result).closes with
          life := { s.life with calls := result.calls } } := by
      unfold GatewayState.closed
      rcases s.registry.closeSection record.continuationToken with ⟨registry, _ | removed⟩ <;> rfl
    have hconclude : Leaves E V (concludeResult started model (x.turn record).decisionId result)
        (({ s with life := { s.life with calls := result.calls } } : GatewayState).closed
          record.continuationToken (Delivery.ended result).closes) := by
      rw [hclosed]
      apply leaves_concludeResult
      · intro outcome hstatus h
        exact hV outcome hstatus ⟨h.request, h.decision⟩
      · intro e he hstatus
        exact hE e he hstatus
    unfold concludeDelivery
    rw [leaves_bind, Coordinator.leaves_update]
    dsimp only [Delivery.closes] at hconclude ⊢
    cases hstatus : result.status <;> rw [hstatus] at hconclude <;>
      exact leaves_bind.mpr ((leaves_closeContinuation rfl).mpr hconclude)

/-! ### The method -/

section Method

variable {x : ResumptionSurroundings} {record : PendingContinuation} {s : GatewayState}
  {started : Instant} {model content : Text}

theorem terminalState_of_expired (h : record.deadline ≤ x.resumedAt) :
    terminalState x record = .expired := if_pos h

theorem terminalState_of_reaches (h : x.Reaches record) :
    terminalState x record = closesAttempt (x.attempt record) := by
  unfold terminalState
  rw [if_neg (not_le.mpr h.within), if_pos (by rw [h.capable, h.usable]; rfl)]

theorem terminalState_of_unusable (hwithin : x.resumedAt < record.deadline)
    (h : x.capable = false ∨ record.hasHandle = false) : terminalState x record = .lost := by
  unfold terminalState
  rw [if_neg (not_le.mpr hwithin), if_neg (by rcases h with h | h <;> simp [h])]

/-- The state in which the adapter has been called. -/
def ResumptionSurroundings.delivered (x : ResumptionSurroundings) (record : PendingContinuation)
    (content : Text) (s : GatewayState) : GatewayState :=
  { s with
    life := { s.life with
      hasCallFacts := true
      flowNotes := s.life.flowNotes ++ .replicate x.registered (.lit "suspended_for_client_tool")
      cancelled := x.disconnects }
    events := s.events ++ [.delivered record content] }

theorem leaves_deliverToolResult {E : ExecutionException → GatewayState → Prop}
    {V : Delivery → GatewayState → Prop}
    (hrefused : ∀ failure : StageFailure, x.attempt record = .error failure.exception →
      E failure.exception s)
    (hraised : recheckAuthority x record = .ok () → ∀ e : RaisedError,
      x.attempt record = .error e.1 → E e.1 (x.delivered record content s))
    (hdelivered : recheckAuthority x record = .ok () → ∀ delivery,
      x.attempt record = .ok delivery → V delivery (x.delivered record content s)) :
    Leaves E V (deliverToolResult x record content) s := by
  unfold ResumptionSurroundings.attempt at hrefused hraised hdelivered
  unfold deliverToolResult
  rw [leaves_bind, Coordinator.leaves_stage]
  constructor
  · rintro ⟨⟩ hok
    rw [hok] at hraised hdelivered
    simp only [leaves_bind, Coordinator.leaves_update, Coordinator.leaves_emit,
      Coordinator.leaves_external]
    constructor
    · intro delivery hdelivery
      rw [hdelivery] at hdelivered
      exact hdelivered rfl delivery rfl
    · intro e he
      rw [he] at hraised
      exact hraised rfl e rfl
  · intro failure herror
    rw [herror] at hrefused
    exact hrefused failure rfl

/-- The re-check accepts only a turn with a target. -/
theorem executed_of_recheckAuthority (h : recheckAuthority x record = .ok ()) :
    (x.turn record).executedTarget ≠ none := by
  unfold recheckAuthority at h
  obtain ⟨snapshot, -, h⟩ := bind_eq_ok.mp h
  split at h
  · cases h
  · obtain ⟨hkept, -⟩ := check_bind_eq_ok.mp h
    intro hnone
    unfold bindingKept at hkept
    rw [hnone] at hkept
    cases hkept

/-- The state that a `close` within the record's lifetime finds, after the delivery was called or
    not. -/
structure Restored (x : ResumptionSurroundings) (record : PendingContinuation) (content : Text)
    (delivered : Bool) (before found : GatewayState) : Prop where
  registry : found.registry = before.registry
  trail : found.trail = before.trail
  request : found.life.requestId = before.life.requestId
  client : found.life.clientId = before.life.clientId
  calls : found.life.calls = before.life.calls
  decision : found.life.decisionId = (x.turn record).decisionId
  selected : found.life.selectedTarget = (x.turn record).selectedTarget
  executed : found.life.executedTarget = (x.turn record).executedTarget
  reaches : delivered = true → x.Reaches record ∧ recheckAuthority x record = .ok ()
  events : found.events = before.events ++ .resumed (x.turn record).executedTarget ::
    if delivered then [.delivered record content] else []

/-- The method closed the continuation, once, and recorded the calls. -/
def Resumed (x : ResumptionSurroundings) (record : PendingContinuation) (content : Text)
    (delivered : Bool) (calls : List CallObservation) (before after : GatewayState) : Prop :=
  ∃ found, Restored x record content delivered before found ∧
    after = { found.closed record.continuationToken (terminalState x record) with
      life := { found.life with calls } }

/-- The delivery is called in a restored state. -/
theorem Restored.delivered {found : GatewayState} (h : Restored x record content false s found)
    (hreaches : x.Reaches record) (hok : recheckAuthority x record = .ok ()) :
    Restored x record content true s (x.delivered record content found) := by
  refine ⟨h.registry, h.trail, h.request, h.client, h.calls, h.decision, h.selected, h.executed,
    fun _ => ⟨hreaches, hok⟩, ?_⟩
  show found.events ++ _ = _
  rw [h.events, List.append_assoc]
  rfl

/-- An exit that records calls. -/
theorem Restored.concluded {delivered : Bool} {found : GatewayState} {state : ContinuationState}
    (h : Restored x record content delivered s found) (hstate : terminalState x record = state)
    (calls : List CallObservation) :
    Resumed x record content delivered calls s { found.closed record.continuationToken state with
      life := { found.life with calls } } :=
  ⟨found, h, by rw [hstate]⟩

/-- An exit that records no calls. -/
theorem Restored.resumed {delivered : Bool} {found : GatewayState} {state : ContinuationState}
    (h : Restored x record content delivered s found) (hstate : terminalState x record = state) :
    Resumed x record content delivered s.life.calls s
      (found.closed record.continuationToken state) := by
  refine ⟨found, h, ?_⟩
  rw [hstate, ← h.calls]
  have hlife := @GatewayState.closed_life found record.continuationToken state
  rw [← hlife]

theorem constructed_reraised {e : ExecutionException} (h : e.Constructed) :
    (reraised e).Constructed := by
  cases e
  case continuationLost =>
    show GatewayError.CodeSafe _
    decide +kernel
  all_goals exact h

/-- How the method fails within the record's lifetime. -/
structure ResumptionFails (x : ResumptionSurroundings) (record : PendingContinuation)
    (started : Instant) (model : Text) (e : ExecutionException) : Prop where
  constructed : e.Constructed
  executed : ¬ StageFailure.Stages e → (x.turn record).executedTarget ≠ none
  justified : x.Reaches record → Representable started model → ∀ delivery,
    x.attempt record = .ok delivery → ¬ delivery.Succeeds

/-- A typed refusal before the re-check. -/
theorem ResumptionFails.refused {error : GatewayError} (hsafe : error.CodeSafe)
    (hreaches : ¬ x.Reaches record) : ResumptionFails x record started model (.gateway error) :=
  ⟨hsafe, fun hnot => absurd hsafe hnot, fun h => absurd h hreaches⟩

/-- **Within the record's lifetime, every exit closes the continuation once.** -/
theorem leaves_resumeTurn (hwithin : x.resumedAt < record.deadline) :
    Leaves
      (fun e s' => ResumptionFails x record started model e ∧ ∃ delivered calls,
        Resumed x record content delivered calls s s' ∧
        (calls ≠ s.life.calls → (x.turn record).executedTarget ≠ none))
      (fun outcome s' => outcome.Answers s.life (x.turn record).decisionId ∧ ∃ delivery,
        x.attempt record = .ok delivery ∧ delivery.Succeeds ∧
        Resumed x record content true (delivery.calls x.openCall) s s')
      (resumeTurn x started model record content) s := by
  unfold resumeTurn
  rw [leaves_bind, Coordinator.leaves_update, leaves_bind, Coordinator.leaves_emit]
  have hstart : Restored x record content false s
      { s with
        life := (x.turn record).restore s.life
        events := s.events ++ [.resumed (x.turn record).executedTarget] } :=
    ⟨rfl, rfl, rfl, rfl, rfl, rfl, rfl, rfl, nofun, rfl⟩
  -- An exit before any call is recorded.
  have hexit : ∀ {delivered found state e}, Restored x record content delivered s found →
      terminalState x record = state → ResumptionFails x record started model e →
      ResumptionFails x record started model e ∧ ∃ delivered calls,
        Resumed x record content delivered calls s
          (found.closed record.continuationToken state) ∧
        (calls ≠ s.life.calls → (x.turn record).executedTarget ≠ none) := by
    intro delivered found state e hfound hstate hfails
    exact ⟨hfails, _, _, hfound.resumed hstate, fun hne => absurd rfl hne⟩
  by_cases hcapable : x.capable = true
  · rw [if_pos hcapable, leaves_bind, Coordinator.leaves_update]
    have hready : Restored x record content false s
        { s with
          life := { (x.turn record).restore s.life with
            flowNotes := ((x.turn record).restore s.life).flowNotes ++
              [.lit "continuation_resumed"] }
          events := s.events ++ [.resumed (x.turn record).executedTarget] } :=
      ⟨rfl, rfl, rfl, rfl, rfl, rfl, rfl, rfl, nofun, rfl⟩
    by_cases husable : record.hasHandle = true
    · rw [if_pos husable, leaves_bind]
      have hreaches : x.Reaches record := ⟨hwithin, hcapable, husable⟩
      unfold deliverOrClose
      rw [leaves_tryCatch]
      apply leaves_deliverToolResult
      · intro failure herror
        rw [leaves_failClosed (terminal_closedAs _)]
        have hstate := terminalState_of_reaches hreaches
        rw [herror] at hstate
        refine hexit hready hstate ⟨?_, ?_, ?_⟩
        · exact constructed_reraised (StageFailure.constructed_of_stages failure.stages_exception)
        · intro hnot
          cases failure with
          | refused error code_safe => exact absurd code_safe hnot
          | unexpected => exact absurd trivial hnot
        · intro _ _ delivery hok
          rw [herror] at hok
          cases hok
      · intro hok e herror
        rw [leaves_failClosed (terminal_closedAs _)]
        have hstate := terminalState_of_reaches hreaches
        rw [herror] at hstate
        refine hexit (hready.delivered hreaches hok) hstate ⟨constructed_reraised e.2, fun _ => ?_, ?_⟩
        · exact executed_of_recheckAuthority hok
        · intro _ _ delivery hok
          rw [herror] at hok
          cases hok
      · intro hok delivery hdelivery
        have hexecuted := executed_of_recheckAuthority hok
        have hstate := terminalState_of_reaches hreaches
        rw [hdelivery] at hstate
        have hresumed := (hready.delivered hreaches hok).concluded hstate (delivery.calls x.openCall)
        apply leaves_concludeDelivery
        · intro outcome hsucceeds hanswers
          exact ⟨⟨hanswers.request, hanswers.decision⟩, delivery, hdelivery, hsucceeds, hresumed⟩
        · intro e he hnot
          refine ⟨⟨he, fun _ => hexecuted, ?_⟩, _, _, hresumed, fun _ => hexecuted⟩
          intro _ hrepresentable delivery' hdelivery'
          obtain rfl := Except.ok.inj (hdelivery.symm.trans hdelivery')
          exact hnot hrepresentable
    · rw [if_neg husable, leaves_failClosed rfl]
      apply hexit hready (terminalState_of_unusable hwithin (.inr (Bool.eq_false_iff.mpr husable)))
      exact .refused (by decide +kernel) fun h => husable h.usable
  · rw [if_neg hcapable, leaves_failClosed rfl]
    apply hexit hstart (terminalState_of_unusable hwithin (.inl (Bool.eq_false_iff.mpr hcapable)))
    exact .refused (by decide +kernel) fun h => hcapable h.capable

end Method

/-! ### Every exit closes the continuation -/

section Closing

variable {r : ContinuationRegistry} {x : ResumptionSurroundings} {record : PendingContinuation}

/-- A popped token is not pending. -/
theorem ContinuationRegistry.detect_pop (r : ContinuationRegistry) (token : String) :
    (r.pop token).detect token = none := by
  unfold detect
  rw [Option.map_eq_none_iff, List.find?_eq_none]
  intro p hp
  simpa using (List.mem_filter.mp hp).2

/-- The last tombstone is remembered. -/
theorem ContinuationRegistry.mem_bury (r : ContinuationRegistry) (tombstone : String × String) :
    tombstone ∈ (r.bury tombstone).tombstones := by
  rw [bury_tombstones]
  apply mem_rtake_of_length_lt
  unfold maxTerminalTombstones
  decide

/-- A closed token is not pending. -/
theorem GatewayState.detect_closed {s : GatewayState} {token : String}
    {state : ContinuationState} : (s.closed token state).registry.detect token = none := by
  unfold closed ContinuationRegistry.closeSection
  cases s.registry.detect token with
  | none => exact s.registry.detect_pop token
  | some removed => exact s.registry.detect_pop token

/-- The close of a pending record. -/
theorem GatewayState.closed_of_pending {s : GatewayState} {state : ContinuationState}
    (hkeyed : s.registry.Keyed) (hpending : record ∈ s.registry.pending) :
    s.closed record.continuationToken state = { s with
      registry := ((s.registry.pop record.continuationToken).bury record.tombstone).setState
        record.identity state
      events := s.events ++
        if state.cancelsBackend && record.hasCancelCallback then [.cancelled record] else [] } := by
  unfold closed ContinuationRegistry.closeSection
  rw [hkeyed.detect_eq_some.mpr ⟨hpending, rfl⟩]
  rfl

/-- A state that does not cancel calls no callback. -/
theorem GatewayState.closed_events {s : GatewayState} {token : String} {state : ContinuationState}
    (h : state.cancelsBackend = false) : (s.closed token state).events = s.events := by
  unfold closed
  rw [h]
  rcases s.registry.closeSection token with ⟨registry, _ | removed⟩
  · rfl
  · exact List.append_nil _

/-- What the method makes of a claimed continuation: nobody can find it, it is closed as the exit
    demands and buried for its client, and its backend is cancelled exactly where it may still be
    waiting.  Only what is still pending can be closed. -/
structure ClosedOnce (x : ResumptionSurroundings) (record : PendingContinuation)
    (before after : GatewayState) : Prop where
  gone : after.registry.detect record.continuationToken = none
  terminal : (terminalState x record).terminal = true
  closed : record ∈ (x.meanwhile before.registry).pending → after.registry =
    (((x.meanwhile before.registry).pop record.continuationToken).bury
      record.tombstone).setState record.identity (terminalState x record)
  buried : record ∈ (x.meanwhile before.registry).pending →
    after.registry.wasTerminalFor record.continuationToken record.clientId = true
  cancelled : record ∈ (x.meanwhile before.registry).pending → record.hasCancelCallback = true →
    x.Interrupts record →
      after.events.count (.cancelled record) = before.events.count (.cancelled record) + 1
  kept : ¬ x.Interrupts record →
    after.events.count (.cancelled record) = before.events.count (.cancelled record)

theorem terminal_terminalState : (terminalState x record).terminal = true := by
  unfold terminalState
  split
  · rfl
  split
  · rcases x.attempt record with e | suspension | result
    · exact terminal_closedAs e
    · rfl
    · dsimp only [closesAttempt, Delivery.closes]
      cases result.status <;> rfl
  · rfl

/-- A close of what the method finds is a close of the continuation. -/
theorem closedOnce_of_closed {before found after : GatewayState}
    (hkeyed : (x.meanwhile before.registry).Keyed)
    (hregistry : found.registry = x.meanwhile before.registry)
    (hevents : found.events.count (.cancelled record) = before.events.count (.cancelled record))
    (hclosed : after.registry =
      (found.closed record.continuationToken (terminalState x record)).registry)
    (hafter : after.events =
      (found.closed record.continuationToken (terminalState x record)).events) :
    ClosedOnce x record before after := by
  have hpending : record ∈ (x.meanwhile before.registry).pending →
      found.closed record.continuationToken (terminalState x record) = _ := fun h =>
    GatewayState.closed_of_pending (hregistry ▸ hkeyed) (hregistry ▸ h)
  constructor
  · rw [hclosed]
    exact GatewayState.detect_closed
  · exact terminal_terminalState
  · intro h
    rw [hclosed, hpending h, hregistry]
  · intro h
    rw [hclosed, hpending h]
    exact decide_eq_true (ContinuationRegistry.mem_bury _ _)
  · intro h hcallback hinterrupts
    rw [hafter, hpending h, cancelsBackend_terminalState.mpr hinterrupts, hcallback]
    simp [hevents]
  · intro hkept
    have hstate : (terminalState x record).cancelsBackend = false :=
      Bool.eq_false_iff.mpr fun h => hkept (cancelsBackend_terminalState.mp h)
    rw [hafter, GatewayState.closed_events hstate, hevents]

end Closing

/-! ### A continuation that is lost before its delivery -/

/-- A record of a suspended turn, and the registry that holds it. -/
def pausedRecord : PendingContinuation where
  identity := 0
  continuationToken := "srct-1"
  deadline := 10
  clientId := "acme"
  modelEcho := "atlas"
  hasHandle := true
  hasAdapter := true
  channel := "server_direct_http"
  hasCancelCallback := true

def pausedRegistry : ContinuationRegistry where
  maxPending := 64
  records := [("srct-1", pausedRecord)]

theorem pausedRegistry_keyed : pausedRegistry.Keyed := by
  constructor
  · decide
  · decide

/-- The target of the suspended turn, and its registry entry. -/
def pausedTarget : ExecutedTarget where
  resourceId := .lit "acme-http"
  provider := .lit "acme"
  model := .lit "atlas"
  variant := .lit "base"

def pausedEntry : ResourceRegistryEntry where
  identity :=
    { resourceId := .lit "acme-http"
      channel := .serverDirectHttp
      provider := .lit "acme"
      model := .lit "atlas"
      entitlement := .localUngated }
  freshnessTtlSeconds := 300
  freshness := .neverObserved

/-- A midnight, as a canonical timestamp. -/
def sampleMidnight : CanonicalTs := ⟨Text.ofString "2026-01-01T00:00:00.000Z", by decide +kernel⟩

/-- Surroundings in which nothing else happens, with a delivery that ends as given. -/
def quietResumption (delivery : Except RaisedError Delivery) : ResumptionSurroundings where
  turn := fun _ =>
    { resourceId := .lit "acme-http"
      selectedTarget := some pausedTarget
      executedTarget := some pausedTarget
      selected := fun _ => nofun }
  resumedAt := 0
  meanwhile := id
  keeps_keyed := fun _ h => h
  snapshot := .ok { revision := 1, generatedAt := 0, entries := [pausedEntry] }
  delivery
  openCall :=
    { callIndex := ⟨0, le_rfl⟩
      startedAt := sampleMidnight
      endedAt := sampleMidnight
      status := .unknown }

/-- The gateway before the tool result arrives. -/
def pausedGateway : GatewayState where
  life := { requestId := .lit "request", clientId := .lit "acme", startedAt := 0 }
  registry := pausedRegistry

/-- The claim of that record. -/
theorem claimSection_pausedRegistry : pausedRegistry.claimSection "srct-1" "acme" 0 =
    (pausedRegistry.setState 0 .resuming, .claimed pausedRecord) := by
  unfold ContinuationRegistry.claimSection
  rw [show pausedRegistry.detect "srct-1" = some pausedRecord by decide +kernel]
  rfl

/-- The delivery returned: the backend took the tool result. -/
def ResumptionSurroundings.Consumes (x : ResumptionSurroundings) (record : PendingContinuation) :
    Prop :=
  x.Reaches record ∧ ∃ delivery, x.attempt record = .ok delivery

end ScarcityRouter
