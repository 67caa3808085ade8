import ScarcityRouter.Lib.Machine
import ScarcityRouter.Lib.Text

namespace ScarcityRouter

open ScarcityRouter.Lib

/-!
# The worker's tool bridge

`_SessionToolBridge` of `worker_client.py`: `suspend` in the adapter's thread and `deliver` in the
read loop share three fields and an event without a lock, so every assignment is a step of its own.

* `ToolBridge.adapterStep`, `ToolBridge.readerStep` — the next assignment or test of each thread.
* `BridgeSafe` — what every run keeps of the results: each is accepted before it is returned, and
  returned once.
* `tool_bridge_exact` — **a suspension returns its own result once, and a cancelled or stopped wait
  ends**, as long as the read loop sets the event for results of the current call only.
-/

/-! ### The bridge -/

/-- A result that `deliver` accepted; its number is its place among them. -/
structure DeliveredResult where
  number : ℕ
  callId : Text
  content : Text
  deriving DecidableEq

/-- Where the adapter's thread is in `suspend`. -/
inductive SuspendStage where
  | outside
  /-- `tool_call_id` is assigned next. -/
  | naming (callId : Text)
  /-- `tool_result` is emptied next. -/
  | emptying (callId : Text)
  /-- The event is cleared next. -/
  | clearing (callId : Text)
  | publishing (callId : Text)
  /-- `tool_result_event.wait` -/
  | waiting (callId : Text)
  /-- The event was set; `tool_result` is read next. -/
  | reading (callId : Text)
  | checkingCancel (callId : Text)
  | checkingStop (callId : Text)
  /-- `_suspended` is reset next. -/
  | rearming (callId : Text) (result : DeliveredResult)
  /-- `tool_call_id` is reset next. -/
  | forgetting (callId : Text) (result : DeliveredResult)
  deriving DecidableEq

/-- Where the read loop is in `deliver`. -/
inductive DeliverStage where
  | idle
  /-- `_suspended` was read; `tool_call_id` is read next. -/
  | testing (callId content : Text)
  /-- `tool_result` is assigned next. -/
  | writing (result : DeliveredResult)
  /-- The event is set next. -/
  | setting (result : DeliveredResult)
  deriving DecidableEq

/-- `_SessionToolBridge` with the slot of its attempt. -/
structure ToolBridge where
  suspended : Bool := false
  toolCallId : Option Text := none
  toolResult : Option DeliveredResult := none
  /-- `tool_result_event`. -/
  event : Bool := false
  acceptedResults : ℕ := 0
  adapter : SuspendStage := .outside
  reader : DeliverStage := .idle
  deriving DecidableEq

inductive BridgeEvent where
  /-- A suspension is already pending. -/
  | refused (callId : Text)
  | accepted (result : DeliveredResult)
  /-- A suspension returns the content of a result. -/
  | returned (callId : Text) (result : DeliveredResult)
  /-- `ToolBridgeCancelled`. -/
  | cancelled (callId : Text)
  /-- `ToolBridgeUnavailable`. -/
  | unavailable (callId : Text)
  /-- The loop continues with its event set. -/
  | spun (callId : Text)
  deriving DecidableEq

namespace ToolBridge

variable (bridge : ToolBridge)

/-- `suspend`: its test and its first assignment. -/
def suspend (callId : Text) : Option (ToolBridge × List BridgeEvent) :=
  match bridge.adapter with
  | .outside =>
    if bridge.suspended then some (bridge, [.refused callId])
    else some ({ bridge with
      suspended := true
      adapter := .naming callId }, [])
  | _ => none

/-- The adapter's thread goes on in `suspend`: its frame is published or not, and the attempt is
    cancelled or the session stopped where it looks. -/
def adapterStep (cancelled stopped publishes : Bool) : Option (ToolBridge × List BridgeEvent) :=
  match bridge.adapter with
  | .outside => none
  | .naming callId => some ({ bridge with
      toolCallId := some callId
      adapter := .emptying callId }, [])
  | .emptying callId => some ({ bridge with
      toolResult := none
      adapter := .clearing callId }, [])
  | .clearing callId => some ({ bridge with
      event := false
      adapter := .publishing callId }, [])
  | .publishing callId =>
    if publishes then some ({ bridge with adapter := .waiting callId }, [])
    else some ({ bridge with adapter := .outside }, [.unavailable callId])
  | .waiting callId =>
    if bridge.event then some ({ bridge with adapter := .reading callId }, [])
    else some ({ bridge with adapter := .checkingCancel callId }, [])
  | .reading callId =>
    match bridge.toolResult with
    | some result =>
      if result.callId = callId then some ({ bridge with adapter := .rearming callId result }, [])
      else some ({ bridge with adapter := .waiting callId }, [.spun callId])
    | none => some ({ bridge with adapter := .waiting callId }, [.spun callId])
  | .checkingCancel callId =>
    if cancelled then some ({ bridge with adapter := .outside }, [.cancelled callId])
    else some ({ bridge with adapter := .checkingStop callId }, [])
  | .checkingStop callId =>
    if stopped then some ({ bridge with adapter := .outside }, [.unavailable callId])
    else some ({ bridge with adapter := .waiting callId }, [])
  | .rearming callId result => some ({ bridge with
      suspended := false
      adapter := .forgetting callId result }, [])
  | .forgetting callId result => some ({ bridge with
      toolCallId := none
      adapter := .outside }, [.returned callId result])

/-- The frame of the suspension is sent next, and is not written. -/
def unpublished (publishes : Bool) : Bool :=
  match bridge.adapter with
  | .publishing _ => !publishes
  | _ => false

/-- `deliver`: its first test. -/
def deliver (callId content : Text) : Option ToolBridge :=
  match bridge.reader with
  | .idle =>
    some (if bridge.suspended then { bridge with reader := .testing callId content } else bridge)
  | _ => none

/-- The read loop goes on in `deliver`. -/
def readerStep : Option (ToolBridge × List BridgeEvent) :=
  match bridge.reader with
  | .idle => none
  | .testing callId content =>
    if bridge.toolCallId = some callId then
      let result := ⟨bridge.acceptedResults, callId, content⟩
      some ({ bridge with
        acceptedResults := bridge.acceptedResults + 1
        reader := .writing result }, [.accepted result])
    else some ({ bridge with reader := .idle }, [])
  | .writing result => some ({ bridge with
      toolResult := some result
      reader := .setting result }, [])
  | .setting _ => some ({ bridge with
      event := true
      reader := .idle }, [])

end ToolBridge

/-! ### The two threads -/

/-- The bridge and the two flags that its wait looks at. -/
structure BridgeState where
  bridge : ToolBridge := {}
  /-- `cancel_event`, of the cancel and of the deadline timer. -/
  cancelled : Bool := false
  /-- `_ActiveSession.stopped`. -/
  stopped : Bool := false
  deriving DecidableEq

inductive BridgeAction where
  | cancel
  | stop
  | suspend (callId : Text)
  /-- The adapter's thread goes on in `suspend`. -/
  | adapter (publishes : Bool)
  | deliver (callId content : Text)
  /-- The read loop goes on in `deliver`. -/
  | reader
  deriving DecidableEq

namespace BridgeState

variable (s : BridgeState)

/-- One assignment or test of one thread.  A frame that is not published stops the session. -/
def step : BridgeAction → Option (BridgeState × List BridgeEvent)
  | .cancel => some ({ s with cancelled := true }, [])
  | .stop => some ({ s with stopped := true }, [])
  | .suspend callId =>
    (s.bridge.suspend callId).map fun result => ({ s with bridge := result.1 }, result.2)
  | .adapter publishes =>
    (s.bridge.adapterStep s.cancelled s.stopped publishes).map fun result =>
      ({ s with
        bridge := result.1
        stopped := s.stopped || s.bridge.unpublished publishes }, result.2)
  | .deliver callId content =>
    (s.bridge.deliver callId content).map fun bridge => ({ s with bridge := bridge }, [])
  | .reader => s.bridge.readerStep.map fun result => ({ s with bridge := result.1 }, result.2)

end BridgeState

/-- The threads around one bridge. -/
def bridgeMachine : Machine BridgeState BridgeAction BridgeEvent := ⟨BridgeState.step⟩

/-! ### Stages -/

namespace SuspendStage

/-- The call whose result the thread waits for, once it has cleared the event. -/
def armed? : SuspendStage → Option Text
  | publishing callId | waiting callId | reading callId | checkingCancel callId
  | checkingStop callId => some callId
  | _ => none

/-- The call that the bridge names until its wait ends. -/
def named? : SuspendStage → Option Text
  | emptying callId | clearing callId => some callId
  | stage => stage.armed?

/-- The result that a suspension has taken and returns. -/
def taken? : SuspendStage → Option (Text × DeliveredResult)
  | rearming callId result | forgetting callId result => some (callId, result)
  | _ => none

/-- The thread has not emptied `tool_result` since it was outside. -/
def isEarly : SuspendStage → Bool
  | outside | naming _ | emptying _ => true
  | _ => false

/-- The call in the loop of `suspend`. -/
def waitsFor? : SuspendStage → Option Text
  | waiting callId | reading callId | checkingCancel callId | checkingStop callId => some callId
  | _ => none

end SuspendStage

/-- How many numbers of results may have reached `tool_result`. -/
def ToolBridge.written (bridge : ToolBridge) : ℕ :=
  match bridge.reader with
  | .writing result => result.number
  | _ => bridge.acceptedResults

/-- The event returns the result of the given number. -/
def BridgeEvent.returns (n : ℕ) : BridgeEvent → Bool
  | returned _ result => result.number = n
  | _ => false

/-- How many steps of its thread the wait still takes once a flag is set. -/
def BridgeState.patience (s : BridgeState) : ℕ :=
  match s.bridge.adapter with
  | .reading _ => 1
  | .checkingCancel _ => if s.cancelled then 1 else 2
  | .waiting _ => 3
  | .checkingStop _ => if s.stopped then 1 else 4
  | _ => 0

/-! ### Results -/

/-- What every run keeps of the results. -/
structure BridgeSafe (bridge : ToolBridge) (log : List BridgeEvent) : Prop where
  slot : ∀ result, bridge.toolResult = some result →
    .accepted result ∈ log ∧ result.number < bridge.written
  taken : ∀ callId result, bridge.adapter.taken? = some (callId, result) →
    result.callId = callId ∧ .accepted result ∈ log ∧ result.number < bridge.written ∧
      ∀ otherId other, .returned otherId other ∈ log → other.number ≠ result.number
  writing : ∀ result, bridge.reader = .writing result →
    .accepted result ∈ log ∧ bridge.acceptedResults = result.number + 1
  returned : ∀ callId result, .returned callId result ∈ log → result.callId = callId ∧
    .accepted result ∈ log ∧ result.number < bridge.written ∧
      ∀ held, bridge.toolResult = some held → held.number = result.number →
        bridge.adapter.isEarly = true
  once : ∀ n, log.countP (·.returns n) ≤ 1

namespace BridgeSafe

variable {bridge after : ToolBridge} {log events : List BridgeEvent}

/-- Events that return nothing. -/
theorem countP_returns (quiet : ∀ callId result, BridgeEvent.returned callId result ∉ events) (n : ℕ) :
    events.countP (·.returns n) = 0 := by
  rw [List.countP_eq_zero]
  intro event hevent hreturns
  cases event with
  | returned callId result => exact quiet callId result hevent
  | refused _ | accepted _ | cancelled _ | unavailable _ | spun _ => cases hreturns

theorem written_congr (hreader : after.reader = bridge.reader)
    (haccepted : after.acceptedResults = bridge.acceptedResults) :
    after.written = bridge.written := by
  unfold ToolBridge.written
  rw [hreader, haccepted]

/-- The adapter's thread goes on without taking a result. -/
theorem move (h : BridgeSafe bridge log) (hreader : after.reader = bridge.reader)
    (haccepted : after.acceptedResults = bridge.acceptedResults)
    (hslot : ∀ result, after.toolResult = some result → bridge.toolResult = some result ∧
      (bridge.adapter.isEarly = true → after.adapter.isEarly = true))
    (htaken : after.adapter.taken? = none)
    (quiet : ∀ callId result, BridgeEvent.returned callId result ∉ events) :
    BridgeSafe after (log ++ events) := by
  have hwritten : after.written = bridge.written := written_congr hreader haccepted
  constructor
  · intro result hresult
    obtain ⟨hmem, hlt⟩ := h.slot result (hslot result hresult).1
    exact ⟨List.mem_append_left _ hmem, hwritten ▸ hlt⟩
  · intro callId result hresult
    rw [htaken] at hresult
    cases hresult
  · intro result hresult
    rw [hreader] at hresult
    obtain ⟨hmem, hnumber⟩ := h.writing result hresult
    exact ⟨List.mem_append_left _ hmem, haccepted ▸ hnumber⟩
  · intro callId result hmem
    rcases List.mem_append.mp hmem with hold | hnew
    · obtain ⟨hown, haccept, hlt, hearly⟩ := h.returned callId result hold
      refine ⟨hown, List.mem_append_left _ haccept, hwritten ▸ hlt, fun held hheld hsame => ?_⟩
      obtain ⟨hbefore, hkeeps⟩ := hslot held hheld
      exact hkeeps (hearly held hbefore hsame)
    · exact absurd hnew (quiet callId result)
  · intro n
    rw [List.countP_append, countP_returns quiet, Nat.add_zero]
    exact h.once n

/-- One step of the adapter's thread. -/
theorem adapterStep (h : BridgeSafe bridge log) {cancelled stopped publishes : Bool}
    (hstep : bridge.adapterStep cancelled stopped publishes = some (after, events)) :
    BridgeSafe after (log ++ events) := by
  unfold ToolBridge.adapterStep at hstep
  split at hstep
  · cases hstep
  · rename_i callId hadapter
    obtain ⟨rfl, rfl⟩ := Prod.mk.inj (Option.some.inj hstep)
    exact h.move rfl rfl (fun _ hresult => ⟨hresult, fun _ => rfl⟩) rfl (by simp)
  · -- The slot is emptied.
    obtain ⟨rfl, rfl⟩ := Prod.mk.inj (Option.some.inj hstep)
    exact h.move rfl rfl nofun rfl (by simp)
  · rename_i callId hadapter
    obtain ⟨rfl, rfl⟩ := Prod.mk.inj (Option.some.inj hstep)
    exact h.move rfl rfl (fun _ hresult => ⟨hresult, by simp [hadapter, SuspendStage.isEarly]⟩) rfl
      (by simp)
  · rename_i callId hadapter
    split_ifs at hstep
    all_goals
      obtain ⟨rfl, rfl⟩ := Prod.mk.inj (Option.some.inj hstep)
      exact h.move rfl rfl (fun _ hresult => ⟨hresult, by simp [hadapter, SuspendStage.isEarly]⟩) rfl
        (by simp)
  · rename_i callId hadapter
    split_ifs at hstep
    all_goals
      obtain ⟨rfl, rfl⟩ := Prod.mk.inj (Option.some.inj hstep)
      exact h.move rfl rfl (fun _ hresult => ⟨hresult, by simp [hadapter, SuspendStage.isEarly]⟩) rfl
        (by simp)
  · rename_i callId hadapter
    split at hstep
    · rename_i result hslot
      split_ifs at hstep with hown
      · -- The thread takes the result, which no suspension has returned.
        obtain ⟨rfl, rfl⟩ := Prod.mk.inj (Option.some.inj hstep)
        rw [List.append_nil]
        refine { h with taken := ?_, returned := ?_ }
        · intro takenId taken htaken
          obtain ⟨rfl, rfl⟩ := Prod.mk.inj (Option.some.inj htaken)
          obtain ⟨hmem, hlt⟩ := h.slot result hslot
          refine ⟨hown, hmem, hlt, fun otherId other hother hsame => ?_⟩
          have hearly := (h.returned otherId other hother).2.2.2 result hslot hsame.symm
          rw [hadapter] at hearly
          cases hearly
        · intro otherId other hother
          obtain ⟨hown', haccept, hlt, hearly⟩ := h.returned otherId other hother
          refine ⟨hown', haccept, hlt, fun held hheld hsame => ?_⟩
          have hbefore := hearly held hheld hsame
          rw [hadapter] at hbefore
          cases hbefore
      · obtain ⟨rfl, rfl⟩ := Prod.mk.inj (Option.some.inj hstep)
        exact h.move rfl rfl (fun _ hresult => ⟨hresult, by simp [hadapter, SuspendStage.isEarly]⟩)
          rfl (by simp)
    · obtain ⟨rfl, rfl⟩ := Prod.mk.inj (Option.some.inj hstep)
      exact h.move rfl rfl (fun _ hresult => ⟨hresult, by simp [hadapter, SuspendStage.isEarly]⟩)
        rfl (by simp)
  · rename_i callId hadapter
    split_ifs at hstep
    all_goals
      obtain ⟨rfl, rfl⟩ := Prod.mk.inj (Option.some.inj hstep)
      exact h.move rfl rfl (fun _ hresult => ⟨hresult, by simp [hadapter, SuspendStage.isEarly]⟩) rfl
        (by simp)
  · rename_i callId hadapter
    split_ifs at hstep
    all_goals
      obtain ⟨rfl, rfl⟩ := Prod.mk.inj (Option.some.inj hstep)
      exact h.move rfl rfl (fun _ hresult => ⟨hresult, by simp [hadapter, SuspendStage.isEarly]⟩) rfl
        (by simp)
  · rename_i callId result hadapter
    obtain ⟨rfl, rfl⟩ := Prod.mk.inj (Option.some.inj hstep)
    rw [List.append_nil]
    refine { h with taken := ?_, returned := ?_ }
    · intro takenId taken htaken
      obtain ⟨rfl, rfl⟩ := Prod.mk.inj (Option.some.inj htaken)
      exact h.taken callId result (by rw [hadapter]; rfl)
    · intro otherId other hother
      obtain ⟨hown, haccept, hlt, hearly⟩ := h.returned otherId other hother
      refine ⟨hown, haccept, hlt, fun held hheld hsame => ?_⟩
      have hbefore := hearly held hheld hsame
      rw [hadapter] at hbefore
      cases hbefore
  · -- The suspension returns.
    rename_i callId result hadapter
    obtain ⟨rfl, rfl⟩ := Prod.mk.inj (Option.some.inj hstep)
    obtain ⟨hown, hmem, hlt, hnew⟩ := h.taken callId result (by rw [hadapter]; rfl)
    constructor
    · intro held hheld
      obtain ⟨hold, hltheld⟩ := h.slot held hheld
      exact ⟨List.mem_append_left _ hold, hltheld⟩
    · nofun
    · intro held hheld
      obtain ⟨hold, hnumber⟩ := h.writing held hheld
      exact ⟨List.mem_append_left _ hold, hnumber⟩
    · intro otherId other hother
      rcases List.mem_append.mp hother with hold | hnow
      · obtain ⟨hown', haccept, hltother, -⟩ := h.returned otherId other hold
        exact ⟨hown', List.mem_append_left _ haccept, hltother, fun _ _ _ => rfl⟩
      · obtain ⟨rfl, rfl⟩ := BridgeEvent.returned.inj (List.mem_singleton.mp hnow)
        exact ⟨hown, List.mem_append_left _ hmem, hlt, fun _ _ _ => rfl⟩
    · intro n
      rw [List.countP_append, List.countP_singleton]
      by_cases hn : result.number = n
      · have hnone : log.countP (·.returns n) = 0 := by
          rw [List.countP_eq_zero]
          intro event hevent hreturns
          cases event with
          | returned otherId other =>
            exact hnew otherId other hevent ((of_decide_eq_true hreturns).trans hn.symm)
          | refused _ | accepted _ | cancelled _ | unavailable _ | spun _ => cases hreturns
        rw [hnone]
        split_ifs <;> omega
      · have hother : (BridgeEvent.returned callId result).returns n = false := decide_eq_false hn
        rw [hother]
        exact h.once n

/-- One step of the read loop. -/
theorem readerStep (h : BridgeSafe bridge log)
    (hstep : bridge.readerStep = some (after, events)) : BridgeSafe after (log ++ events) := by
  unfold ToolBridge.readerStep at hstep
  split at hstep
  · cases hstep
  · rename_i callId content hreader
    have hbound : bridge.written = bridge.acceptedResults := by
      unfold ToolBridge.written
      rw [hreader]
    split_ifs at hstep
    · -- The result is accepted under the next number.
      obtain ⟨rfl, rfl⟩ := Prod.mk.inj (Option.some.inj hstep)
      have hquiet : ∀ otherId result, BridgeEvent.returned otherId result ∉
          [BridgeEvent.accepted ⟨bridge.acceptedResults, callId, content⟩] := by simp
      constructor
      · intro held hheld
        obtain ⟨hmem, hlt⟩ := h.slot held hheld
        exact ⟨List.mem_append_left _ hmem, hbound ▸ hlt⟩
      · intro heldId held hheld
        obtain ⟨hown, hmem, hlt, hnew⟩ := h.taken heldId held hheld
        refine ⟨hown, List.mem_append_left _ hmem, hbound ▸ hlt, fun otherId other hother => ?_⟩
        rcases List.mem_append.mp hother with hold | hnow
        · exact hnew otherId other hold
        · exact absurd hnow (hquiet otherId other)
      · intro held hheld
        obtain rfl := DeliverStage.writing.inj hheld
        exact ⟨by simp, rfl⟩
      · intro otherId other hother
        rcases List.mem_append.mp hother with hold | hnow
        · obtain ⟨hown, haccept, hlt, hearly⟩ := h.returned otherId other hold
          exact ⟨hown, List.mem_append_left _ haccept, hbound ▸ hlt, hearly⟩
        · exact absurd hnow (hquiet otherId other)
      · intro n
        rw [List.countP_append, countP_returns hquiet, Nat.add_zero]
        exact h.once n
    · obtain ⟨rfl, rfl⟩ := Prod.mk.inj (Option.some.inj hstep)
      rw [List.append_nil]
      exact { h with slot := fun r hr => hbound ▸ h.slot r hr
                     taken := fun c r hr => hbound ▸ h.taken c r hr
                     writing := nofun
                     returned := fun c r hr => hbound ▸ h.returned c r hr }
  · -- The result reaches the slot: it is newer than all before.
    rename_i result hreader
    obtain ⟨rfl, rfl⟩ := Prod.mk.inj (Option.some.inj hstep)
    rw [List.append_nil]
    obtain ⟨hmem, hnumber⟩ := h.writing result hreader
    have hbound : bridge.written = result.number := by
      unfold ToolBridge.written
      rw [hreader]
    have hlater : ∀ {n : ℕ}, n < bridge.written → n < bridge.acceptedResults := by
      intro n hn
      omega
    constructor
    · intro held hheld
      obtain rfl := Option.some.inj hheld
      exact ⟨hmem, by show result.number < bridge.acceptedResults; omega⟩
    · intro heldId held hheld
      obtain ⟨hown, hold, hlt, hnew⟩ := h.taken heldId held hheld
      exact ⟨hown, hold, hlater hlt, hnew⟩
    · nofun
    · intro otherId other hother
      obtain ⟨hown, haccept, hlt, -⟩ := h.returned otherId other hother
      refine ⟨hown, haccept, hlater hlt, fun held hheld hsame => ?_⟩
      obtain rfl := Option.some.inj hheld
      omega
    · exact h.once
  · rename_i result hreader
    obtain ⟨rfl, rfl⟩ := Prod.mk.inj (Option.some.inj hstep)
    have hbound : bridge.written = bridge.acceptedResults := by
      unfold ToolBridge.written
      rw [hreader]
    rw [List.append_nil]
    exact { h with slot := fun r hr => hbound ▸ h.slot r hr
                   taken := fun c r hr => hbound ▸ h.taken c r hr
                   writing := nofun
                   returned := fun c r hr => hbound ▸ h.returned c r hr }

/-- One step of the machine. -/
theorem preserved {s s' : BridgeState} {action : BridgeAction} (h : BridgeSafe s.bridge log)
    (hstep : bridgeMachine.step s action = some (s', events)) :
    BridgeSafe s'.bridge (log ++ events) := by
  change s.step action = some (s', events) at hstep
  unfold BridgeState.step at hstep
  cases action with
  | cancel | stop =>
    obtain ⟨rfl, rfl⟩ := Prod.mk.inj (Option.some.inj hstep)
    rw [List.append_nil]
    exact h
  | suspend callId =>
    obtain ⟨result, hresult, hstep⟩ := Option.map_eq_some_iff.mp hstep
    obtain ⟨rfl, rfl⟩ := Prod.mk.inj hstep
    unfold ToolBridge.suspend at hresult
    split at hresult
    · split_ifs at hresult
      · obtain rfl := Option.some.inj hresult
        exact h.move rfl rfl (fun _ hslot => ⟨hslot, id⟩) (by simp_all [SuspendStage.taken?]) (by simp)
      · obtain rfl := Option.some.inj hresult
        exact h.move rfl rfl (fun _ hslot => ⟨hslot, fun _ => rfl⟩) rfl (by simp)
    · cases hresult
  | adapter publishes =>
    obtain ⟨result, hresult, hstep⟩ := Option.map_eq_some_iff.mp hstep
    obtain ⟨rfl, rfl⟩ := Prod.mk.inj hstep
    exact h.adapterStep hresult
  | deliver callId content =>
    obtain ⟨after, hbridge, hstep⟩ := Option.map_eq_some_iff.mp hstep
    obtain ⟨rfl, rfl⟩ := Prod.mk.inj hstep
    unfold ToolBridge.deliver at hbridge
    split at hbridge
    · rename_i hreader
      obtain rfl := Option.some.inj hbridge
      rw [List.append_nil]
      split_ifs
      · have hbound : s.bridge.written = s.bridge.acceptedResults := by
          unfold ToolBridge.written
          rw [hreader]
        exact { h with slot := fun r hr => hbound ▸ h.slot r hr
                       taken := fun c r hr => hbound ▸ h.taken c r hr
                       writing := nofun
                       returned := fun c r hr => hbound ▸ h.returned c r hr }
      · exact h
    · cases hbridge
  | reader =>
    obtain ⟨result, hresult, hstep⟩ := Option.map_eq_some_iff.mp hstep
    obtain ⟨rfl, rfl⟩ := Prod.mk.inj hstep
    exact h.readerStep hresult

end BridgeSafe

/-! ### The wait -/

/-- The read loop sets the event of a waiting suspension only under a result of its call. -/
def BridgeState.matchesCall (s : BridgeState) : BridgeAction → Bool
  | .reader =>
    match s.bridge.reader, s.bridge.adapter.armed? with
    | .setting _, some callId => s.bridge.toolResult.any (·.callId = callId)
    | _, _ => true
  | _ => true

/-- What a run keeps of the wait when the event matches its call. -/
structure BridgeArmed (bridge : ToolBridge) : Prop where
  named : ∀ callId, bridge.adapter.named? = some callId → bridge.toolCallId = some callId
  /-- A result of another call is being written since before the event was cleared. -/
  stale : ∀ callId result, bridge.adapter.armed? = some callId → bridge.reader = .writing result →
    result.callId ≠ callId → bridge.event = false
  fits : ∀ callId, bridge.adapter.armed? = some callId → bridge.event = true →
    ∃ result, bridge.toolResult = some result ∧ result.callId = callId
  reading : ∀ callId, bridge.adapter = .reading callId → bridge.event = true

/-- What the wait does has a name as long as it has an event to wait for. -/
theorem SuspendStage.named?_of_armed? {stage : SuspendStage} {callId : Text}
    (h : stage.armed? = some callId) : stage.named? = some callId := by
  cases stage <;> first | exact h | cases h

namespace BridgeArmed

variable {bridge after : ToolBridge} {events : List BridgeEvent}

/-- The adapter's thread goes on under its call, or leaves the wait. -/
theorem move (h : BridgeArmed bridge) {stage : SuspendStage}
    (harmed : ∀ callId, stage.armed? = some callId → bridge.adapter.armed? = some callId)
    (hnamed : ∀ callId, stage.named? = some callId → bridge.adapter.named? = some callId)
    (hreading : ∀ callId, stage = .reading callId → bridge.event = true) :
    BridgeArmed { bridge with adapter := stage } where
  named callId hstage := h.named callId (hnamed callId hstage)
  stale callId result hstage := h.stale callId result (harmed callId hstage)
  fits callId hstage := h.fits callId (harmed callId hstage)
  reading := hreading

/-- Nothing is promised of a thread that is not in its wait. -/
theorem of_unarmed (harmed : after.adapter.armed? = none)
    (hnamed : ∀ callId, after.adapter.named? = some callId → after.toolCallId = some callId) :
    BridgeArmed after where
  named := hnamed
  stale callId result hstage := by
    rw [harmed] at hstage
    cases hstage
  fits callId hstage := by
    rw [harmed] at hstage
    cases hstage
  reading callId hstage := by
    rw [hstage] at harmed
    cases harmed

/-- One step of the adapter's thread: it never continues with its event set. -/
theorem adapterStep (h : BridgeArmed bridge) {cancelled stopped publishes : Bool}
    (hstep : bridge.adapterStep cancelled stopped publishes = some (after, events)) :
    BridgeArmed after ∧ ∀ callId, BridgeEvent.spun callId ∉ events := by
  unfold ToolBridge.adapterStep at hstep
  split at hstep
  · cases hstep
  · obtain ⟨rfl, rfl⟩ := Prod.mk.inj (Option.some.inj hstep)
    exact ⟨of_unarmed rfl fun _ => id, by simp⟩
  · rename_i callId hadapter
    obtain ⟨rfl, rfl⟩ := Prod.mk.inj (Option.some.inj hstep)
    refine ⟨of_unarmed rfl fun otherId hother => h.named otherId ?_, by simp⟩
    rw [hadapter]
    exact hother
  · -- The event is cleared.
    rename_i callId hadapter
    obtain ⟨rfl, rfl⟩ := Prod.mk.inj (Option.some.inj hstep)
    refine ⟨⟨fun otherId hother => h.named otherId ?_, fun _ _ _ _ _ => rfl, nofun, nofun⟩, by simp⟩
    rw [hadapter]
    exact hother
  · rename_i callId hadapter
    split_ifs at hstep
    · obtain ⟨rfl, rfl⟩ := Prod.mk.inj (Option.some.inj hstep)
      exact ⟨h.move (by simp [hadapter, SuspendStage.armed?])
        (by simp [hadapter, SuspendStage.named?, SuspendStage.armed?]) nofun, by simp⟩
    · obtain ⟨rfl, rfl⟩ := Prod.mk.inj (Option.some.inj hstep)
      exact ⟨of_unarmed rfl nofun, by simp⟩
  · rename_i callId hadapter
    split_ifs at hstep with hevent
    · obtain ⟨rfl, rfl⟩ := Prod.mk.inj (Option.some.inj hstep)
      exact ⟨h.move (by simp [hadapter, SuspendStage.armed?])
        (by simp [hadapter, SuspendStage.named?, SuspendStage.armed?]) fun _ _ => hevent, by simp⟩
    · obtain ⟨rfl, rfl⟩ := Prod.mk.inj (Option.some.inj hstep)
      exact ⟨h.move (by simp [hadapter, SuspendStage.armed?])
        (by simp [hadapter, SuspendStage.named?, SuspendStage.armed?]) nofun, by simp⟩
  · -- The event is set, so the slot holds a result of the call.
    rename_i callId hadapter
    obtain ⟨result, hslot, hown⟩ := h.fits callId (by rw [hadapter]; rfl) (h.reading callId hadapter)
    rw [hslot] at hstep
    dsimp only at hstep
    rw [if_pos hown] at hstep
    obtain ⟨rfl, rfl⟩ := Prod.mk.inj (Option.some.inj hstep)
    exact ⟨of_unarmed rfl nofun, by simp⟩
  · rename_i callId hadapter
    split_ifs at hstep
    · obtain ⟨rfl, rfl⟩ := Prod.mk.inj (Option.some.inj hstep)
      exact ⟨of_unarmed rfl nofun, by simp⟩
    · obtain ⟨rfl, rfl⟩ := Prod.mk.inj (Option.some.inj hstep)
      exact ⟨h.move (by simp [hadapter, SuspendStage.armed?])
        (by simp [hadapter, SuspendStage.named?, SuspendStage.armed?]) nofun, by simp⟩
  · rename_i callId hadapter
    split_ifs at hstep
    · obtain ⟨rfl, rfl⟩ := Prod.mk.inj (Option.some.inj hstep)
      exact ⟨of_unarmed rfl nofun, by simp⟩
    · obtain ⟨rfl, rfl⟩ := Prod.mk.inj (Option.some.inj hstep)
      exact ⟨h.move (by simp [hadapter, SuspendStage.armed?])
        (by simp [hadapter, SuspendStage.named?, SuspendStage.armed?]) nofun, by simp⟩
  · obtain ⟨rfl, rfl⟩ := Prod.mk.inj (Option.some.inj hstep)
    exact ⟨of_unarmed rfl nofun, by simp⟩
  · obtain ⟨rfl, rfl⟩ := Prod.mk.inj (Option.some.inj hstep)
    exact ⟨of_unarmed rfl nofun, by simp⟩

/-- One step of the read loop under the condition. -/
theorem readerStep {s : BridgeState} (h : BridgeArmed s.bridge)
    (hmatches : s.matchesCall .reader = true)
    (hstep : s.bridge.readerStep = some (after, events)) :
    BridgeArmed after ∧ ∀ callId, BridgeEvent.spun callId ∉ events := by
  unfold ToolBridge.readerStep at hstep
  split at hstep
  · cases hstep
  · rename_i callId content hreader
    split_ifs at hstep with hcall
    · -- A result that is accepted during a wait is one of its call.
      obtain ⟨rfl, rfl⟩ := Prod.mk.inj (Option.some.inj hstep)
      refine ⟨{ h with stale := ?_ }, by simp⟩
      intro waitingId result harmed hwriting hother
      obtain rfl := DeliverStage.writing.inj hwriting
      have hname := h.named waitingId (SuspendStage.named?_of_armed? harmed)
      exact absurd (Option.some.inj (hcall.symm.trans hname)) hother
    · obtain ⟨rfl, rfl⟩ := Prod.mk.inj (Option.some.inj hstep)
      exact ⟨{ h with stale := nofun }, by simp⟩
  · rename_i result hreader
    obtain ⟨rfl, rfl⟩ := Prod.mk.inj (Option.some.inj hstep)
    refine ⟨{ h with stale := nofun, fits := ?_ }, by simp⟩
    intro callId harmed hevent
    refine ⟨result, rfl, ?_⟩
    by_contra hother
    have hclear := h.stale callId result harmed hreader hother
    rw [hclear] at hevent
    cases hevent
  · -- The event is set: the condition.
    rename_i result hreader
    obtain ⟨rfl, rfl⟩ := Prod.mk.inj (Option.some.inj hstep)
    refine ⟨{ h with stale := nofun, fits := ?_, reading := fun _ _ => rfl }, by simp⟩
    intro callId harmed _
    change s.bridge.adapter.armed? = some callId at harmed
    unfold BridgeState.matchesCall at hmatches
    dsimp only at hmatches
    rw [hreader, harmed] at hmatches
    obtain ⟨held, hheld, hown⟩ := (Option.any_eq_true _ _).mp hmatches
    exact ⟨held, hheld, of_decide_eq_true hown⟩

/-- One step of the machine under the condition. -/
theorem preserved {s s' : BridgeState} {action : BridgeAction} (h : BridgeArmed s.bridge)
    (hmatches : s.matchesCall action = true)
    (hstep : bridgeMachine.step s action = some (s', events)) :
    BridgeArmed s'.bridge ∧ ∀ callId, BridgeEvent.spun callId ∉ events := by
  change s.step action = some (s', events) at hstep
  unfold BridgeState.step at hstep
  cases action with
  | cancel | stop =>
    obtain ⟨rfl, rfl⟩ := Prod.mk.inj (Option.some.inj hstep)
    exact ⟨h, by simp⟩
  | suspend callId =>
    obtain ⟨result, hresult, hstep⟩ := Option.map_eq_some_iff.mp hstep
    obtain ⟨rfl, rfl⟩ := Prod.mk.inj hstep
    unfold ToolBridge.suspend at hresult
    split at hresult
    · split_ifs at hresult
      · obtain rfl := Option.some.inj hresult
        exact ⟨h, by simp⟩
      · obtain rfl := Option.some.inj hresult
        exact ⟨of_unarmed rfl nofun, by simp⟩
    · cases hresult
  | adapter publishes =>
    obtain ⟨result, hresult, hstep⟩ := Option.map_eq_some_iff.mp hstep
    obtain ⟨rfl, rfl⟩ := Prod.mk.inj hstep
    exact h.adapterStep hresult
  | deliver callId content =>
    obtain ⟨after, hafter, hstep⟩ := Option.map_eq_some_iff.mp hstep
    obtain ⟨rfl, rfl⟩ := Prod.mk.inj hstep
    unfold ToolBridge.deliver at hafter
    split at hafter
    · obtain rfl := Option.some.inj hafter
      split_ifs
      · exact ⟨{ h with stale := nofun }, by simp⟩
      · exact ⟨h, by simp⟩
    · cases hafter
  | reader =>
    obtain ⟨result, hresult, hstep⟩ := Option.map_eq_some_iff.mp hstep
    obtain ⟨rfl, rfl⟩ := Prod.mk.inj hstep
    exact h.readerStep hmatches hresult

end BridgeArmed

/-! ### Exactness -/

/-- What one step of a wait does once a flag is set: it comes closer to its end, takes a result, or
    ends with the error of a flag that is set. -/
inductive WaitEnds (s : BridgeState) (callId : Text) : BridgeState → List BridgeEvent → Prop
  | closer {s' : BridgeState} (hwaits : s'.bridge.adapter.waitsFor? = some callId)
      (hpatience : s'.patience < s.patience) : WaitEnds s callId s' []
  | takes {s' : BridgeState} {result : DeliveredResult}
      (hstage : s'.bridge.adapter = .rearming callId result) : WaitEnds s callId s' []
  | cancelled {s' : BridgeState} (hstage : s'.bridge.adapter = .outside)
      (hcancelled : s.cancelled = true) : WaitEnds s callId s' [.cancelled callId]
  | unavailable {s' : BridgeState} (hstage : s'.bridge.adapter = .outside)
      (hstopped : s.stopped = true) : WaitEnds s callId s' [.unavailable callId]

/-- A flag is set. -/
def BridgeState.interrupted (s : BridgeState) : Bool := s.cancelled || s.stopped

/-- What holds in every state of a run: a suspension returns only results accepted for its own call,
    each once, and an interrupted wait ends, whatever the other threads do meanwhile. -/
structure BridgeExact (s : BridgeState) (log : List BridgeEvent) : Prop where
  own : ∀ callId result, .returned callId result ∈ log →
    result.callId = callId ∧ .accepted result ∈ log
  once : ∀ n, log.countP (·.returns n) ≤ 1
  ends : ∀ callId, s.bridge.adapter.waitsFor? = some callId → s.interrupted = true →
    ∀ publishes, ∃ s' events,
      bridgeMachine.step s (.adapter publishes) = some (s', events) ∧ WaitEnds s callId s' events
  undisturbed : ∀ action s' events, (∀ publishes, action ≠ .adapter publishes) →
    s.bridge.adapter.waitsFor?.isSome = true → s.interrupted = true →
    bridgeMachine.step s action = some (s', events) →
      s'.bridge.adapter = s.bridge.adapter ∧ s'.interrupted = true ∧ s'.patience ≤ s.patience

/-- An interrupted wait ends. -/
theorem BridgeArmed.waitEnds {s : BridgeState} (h : BridgeArmed s.bridge) {callId : Text}
    (hwaits : s.bridge.adapter.waitsFor? = some callId) (hinterrupted : s.interrupted = true)
    (publishes : Bool) : ∃ s' events,
      bridgeMachine.step s (.adapter publishes) = some (s', events) ∧
        WaitEnds s callId s' events := by
  have hflag : s.cancelled = true ∨ s.stopped = true := by
    simpa [BridgeState.interrupted] using hinterrupted
  show ∃ s' events, s.step (.adapter publishes) = some (s', events) ∧ _
  unfold BridgeState.step ToolBridge.adapterStep
  cases hadapter : s.bridge.adapter with
  | waiting waitingId =>
    obtain rfl : waitingId = callId := by simpa [hadapter, SuspendStage.waitsFor?] using hwaits
    dsimp only
    by_cases hevent : s.bridge.event = true
    · rw [if_pos hevent]
      exact ⟨_, _, rfl, .closer rfl (by simp [BridgeState.patience, hadapter])⟩
    · rw [if_neg hevent]
      refine ⟨_, _, rfl, .closer rfl ?_⟩
      simp only [BridgeState.patience, hadapter]
      split_ifs <;> omega
  | reading waitingId =>
    -- The slot holds a result of the call.
    obtain rfl : waitingId = callId := by simpa [hadapter, SuspendStage.waitsFor?] using hwaits
    obtain ⟨result, hslot, hown⟩ := h.fits waitingId (by rw [hadapter]; rfl)
      (h.reading waitingId hadapter)
    dsimp only
    rw [hslot]
    dsimp only
    rw [if_pos hown]
    exact ⟨_, _, rfl, .takes rfl⟩
  | checkingCancel waitingId =>
    obtain rfl : waitingId = callId := by simpa [hadapter, SuspendStage.waitsFor?] using hwaits
    dsimp only
    by_cases hcancelled : s.cancelled = true
    · rw [if_pos hcancelled]
      exact ⟨_, _, rfl, .cancelled rfl hcancelled⟩
    · rw [if_neg hcancelled]
      have hstopped : s.stopped = true := hflag.resolve_left hcancelled
      refine ⟨_, _, rfl, .closer rfl ?_⟩
      simp [BridgeState.patience, hadapter, hcancelled, hstopped]
  | checkingStop waitingId =>
    obtain rfl : waitingId = callId := by simpa [hadapter, SuspendStage.waitsFor?] using hwaits
    dsimp only
    by_cases hstopped : s.stopped = true
    · rw [if_pos hstopped]
      exact ⟨_, _, rfl, .unavailable rfl hstopped⟩
    · rw [if_neg hstopped]
      refine ⟨_, _, rfl, .closer rfl ?_⟩
      simp [BridgeState.patience, hadapter, hstopped]
  | outside | naming _ | emptying _ | clearing _ | publishing _ | rearming _ _ | forgetting _ _ =>
    rw [hadapter] at hwaits
    cases hwaits

/-- What leaves the adapter's thread alone and takes no flag back leaves its wait alone. -/
theorem BridgeState.patience_le {s s' : BridgeState}
    (hadapter : s'.bridge.adapter = s.bridge.adapter)
    (hcancelled : s.cancelled = true → s'.cancelled = true)
    (hstopped : s.stopped = true → s'.stopped = true) : s'.patience ≤ s.patience := by
  unfold BridgeState.patience
  rw [hadapter]
  cases s.bridge.adapter with
  | checkingCancel callId =>
    cases hc : s.cancelled <;> simp_all
    split_ifs <;> omega
  | checkingStop callId =>
    cases hs : s.stopped <;> simp_all
    split_ifs <;> omega
  | _ => exact le_rfl

/-- The other threads leave an interrupted wait alone. -/
theorem BridgeState.undisturbed {s s' : BridgeState} {action : BridgeAction}
    {events : List BridgeEvent} (hother : ∀ publishes, action ≠ .adapter publishes)
    (hwaits : s.bridge.adapter.waitsFor?.isSome = true) (hinterrupted : s.interrupted = true)
    (hstep : bridgeMachine.step s action = some (s', events)) :
    s'.bridge.adapter = s.bridge.adapter ∧ s'.interrupted = true ∧ s'.patience ≤ s.patience := by
  change s.step action = some (s', events) at hstep
  unfold BridgeState.step at hstep
  cases action with
  | cancel =>
    obtain ⟨rfl, rfl⟩ := Prod.mk.inj (Option.some.inj hstep)
    exact ⟨rfl, rfl, patience_le rfl (fun _ => rfl) id⟩
  | stop =>
    obtain ⟨rfl, rfl⟩ := Prod.mk.inj (Option.some.inj hstep)
    exact ⟨rfl, Bool.or_true _, patience_le rfl id fun _ => rfl⟩
  | suspend callId =>
    -- The adapter's thread is in its wait, not outside.
    obtain ⟨result, hresult, hstep⟩ := Option.map_eq_some_iff.mp hstep
    unfold ToolBridge.suspend at hresult
    split at hresult
    · rename_i houtside
      rw [houtside] at hwaits
      cases hwaits
    · cases hresult
  | adapter publishes => exact absurd rfl (hother publishes)
  | deliver callId content =>
    obtain ⟨after, hafter, hstep⟩ := Option.map_eq_some_iff.mp hstep
    obtain ⟨rfl, rfl⟩ := Prod.mk.inj hstep
    have hsame : after.adapter = s.bridge.adapter := by
      unfold ToolBridge.deliver at hafter
      split at hafter
      · obtain rfl := Option.some.inj hafter
        split_ifs <;> rfl
      · cases hafter
    exact ⟨hsame, hinterrupted, patience_le hsame id id⟩
  | reader =>
    obtain ⟨result, hresult, hstep⟩ := Option.map_eq_some_iff.mp hstep
    obtain ⟨rfl, rfl⟩ := Prod.mk.inj hstep
    have hsame : result.1.adapter = s.bridge.adapter := by
      unfold ToolBridge.readerStep at hresult
      split at hresult
      · cases hresult
      · split_ifs at hresult
        all_goals
          obtain rfl := Option.some.inj hresult
          rfl
      · obtain rfl := Option.some.inj hresult
        rfl
      · obtain rfl := Option.some.inj hresult
        rfl
    exact ⟨hsame, hinterrupted, patience_le hsame id id⟩

/-- **The tool bridge is exact** in every run in which the event matches its call. -/
theorem tool_bridge_exact {s : BridgeState} {log : List BridgeEvent}
    (run : bridgeMachine.Run (fun s action => s.matchesCall action = true) {} s log) :
    BridgeExact s log := by
  have h : BridgeSafe s.bridge log ∧ BridgeArmed s.bridge := by
    refine Machine.Run.invariant (I := fun s log => BridgeSafe s.bridge log ∧ BridgeArmed s.bridge)
      ⟨?_, .of_unarmed rfl (by simp [SuspendStage.named?, SuspendStage.armed?])⟩ ?_ run
    · refine ⟨by simp, by simp [SuspendStage.taken?], by simp, by simp, by simp⟩
    · intro s s' log events action _ h hmatches hstep
      exact ⟨h.1.preserved hstep, (h.2.preserved hmatches hstep).1⟩
  constructor
  · intro callId result hreturned
    obtain ⟨hown, haccepted, -⟩ := h.1.returned callId result hreturned
    exact ⟨hown, haccepted⟩
  · exact h.1.once
  · intro callId hwaits hinterrupted publishes
    exact h.2.waitEnds hwaits hinterrupted publishes
  · intro action s' events hother hwaits hinterrupted hstep
    exact BridgeState.undisturbed hother hwaits hinterrupted hstep

/-- Two rounds: the second is cancelled while it waits. -/
theorem tool_bridge_exact_rounds : ∃ s log,
    bridgeMachine.Run (fun s action => s.matchesCall action = true) {} s log ∧
      s.bridge.adapter = .checkingCancel (Text.ofString "c2") ∧ s.cancelled = true ∧
      log.countP (·.returns 0) = 1 ∧ BridgeExact s log := by
  obtain ⟨⟨s, log⟩, hexec, hstate⟩ := Option.map_eq_some_iff.mp
    (show (bridgeMachine.exec BridgeState.matchesCall {} []
      ([.suspend (Text.ofString "c1")] ++ List.replicate 4 (.adapter true) ++
        [.deliver (Text.ofString "c1") (Text.ofString "1"), .reader, .reader, .reader] ++
        List.replicate 4 (.adapter true) ++ [.suspend (Text.ofString "c2")] ++
        List.replicate 4 (.adapter true) ++ [.cancel, .adapter true])).map (fun r =>
          (r.1.bridge.adapter, r.1.cancelled, r.2.countP (·.returns 0))) =
      some (.checkingCancel (Text.ofString "c2"), true, 1) by decide +kernel)
  obtain ⟨hadapter, hrest⟩ := Prod.mk.inj hstate
  obtain ⟨hcancelled, hcount⟩ := Prod.mk.inj hrest
  have run := Machine.run_of_exec .refl hexec
  exact ⟨s, log, run, hadapter, hcancelled, hcount, tool_bridge_exact run⟩

/-- **A late duplicate makes the wait spin**: it passes the tests of `deliver` in one round and sets
    the event in the next, whose cancelled wait returns to the same state for ever. -/
theorem tool_bridge_spins : ∃ s log, bridgeMachine.Run (fun _ _ => True) {} s log ∧
    s.bridge.adapter.waitsFor? = some (Text.ofString "c2") ∧ s.cancelled = true ∧
      ∃ s', bridgeMachine.step s (.adapter true) = some (s', []) ∧
        bridgeMachine.step s' (.adapter true) = some (s, [.spun (Text.ofString "c2")]) := by
  obtain ⟨⟨s, log⟩, hexec, hstate⟩ := Option.map_eq_some_iff.mp
    (show (bridgeMachine.exec (fun _ _ => true) {} []
      ([.suspend (Text.ofString "c1")] ++ List.replicate 4 (.adapter true) ++
        [.deliver (Text.ofString "c1") (Text.ofString "1"), .reader, .reader, .reader,
          .deliver (Text.ofString "c1") (Text.ofString "1"), .reader] ++
        List.replicate 4 (.adapter true) ++ [.suspend (Text.ofString "c2")] ++
        List.replicate 4 (.adapter true) ++ [.reader, .reader, .cancel])).map (fun r => r.1) =
      some {
        bridge := {
          suspended := true
          toolCallId := some (Text.ofString "c2")
          toolResult := some ⟨1, Text.ofString "c1", Text.ofString "1"⟩
          event := true
          acceptedResults := 2
          adapter := .waiting (Text.ofString "c2") }
        cancelled := true } by decide +kernel)
  refine ⟨s, log, (Machine.run_of_exec .refl hexec).mono fun _ _ _ => trivial, ?_⟩
  change s = _ at hstate
  rw [hstate]
  exact ⟨rfl, rfl, _, rfl, by decide⟩

end ScarcityRouter
