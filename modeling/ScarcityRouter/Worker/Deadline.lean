import ScarcityRouter.Worker.Bridged

namespace ScarcityRouter

open ScarcityRouter.Lib

/-!
# Deadlines of bridged executions

The loops of `_await_outcome` and `_await_resume` under a clock that never goes back.

* `timedMachine` — the adapter over its endpoint, with the readings of its clock and the deadline of
  each thread.
* `deadlines_bind` — **nothing is forwarded or registered from the deadline on**, and the first turn
  from then on ends its thread, as long as no turn from then on finds a queued chunk or suspension.
* `chunk_forwarded_late` — a worker that keeps sending chunks is served past the deadline.
-/

/-! ### What a turn forwards -/

/-- How the loop of a thread ends. -/
inductive LegEnding where
  /-- With a new suspension. -/
  | suspended
  /-- With the outcome of its attempt, or the error that stands for it. -/
  | outcome
  | cancelled
  /-- `ClientDisconnectedError`. -/
  | disconnected
  /-- `AdapterPermanentError`. -/
  | refused
  /-- `AdapterTimeoutError`. -/
  | timedOut
  deriving DecidableEq

inductive TimedEvent where
  /-- A chunk is given to `emit_chunk`. -/
  | forwarded (thread : ℕ) (time : Instant)
  /-- A suspension enters the table. -/
  | registered (thread : ℕ) (time : Instant)
  | ended (thread : ℕ) (time : Instant) (ending : LegEnding)
  deriving DecidableEq

namespace BridgedState

variable (s : BridgedState)

/-- What the turn of a thread takes from its tracker. -/
def taken? (leg : Leg) (around : Surroundings) : Option Taken :=
  match leg.stage, leg.pending with
  | .waiting, some (j, t) =>
    if around.cancelled && !leg.cancelSent then none
    else ((s.attempts j).attempts[t]?).map (·.tracker.take.1)
  | _, _ => none

/-- What a turn does to the client and to the coordinator, and how it ends the thread. -/
def turnEvents (i : ℕ) (time : Instant) (leg : Leg) (around : Surroundings) :
    Taken → List TimedEvent
  | .item (.chunk message) =>
    match chunkFromDict (.object message.chunk) with
    | .error _ => [.ended i time .refused]
    | .ok _ =>
      if around.cancelled || around.cancelledMeanwhile then [.ended i time .cancelled]
      else if around.disconnects then [.forwarded i time, .ended i time .disconnected]
      else [.forwarded i time]
  | .item (.suspension message) =>
    match s.registerSuspension leg message around.token with
    | none => [.ended i time .refused]
    | some _ =>
      if around.admits then
        if around.disconnects && !(around.cancelled || around.cancelledMeanwhile) then
          [.registered i time, .ended i time .disconnected]
        else [.registered i time, .ended i time .suspended]
      else [.registered i time, .ended i time .refused]
  | .outcome _ => [.ended i time .outcome]
  | .timeout => if around.expired then [.ended i time .timedOut] else []

end BridgedState

/-- A thread that leaves, or that leaves after its cancel. -/
def Leg.leaves (leg : Leg) : Bool := leg.stage = .over || leg.stage = .lookingUp true

/-- A turn ends the thread exactly when it says so. -/
theorem leaves_onTaken {s : BridgedState} {leg : Leg} {around : Surroundings} {taken : Taken} {i : ℕ}
    {time : Instant} (hwaits : leg.stage = .waiting) :
    (s.onTaken leg around taken).2.leaves = true ↔
      ∃ ending, .ended i time ending ∈ s.turnEvents i time leg around taken := by
  have hstays : leg.leaves = false := by simp [Leg.leaves, hwaits]
  have hleave : leg.leave.leaves = true := by simp [Leg.leaves, Leg.leave]
  have hcancel : leg.cancelAndLeave.leaves = true := by simp [Leg.leaves, Leg.cancelAndLeave]
  have honce : leg.cancelOnceAndLeave.leaves = true := by
    unfold Leg.cancelOnceAndLeave
    split_ifs
    · exact hleave
    · exact hcancel
  cases taken with
  | item item =>
    cases item with
    | chunk message =>
      unfold BridgedState.onTaken BridgedState.turnEvents
      dsimp only
      cases chunkFromDict (.object message.chunk) with
      | error _ => simp [hleave]
      | ok _ =>
        dsimp only
        split_ifs <;> simp [hstays, honce]
    | suspension message =>
      unfold BridgedState.onTaken BridgedState.turnEvents BridgedState.onSuspension
      dsimp only
      cases s.registerSuspension leg message around.token with
      | none => simp [hcancel]
      | some _ =>
        dsimp only
        split_ifs <;> simp [hleave, hcancel, honce]
  | outcome outcome => simp [BridgedState.onTaken, BridgedState.turnEvents, hleave]
  | timeout =>
    unfold BridgedState.onTaken BridgedState.turnEvents
    dsimp only
    split_ifs <;> simp [hstays, hcancel]

/-! ### The clock -/

/-- The adapter over its endpoint, at a reading of its clock. -/
structure TimedState where
  bridged : BridgedState := {}
  clock : Instant := 0

inductive TimedAction where
  /-- A later reading of the clock. -/
  | tick (now : Instant)
  | bridged (action : BridgedAction)

namespace TimedState

variable (deadline : ℕ → Instant) (s : TimedState)

/-- A turn finds its deadline passed exactly when the clock has reached it. -/
def onTime : BridgedAction → Bool
  | .leg i around => around.expired = decide (deadline i ≤ s.clock)
  | _ => true

/-- What a step of a thread forwards. -/
def events : BridgedAction → List TimedEvent
  | .leg i around => (s.bridged.legs[i]?).elim [] fun leg =>
      (s.bridged.taken? leg around).elim [] (s.bridged.turnEvents i s.clock leg around)
  | _ => []

/-- A later reading of the clock, or a critical section at its last reading. -/
def step [SecretHash] : TimedAction → Option (TimedState × List TimedEvent)
  | .tick now => if s.clock ≤ now then some ({ s with clock := now }, []) else none
  | .bridged action =>
    if s.onTime deadline action then
      (bridgedMachine.step s.bridged action).map fun result =>
        ({ s with bridged := result.1 }, s.events action)
    else none

/-- A turn that takes a chunk or a suspension does so before its deadline. -/
def takesInTime : TimedAction → Bool
  | .bridged (.leg i around) => (s.bridged.legs[i]?).all fun leg =>
      (s.bridged.taken? leg around).all fun
        | .item _ => s.clock < deadline i
        | _ => true
  | _ => true

end TimedState

/-- The adapter over its endpoint, under a clock; the deadlines are those of its threads. -/
def timedMachine [SecretHash] (deadline : ℕ → Instant) :
    Machine TimedState TimedAction TimedEvent := ⟨fun s action => s.step deadline action⟩

/-! ### Deadlines -/

/-- What a run whose turns take in time keeps: nothing is forwarded or registered from the deadline
    on, and a turn from then on ends its thread, with a timeout or an outcome. -/
structure DeadlinesBind [SecretHash] (deadline : ℕ → Instant) (s : TimedState)
    (log : List TimedEvent) : Prop where
  forwarded : ∀ i time, .forwarded i time ∈ log → time < deadline i
  registered : ∀ i time, .registered i time ∈ log → time < deadline i
  ends : ∀ i leg around taken, s.bridged.legs[i]? = some leg →
    s.bridged.taken? leg around = some taken → deadline i ≤ s.clock → around.expired = true →
    s.takesInTime deadline (.bridged (.leg i around)) = true → ∃ s' ending after,
      (timedMachine deadline).step s (.bridged (.leg i around)) =
          some (s', [.ended i s.clock ending]) ∧
        (ending = .timedOut ∨ ending = .outcome) ∧
        s'.bridged.legs[i]? = some after ∧ after.leaves = true

/-- A chunk or a suspension comes from an item of the tracker. -/
theorem isItem_of_turnEvents {s : BridgedState} {i j : ℕ} {time time' : Instant} {leg : Leg}
    {around : Surroundings} {taken : Taken}
    (h : .forwarded j time' ∈ s.turnEvents i time leg around taken ∨
      .registered j time' ∈ s.turnEvents i time leg around taken) :
    j = i ∧ time' = time ∧ ∃ item, taken = .item item := by
  revert h
  unfold BridgedState.turnEvents
  cases taken with
  | item item =>
    cases item with
    | chunk message =>
      dsimp only
      cases chunkFromDict (.object message.chunk) with
      | error _ => simp
      | ok _ =>
        dsimp only
        split_ifs <;> simp +contextual
    | suspension message =>
      dsimp only
      cases s.registerSuspension leg message around.token with
      | none => simp
      | some _ =>
        dsimp only
        split_ifs <;> simp +contextual
  | outcome outcome => simp
  | timeout =>
    dsimp only
    split_ifs <;> simp

/-- What a step forwards or registers, it took in time. -/
theorem TimedState.lt_deadline {deadline : ℕ → Instant} {s : TimedState} {action : BridgedAction}
    {i : ℕ} {time : Instant} (htakes : s.takesInTime deadline (.bridged action) = true)
    (h : .forwarded i time ∈ s.events action ∨ .registered i time ∈ s.events action) :
    time < deadline i := by
  unfold TimedState.events at h
  cases action with
  | leg j around =>
    dsimp only at h
    unfold TimedState.takesInTime at htakes
    dsimp only at htakes
    cases hleg : s.bridged.legs[j]? with
    | none => simp [hleg] at h
    | some leg =>
      rw [hleg] at h htakes
      rw [Option.all_some] at htakes
      rw [Option.elim_some] at h
      cases htaken : s.bridged.taken? leg around with
      | none => simp [htaken] at h
      | some taken =>
        rw [htaken] at h htakes
        rw [Option.all_some] at htakes
        rw [Option.elim_some] at h
        obtain ⟨rfl, rfl, item, rfl⟩ := isItem_of_turnEvents h
        exact of_decide_eq_true htakes
  | _ => simp at h

/-- **A turn from the deadline on ends as it should exactly when it finds the queue empty.** -/
theorem endsInTime_iff {s : BridgedState} {i : ℕ} {time : Instant} {leg : Leg}
    {around : Surroundings} {taken : Taken} (hexpired : around.expired = true) :
    (∃ ending, (ending = .timedOut ∨ ending = .outcome) ∧
      s.turnEvents i time leg around taken = [.ended i time ending]) ↔
        ∀ item, taken ≠ .item item := by
  constructor
  · rintro ⟨ending, hending, hevents⟩ item rfl
    unfold BridgedState.turnEvents at hevents
    revert hevents
    cases item with
    | chunk message =>
      dsimp only
      cases chunkFromDict (.object message.chunk) with
      | error _ => rcases hending with rfl | rfl <;> simp
      | ok _ =>
        dsimp only
        rcases hending with rfl | rfl <;> split_ifs <;> simp
    | suspension message =>
      dsimp only
      cases s.registerSuspension leg message around.token with
      | none => rcases hending with rfl | rfl <;> simp
      | some _ =>
        dsimp only
        rcases hending with rfl | rfl <;> split_ifs <;> simp
  · intro hempty
    cases taken with
    | item item => exact absurd rfl (hempty item)
    | outcome outcome => exact ⟨.outcome, .inr rfl, rfl⟩
    | timeout => exact ⟨.timedOut, .inl rfl, by simp [BridgedState.turnEvents, hexpired]⟩

/-- A turn that takes something is a step of its thread. -/
theorem BridgedState.turn_of_taken {s : BridgedState} {i : ℕ} {leg : Leg} {around : Surroundings}
    {taken : Taken} (htaken : s.taken? leg around = some taken) :
    leg.stage = .waiting ∧ ∃ t : BridgedState, t.legs = s.legs ∧ s.turn i leg around =
      some ((t.onTaken leg around taken).1.setLeg i (t.onTaken leg around taken).2) := by
  unfold BridgedState.taken? at htaken
  split at htaken
  · rename_i j t hstage hpending
    split_ifs at htaken with hcancel
    obtain ⟨attempt, hattempt, rfl⟩ := Option.map_eq_some_iff.mp htaken
    refine ⟨hstage, s.setAttempts j ((s.attempts j).onTracker t fun _ => attempt.tracker.take.2),
      rfl, ?_⟩
    unfold BridgedState.turn
    rw [if_neg hcancel, hpending]
    dsimp only
    rw [hattempt]
  · cases htaken

/-- **Deadlines bind** in every run whose turns take in time. -/
theorem deadlines_bind [SecretHash] (deadline : ℕ → Instant) (store : WorkerIdentityStore)
    (clock : Instant) {s : TimedState} {log : List TimedEvent}
    (run : (timedMachine deadline).Run (fun s action => s.takesInTime deadline action = true)
      { bridged := { endpoint := { identityStore := store } }, clock := clock } s log) :
    DeadlinesBind deadline s log := by
  have h : ∀ i time, .forwarded i time ∈ log ∨ .registered i time ∈ log → time < deadline i := by
    refine Machine.Run.invariant (I := fun _ log => ∀ i time,
      .forwarded i time ∈ log ∨ .registered i time ∈ log → time < deadline i) (by simp) ?_ run
    intro s s' log events action _ h htakes hstep i time hmem
    have hsplit : (.forwarded i time ∈ log ∨ .registered i time ∈ log) ∨
        (.forwarded i time ∈ events ∨ .registered i time ∈ events) := by
      simp only [List.mem_append] at hmem
      tauto
    rcases hsplit with hold | hnew
    · exact h i time hold
    · change s.step deadline action = some (s', events) at hstep
      unfold TimedState.step at hstep
      cases action with
      | tick now =>
        dsimp only at hstep
        split_ifs at hstep
        obtain ⟨-, rfl⟩ := Prod.mk.inj (Option.some.inj hstep)
        simp at hnew
      | bridged action =>
        dsimp only at hstep
        split_ifs at hstep
        obtain ⟨result, -, hresult⟩ := Option.map_eq_some_iff.mp hstep
        obtain ⟨-, rfl⟩ := Prod.mk.inj hresult
        exact TimedState.lt_deadline htakes hnew
  refine ⟨fun i time hmem => h i time (.inl hmem), fun i time hmem => h i time (.inr hmem), ?_⟩
  intro i leg around taken hleg htaken hdeadline hexpired htakes
  obtain ⟨hstage, t, hlegs, hturn⟩ := s.bridged.turn_of_taken htaken
  -- The turn finds the queue empty: it takes the outcome, or nothing.
  have hempty : ∀ item, taken ≠ .item item := by
    rintro item rfl
    unfold TimedState.takesInTime at htakes
    dsimp only at htakes
    rw [hleg, Option.all_some, htaken, Option.all_some] at htakes
    exact absurd (of_decide_eq_true htakes) (not_lt.mpr hdeadline)
  have hends : ∀ b : BridgedState, ∃ ending, (ending = .timedOut ∨ ending = .outcome) ∧
      b.turnEvents i s.clock leg around taken = [.ended i s.clock ending] := fun _ =>
    (endsInTime_iff hexpired).mpr hempty
  obtain ⟨ending, hending, hevents⟩ := hends s.bridged
  obtain ⟨ending', -, hevents'⟩ := hends t
  have hleaves : (t.onTaken leg around taken).2.leaves = true :=
    (leaves_onTaken hstage).mpr ⟨ending', by rw [hevents']; exact List.mem_singleton_self _⟩
  have hstep : bridgedMachine.step s.bridged (.leg i around) =
      some ((t.onTaken leg around taken).1.setLeg i (t.onTaken leg around taken).2, []) := by
    show (s.bridged.legs[i]?).bind _ = _
    rw [hleg, Option.bind_some]
    unfold BridgedState.legStep
    rw [hstage]
    dsimp only
    rw [hturn]
    rfl
  refine ⟨{ s with
    bridged := (t.onTaken leg around taken).1.setLeg i (t.onTaken leg around taken).2 }, ending,
    (t.onTaken leg around taken).2, ?_, hending, ?_, hleaves⟩
  · show s.step deadline (.bridged (.leg i around)) = _
    unfold TimedState.step
    dsimp only
    have honTime : s.onTime deadline (.leg i around) = true := by
      simp [TimedState.onTime, hexpired, hdeadline]
    have hforwards : s.events (.leg i around) = [.ended i s.clock ending] := by
      simp only [TimedState.events, hleg, Option.elim_some, htaken, hevents]
    rw [if_pos honTime, hstep, hforwards]
    rfl
  · show ((t.onTaken leg around taken).1.legs.set i _)[i]? = _
    rw [(BridgedState.onTaken_spec hstage around taken).2.1, hlegs]
    exact List.getElem?_set_self (List.getElem?_eq_some_iff.mp hleg).1

/-! ### Examples -/

/-- The thread of the attempt has its deadline at time 1000. -/
private def attemptDeadline : ℕ → Instant := fun _ => 1000

/-- A chunk of the attempt, and its delivery to the tracker. -/
private def chunkArrives : List TimedAction :=
  [.bridged (.attempt 0 (.chunk {
      attemptId := .lit "attempt-1"
      chunk := [member "kind" (textJson "text_delta"), member "text" (textJson "a")] })),
    .bridged (.attempt 0 .deliver)]

/-- A chunk is forwarded before the deadline, and silence ends the thread at it. -/
theorem deadlines_bind_silence : let _ := plainSecretHash
    ∃ s, (timedMachine attemptDeadline).Run
        (fun s action => s.takesInTime attemptDeadline action = true)
        { bridged := { endpoint := { identityStore := pairedStore } } } s
        [.forwarded 0 999, .ended 0 1000 .timedOut] ∧
      DeadlinesBind attemptDeadline s [.forwarded 0 999, .ended 0 1000 .timedOut] := by
  intro _
  obtain ⟨s, -, run⟩ := (timedMachine attemptDeadline).exists_run_of_exec
    (TimedState.takesInTime attemptDeadline)
    { bridged := { endpoint := { identityStore := pairedStore } } }
    (attemptWaits.map .bridged ++ [.tick 999] ++ chunkArrives ++
      [.bridged (.leg 0 undisturbed), .tick 1000,
        .bridged (.leg 0 { undisturbed with expired := true })])
    (show _ = some [.forwarded 0 999, .ended 0 1000 .timedOut] by decide +kernel)
  exact ⟨s, run, deadlines_bind attemptDeadline pairedStore 0 run⟩

/-- **A chunk that is queued at the deadline is forwarded**, and the thread goes on. -/
theorem chunk_forwarded_late : let _ := plainSecretHash
    ¬ ∀ s log, (timedMachine attemptDeadline).Run (fun _ _ => True)
        { bridged := { endpoint := { identityStore := pairedStore } } } s log →
      ∀ i time, .forwarded i time ∈ log → time < attemptDeadline i := by
  intro _ h
  obtain ⟨s, hexec, -⟩ := (timedMachine attemptDeadline).exists_run_of_exec (fun _ _ => true)
    { bridged := { endpoint := { identityStore := pairedStore } } }
    (attemptWaits.map .bridged ++ [.tick 1000] ++ chunkArrives ++
      [.bridged (.leg 0 { undisturbed with expired := true })])
    (show _ = some [.forwarded 0 1000] by decide +kernel)
  have hlate := h s _ ((Machine.run_of_exec .refl hexec).mono fun _ _ _ => trivial) 0 1000
    (List.mem_singleton_self _)
  exact absurd hlate (by decide)

end ScarcityRouter
