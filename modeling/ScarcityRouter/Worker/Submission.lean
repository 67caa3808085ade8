import ScarcityRouter.Gateway.Errors
import ScarcityRouter.Worker.AttemptRuns

namespace ScarcityRouter

open ScarcityRouter.Lib

/-!
# Submissions to a worker session

`WorkerSession.submit_execute` of `worker_endpoint.py`, and how `worker_bridged_adapter.py` reports
its failures.

* `ExecuteMessage` — the `execute` message of a submission.
* `AttemptSession.submitExecute` — one submission from its first critical section to its last.
* `submitExecute_run` — it is a run of the session's machine.
* `unframed_harmless_iff` — **a message that cannot be framed harms nothing else exactly when it
  was refused before**: the same `except` branch closes the session for it and for a lost
  connection.
-/

/-! ### The message -/

/-- `ExecuteMessage`, with the document of its call. -/
structure ExecuteMessage where
  requestId : SafeId
  attemptId : SafeId
  adapterId : SafeId
  deadline : Text
  call : AdapterCall
  document : Record
  call_document : adapterCallToDict call = some document

/-- `ExecuteMessage.to_payload`. -/
def ExecuteMessage.toPayload (message : ExecuteMessage) : Record :=
  [member "type" (textJson "execute"), member "request_id" message.requestId.json,
    member "attempt_id" message.attemptId.json, member "adapter_id" message.adapterId.json,
    member "deadline" (.string message.deadline), member "call" (.object message.document)]

/-- `FrameWriter.write_message` of the message raises: it has no frame, or its transport fails. -/
def writeFails [FloatFormat] (message : ExecuteMessage) (sends : Bool) : Bool :=
  match encodeFrame (.object message.toPayload) with
  | .ok _ => !sends
  | .error _ => true

/-! ### The submission -/

namespace AttemptSession

/-- `close`: every attempt of the snapshot is resolved. -/
def interruptAll : List ℕ → AttemptSession → AttemptSession
  | [], s => s
  | i :: rest, s => interruptAll rest { s.onTracker i (·.resolve (.interrupted s.closeNote)) with
      interrupting := rest }

/-- `close`, by a thread that nobody interrupts. -/
def closeAll (s : AttemptSession) (note : String) : AttemptSession :=
  interruptAll (s.closeSession note).1.interrupting (s.closeSession note).1

/-- `submit_execute`, by a thread that nobody interrupts: the tracker, or the error raised. -/
def submitExecute [FloatFormat] (s : AttemptSession) (message : ExecuteMessage) (sends : Bool) :
    Except WorkerDispatchError ℕ × AttemptSession :=
  let i := s.attempts.length
  match s.track message.attemptId with
  | .error error => (.error error, s)
  | .ok tracking =>
    if writeFails message sends then
      let discarded := ((tracking.advance i .failed).discardAttempt i message.attemptId).1
      (.error connectionLost, (discarded.closeAll "execute delivery failed").advance i .raised)
    else (.ok i, tracking.advance i .returned)

end AttemptSession

/-- How `_begin` reports a failed submission. -/
def beginFailure (error : WorkerDispatchError) : ExecutionException × String :=
  if error.code = "worker_connection_lost" then
    (.adapterAmbiguous, "the execute request could not be delivered deterministically")
  else if error.code = "duplicate_attempt" then
    (.adapterPermanent, "an attempt with this id is already in flight")
  else (.adapterPermanent, "no connected worker can execute the selected resource")

/-! ### The submission as a run -/

open AttemptSession

variable {s tracking start : AttemptSession} {log : List AttemptEvent}

/-- Steps of one session, in any order. -/
abbrev AttemptRun (start s : AttemptSession) (log : List AttemptEvent) : Prop :=
  attemptMachine.Run (fun _ _ => True) start s log

/-- The closing thread resolves what it has left. -/
theorem interruptAll_run {pending : List ℕ} (run : AttemptRun start s log)
    (h : s.interrupting = pending) : ∃ log', AttemptRun start (interruptAll pending s) log' := by
  induction pending generalizing s log with
  | nil => exact ⟨log, run⟩
  | cons i rest ih =>
    have hstep : attemptMachine.step s .interruptNext =
        some ({ s.onTracker i (·.resolve (.interrupted s.closeNote)) with interrupting := rest },
          [.resolved i (.interrupted s.closeNote)]) := by
      show s.interruptNext = _
      unfold interruptNext
      rw [h]
    exact ih (run.step _ trivial hstep) rfl

theorem closeAll_run (run : AttemptRun start s log) (note : String) :
    ∃ log', AttemptRun start (s.closeAll note) log' :=
  interruptAll_run (run.step (.close note) trivial rfl) rfl

/-- What the critical section of a submission does when it lets the submission in. -/
theorem track_eq_ok {attemptId : SafeId} (h : s.track attemptId = .ok tracking) :
    s.closed = false ∧ tracking.closed = false ∧
      tracking.attempts = s.attempts ++ [{ tracker := { attemptId := attemptId } }] := by
  unfold track at h
  split_ifs at h with hclosed
  split at h
  · cases h
  · obtain rfl := Except.ok.inj h
    exact ⟨Bool.eq_false_iff.mpr hclosed, Bool.eq_false_iff.mpr hclosed, rfl⟩

/-- A closing thread leaves the session closed, and its submissions at their stages. -/
theorem interruptAll_frame (pending : List ℕ) (s : AttemptSession) :
    (interruptAll pending s).closed = s.closed ∧
      ∀ i : ℕ, ((interruptAll pending s).attempts[i]?).map TrackedAttempt.submission =
        (s.attempts[i]?).map TrackedAttempt.submission := by
  induction pending generalizing s with
  | nil => exact ⟨rfl, fun _ => rfl⟩
  | cons j rest ih =>
    obtain ⟨hclosed, hstages⟩ := ih { s.onTracker j (·.resolve (.interrupted s.closeNote)) with
      interrupting := rest }
    refine ⟨hclosed, fun i => (hstages i).trans ?_⟩
    show ((s.attempts.modify j _)[i]?).map _ = _
    rw [List.getElem?_modify]
    cases s.attempts[i]? with
    | none => rfl
    | some attempt => by_cases hij : j = i <;> simp [hij]

theorem closeAll_frame (s : AttemptSession) (note : String) : (s.closeAll note).closed = true ∧
    ∀ i : ℕ, ((s.closeAll note).attempts[i]?).map TrackedAttempt.submission =
      (s.attempts[i]?).map TrackedAttempt.submission := by
  obtain ⟨hclosed, hstages⟩ := interruptAll_frame (s.closeSession note).1.interrupting
    (s.closeSession note).1
  have hsection : (s.closeSession note).1.closed = true ∧
      (s.closeSession note).1.attempts = s.attempts := by
    unfold closeSession
    split
    · exact ⟨by assumption, rfl⟩
    · exact ⟨rfl, rfl⟩
  exact ⟨hclosed.trans hsection.1, fun i => hsection.2 ▸ hstages i⟩

/-- A submission whose write failed: it discards its attempt, closes the session, and raises. -/
theorem failedSubmission_run {i : ℕ} {attemptId : SafeId} (run : AttemptRun start tracking log)
    (hnew : tracking.attempts[i]? = some { tracker := { attemptId := attemptId } }) :
    ∃ log', AttemptRun start ((((tracking.advance i .failed).discardAttempt i attemptId).1.closeAll
      "execute delivery failed").advance i .raised) log' := by
  have hfail : attemptMachine.step tracking (.writeFailed i) =
      some (tracking.advance i .failed, []) := by
    show tracking.submitting i .writing _ = _
    unfold submitting
    rw [hnew]
    rfl
  have hfailed : (tracking.advance i .failed).attempts[i]? =
      some { tracker := { attemptId := attemptId }, submission := .failed } :=
    getElem?_modify_self hnew
  obtain ⟨discarded, hdef⟩ : ∃ discarded,
      ((tracking.advance i .failed).discardAttempt i attemptId).1 = discarded := ⟨_, rfl⟩
  have hdiscard : attemptMachine.step (tracking.advance i .failed) (.discard i) =
      some (discarded, ((tracking.advance i .failed).discardAttempt i attemptId).2) := by
    show (tracking.advance i .failed).submitting i .failed _ = _
    unfold submitting
    rw [hfailed, ← hdef]
    rfl
  have hstage : discarded.attempts[i]? =
      some { tracker := { attemptId := attemptId }, submission := .discarded } := by
    rw [← hdef]
    exact getElem?_modify_self hfailed
  obtain ⟨log', run⟩ := closeAll_run ((run.step _ trivial hfail).step _ trivial hdiscard)
    "execute delivery failed"
  -- The submission is still the one that raises after the close.
  obtain ⟨hclosed, hstages⟩ := closeAll_frame discarded "execute delivery failed"
  have hkept := hstages i
  rw [hstage, Option.map_some] at hkept
  obtain ⟨attempt, hattempt, hdiscarded⟩ := Option.map_eq_some_iff.mp hkept
  have hraise : attemptMachine.step (discarded.closeAll "execute delivery failed") (.raise i) =
      some ((discarded.closeAll "execute delivery failed").advance i .raised,
        [.raised i connectionLost]) := by
    show (if (discarded.closeAll "execute delivery failed").closed = true then
      (discarded.closeAll "execute delivery failed").submitting i .discarded _ else none) = _
    rw [if_pos hclosed]
    unfold submitting
    rw [hattempt]
    exact if_pos hdiscarded
  rw [hdef]
  exact ⟨_, run.step _ trivial hraise⟩

/-- **A submission is a run of the session**: each of its critical sections is a step. -/
theorem submitExecute_run [FloatFormat] (s : AttemptSession) (message : ExecuteMessage)
    (sends : Bool) : ∃ log, AttemptRun s (s.submitExecute message sends).2 log := by
  unfold submitExecute
  dsimp only
  cases htrack : s.track message.attemptId with
  | error error => exact ⟨[], .refl⟩
  | ok tracking =>
    obtain ⟨-, -, hattempts⟩ := track_eq_ok htrack
    have hsubmit : attemptMachine.step s (.submit message.attemptId) =
        some (tracking, [.tracked s.attempts.length]) := by
      change s.step (.submit _) = _
      rw [step, htrack]
    have hnew : tracking.attempts[s.attempts.length]? =
        some { tracker := { attemptId := message.attemptId } } := by
      rw [hattempts]
      exact List.getElem?_concat_length
    have run : AttemptRun s tracking _ := Machine.Run.refl.step _ trivial hsubmit
    dsimp only
    split_ifs with hfails
    · exact failedSubmission_run run hnew
    · have hwritten : attemptMachine.step tracking (.written s.attempts.length) =
          some (tracking.advance s.attempts.length .returned, [.returned s.attempts.length]) := by
        show tracking.submitting _ _ _ = _
        unfold submitting
        rw [hnew]
        rfl
      exact ⟨_, run.step _ trivial hwritten⟩

/-! ### A message without a frame -/

/-- A submission harms nothing else: it raises an error that is definitive and reported as such, the
    session is as open as before, and every other pending attempt stays pending, unchanged and
    unresolved. -/
structure SubmissionHarmless [FloatFormat] (s : AttemptSession) (message : ExecuteMessage)
    (sends : Bool) : Prop where
  definitive : ∃ error, (s.submitExecute message sends).1 = .error error ∧
    (beginFailure error).1 ≠ .adapterAmbiguous
  session_open : (s.submitExecute message sends).2.closed = s.closed
  others : ∀ row ∈ s.pending.rows, row ∈ (s.submitExecute message sends).2.pending.rows ∧
    (s.submitExecute message sends).2.tracker? row.2 = s.tracker? row.2 ∧
    s.outcome? row.2 = none

/-- A submission is refused under its critical section with a definitive error. -/
theorem track_refused {attemptId : SafeId} {error : WorkerDispatchError}
    (h : s.track attemptId = .error error) : (beginFailure error).1 ≠ .adapterAmbiguous := by
  unfold track at h
  split_ifs at h
  · obtain rfl := Except.error.inj h
    decide
  · obtain rfl := Except.error.inj h
    decide
  · split at h
    · obtain rfl := Except.error.inj h
      decide
    · cases h

/-- When a submission is let in. -/
theorem exists_track_eq_ok_iff {attemptId : SafeId} : (∃ tracking, s.track attemptId = .ok tracking) ↔
    ¬ (s.closed = true ∨ maxPendingAttempts ≤ s.pending.rows.length ∨
      (s.pending.row? attemptId).isSome = true) := by
  unfold track
  split_ifs with hclosed hfull
  · simp [hclosed]
  · simp [hfull]
  · split
    · rename_i row hfound
      simp [hfound]
    · rename_i hfree
      simp [hclosed, hfree, not_le.mp hfull]

/-- **A message that cannot be framed harms nothing else exactly when it is refused before it is
    framed**: in a closed session, at the bound, or under an id that is in use. -/
theorem unframed_harmless_iff [FloatFormat] (workerId : Option SafeId)
    (negotiatedVersion : Option ℤ) (run : AttemptRun (.opened workerId negotiatedVersion) s log)
    (message : ExecuteMessage) (sends : Bool) {error : WorkerProtocolError}
    (unframed : encodeFrame (.object message.toPayload) = .error error) :
    SubmissionHarmless s message sends ↔ s.closed = true ∨
      maxPendingAttempts ≤ s.pending.rows.length ∨
      (s.pending.row? message.attemptId).isSome = true := by
  have hfails : writeFails message sends = true := by
    unfold writeFails
    rw [unframed]
  constructor
  · rintro ⟨⟨error, herror, hdefinitive⟩, -, -⟩
    by_contra hlet
    obtain ⟨tracking, htrack⟩ := exists_track_eq_ok_iff.mpr hlet
    -- The failure is the one of a lost connection.
    unfold submitExecute at herror
    rw [htrack] at herror
    dsimp only at herror
    rw [if_pos hfails] at herror
    obtain rfl := Except.error.inj herror
    exact hdefinitive (by decide)
  · intro hrefused
    obtain ⟨error, htrack⟩ : ∃ error, s.track message.attemptId = .error error := by
      cases htrack : s.track message.attemptId with
      | error error => exact ⟨error, rfl⟩
      | ok tracking => exact absurd hrefused (exists_track_eq_ok_iff.mp ⟨tracking, htrack⟩)
    have hsubmit : s.submitExecute message sends = (.error error, s) := by
      unfold submitExecute
      rw [htrack]
    refine ⟨⟨error, by rw [hsubmit], track_refused htrack⟩, by rw [hsubmit], fun row hrow => ?_⟩
    rw [hsubmit]
    refine ⟨hrow, rfl, ?_⟩
    have htable : 0 < s.inTable.count row.2 :=
      List.count_pos_iff.mpr (List.mem_map.mpr ⟨row, hrow, rfl⟩)
    exact ((accounted_of_run run).1.of_inTable htable).2.2.2

/-- A tool whose schema bounds a number by `1e999`, which is read as an infinite float. -/
private def unboundedTool : Record :=
  [member "type" (textJson "function"), member "function" (.object
    [member "name" (textJson "f"), member "parameters" (.object
      [member "maximum" (.float (.infinite false))])])]

/-- The call of a request with that tool. -/
private def unboundedCall : AdapterCall where
  resource :=
    { resourceId := .lit "res-1", channel := .workerBridged, provider := .lit "openai",
      model := .lit "gpt-5", entitlement := .subscriptionIncluded }
  model := { provider := .lit "openai", model := .lit "gpt-5", variant := .lit "default" }
  messages := [{ role := .lit "user" }]
  tools := [.ofRecord unboundedTool]

/-- Its `execute` message. -/
private def unframedMessage : ExecuteMessage where
  requestId := .lit "req-1"
  attemptId := .lit "attempt-1"
  adapterId := .lit "codex"
  deadline := Text.ofString "2026-01-01T00:00:00.000Z"
  call := unboundedCall
  document := callDocument unboundedCall [unboundedTool] .null []
  call_document := rfl

private theorem unframed_unframedMessage : let _ := binaryFormat
    encodeFrame (.object unframedMessage.toPayload) =
      .error (.malformed "frame encoding failed") := by
  intro format
  have hdumps : (Json.object unframedMessage.toPayload).dumps = none := by decide +kernel
  unfold encodeFrame
  rw [hdumps]

/-- Under an id that is in use, the message is refused, and the attempt in flight stays. -/
theorem unframed_harmless_duplicate : let _ := binaryFormat
    ∃ s log, AttemptRun (.opened none (some 4)) s log ∧ s.inTable = [0] ∧
      SubmissionHarmless s unframedMessage true := by
  intro format
  obtain ⟨⟨s, log⟩, hexec, hstate⟩ := Option.map_eq_some_iff.mp
    (show (attemptMachine.exec (fun _ _ => true) (.opened none (some 4)) []
      [.submit (.lit "attempt-1"), .written 0]).map (fun r => (r.1.inTable,
        (r.1.pending.row? (.lit "attempt-1")).isSome)) = some ([0], true) by decide +kernel)
  have run : AttemptRun (.opened none (some 4)) s log :=
    (Machine.run_of_exec .refl hexec).mono fun _ _ _ => trivial
  obtain ⟨htable, hduplicate⟩ := Prod.mk.inj hstate
  exact ⟨s, log, run, htable, (unframed_harmless_iff none (some 4) run unframedMessage true
    unframed_unframedMessage).mpr (.inr (.inr hduplicate))⟩

/-- In an open session, the message closes the session under another attempt. -/
theorem unframed_closes : let _ := binaryFormat
    ¬ ∀ (s : AttemptSession) (log : List AttemptEvent) (message : ExecuteMessage) (sends : Bool)
      (error : WorkerProtocolError), AttemptRun (.opened none (some 4)) s log →
      encodeFrame (.object message.toPayload) = .error error →
      SubmissionHarmless s message sends := by
  intro format hall
  obtain ⟨⟨s, log⟩, hexec, hstate⟩ := Option.map_eq_some_iff.mp
    (show (attemptMachine.exec (fun _ _ => true) (.opened none (some 4)) []
      [.submit (.lit "attempt-0"), .written 0]).map (fun r =>
        ((r.1.submitExecute unframedMessage true).2.closed, r.1.closed)) = some (true, false) by
      decide +kernel)
  have run : AttemptRun (.opened none (some 4)) s log :=
    (Machine.run_of_exec .refl hexec).mono fun _ _ _ => trivial
  obtain ⟨hafter, hbefore⟩ := Prod.mk.inj hstate
  have hopen := (hall s log unframedMessage true _ run unframed_unframedMessage).session_open
  rw [hafter, hbefore] at hopen
  cases hopen

end ScarcityRouter
