import Mathlib.Data.List.Infix
import ScarcityRouter.Worker.Messages
import ScarcityRouter.Worker.Sessions

namespace ScarcityRouter

open ScarcityRouter.Lib

/-!
# Attempts of a worker session

`worker_endpoint.py`: the trackers of the executions in flight on one session, under every
interleaving of the threads that share them.

* `PendingAttempt` — the tracker between the read loop and the thread that waits for an execution.
* `AttemptSession.step` — one critical section of one thread: the read loop, a submission, a
  waiter, or the thread that closes the session.
* `AttemptEffect`, `attemptEffect_of_step` — **what a step does** to the trackers, to the table and
  to the threads that resolve.
-/

/-! ### Messages about an attempt -/

/-- `ExecuteChunkMessage`. -/
structure ExecuteChunkMessage where
  attemptId : SafeId
  chunk : Record

/-- `ExecuteToolCallMessage`. -/
structure ExecuteToolCallMessage where
  attemptId : SafeId
  callId : BoundedText 256
  name : BoundedText 256
  arguments : BoundedText 1048576
  content : Option (BoundedText 1048576) := none

/-- `ExecuteResultMessage`. -/
structure ExecuteResultMessage where
  attemptId : SafeId
  status : ExecuteStatus
  calls : List Record := []
  message : Option Json := none
  finishReason : Option SafeId := none
  note : Option (BoundedText 200) := none

/-- `"reasoning" in message`: for an object a key, for a text a part of it, for a list an item, and
    a `TypeError` for everything else. -/
def containsReasoning : Json → Option Bool
  | .object members => some (Record.get? members "reasoning").isSome
  | .string text => some (decide (Text.ofString "reasoning" <:+: text))
  | .list items => some (items.any fun
      | .string text => text = Text.ofString "reasoning"
      | _ => false)
  | _ => none

/-! ### Trackers -/

/-- The statuses of an `AttemptOutcome`. -/
inductive AttemptStatus where
  | completed | failed | cancelled | interrupted
  deriving DecidableEq

/-- The status of an outcome that the worker reported. -/
def ExecuteStatus.outcome : ExecuteStatus → AttemptStatus
  | .completed => .completed
  | .failed => .failed
  | .cancelled => .cancelled

/-- `AttemptOutcome`. -/
structure AttemptOutcome where
  status : AttemptStatus
  result : Option ExecuteResultMessage := none
  note : Option String := none

/-- What the read loop queues for the waiter. -/
inductive TrackerItem where
  | chunk (message : ExecuteChunkMessage)
  | suspension (message : ExecuteToolCallMessage)

namespace TrackerItem

/-- The attempt that an item names. -/
def attemptId : TrackerItem → SafeId
  | chunk message => message.attemptId
  | suspension message => message.attemptId

def isSuspension : TrackerItem → Bool
  | chunk _ => false
  | suspension _ => true

end TrackerItem

/-- `PendingAttempt`. -/
structure PendingAttempt where
  attemptId : SafeId
  items : List TrackerItem := []
  outcome : Option AttemptOutcome := none
  suspensionOutstanding : Bool := false

/-- What `take` returns. -/
inductive Taken where
  | item (item : TrackerItem)
  | outcome (outcome : AttemptOutcome)
  | timeout

namespace PendingAttempt

variable (attempt : PendingAttempt)

/-- `push_chunk`. -/
def pushChunk (message : ExecuteChunkMessage) : PendingAttempt :=
  { attempt with items := attempt.items ++ [.chunk message] }

/-- `push_suspension`; `none` while one is unconsumed. -/
def pushSuspension (message : ExecuteToolCallMessage) : Option PendingAttempt :=
  if attempt.suspensionOutstanding then none
  else some { attempt with
    suspensionOutstanding := true
    items := attempt.items ++ [.suspension message] }

/-- Queue an item. -/
def push : TrackerItem → Option PendingAttempt
  | .chunk message => some (attempt.pushChunk message)
  | .suspension message => attempt.pushSuspension message

/-- `resolve`. -/
def resolve (outcome : AttemptOutcome) : PendingAttempt :=
  { attempt with outcome := attempt.outcome.or (some outcome) }

/-- `take`, once it woke up: one queued item, the terminal outcome, or a timeout. -/
def take : Taken × PendingAttempt :=
  match attempt.items, attempt.outcome with
  | item :: items, _ =>
    (.item item, { attempt with
      items := items
      suspensionOutstanding := attempt.suspensionOutstanding && !item.isSuspension })
  | [], some outcome => (.outcome outcome, attempt)
  | [], none => (.timeout, attempt)

end PendingAttempt

/-- `resolve_interrupted`. -/
def AttemptOutcome.interrupted (note : String) : AttemptOutcome :=
  { status := .interrupted, note := some note }

/-! ### Threads -/

/-- How far the read loop is with a message. -/
inductive ReaderStage where
  | reading
  /-- It found the tracker and queues the item next. -/
  | pushing (tracker : ℕ) (item : TrackerItem)
  /-- It took the tracker out of the table and resolves it next, answering with an error if any. -/
  | resolving (tracker : ℕ) (outcome : AttemptOutcome) (answer : Option String)
  /-- An exception that `run` does not catch ended it. -/
  | dead

/-- How far a call of `submit_execute` is after its critical section. -/
inductive Submission where
  | writing
  /-- The write raised. -/
  | failed
  /-- The attempt is discarded; the session is closed next. -/
  | discarded
  | returned
  | raised
  deriving DecidableEq

/-- A tracker, with the submission that made it. -/
structure TrackedAttempt where
  tracker : PendingAttempt
  submission : Submission := .writing

/-- One critical section of one thread. -/
inductive AttemptAction where
  | submit (attemptId : SafeId)
  /-- The frame of a submission is written. -/
  | written (tracker : ℕ)
  | writeFailed (tracker : ℕ)
  /-- `_discard_attempt` of a submission whose write failed. -/
  | discard (tracker : ℕ)
  /-- The submission raises, after its `close`. -/
  | raise (tracker : ℕ)
  | chunk (message : ExecuteChunkMessage)
  | toolCall (message : ExecuteToolCallMessage)
  | result (message : ExecuteResultMessage)
  | interrupted (attemptId : SafeId)
  /-- The read loop hands over to the tracker it has in hand. -/
  | deliver
  | take (tracker : ℕ)
  /-- `close`, from any thread. -/
  | close (note : String)
  /-- The thread that closed the session resolves its next attempt. -/
  | interruptNext

/-- The attempt that a message names. -/
def AttemptAction.attemptId? : AttemptAction → Option SafeId
  | chunk message => some message.attemptId
  | toolCall message => some message.attemptId
  | result message => some message.attemptId
  | interrupted attemptId => some attemptId
  | _ => none

inductive AttemptEvent where
  | tracked (tracker : ℕ)
  | refused (error : WorkerDispatchError)
  | returned (tracker : ℕ)
  | raised (tracker : ℕ) (error : WorkerDispatchError)
  /-- A tracker left the table. -/
  | left (tracker : ℕ)
  /-- It left because a submission under its id failed. -/
  | discarded (tracker : ℕ)
  /-- It left for a result whose message ended the read loop. -/
  | lost (tracker : ℕ)
  | queued (tracker : ℕ) (item : TrackerItem)
  | resolved (tracker : ℕ) (outcome : AttemptOutcome)
  | took (tracker : ℕ) (taken : Taken)
  /-- An `error` message to the worker, not a fatal one. -/
  | error (code : ProtocolErrorCode) (message : String)
  /-- A protocol failure, which ends the session. -/
  | protocolFailure (error : WorkerProtocolError)

/-! ### The session -/

/-- `MAX_PENDING_ATTEMPTS_PER_SESSION`. -/
def maxPendingAttempts : ℕ := 32

/-- `MAX_INTERRUPTED_ATTEMPT_RECORDS`. -/
def maxInterruptedRecords : ℕ := 256

/-- What the threads of one session share: its trackers in the order of their submissions, and the
    table of the pending ones. -/
structure AttemptSession where
  workerId : Option SafeId := none
  negotiatedVersion : Option ℤ := none
  closed : Bool := false
  attempts : List TrackedAttempt := []
  pending : Table (Prod.fst : SafeId × ℕ → SafeId) := {}
  reader : ReaderStage := .reading
  /-- The attempts that the thread that closed the session has still to resolve. -/
  interrupting : List ℕ := []
  closeNote : String := ""
  /-- The log of the endpoint. -/
  interruptedAttempts : List (Option SafeId × SafeId) := []

namespace AttemptSession

variable (s : AttemptSession)

/-- The session negotiated a version below the given one, or none. -/
def belowVersion (version : ℤ) : Bool := s.negotiatedVersion.all (· < version)

/-- Rewrite one tracked attempt. -/
def onAttempt (i : ℕ) (f : TrackedAttempt → TrackedAttempt) : AttemptSession :=
  { s with attempts := s.attempts.modify i f }

/-- Rewrite one tracker. -/
def onTracker (i : ℕ) (f : PendingAttempt → PendingAttempt) : AttemptSession :=
  s.onAttempt i fun attempt => { attempt with tracker := f attempt.tracker }

/-- A submission goes on to its next stage. -/
def advance (i : ℕ) (stage : Submission) : AttemptSession :=
  s.onAttempt i ({ · with submission := stage })

/-- The critical section of `submit_execute`. -/
def track (attemptId : SafeId) : Except WorkerDispatchError AttemptSession :=
  if s.closed then .error ⟨"worker_offline", "the worker session is closed"⟩
  else if maxPendingAttempts ≤ s.pending.rows.length then
    .error ⟨"worker_overloaded", "the worker session is at its pending-attempt bound"⟩
  else
    match h : s.pending.row? attemptId with
    | some _ =>
      .error ⟨"duplicate_attempt", "an attempt with this id is already in flight on this session"⟩
    | none =>
      .ok { s with
        attempts := s.attempts ++ [{ tracker := { attemptId := attemptId } }]
        pending := s.pending.insert (attemptId, s.attempts.length) h }

/-- The failure of a submission whose write failed. -/
def connectionLost : WorkerDispatchError :=
  ⟨"worker_connection_lost", "the execute request could not be delivered deterministically"⟩

/-- `self._state.pending.pop(attempt_id, None)`. -/
def pop (attemptId : SafeId) : AttemptSession :=
  { s with pending := s.pending.delete (·.1 = attemptId) }

/-- `_discard_attempt`, of a submission. -/
def discardAttempt (i : ℕ) (attemptId : SafeId) : AttemptSession × List AttemptEvent :=
  (((s.pop attemptId).advance i .discarded), match s.pending.row? attemptId with
    | some row => [.left row.2, .discarded row.2]
    | none => [])

/-- The answer to a message about an attempt that is not pending. -/
def unknownAttempt (message : String) : AttemptSession × List AttemptEvent :=
  (s, [.error .attemptUnknown message])

/-- `_route_to_attempt`: the search under the lock. -/
def routeToAttempt (message : ExecuteChunkMessage) : AttemptSession × List AttemptEvent :=
  match s.pending.row? message.attemptId with
  | none =>
    s.unknownAttempt "a chunk arrived for an attempt this session is not tracking"
  | some row => ({ s with reader := .pushing row.2 (.chunk message) }, [])

/-- `_route_suspension`: the search under the lock. -/
def routeSuspension (message : ExecuteToolCallMessage) : AttemptSession × List AttemptEvent :=
  if s.belowVersion 3 then
    (s, [.protocolFailure (.malformed "execute_tool_call requires protocol version 3")])
  else
    match s.pending.row? message.attemptId with
    | none => s.unknownAttempt
        "a tool-call suspension arrived for an attempt this session is not tracking"
    | some row => ({ s with reader := .pushing row.2 (.suspension message) }, [])

/-- How `_complete_attempt` resolves an attempt, and the error it answers with; `none` stands for
    the `TypeError` of a message that is no container. -/
def outcomeOf (message : ExecuteResultMessage) : Option (AttemptOutcome × Option String) :=
  if message.status = .completed && (message.message.isNone || message.finishReason.isNone) then
    some ({ status := .failed
            note := some "the worker reported an incomplete execution result" }, none)
  else
    match if s.belowVersion 4 then message.message.elim (some false) containsReasoning
      else some false with
    | none => none
    | some true =>
      some ({ status := .failed
              note := some ("protocol violation: reasoning member on a session " ++
                "that negotiated below protocol version 4") },
        some "execute_result.message.reasoning requires protocol version 4")
    | some false => some ({ status := message.status.outcome, result := some message }, none)

/-- `_complete_attempt`: the attempt leaves the table under the lock. -/
def completeAttempt (message : ExecuteResultMessage) : AttemptSession × List AttemptEvent :=
  match s.pending.row? message.attemptId with
  | none => s.unknownAttempt "a result arrived for an attempt this session is not tracking"
  | some row =>
    match s.outcomeOf message with
    | none => ({ s.pop message.attemptId with reader := .dead }, [.left row.2, .lost row.2])
    | some (outcome, answer) =>
      ({ s.pop message.attemptId with reader := .resolving row.2 outcome answer }, [.left row.2])

/-- The log of the endpoint records an interrupted attempt. -/
def recordInterrupted (attemptId : SafeId) : AttemptSession :=
  { s with interruptedAttempts :=
      pushRing maxInterruptedRecords s.interruptedAttempts (s.workerId, attemptId) }

/-- `_register_interrupted`: the attempt leaves the table under the lock, and is recorded. -/
def registerInterrupted (attemptId : SafeId) : AttemptSession × List AttemptEvent :=
  match s.pending.row? attemptId with
  | none => ((s.pop attemptId).recordInterrupted attemptId, [])
  | some row =>
    let outcome := AttemptOutcome.interrupted "reported interrupted by the worker"
    ({ (s.pop attemptId).recordInterrupted attemptId with
      reader := .resolving row.2 outcome none }, [.left row.2])

/-- The tracker that the read loop has in hand gets its item or its outcome. -/
def deliver : Option (AttemptSession × List AttemptEvent) :=
  match s.reader with
  | .pushing i item => (s.attempts[i]?).map fun attempt =>
    match attempt.tracker.push item with
    | some tracker => ({ s.onTracker i fun _ => tracker with reader := .reading }, [.queued i item])
    | none => ({ s with reader := .reading }, [.error .malformed
        "a second tool-call suspension arrived for an attempt that already has one"])
  | .resolving i outcome answer =>
    some ({ s.onTracker i (·.resolve outcome) with reader := .reading },
      .resolved i outcome :: answer.toList.map (.error .malformed))
  | .reading | .dead => none

/-- `take`, of the waiter of a tracker. -/
def takeNext (i : ℕ) : Option (AttemptSession × List AttemptEvent) :=
  (s.attempts[i]?).map fun attempt =>
    (s.onTracker i fun _ => attempt.tracker.take.2, [.took i attempt.tracker.take.1])

/-- `close`: the flag and the table, under the lock. -/
def closeSession (note : String) : AttemptSession × List AttemptEvent :=
  if s.closed then (s, [])
  else
    ({ s with
      closed := true
      pending := {}
      interrupting := s.pending.rows.map Prod.snd
      closeNote := if note = "" then "session closed" else note },
    s.pending.rows.map fun row => .left row.2)

/-- `close`: the next pending attempt is resolved. -/
def interruptNext : Option (AttemptSession × List AttemptEvent) :=
  match s.interrupting with
  | [] => none
  | i :: rest =>
    let outcome := AttemptOutcome.interrupted s.closeNote
    some ({ s.onTracker i (·.resolve outcome) with interrupting := rest }, [.resolved i outcome])

/-- A submission at the given stage runs a critical section. -/
def submitting (i : ℕ) (stage : Submission)
    (critical : TrackedAttempt → AttemptSession × List AttemptEvent) :
    Option (AttemptSession × List AttemptEvent) :=
  match s.attempts[i]? with
  | none => none
  | some attempt => if attempt.submission = stage then some (critical attempt) else none

/-- The read loop runs a critical section, with no tracker in hand. -/
def whileReading (critical : AttemptSession × List AttemptEvent) :
    Option (AttemptSession × List AttemptEvent) :=
  match s.reader with
  | .reading => some critical
  | _ => none

/-- One critical section of one thread. -/
def step : AttemptAction → Option (AttemptSession × List AttemptEvent)
  | .submit attemptId =>
    match s.track attemptId with
    | .ok tracking => some (tracking, [.tracked s.attempts.length])
    | .error error => some (s, [.refused error])
  | .written i => s.submitting i .writing fun _ => (s.advance i .returned, [.returned i])
  | .writeFailed i => s.submitting i .writing fun _ => (s.advance i .failed, [])
  | .discard i => s.submitting i .failed fun attempt =>
      s.discardAttempt i attempt.tracker.attemptId
  | .raise i =>
    if s.closed then
      s.submitting i .discarded fun _ => (s.advance i .raised, [.raised i connectionLost])
    else none
  | .chunk message => s.whileReading (s.routeToAttempt message)
  | .toolCall message => s.whileReading (s.routeSuspension message)
  | .result message => s.whileReading (s.completeAttempt message)
  | .interrupted attemptId => s.whileReading (s.registerInterrupted attemptId)
  | .deliver => s.deliver
  | .take i => s.takeNext i
  | .close note => some (s.closeSession note)
  | .interruptNext => s.interruptNext

end AttemptSession

/-- A session of the endpoint and the threads that track its attempts. -/
def attemptMachine : Machine AttemptSession AttemptAction AttemptEvent := ⟨AttemptSession.step⟩

/-! ### What a session and a log tell about one tracker -/

namespace AttemptSession

variable (s : AttemptSession)

/-- The tracker of a submission. -/
def tracker? (i : ℕ) : Option PendingAttempt := (s.attempts[i]?).map TrackedAttempt.tracker

/-- What a tracker still queues. -/
def queue (i : ℕ) : List TrackerItem := (s.tracker? i).elim [] PendingAttempt.items

/-- The outcome of a tracker. -/
def outcome? (i : ℕ) : Option AttemptOutcome := (s.tracker? i).bind PendingAttempt.outcome

/-- The id of a tracker. -/
def attemptId? (i : ℕ) : Option SafeId := (s.tracker? i).map PendingAttempt.attemptId

/-- The trackers in the table. -/
def inTable : List ℕ := s.pending.rows.map Prod.snd

/-- The trackers that a thread took out of the table and still resolves. -/
def inHand : List ℕ :=
  (match s.reader with
    | .resolving i _ _ => [i]
    | _ => []) ++ s.interrupting

end AttemptSession

namespace AttemptEvent

/-- The event tracks the given tracker. -/
def tracks (i : ℕ) : AttemptEvent → Bool
  | tracked j => j = i
  | _ => false

/-- The event takes the given tracker out of the table. -/
def leaves (i : ℕ) : AttemptEvent → Bool
  | left j => j = i
  | _ => false

/-- The event drops the given tracker, which left the table. -/
def drops (i : ℕ) : AttemptEvent → Bool
  | discarded j | lost j => j = i
  | _ => false

/-- The outcome that the event resolves the given tracker with. -/
def resolution (i : ℕ) : AttemptEvent → Option AttemptOutcome
  | resolved j outcome => if j = i then some outcome else none
  | _ => none

/-- The item that the event queues on the given tracker. -/
def queuedOn (i : ℕ) : AttemptEvent → Option TrackerItem
  | queued j item => if j = i then some item else none
  | _ => none

/-- The item that the event takes from the given tracker. -/
def takenFrom (i : ℕ) : AttemptEvent → Option TrackerItem
  | took j (.item item) => if j = i then some item else none
  | _ => none

/-- The event tells nothing about any tracker. -/
def quiet : AttemptEvent → Bool
  | refused _ | returned _ | raised _ _ | error _ _ | protocolFailure _ => true
  | _ => false

end AttemptEvent

/-! ### What one step does -/

/-- What the read loop has in hand names the tracker it is for. -/
def ReaderNames (s : AttemptSession) : Prop :=
  match s.reader with
  | .pushing i item => s.attemptId? i = some item.attemptId
  | .resolving i outcome _ =>
    ∀ message, outcome.result = some message → s.attemptId? i = some message.attemptId
  | .reading | .dead => True

/-- The submission of a tracker failed and discarded its id. -/
def SubmissionFailed (s : AttemptSession) (i : ℕ) : Prop :=
  ∃ attempt, s.attempts[i]? = some attempt ∧
    (attempt.submission = .discarded ∨ attempt.submission = .raised)

/-- How a tracker leaves the table, one at a time: the trackers that the read loop takes in hand,
    and what else the log tells. -/
inductive Departure (s s' : AttemptSession) (attemptId : SafeId) (i : ℕ) :
    List ℕ → List AttemptEvent → Prop
  | held : Departure s s' attemptId i [i] []
  | discarded (j : ℕ) (failed : SubmissionFailed s' j) (same : s.attemptId? j = some attemptId) :
      Departure s s' attemptId i [] [.discarded i]
  | lost (dead : s'.reader = .dead) (below : s.belowVersion 4 = true) :
      Departure s s' attemptId i [] [.lost i]

/-- What a step does to the trackers, to the table and to the threads that resolve. -/
inductive AttemptEffect (s s' : AttemptSession) : List AttemptEvent → Prop
  | still (events : List AttemptEvent) (hquiet : ∀ e ∈ events, e.quiet = true)
      (htrackers : s'.tracker? = s.tracker?) (hrows : s'.pending.rows = s.pending.rows)
      (hhands : s'.inHand = s.inHand) (hclosed : s'.closed = s.closed) : AttemptEffect s s' events
  | tracked (i : ℕ) (attemptId : SafeId) (hopen : s.closed = false)
      (hroom : s.pending.rows.length < maxPendingAttempts) (hnew : s.tracker? i = none)
      (htrackers : s'.tracker? = Function.update s.tracker? i (some { attemptId := attemptId }))
      (hrows : s'.pending.rows = s.pending.rows ++ [(attemptId, i)])
      (hhands : s'.inHand = s.inHand) (hclosed : s'.closed = s.closed) :
      AttemptEffect s s' [.tracked i]
  | popped (attemptId : SafeId) (row : SafeId × ℕ) (hands : List ℕ) (marks : List AttemptEvent)
      (hdeparture : Departure s s' attemptId row.2 hands marks)
      (hfound : s.pending.row? attemptId = some row)
      (htrackers : s'.tracker? = s.tracker?)
      (hrows : s'.pending.rows = s.pending.rows.filter fun other => !decide (other.1 = attemptId))
      (hhands : s'.inHand = hands ++ s.inHand) (hclosed : s'.closed = s.closed) :
      AttemptEffect s s' (.left row.2 :: marks)
  | closed (hopen : s.closed = false) (htrackers : s'.tracker? = s.tracker?)
      (hrows : s'.pending.rows = [])
      (hhands : s.interrupting = [] → s'.inHand = s.inHand ++ s.inTable)
      (hclosed : s'.closed = true) :
      AttemptEffect s s' (s.pending.rows.map fun row => .left row.2)
  | resolved (i : ℕ) (outcome : AttemptOutcome) (answers : List AttemptEvent)
      (hanswers : ∀ e ∈ answers, e.quiet = true)
      (hnamed : outcome.result = none ∨ ∃ answer, s.reader = .resolving i outcome answer)
      (htrackers : s'.tracker? =
        Function.update s.tracker? i ((s.tracker? i).map (·.resolve outcome)))
      (hrows : s'.pending.rows = s.pending.rows)
      (hhands : s.inHand.Perm (i :: s'.inHand)) (hclosed : s'.closed = s.closed) :
      AttemptEffect s s' (.resolved i outcome :: answers)
  | queued (i : ℕ) (item : TrackerItem) (attempt pushed : PendingAttempt)
      (hreader : s.reader = .pushing i item) (hfound : s.tracker? i = some attempt)
      (hpush : attempt.push item = some pushed)
      (htrackers : s'.tracker? = Function.update s.tracker? i (some pushed))
      (hrows : s'.pending.rows = s.pending.rows) (hhands : s'.inHand = s.inHand)
      (hclosed : s'.closed = s.closed) : AttemptEffect s s' [.queued i item]
  | took (i : ℕ) (attempt : PendingAttempt) (hfound : s.tracker? i = some attempt)
      (htrackers : s'.tracker? = Function.update s.tracker? i (some attempt.take.2))
      (hrows : s'.pending.rows = s.pending.rows) (hhands : s'.inHand = s.inHand)
      (hclosed : s'.closed = s.closed) : AttemptEffect s s' [.took i attempt.take.1]

namespace AttemptSession

variable {s s' : AttemptSession} {events : List AttemptEvent}

theorem tracker?_onTracker (i : ℕ) (f : PendingAttempt → PendingAttempt) :
    (s.onTracker i f).tracker? = Function.update s.tracker? i ((s.tracker? i).map f) := by
  funext j
  show ((s.attempts.modify i _)[j]?).map _ = _
  rw [List.getElem?_modify]
  by_cases hij : j = i
  · subst hij
    rw [Function.update_self]
    unfold tracker?
    cases s.attempts[j]? with
    | none => rfl
    | some attempt => simp
  · rw [Function.update_of_ne hij]
    unfold tracker?
    cases s.attempts[j]? with
    | none => rfl
    | some attempt => simp [Ne.symm hij]

theorem tracker?_advance (i : ℕ) (stage : Submission) :
    (s.advance i stage).tracker? = s.tracker? := by
  funext j
  show ((s.attempts.modify i _)[j]?).map _ = (s.attempts[j]?).map _
  rw [List.getElem?_modify, Option.map_eq_map, Option.map_map]
  split_ifs <;> rfl

/-- Recording an interrupted attempt writes to the log of the endpoint alone. -/
theorem exists_recordInterrupted (s : AttemptSession) (attemptId : SafeId) :
    ∃ log, s.recordInterrupted attemptId = { s with interruptedAttempts := log } := ⟨_, rfl⟩

/-- A lookup that fails leaves nothing to pop. -/
theorem pop_of_none {attemptId : SafeId} (h : s.pending.row? attemptId = none) :
    s.pop attemptId = s := by
  have hrows : s.pending.delete (·.1 = attemptId) = s.pending := by
    apply Table.ext
    show s.pending.rows.filter _ = s.pending.rows
    refine List.filter_eq_self.mpr fun row hrow => ?_
    simpa using Table.row?_eq_none.mp h row hrow
  unfold pop
  rw [hrows]

/-- A critical section of a submission leaves it at its stage. -/
theorem submitting_eq_some {i : ℕ} {stage : Submission}
    {critical : TrackedAttempt → AttemptSession × List AttemptEvent}
    {result : AttemptSession × List AttemptEvent} (h : s.submitting i stage critical = some result) :
    ∃ attempt, s.attempts[i]? = some attempt ∧ attempt.submission = stage ∧
      critical attempt = result := by
  unfold submitting at h
  split at h
  · cases h
  · rename_i attempt hfound
    split_ifs at h with hstage
    exact ⟨attempt, hfound, hstage, Option.some.inj h⟩

/-- A critical section of the read loop starts with no tracker in hand. -/
theorem whileReading_eq_some {critical result : AttemptSession × List AttemptEvent}
    (h : s.whileReading critical = some result) : s.reader = .reading ∧ critical = result := by
  unfold whileReading at h
  split at h
  · rename_i hreader
    exact ⟨hreader, Option.some.inj h⟩
  · cases h

/-- A message that is no container is looked into below version 4 only. -/
theorem belowVersion_of_outcomeOf {message : ExecuteResultMessage}
    (h : s.outcomeOf message = none) : s.belowVersion 4 = true := by
  unfold outcomeOf at h
  split at h
  · cases h
  · split at h
    · rename_i hnone
      by_contra hbelow
      rw [if_neg hbelow] at hnone
      cases hnone
    · cases h
    · cases h

/-- While the read loop has no tracker in hand, only a closing thread resolves. -/
theorem inHand_of_reading (h : s.reader = .reading) : s.inHand = s.interrupting := by
  unfold inHand
  rw [h]
  rfl

theorem track_effect {attemptId : SafeId} (h : s.track attemptId = .ok s') :
    AttemptEffect s s' [.tracked s.attempts.length] := by
  unfold track at h
  split_ifs at h with hclosed hroom
  split at h
  · cases h
  · rename_i hfree
    obtain rfl := Except.ok.inj h
    refine .tracked _ attemptId (Bool.eq_false_iff.mpr hclosed) (not_le.mp hroom) ?_ ?_ rfl rfl rfl
    · show (s.attempts[s.attempts.length]?).map _ = none
      rw [List.getElem?_eq_none (le_refl _)]
      rfl
    · funext j
      show ((s.attempts ++ [_])[j]?).map _ = _
      by_cases hj : j = s.attempts.length
      · subst hj
        rw [List.getElem?_concat_length, Function.update_self]
        rfl
      · rw [Function.update_of_ne hj]
        rcases lt_or_gt_of_ne hj with hlt | hgt
        · rw [List.getElem?_append_left hlt]
          rfl
        · show _ = (s.attempts[j]?).map _
          rw [List.getElem?_eq_none (le_of_lt hgt), List.getElem?_eq_none (by simp; omega)]

theorem discardAttempt_effect {i : ℕ} {attempt : TrackedAttempt}
    (hattempt : s.attempts[i]? = some attempt)
    (h : s.discardAttempt i attempt.tracker.attemptId = (s', events)) :
    AttemptEffect s s' events := by
  unfold discardAttempt at h
  obtain ⟨rfl, rfl⟩ := Prod.mk.inj h
  cases hfound : s.pending.row? attempt.tracker.attemptId with
  | none =>
    rw [pop_of_none hfound]
    exact .still _ (by simp) (tracker?_advance i _) rfl rfl rfl
  | some row =>
    have hfailed : SubmissionFailed ((s.pop attempt.tracker.attemptId).advance i .discarded) i :=
      ⟨{ attempt with submission := .discarded }, getElem?_modify_self hattempt, .inl rfl⟩
    have hsame : s.attemptId? i = some attempt.tracker.attemptId := by
      unfold attemptId? tracker?
      rw [hattempt]
      rfl
    exact .popped _ row [] _ (.discarded i hfailed hsame) hfound (tracker?_advance i _) rfl rfl rfl

theorem routeToAttempt_effect {message : ExecuteChunkMessage} (hreading : s.reader = .reading)
    (h : s.routeToAttempt message = (s', events)) : AttemptEffect s s' events := by
  unfold routeToAttempt unknownAttempt at h
  split at h
  all_goals obtain ⟨rfl, rfl⟩ := Prod.mk.inj h
  · exact .still _ (by simp [AttemptEvent.quiet]) rfl rfl rfl rfl
  · exact .still _ (by simp) rfl rfl (inHand_of_reading hreading).symm rfl

theorem routeSuspension_effect {message : ExecuteToolCallMessage} (hreading : s.reader = .reading)
    (h : s.routeSuspension message = (s', events)) : AttemptEffect s s' events := by
  unfold routeSuspension unknownAttempt at h
  split_ifs at h
  · obtain ⟨rfl, rfl⟩ := Prod.mk.inj h
    exact .still _ (by simp [AttemptEvent.quiet]) rfl rfl rfl rfl
  · split at h
    all_goals obtain ⟨rfl, rfl⟩ := Prod.mk.inj h
    · exact .still _ (by simp [AttemptEvent.quiet]) rfl rfl rfl rfl
    · exact .still _ (by simp) rfl rfl (inHand_of_reading hreading).symm rfl

theorem completeAttempt_effect {message : ExecuteResultMessage} (hreading : s.reader = .reading)
    (h : s.completeAttempt message = (s', events)) : AttemptEffect s s' events := by
  unfold completeAttempt unknownAttempt at h
  split at h
  · obtain ⟨rfl, rfl⟩ := Prod.mk.inj h
    exact .still _ (by simp [AttemptEvent.quiet]) rfl rfl rfl rfl
  · rename_i row hfound
    split at h
    all_goals obtain ⟨rfl, rfl⟩ := Prod.mk.inj h
    · rename_i hnone
      exact .popped _ row [] _ (.lost rfl (belowVersion_of_outcomeOf hnone)) hfound rfl rfl
        (inHand_of_reading hreading).symm rfl
    · refine .popped _ row [row.2] _ .held hfound rfl rfl ?_ rfl
      rw [inHand_of_reading hreading]
      rfl

theorem registerInterrupted_effect {attemptId : SafeId} (hreading : s.reader = .reading)
    (h : s.registerInterrupted attemptId = (s', events)) : AttemptEffect s s' events := by
  unfold registerInterrupted at h
  dsimp only at h
  split at h
  all_goals obtain ⟨rfl, rfl⟩ := Prod.mk.inj h
  · rename_i hnone
    obtain ⟨log, hlog⟩ := s.exists_recordInterrupted attemptId
    rw [pop_of_none hnone, hlog]
    exact .still _ (by simp) rfl rfl rfl rfl
  · rename_i row hfound
    obtain ⟨log, hlog⟩ := (s.pop attemptId).exists_recordInterrupted attemptId
    rw [hlog]
    refine .popped _ row [row.2] _ .held hfound rfl rfl ?_ rfl
    rw [inHand_of_reading hreading]
    rfl

theorem deliver_effect (h : s.deliver = some (s', events)) : AttemptEffect s s' events := by
  unfold deliver at h
  split at h
  · rename_i i item hreader
    obtain ⟨attempt, hfound, h⟩ := Option.map_eq_some_iff.mp h
    have htracker : s.tracker? i = some attempt.tracker := by
      unfold tracker?
      rw [hfound]
      rfl
    have hhands : s.inHand = s.interrupting := by
      unfold inHand
      rw [hreader]
      rfl
    split at h
    all_goals obtain ⟨rfl, rfl⟩ := Prod.mk.inj h
    · rename_i pushed hpush _
      refine .queued i item attempt.tracker pushed hreader htracker hpush ?_ rfl
        hhands.symm rfl
      show (s.onTracker i fun _ => pushed).tracker? = _
      rw [tracker?_onTracker, htracker]
      rfl
    · exact .still _ (by simp [AttemptEvent.quiet]) rfl rfl hhands.symm rfl
  · rename_i i outcome answer hreader
    obtain ⟨rfl, rfl⟩ := Prod.mk.inj (Option.some.inj h)
    refine .resolved i outcome _ ?_ (.inr ⟨answer, hreader⟩)
      (tracker?_onTracker i (·.resolve outcome)) rfl ?_ rfl
    · intro e he
      obtain ⟨message, -, rfl⟩ := List.mem_map.mp he
      rfl
    · unfold inHand
      rw [hreader]
      exact .refl _
  · cases h
  · cases h

theorem takeNext_effect {i : ℕ} (h : s.takeNext i = some (s', events)) :
    AttemptEffect s s' events := by
  obtain ⟨attempt, hfound, h⟩ := Option.map_eq_some_iff.mp h
  obtain ⟨rfl, rfl⟩ := Prod.mk.inj h
  have htracker : s.tracker? i = some attempt.tracker := by
    unfold tracker?
    rw [hfound]
    rfl
  refine .took i attempt.tracker htracker ?_ rfl rfl rfl
  rw [tracker?_onTracker, htracker]
  rfl

theorem closeSession_effect {note : String} (h : s.closeSession note = (s', events)) :
    AttemptEffect s s' events := by
  unfold closeSession at h
  split at h
  all_goals obtain ⟨rfl, rfl⟩ := Prod.mk.inj h
  · exact .still _ (by simp) rfl rfl rfl rfl
  · rename_i hclosed
    refine .closed (Bool.eq_false_iff.mpr hclosed) rfl rfl (fun hidle => ?_) rfl
    unfold inHand inTable
    rw [hidle, List.append_nil]

theorem interruptNext_effect (h : s.interruptNext = some (s', events)) :
    AttemptEffect s s' events := by
  unfold interruptNext at h
  split at h
  · cases h
  · rename_i i rest hrest
    obtain ⟨rfl, rfl⟩ := Prod.mk.inj (Option.some.inj h)
    refine .resolved i (.interrupted s.closeNote) [] (by simp) (.inl rfl)
      (tracker?_onTracker i (·.resolve (.interrupted s.closeNote))) rfl ?_ rfl
    unfold inHand
    rw [hrest]
    exact List.perm_middle

end AttemptSession

open AttemptSession in
/-- **What a step does**, whichever thread takes it. -/
theorem attemptEffect_of_step {s s' : AttemptSession} {action : AttemptAction}
    {events : List AttemptEvent} (h : attemptMachine.step s action = some (s', events)) :
    AttemptEffect s s' events := by
  change s.step action = some (s', events) at h
  unfold step at h
  cases action with
  | submit attemptId =>
    dsimp only at h
    split at h
    all_goals obtain ⟨rfl, rfl⟩ := Prod.mk.inj (Option.some.inj h)
    · exact track_effect (by assumption)
    · exact .still _ (by simp [AttemptEvent.quiet]) rfl rfl rfl rfl
  | written i =>
    obtain ⟨_, _, _, h⟩ := submitting_eq_some h
    obtain ⟨rfl, rfl⟩ := Prod.mk.inj h
    exact .still _ (by simp [AttemptEvent.quiet]) (tracker?_advance i _) rfl rfl rfl
  | writeFailed i =>
    obtain ⟨_, _, _, h⟩ := submitting_eq_some h
    obtain ⟨rfl, rfl⟩ := Prod.mk.inj h
    exact .still _ (by simp) (tracker?_advance i _) rfl rfl rfl
  | discard i =>
    obtain ⟨_, hattempt, _, h⟩ := submitting_eq_some h
    exact discardAttempt_effect hattempt h
  | raise i =>
    dsimp only at h
    split_ifs at h
    obtain ⟨_, _, _, h⟩ := submitting_eq_some h
    obtain ⟨rfl, rfl⟩ := Prod.mk.inj h
    exact .still _ (by simp [AttemptEvent.quiet]) (tracker?_advance i _) rfl rfl rfl
  | chunk message =>
    obtain ⟨hreading, h⟩ := whileReading_eq_some h
    exact routeToAttempt_effect hreading h
  | toolCall message =>
    obtain ⟨hreading, h⟩ := whileReading_eq_some h
    exact routeSuspension_effect hreading h
  | result message =>
    obtain ⟨hreading, h⟩ := whileReading_eq_some h
    exact completeAttempt_effect hreading h
  | interrupted attemptId =>
    obtain ⟨hreading, h⟩ := whileReading_eq_some h
    exact registerInterrupted_effect hreading h
  | deliver => exact deliver_effect h
  | take i => exact takeNext_effect h
  | close note => exact closeSession_effect (Option.some.inj h)
  | interruptNext => exact interruptNext_effect h

end ScarcityRouter
