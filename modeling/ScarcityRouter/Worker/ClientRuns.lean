import ScarcityRouter.Lib.Positions
import ScarcityRouter.Worker.Client

namespace ScarcityRouter

open ScarcityRouter.Lib

/-!
# Runs of the worker client

What one step of the runtime does to its executions and to its interrupted reports, and when a run
loses a report.

* `ClientLedger` — the service of the runtime: the table of each session, and where each execution
  is.
* `LedgerEffect`, `QueueEffect` — what one step does to the ledger, and to the interrupted reports.
* `reports_delivered` — **an attempt recorded as interrupted stays queued until its report is
  written**, as long as no report fails and no record finds the queue full.
-/

/-! ### The ledger -/

/-- What the runtime is doing for a session. -/
inductive ServicePhase where
  | idle
  /-- The session has no execution yet. -/
  | opening (session : ℕ)
  /-- The session tracks its executions. -/
  | serving (session : ℕ)
  /-- The attempts that `_fail_in_flight` has still to record. -/
  | recording (attempts : List ℕ)
  deriving DecidableEq

def RunStage.phase : RunStage → ServicePhase
  | greeting j | awaitingAck j | draining j _ | reporting j _ _ => .opening j
  | reading j | receiving j | delivering j _ _ _ | depositing j _ | unwinding j _ => .serving j
  | failingInFlight _ attempts _ => .recording attempts
  | idle | connecting | closing _ _ | backingOff | .over _ => .idle

namespace ServicePhase

/-- The attempts that the end of a session has still to record. -/
def unrecorded : ServicePhase → List ℕ
  | recording attempts => attempts
  | _ => []

end ServicePhase

/-- How far an execution is from its settlement. -/
inductive TaskPhase where
  /-- It has no outcome yet. -/
  | pending
  /-- An exception that nothing catches leaves its thread. -/
  | died
  /-- The thread settles its attempt next, or after its `finally` clause. -/
  | engaged
  /-- The thread has settled its attempt, before its `finally` clause. -/
  | settled
  /-- The thread settles its attempt next, after its `finally` clause. -/
  | answering
  | finished
  deriving DecidableEq

def TaskStage.phase : TaskStage → TaskPhase
  | starting | invoking => .pending
  | failing _ | recording | leaving (.returned _) => .engaged
  | leaving .settled => .settled
  | leaving .died => .died
  | answering _ => .answering
  | finished => .finished

/-- The `finally` clause has not run. -/
def TaskPhase.holdsSlot : TaskPhase → Bool
  | answering | finished => false
  | _ => true

/-- What the ledger knows of an execution thread. -/
structure TaskView where
  session : ℕ
  attemptId : SafeId
  phase : TaskPhase
  deriving DecidableEq

def LocalTask.view (task : LocalTask) : TaskView := ⟨task.session, task.attemptId, task.stage.phase⟩

/-- The executions and the tables that track them. -/
structure ClientLedger where
  phase : ServicePhase
  tables : List (Table (Prod.fst : SafeId × ℕ → SafeId))
  tasks : List TaskView

def ClientState.ledger (s : ClientState) : ClientLedger where
  phase := s.stage.phase
  tables := s.sessions.map (·.attempts)
  tasks := s.tasks.map LocalTask.view

/-- The attempt whose report is being sent. -/
def RunStage.inHand : RunStage → Option SafeId
  | reporting _ _ attemptId => some attemptId
  | _ => none

/-- The attempts that are still to be reported. -/
def ClientState.unreported (s : ClientState) : List SafeId :=
  s.stage.inHand.toList ++ s.interrupted

/-! ### Logs -/

/-- The attempt that an event records as interrupted. -/
def ClientEvent.recordedId : ClientEvent → Option SafeId
  | recorded _ attemptId => some attemptId
  | _ => none

/-- The attempt whose report an event writes. -/
def ClientEvent.reportedId : ClientEvent → Option SafeId
  | reported _ attemptId => some attemptId
  | _ => none

/-- The event is the terminal result or the interrupted record of an execution. -/
def ClientEvent.settles (i : ℕ) : ClientEvent → Bool
  | answered (some k) _ | recorded (some k) _ => k = i
  | _ => false

def recordedIds (log : List ClientEvent) : List SafeId := log.filterMap ClientEvent.recordedId

def reportedIds (log : List ClientEvent) : List SafeId := log.filterMap ClientEvent.reportedId

/-- How often an execution was settled. -/
def settlements (i : ℕ) (log : List ClientEvent) : ℕ := log.countP (·.settles i)

@[simp] theorem recordedIds_append (log events : List ClientEvent) :
    recordedIds (log ++ events) = recordedIds log ++ recordedIds events := List.filterMap_append

@[simp] theorem reportedIds_append (log events : List ClientEvent) :
    reportedIds (log ++ events) = reportedIds log ++ reportedIds events := List.filterMap_append

@[simp] theorem settlements_append (i : ℕ) (log events : List ClientEvent) :
    settlements i (log ++ events) = settlements i log + settlements i events := List.countP_append

/-! ### Updates of the state -/

namespace ClientState

variable {s : ClientState} {i j : ℕ}

@[simp] theorem stage_onSession (f : ClientSession → ClientSession) :
    (s.onSession j f).stage = s.stage := rfl

@[simp] theorem stage_onTask (f : LocalTask → LocalTask) : (s.onTask i f).stage = s.stage := rfl

@[simp] theorem unreported_onTask (f : LocalTask → LocalTask) :
    (s.onTask i f).unreported = s.unreported := rfl

@[simp] theorem tasks_recordInterrupted (attemptId : SafeId) :
    (s.recordInterrupted attemptId).tasks = s.tasks := by
  unfold recordInterrupted
  rfl

@[simp] theorem stage_recordInterrupted (attemptId : SafeId) :
    (s.recordInterrupted attemptId).stage = s.stage := by
  unfold recordInterrupted
  rfl

theorem unreported_go {stage : RunStage} (h : stage.inHand = s.stage.inHand) :
    (s.go stage).unreported = s.unreported := by
  unfold unreported go
  rw [h]

@[simp] theorem unreported_advanceTask (stage : TaskStage) :
    (s.advanceTask i stage).unreported = s.unreported := rfl

/-- The ledger does not look at the queue. -/
theorem ledger_setInterrupted (queue : List SafeId) :
    ({ s with interrupted := queue } : ClientState).ledger = s.ledger := rfl

@[simp] theorem ledger_recordInterrupted (attemptId : SafeId) :
    (s.recordInterrupted attemptId).ledger = s.ledger := by
  unfold recordInterrupted
  exact ledger_setInterrupted _

/-- Rewriting a session keeps the ledger when it keeps the session's table. -/
theorem ledger_onSession {f : ClientSession → ClientSession}
    (h : ∀ session, (f session).attempts = session.attempts) :
    (s.onSession j f).ledger = s.ledger := by
  show ClientLedger.mk _ ((s.sessions.modify j f).map _) _ = ClientLedger.mk _ _ _
  rw [map_modify_eq fun session _ => h session]
  rfl

/-- Rewriting a session's table rewrites it in the ledger. -/
theorem ledger_onSession_of {f : ClientSession → ClientSession}
    {g : Table (Prod.fst : SafeId × ℕ → SafeId) → Table (Prod.fst : SafeId × ℕ → SafeId)}
    (h : ∀ session, (f session).attempts = g session.attempts) :
    (s.onSession j f).ledger = { s.ledger with tables := s.ledger.tables.modify j g } := by
  have hmap : (s.sessions.modify j f).map (·.attempts) =
      (s.sessions.map (·.attempts)).modify j g := by
    apply List.ext_getElem?
    intro k
    rw [List.getElem?_map, List.getElem?_modify, List.getElem?_modify, List.getElem?_map]
    cases s.sessions[k]? with
    | none => rfl
    | some session =>
      by_cases hjk : j = k
      · simp [hjk, h]
      · simp [hjk]
  show ClientLedger.mk _ ((s.sessions.modify j f).map _) _ = _
  rw [hmap]
  rfl

/-- Rewriting the flags of an execution thread keeps the ledger. -/
theorem ledger_onTask_of_view {f : LocalTask → LocalTask} (h : ∀ task, (f task).view = task.view) :
    (s.onTask i f).ledger = s.ledger := by
  show ClientLedger.mk _ _ ((s.tasks.modify i f).map _) = ClientLedger.mk _ _ _
  rw [map_modify_eq fun task _ => h task]
  rfl

/-- Rewriting an execution thread sets its view. -/
theorem ledger_onTask {task : LocalTask} {f : LocalTask → LocalTask} (h : s.tasks[i]? = some task) :
    (s.onTask i f).ledger = { s.ledger with tasks := s.ledger.tasks.set i (f task).view } := by
  show ClientLedger.mk _ _ ((s.tasks.modify i f).map _) = _
  rw [map_modify h]
  rfl

end ClientState

/-! ### What one step does -/

/-- The thread of an execution chooses an outcome of its own. -/
def LocalTask.engages (config : ClientConfig) (task : LocalTask) : TaskAction → Bool
  | .begin none => true
  | .begin (some _) => task.adapterId ∉ config.localAdapters
  | .finish .uncaught => false
  | .finish _ => true
  | _ => false

/-- What one step does to the ledger. -/
inductive LedgerEffect (config : ClientConfig) (s : ClientState) :
    ClientAction → ClientLedger → List ClientEvent → Prop
  | kept {action : ClientAction} {events : List ClientEvent}
      (quiet : ∀ i, settlements i events = 0) : LedgerEffect config s action s.ledger events
  | connected {action : ClientAction} (hphase : s.stage.phase = .idle) :
      LedgerEffect config s action
        { s.ledger with
          phase := .opening s.ledger.tables.length
          tables := s.ledger.tables ++ [{}] } []
  | started {action : ClientAction} {j : ℕ} (hphase : s.stage.phase = .opening j) :
      LedgerEffect config s action { s.ledger with phase := .serving j } []
  | ended {action : ClientAction} {events : List ClientEvent}
      (hphase : s.stage.phase = .recording [] ∨ ∃ j, s.stage.phase = .opening j)
      (quiet : ∀ i, settlements i events = 0) :
      LedgerEffect config s action { s.ledger with phase := .idle } events
  | accepted {action : ClientAction} {i j : ℕ} {attemptId : SafeId}
      {table : Table (Prod.fst : SafeId × ℕ → SafeId)} (hphase : s.stage.phase = .serving j)
      (htable : s.ledger.tables[j]? = some table) (h : table.row? attemptId = none)
      (hi : i = s.ledger.tasks.length) :
      LedgerEffect config s action
        { s.ledger with
          tables := s.ledger.tables.set j (table.insert (attemptId, i) h)
          tasks := s.ledger.tasks ++ [⟨j, attemptId, .pending⟩] } [.accepted i attemptId]
  | moved {i : ℕ} {task : LocalTask} {act : TaskAction} {phase : TaskPhase}
      (htask : s.tasks[i]? = some task) (hpending : task.stage.phase = .pending)
      (hphase : phase = .pending ∨ phase = .died ∨
        (phase = .engaged ∧ task.engages config act = true)) :
      LedgerEffect config s (.task i act)
        { s.ledger with
          tasks := s.ledger.tasks.set i { task.view with phase := phase } } []
  | settled {i : ℕ} {task : LocalTask} {act : TaskAction} {phase : TaskPhase} {event : ClientEvent}
      (htask : s.tasks[i]? = some task)
      (hphase : (task.stage.phase = .engaged ∧ phase = .settled) ∨
        (task.stage.phase = .answering ∧ phase = .finished))
      (hevent : ∀ k, event.settles k = decide (i = k)) :
      LedgerEffect config s (.task i act)
        { s.ledger with
          tasks := s.ledger.tasks.set i { task.view with phase := phase } } [event]
  | left {i : ℕ} {task : LocalTask} {phase : TaskPhase} (htask : s.tasks[i]? = some task)
      (hphase : (task.stage.phase = .engaged ∧ phase = .answering) ∨
        (task.stage.phase = .settled ∧ phase = .finished) ∨
        (task.stage.phase = .died ∧ phase = .finished)) :
      LedgerEffect config s (.task i .leave)
        { s.ledger with
          tables := s.ledger.tables.modify task.session (·.delete (·.1 = task.attemptId))
          tasks := s.ledger.tasks.set i { task.view with phase := phase } } []
  | taken {j : ℕ} {raises : Bool} {table : Table (Prod.fst : SafeId × ℕ → SafeId)}
      (hstage : s.stage = .unwinding j raises) (htable : s.ledger.tables[j]? = some table) :
      LedgerEffect config s .takeInFlight
        { s.ledger with
          phase := .recording (table.rows.map Prod.snd)
          tables := s.ledger.tables.modify j fun _ => {} } []
  | recorded {action : ClientAction} {i : ℕ} {rest : List ℕ} {event : ClientEvent}
      (hphase : s.stage.phase = .recording (i :: rest))
      (hevent : ∀ k, event.settles k = decide (i = k)) :
      LedgerEffect config s action { s.ledger with phase := .recording rest } [event]

/-- The result that `_send_result` sends next. -/
def TaskStage.result? : TaskStage → Option ResultMessage
  | failing result | answering result => some result
  | _ => none

section Steps

variable [FloatFormat]

/-- The step records an attempt as interrupted. -/
def ClientState.records (config : ClientConfig) (s : ClientState) : ClientAction → Bool
  | .message (.execute _ attemptId _ _ _) transmits _ =>
    match s.stage with
    | .receiving j => s.sessions[j]?.any fun session =>
        config.maxConcurrentAdapters ≤ session.attempts.rows.length &&
          !s.sends j (ResultMessage.failed attemptId
            (Text.ofString "the worker is at its concurrent-execution bound")).toPayload transmits
    | _ => false
  | .recordInFlight =>
    match s.stage with
    | .failingInFlight _ (_ :: _) _ => true
    | _ => false
  | .task i (.send transmits) => s.tasks[i]?.any fun task =>
      task.stage.result?.any fun result => !s.sends task.session result.toPayload transmits
  | .task _ .record => true
  | _ => false

/-- The report of an interrupted attempt fails. -/
def ClientState.reportFails (s : ClientState) : ClientAction → Bool
  | .report transmits =>
    match s.stage with
    | .reporting j _ attemptId => !s.sends j (interruptedPayload attemptId) transmits
    | _ => false
  | _ => false

/-- What one step does to the interrupted reports. -/
inductive QueueEffect (config : ClientConfig) (s s' : ClientState) :
    ClientAction → List ClientEvent → Prop
  | kept {action : ClientAction} {events : List ClientEvent} (hdue : s'.unreported = s.unreported)
      (hrecorded : recordedIds events = []) (hreported : reportedIds events = []) :
      QueueEffect config s s' action events
  | recorded {action : ClientAction} {task : Option ℕ} {attemptId : SafeId}
      (hrecords : s.records config action = true)
      (hroom : s.interrupted.length < maxInterruptedReports →
        s'.unreported = s.unreported ++ [attemptId]) :
      QueueEffect config s s' action [.recorded task attemptId]
  | reported {action : ClientAction} {j : ℕ} {attemptId : SafeId}
      (hdue : s.unreported = attemptId :: s'.unreported) :
      QueueEffect config s s' action [.reported j attemptId]
  | dropped {action : ClientAction} (hfails : s.reportFails action = true) :
      QueueEffect config s s' action []

/-! ### Inversion -/

namespace ClientState

variable {config : ClientConfig} {s s' : ClientState} {i j : ℕ} {task : LocalTask}
  {action : ClientAction} {events : List ClientEvent}

omit [FloatFormat] in
/-- A queue with room keeps everything. -/
theorem unreported_recordInterrupted (h : s.interrupted.length < maxInterruptedReports)
    (attemptId : SafeId) :
    (s.recordInterrupted attemptId).unreported = s.unreported ++ [attemptId] := by
  unfold unreported recordInterrupted
  dsimp only
  rw [pushRing_of_length_lt h, List.append_assoc]

omit [FloatFormat] in
/-- An execution thread that goes on sets its phase, after an update that the ledger does not
    see. -/
theorem ledger_advanceTask {stage : TaskStage} (hledger : s'.ledger = s.ledger)
    (htask : s'.tasks[i]? = some task) :
    (s'.advanceTask i stage).ledger =
      { s.ledger with
        tasks := s.ledger.tasks.set i { task.view with phase := stage.phase } } := by
  rw [← hledger]
  exact ledger_onTask htask

/-- `_send_result` writes its frame or records its attempt. -/
theorem sendResult_cases (sender : Option ℕ) (result : ResultMessage) (transmits : Bool) :
    (s.sends j result.toPayload transmits = true ∧
      s.sendResult sender j result transmits = (s, [.answered sender result.attemptId])) ∨
    (s.sends j result.toPayload transmits = false ∧
      s.sendResult sender j result transmits =
        (s.recordInterrupted result.attemptId, [.recorded sender result.attemptId])) := by
  unfold sendResult
  cases hsends : s.sends j result.toPayload transmits with
  | true => exact .inl ⟨rfl, rfl⟩
  | false => exact .inr ⟨rfl, rfl⟩

/-- The effects of `_send_result` in an execution thread. -/
theorem effects_of_send {result : ResultMessage} {transmits : Bool} {stage : TaskStage}
    (htask : s.tasks[i]? = some task)
    (hrecords : s.records config (.task i (.send transmits)) =
      !s.sends task.session result.toPayload transmits)
    (hphase : (task.stage.phase = .engaged ∧ stage.phase = .settled) ∨
      (task.stage.phase = .answering ∧ stage.phase = .finished)) :
    LedgerEffect config s (.task i (.send transmits))
        ((s.sendResult (some i) task.session result transmits).1.advanceTask i stage).ledger
        (s.sendResult (some i) task.session result transmits).2 ∧
      QueueEffect config s
        ((s.sendResult (some i) task.session result transmits).1.advanceTask i stage)
        (.task i (.send transmits)) (s.sendResult (some i) task.session result transmits).2 := by
  rcases s.sendResult_cases (j := task.session) (some i) result transmits with
    ⟨-, hsent⟩ | ⟨hsends, hsent⟩
  · rw [hsent, ledger_advanceTask rfl htask]
    refine ⟨.settled htask hphase fun k => ?_, .kept rfl rfl rfl⟩
    rfl
  · have hkept : (s.recordInterrupted result.attemptId).tasks[i]? = some task := by
      rw [tasks_recordInterrupted]
      exact htask
    rw [hsent, ledger_advanceTask (ledger_recordInterrupted _) hkept]
    refine ⟨.settled htask hphase fun k => ?_, .recorded ?_ fun hroom => ?_⟩
    · rfl
    · rw [hrecords, hsends]
      rfl
    · rw [unreported_advanceTask, unreported_recordInterrupted hroom _]

/-- A step that neither the ledger nor the reports see. -/
theorem effects_of_kept (hledger : s'.ledger = s.ledger) (hdue : s'.unreported = s.unreported) :
    LedgerEffect config s action s'.ledger [] ∧ QueueEffect config s s' action [] := by
  rw [hledger]
  exact ⟨.kept fun _ => rfl, .kept hdue rfl rfl⟩

/-- `_start_execution`. -/
theorem effects_of_startExecution {session : ClientSession} {requestId attemptId adapterId : SafeId}
    {deadline : Text} {call : AdapterCall} {transmits saves : Bool}
    (hstage : s.stage = .receiving j) (hsession : s.sessions[j]? = some session)
    (h : (s.go (.reading j)).startExecution config j session attemptId adapterId transmits =
      (s', events)) :
    LedgerEffect config s (.message (.execute requestId attemptId adapterId deadline call)
        transmits saves) s'.ledger events ∧
      QueueEffect config s s' (.message (.execute requestId attemptId adapterId deadline call)
        transmits saves) events := by
  have hledger : (s.go (.reading j)).ledger = s.ledger := by
    show ClientLedger.mk _ _ _ = ClientLedger.mk _ _ _
    rw [hstage]
    rfl
  have hdue : (s.go (.reading j)).unreported = s.unreported := by
    unfold unreported
    rw [hstage]
    rfl
  unfold startExecution at h
  by_cases hbound : config.maxConcurrentAdapters ≤ session.attempts.rows.length
  · rw [if_pos hbound] at h
    rcases (s.go (.reading j)).sendResult_cases (j := j) none (.failed attemptId
        (Text.ofString "the worker is at its concurrent-execution bound")) transmits with
      ⟨-, hsent⟩ | ⟨hsends, hsent⟩
    · rw [hsent] at h
      obtain ⟨rfl, rfl⟩ := Prod.mk.inj h
      rw [hledger]
      exact ⟨.kept fun _ => rfl, .kept hdue rfl rfl⟩
    · rw [hsent] at h
      obtain ⟨rfl, rfl⟩ := Prod.mk.inj h
      rw [ledger_recordInterrupted, hledger]
      refine ⟨.kept fun _ => rfl, .recorded ?_ fun hroom => ?_⟩
      · unfold records
        rw [hstage]
        simp only [hsession, Option.any_some]
        rw [decide_eq_true hbound]
        exact congrArg (!·) hsends
      · rw [unreported_recordInterrupted (s := s.go (.reading j)) hroom _, hdue, ResultMessage.failed]
  · rw [if_neg hbound] at h
    split at h
    · obtain ⟨rfl, rfl⟩ := Prod.mk.inj h
      rw [hledger]
      exact ⟨.kept fun _ => rfl, .kept hdue rfl rfl⟩
    · rename_i hnone
      obtain ⟨rfl, rfl⟩ := Prod.mk.inj h
      refine ⟨?_, .kept hdue rfl rfl⟩
      have htable : s.ledger.tables[j]? = some session.attempts := by
        show (s.sessions.map _)[j]? = _
        rw [List.getElem?_map, hsession, Option.map_some]
      have hserving : s.stage.phase = .serving j := by rw [hstage]; rfl
      have haccepted : LedgerEffect config s (.message (.execute requestId attemptId adapterId
          deadline call) transmits saves) _ [.accepted s.tasks.length attemptId] :=
        .accepted hserving htable hnone (List.length_map _).symm
      convert haccepted using 1
      · show ClientLedger.mk _ ((s.sessions.set j _).map _) ((s.tasks ++ [_]).map _) =
          ClientLedger.mk s.stage.phase _ _
        rw [List.map_set, List.map_append, hstage]
        rfl
      · rfl

/-- `_dispatch`. -/
theorem effects_of_dispatch {session : ClientSession} {message : ServerMessage}
    {transmits saves : Bool} (hstage : s.stage = .receiving j)
    (hsession : s.sessions[j]? = some session)
    (h : (s.go (.reading j)).dispatch config j session transmits saves message = (s', events)) :
    LedgerEffect config s (.message message transmits saves) s'.ledger events ∧
      QueueEffect config s s' (.message message transmits saves) events := by
  have hledger : (s.go (.reading j)).ledger = s.ledger := by
    show ClientLedger.mk _ _ _ = ClientLedger.mk _ _ _
    rw [hstage]
    rfl
  have hdue : (s.go (.reading j)).unreported = s.unreported := by
    unfold unreported
    rw [hstage]
    rfl
  have hflag : ∀ k (f : ClientSession → ClientSession),
      (∀ session, (f session).attempts = session.attempts) →
      ((s.go (.reading j)).onSession k f).ledger = s.ledger := fun k f hf =>
    (ledger_onSession hf).trans hledger
  have htask : ∀ k (f : LocalTask → LocalTask), (∀ task, (f task).view = task.view) →
      ((s.go (.reading j)).onTask k f).ledger = s.ledger := fun k f hf =>
    (ledger_onTask_of_view hf).trans hledger
  cases message with
  | heartbeatAck _ | helloAck _ _ | stateReportAck | pairResult _ _ _ _ =>
    obtain ⟨rfl, rfl⟩ := Prod.mk.inj h
    exact effects_of_kept hledger hdue
  | cancel attemptId =>
    unfold dispatch at h
    dsimp only at h
    split at h
    · obtain ⟨rfl, rfl⟩ := Prod.mk.inj h
      exact effects_of_kept hledger hdue
    · obtain ⟨rfl, rfl⟩ := Prod.mk.inj h
      exact effects_of_kept (htask _ _ fun _ => rfl) hdue
  | execute requestId attemptId adapterId deadline call =>
    exact effects_of_startExecution hstage hsession h
  | executeToolResult attemptId callId content =>
    obtain ⟨rfl, rfl⟩ := Prod.mk.inj h
    unfold deliverToolResult
    split_ifs
    · exact effects_of_kept (hflag _ _ fun _ => rfl) hdue
    · split
      · exact effects_of_kept hledger hdue
      · refine effects_of_kept ?_ ?_
        · show ClientLedger.mk _ _ _ = ClientLedger.mk _ _ _
          rw [hstage]
          rfl
        · unfold unreported
          rw [hstage]
          rfl
  | credentialRotated credential =>
    unfold dispatch at h
    dsimp only at h
    split_ifs at h
    · obtain ⟨rfl, rfl⟩ := Prod.mk.inj h
      refine ⟨?_, .kept hdue rfl rfl⟩
      have hkept : LedgerEffect config s (.message (.credentialRotated credential) transmits saves)
          s.ledger [.persisted credential.1] := .kept fun _ => rfl
      rw [← hflag j ({ · with identity := rotatedIdentity session.identity credential })
        fun _ => rfl] at hkept
      exact hkept
    · obtain ⟨rfl, rfl⟩ := Prod.mk.inj h
      refine effects_of_kept ?_ ?_
      · show ClientLedger.mk _ _ _ = ClientLedger.mk _ _ _
        rw [hstage]
        rfl
      · unfold unreported
        rw [hstage]
        rfl
  | error code text fatal =>
    unfold dispatch at h
    dsimp only at h
    split_ifs at h
    · obtain ⟨rfl, rfl⟩ := Prod.mk.inj h
      exact effects_of_kept (hflag _ _ fun _ => rfl) hdue
    · obtain ⟨rfl, rfl⟩ := Prod.mk.inj h
      exact effects_of_kept hledger hdue

/-- The tool bridge settles nothing. -/
theorem ledger_bridgeStep {bridge : ToolBridge} {transmits : Bool}
    (h : s.bridgeStep i task bridge transmits = some s') :
    s'.ledger = s.ledger ∧ s'.unreported = s.unreported := by
  obtain ⟨result, -, rfl⟩ := Option.map_eq_some_iff.mp h
  have hmoved : (s.setBridge i result.1.bridge).ledger = s.ledger :=
    ledger_onTask_of_view fun _ => rfl
  have hstopped : ((s.setBridge i result.1.bridge).stopSession task.session).ledger =
      (s.setBridge i result.1.bridge).ledger := ledger_onSession fun _ => rfl
  dsimp only
  split_ifs
  · exact ⟨hstopped.trans hmoved, rfl⟩
  · exact ⟨hmoved, rfl⟩

/-- `_execute_task`. -/
theorem effects_of_taskStep {act : TaskAction} (htask : s.tasks[i]? = some task)
    (h : s.taskStep config i task act = some (s', events)) :
    LedgerEffect config s (.task i act) s'.ledger events ∧
      QueueEffect config s s' (.task i act) events := by
  have hmoved : ∀ phase, task.stage.phase = .pending →
      (phase = .pending ∨ phase = .died ∨
        (phase = .engaged ∧ task.engages config act = true)) →
      LedgerEffect config s (.task i act)
        { s.ledger with
          tasks := s.ledger.tasks.set i { task.view with phase := phase } } [] :=
    fun phase hpending hphase => .moved htask hpending hphase
  have hflag : ∀ f : LocalTask → LocalTask, (∀ task, (f task).view = task.view) →
      (s.onTask i f).ledger = s.ledger := fun f hf => ledger_onTask_of_view hf
  unfold taskStep at h
  split at h
  · -- The deadline is malformed.
    rename_i hstage
    obtain ⟨rfl, rfl⟩ := Prod.mk.inj (Option.some.inj h)
    rw [ledger_advanceTask rfl htask]
    exact ⟨hmoved _ (by rw [hstage]; rfl) (.inr (.inr ⟨rfl, rfl⟩)), .kept rfl rfl rfl⟩
  · rename_i remaining hstage
    obtain ⟨rfl, rfl⟩ := Prod.mk.inj (Option.some.inj h)
    rw [ledger_onTask htask]
    refine ⟨hmoved _ (by rw [hstage]; rfl) ?_, .kept rfl rfl rfl⟩
    unfold gate
    by_cases hallowed : task.adapterId ∈ config.localAdapters
    · rw [if_pos hallowed]
      exact .inl rfl
    · rw [if_neg hallowed]
      exact .inr (.inr ⟨rfl, decide_eq_true hallowed⟩)
  · obtain ⟨rfl, rfl⟩ := Prod.mk.inj (Option.some.inj h)
    exact effects_of_kept (hflag _ fun _ => rfl) rfl
  · -- The adapter suspends.
    obtain ⟨bridge, -, hmap⟩ := Option.bind_eq_some_iff.mp h
    obtain ⟨result, -, hresult⟩ := Option.map_eq_some_iff.mp hmap
    obtain ⟨rfl, rfl⟩ := Prod.mk.inj hresult
    exact effects_of_kept (hflag _ fun _ => rfl) rfl
  · obtain ⟨bridge, -, hmap⟩ := Option.bind_eq_some_iff.mp h
    obtain ⟨after, hafter, hresult⟩ := Option.map_eq_some_iff.mp hmap
    obtain ⟨rfl, rfl⟩ := Prod.mk.inj hresult
    exact effects_of_kept (ledger_bridgeStep hafter).1 (ledger_bridgeStep hafter).2
  · -- The adapter ends.
    rename_i outcome hstage
    split_ifs at h
    obtain ⟨rfl, rfl⟩ := Prod.mk.inj (Option.some.inj h)
    rw [ledger_advanceTask rfl htask]
    refine ⟨hmoved _ (by rw [hstage]; rfl) ?_, .kept rfl rfl rfl⟩
    cases outcome with
    | uncaught => exact .inr (.inl rfl)
    | returned _ | notAllowed | protocolError _ | connectionLost => exact .inr (.inr ⟨rfl, rfl⟩)
  · -- An `except` clause answers.
    rename_i result transmits hstage
    obtain ⟨rfl, rfl⟩ := Prod.mk.inj (Option.some.inj h)
    refine effects_of_send htask ?_ (.inl ⟨by rw [hstage]; rfl, rfl⟩)
    unfold records
    dsimp only
    rw [htask, Option.any_some, hstage]
    rfl
  · rename_i hstage
    obtain ⟨rfl, rfl⟩ := Prod.mk.inj (Option.some.inj h)
    have hkept : (s.recordInterrupted task.attemptId).tasks[i]? = some task := by
      rw [tasks_recordInterrupted]
      exact htask
    rw [ledger_advanceTask (ledger_recordInterrupted _) hkept]
    refine ⟨.settled htask (.inl ⟨by rw [hstage]; rfl, rfl⟩) fun k => ?_,
      .recorded rfl fun hroom => ?_⟩
    · rfl
    · rw [unreported_advanceTask, unreported_recordInterrupted hroom _]
  · -- The `finally` clause.
    rename_i ending hstage
    obtain ⟨rfl, rfl⟩ := Prod.mk.inj (Option.some.inj h)
    have hpopped : (s.popAttempt task.session task.attemptId).ledger =
        { s.ledger with
          tables := s.ledger.tables.modify task.session (·.delete (·.1 = task.attemptId)) } :=
      ledger_onSession_of fun _ => rfl
    have hkept : (s.popAttempt task.session task.attemptId).tasks[i]? = some task := htask
    have hleft : ∀ stage : TaskStage,
        ((s.popAttempt task.session task.attemptId).advanceTask i stage).ledger =
          { s.ledger with
            tables := s.ledger.tables.modify task.session (·.delete (·.1 = task.attemptId))
            tasks := s.ledger.tasks.set i { task.view with phase := stage.phase } } :=
      fun stage => (ledger_advanceTask rfl hkept).trans (by rw [hpopped])
    unfold leaveTask
    cases ending with
    | settled =>
      dsimp only
      rw [hleft]
      exact ⟨.left htask (.inr (.inl ⟨by rw [hstage]; rfl, rfl⟩)), .kept rfl rfl rfl⟩
    | died =>
      dsimp only
      rw [hleft]
      exact ⟨.left htask (.inr (.inr ⟨by rw [hstage]; rfl, rfl⟩)), .kept rfl rfl rfl⟩
    | returned result =>
      dsimp only
      rw [hleft]
      exact ⟨.left htask (.inl ⟨by rw [hstage]; rfl, rfl⟩), .kept rfl rfl rfl⟩
  · rename_i result transmits hstage
    obtain ⟨rfl, rfl⟩ := Prod.mk.inj (Option.some.inj h)
    refine effects_of_send htask ?_ (.inr ⟨by rw [hstage]; rfl, rfl⟩)
    unfold records
    dsimp only
    rw [htask, Option.any_some, hstage]
    rfl
  · cases h

/-- The thread of `run` goes on, where the ledger sees nothing. -/
theorem effects_of_same (hphase : s'.stage.phase = s.stage.phase)
    (hhand : s'.stage.inHand = s.stage.inHand) (hsessions : s'.sessions = s.sessions)
    (htasks : s'.tasks = s.tasks) (hqueue : s'.interrupted = s.interrupted) :
    LedgerEffect config s action s'.ledger [] ∧ QueueEffect config s s' action [] := by
  refine effects_of_kept ?_ ?_
  · show ClientLedger.mk _ _ _ = ClientLedger.mk _ _ _
    rw [hphase, hsessions, htasks]
  · unfold unreported
    rw [hhand, hqueue]

/-- The thread of `run` leaves a session that tracks nothing. -/
theorem effects_of_ended {stage : RunStage}
    (hphase : s.stage.phase = .recording [] ∨ ∃ j, s.stage.phase = .opening j)
    (hidle : stage.phase = .idle) (hhand : stage.inHand = s.stage.inHand)
    (quiet : ∀ i, settlements i events = 0) (hrecorded : recordedIds events = [])
    (hreported : reportedIds events = []) :
    LedgerEffect config s action (s.go stage).ledger events ∧
      QueueEffect config s (s.go stage) action events := by
  have hledger : (s.go stage).ledger = { s.ledger with phase := .idle } := by
    show ClientLedger.mk _ _ _ = _
    rw [go, hidle]
    rfl
  rw [hledger]
  refine ⟨.ended hphase quiet, .kept ?_ hrecorded hreported⟩
  unfold unreported go
  rw [hhand]

/-- What one step of the runtime does. -/
theorem effects_of_step (h : (clientMachine config).step s action = some (s', events)) :
    LedgerEffect config s action s'.ledger events ∧ QueueEffect config s s' action events := by
  change s.step config action = some (s', events) at h
  unfold step at h
  cases action with
  | run paired =>
    dsimp only at h
    split at h
    · rename_i hstage _
      obtain ⟨rfl, rfl⟩ := Prod.mk.inj (Option.some.inj h)
      exact effects_of_same (by rw [hstage]; rfl) (by rw [hstage]; rfl) rfl rfl rfl
    · rename_i hstage _
      split_ifs at h
      all_goals
        obtain ⟨rfl, rfl⟩ := Prod.mk.inj (Option.some.inj h)
        exact effects_of_same (by rw [hstage]; rfl) (by rw [hstage]; rfl) rfl rfl rfl
    · cases h
  | connect outcome =>
    dsimp only at h
    split at h
    · rename_i identity hstage hidentity
      split_ifs at h
      · obtain ⟨rfl, rfl⟩ := Prod.mk.inj (Option.some.inj h)
        exact effects_of_same (by rw [hstage]; rfl) (by rw [hstage]; rfl) rfl rfl rfl
      · cases outcome with
        | connected =>
          obtain ⟨rfl, rfl⟩ := Prod.mk.inj (Option.some.inj h)
          refine ⟨?_, .kept ?_ rfl rfl⟩
          · have hconnected : LedgerEffect config s (.connect .connected) _ [] :=
              .connected (by rw [hstage]; rfl)
            convert hconnected using 1
            show ClientLedger.mk (.opening s.sessions.length) ((s.sessions ++ [_]).map _) _ =
              ClientLedger.mk (.opening (s.sessions.map _).length) _ _
            rw [List.map_append, List.length_map]
            rfl
          · unfold unreported
            rw [hstage]
            rfl
        | failed | raised =>
          obtain ⟨rfl, rfl⟩ := Prod.mk.inj (Option.some.inj h)
          exact effects_of_same (by rw [hstage]; rfl) (by rw [hstage]; rfl) rfl rfl rfl
    · cases h
  | greet transmits =>
    dsimp only at h
    split at h
    · rename_i j identity hstage hidentity
      obtain ⟨rfl, rfl⟩ := Prod.mk.inj (Option.some.inj h)
      split_ifs
      · refine ⟨?_, .kept ?_ rfl rfl⟩
        · have hkept : LedgerEffect config s (.greet transmits) s.ledger
              [.hello j identity.credential.1] := .kept fun _ => rfl
          convert hkept using 1
          show ClientLedger.mk _ _ _ = ClientLedger.mk _ _ _
          rw [hstage]
          rfl
        · unfold unreported
          rw [hstage]
          rfl
      · exact effects_of_ended (.inr ⟨j, by rw [hstage]; rfl⟩) rfl (by rw [hstage]; rfl)
          (fun _ => rfl) rfl rfl
    · cases h
  | answer answer =>
    dsimp only at h
    split at h
    · rename_i j hstage
      obtain ⟨rfl, rfl⟩ := Prod.mk.inj (Option.some.inj h)
      have hopening : s.stage.phase = .opening j := by rw [hstage]; rfl
      unfold handshake
      split
      case h_3 =>
        exact effects_of_same (by rw [hstage]; rfl) (by rw [hstage]; rfl) rfl rfl rfl
      all_goals
        exact effects_of_ended (.inr ⟨j, hopening⟩) rfl (by rw [hstage]; rfl) (fun _ => rfl) rfl rfl
    · cases h
  | drain =>
    dsimp only at h
    split at h
    · -- The queue is empty: the read loop starts.
      rename_i j version hstage hempty
      obtain ⟨rfl, rfl⟩ := Prod.mk.inj (Option.some.inj h)
      refine ⟨?_, .kept ?_ rfl rfl⟩
      · have hopening : s.stage.phase = .opening j := by rw [hstage]; rfl
        have hstarted : LedgerEffect config s .drain _ [] := .started hopening
        convert hstarted using 1
        rw [← ledger_onSession (s := s) (j := j) (f := ({ · with version := version }))
          fun _ => rfl]
        rfl
      · unfold unreported
        rw [hstage]
        rfl
    · rename_i j version attemptId rest hstage hqueue
      obtain ⟨rfl, rfl⟩ := Prod.mk.inj (Option.some.inj h)
      refine effects_of_kept ?_ ?_
      · show ClientLedger.mk _ _ _ = ClientLedger.mk _ _ _
        rw [hstage]
        rfl
      · unfold unreported
        rw [hstage, hqueue]
        rfl
    · cases h
  | report transmits =>
    dsimp only at h
    split at h
    · rename_i j version attemptId hstage
      have hopening : s.stage.phase = .opening j := by rw [hstage]; rfl
      split_ifs at h with hsends
      · obtain ⟨rfl, rfl⟩ := Prod.mk.inj (Option.some.inj h)
        refine ⟨?_, .reported ?_⟩
        · have hkept : LedgerEffect config s (.report transmits) s.ledger
              [.reported j attemptId] := .kept fun _ => rfl
          convert hkept using 1
          show ClientLedger.mk _ _ _ = ClientLedger.mk _ _ _
          rw [hstage]
          rfl
        · unfold unreported
          rw [hstage]
          rfl
      · obtain ⟨rfl, rfl⟩ := Prod.mk.inj (Option.some.inj h)
        have hledger : (s.go (.closing j .retry)).ledger = { s.ledger with phase := .idle } := rfl
        rw [hledger]
        refine ⟨.ended (.inr ⟨j, hopening⟩) fun _ => rfl, .dropped ?_⟩
        unfold reportFails
        rw [hstage]
        simpa using hsends
    · cases h
  | poll =>
    dsimp only at h
    split at h
    · rename_i j hstage
      split_ifs at h
      all_goals
        obtain ⟨rfl, rfl⟩ := Prod.mk.inj (Option.some.inj h)
        exact effects_of_same (by rw [hstage]; rfl) (by rw [hstage]; rfl) rfl rfl rfl
    · cases h
  | message message transmits saves =>
    dsimp only at h
    split at h
    · rename_i j hstage
      obtain ⟨session, hsession, hresult⟩ := Option.map_eq_some_iff.mp h
      exact effects_of_dispatch hstage hsession hresult
    · cases h
  | deliver =>
    dsimp only at h
    split at h
    · rename_i j k callId content hstage
      split at h
      · obtain ⟨rfl, rfl⟩ := Prod.mk.inj (Option.some.inj h)
        exact effects_of_same (by rw [hstage]; rfl) (by rw [hstage]; rfl) rfl rfl rfl
      · rename_i bridge _
        obtain ⟨after, -, hresult⟩ := Option.map_eq_some_iff.mp h
        obtain ⟨rfl, rfl⟩ := Prod.mk.inj hresult
        have hmoved : (s.setBridge k after).ledger = s.ledger :=
          ledger_onTask_of_view fun _ => rfl
        refine effects_of_kept ?_ ?_
        · rw [← hmoved]
          show ClientLedger.mk _ _ _ = ClientLedger.mk _ _ _
          rw [go, setBridge, stage_onTask, hstage]
          rfl
        · unfold unreported
          rw [hstage]
          rfl
    · rename_i j k hstage
      split at h
      · obtain ⟨rfl, rfl⟩ := Prod.mk.inj (Option.some.inj h)
        exact effects_of_same (by rw [hstage]; rfl) (by rw [hstage]; rfl) rfl rfl rfl
      · obtain ⟨rfl, rfl⟩ := Prod.mk.inj (Option.some.inj h)
        exact effects_of_kept (ledger_onTask_of_view fun _ => rfl) rfl
    · cases h
  | leave raises =>
    dsimp only at h
    split at h
    · rename_i j hstage
      obtain ⟨rfl, rfl⟩ := Prod.mk.inj (Option.some.inj h)
      exact effects_of_same (by rw [hstage]; rfl) (by rw [hstage]; rfl) rfl rfl rfl
    · cases h
  | takeInFlight =>
    dsimp only at h
    split at h
    · rename_i j raises hstage
      obtain ⟨session, hsession, hresult⟩ := Option.map_eq_some_iff.mp h
      obtain ⟨rfl, rfl⟩ := Prod.mk.inj hresult
      have htable : s.ledger.tables[j]? = some session.attempts := by
        show (s.sessions.map _)[j]? = _
        rw [List.getElem?_map, hsession, Option.map_some]
      refine ⟨?_, .kept ?_ rfl rfl⟩
      · have htaken : LedgerEffect config s .takeInFlight _ _ := .taken hstage htable
        convert htaken using 1
        have hemptied : (s.onSession j ({ · with attempts := {}, stopped := true })).ledger.tables =
            s.ledger.tables.modify j fun _ => {} :=
          congrArg ClientLedger.tables (ledger_onSession_of fun _ => rfl)
        rw [← hemptied]
        rfl
      · unfold unreported
        rw [hstage]
        rfl
    · cases h
  | recordInFlight =>
    dsimp only at h
    split at h
    · rename_i j raises hstage
      obtain ⟨rfl, rfl⟩ := Prod.mk.inj (Option.some.inj h)
      exact effects_of_ended (.inl (by rw [hstage]; rfl)) rfl (by rw [hstage]; rfl) (fun _ => rfl)
        rfl rfl
    · rename_i j i rest raises hstage
      obtain ⟨task, htask, hresult⟩ := Option.map_eq_some_iff.mp h
      obtain ⟨rfl, rfl⟩ := Prod.mk.inj hresult
      have hcancelled : (s.onTask i ({ · with cancelled := true })).ledger = s.ledger :=
        ledger_onTask_of_view fun _ => rfl
      refine ⟨?_, .recorded ?_ fun hroom => ?_⟩
      · have hphase : s.stage.phase = .recording (i :: rest) := by rw [hstage]; rfl
        have hrecorded : LedgerEffect config s .recordInFlight _
            [.recorded (some i) task.attemptId] := .recorded hphase fun _ => rfl
        rw [← hcancelled, ← ledger_recordInterrupted task.attemptId] at hrecorded
        exact hrecorded
      · unfold records
        rw [hstage]
      · have hpushed := unreported_recordInterrupted
          (s := s.onTask i ({ · with cancelled := true })) hroom task.attemptId
        rw [unreported_go, hpushed, unreported_onTask]
        rw [stage_recordInterrupted, stage_onTask, hstage]
        rfl
    · cases h
  | closeTransport =>
    dsimp only at h
    split at h
    · rename_i j ending hstage
      obtain ⟨rfl, rfl⟩ := Prod.mk.inj (Option.some.inj h)
      have hclosed : (s.onSession j ({ · with connected := false })).ledger = s.ledger :=
        ledger_onSession fun _ => rfl
      have hidle : (afterSession ending).phase = .idle ∧ (afterSession ending).inHand = none := by
        cases ending <;> exact ⟨rfl, rfl⟩
      refine effects_of_kept ?_ ?_
      · rw [← hclosed]
        show ClientLedger.mk _ _ _ = ClientLedger.mk _ _ _
        rw [go, hidle.1, stage_onSession, hstage]
        rfl
      · unfold unreported go
        dsimp only
        rw [hidle.2, hstage]
        rfl
    · cases h
  | backOff =>
    dsimp only at h
    split at h
    · rename_i hstage
      split_ifs at h
      all_goals
        obtain ⟨rfl, rfl⟩ := Prod.mk.inj (Option.some.inj h)
        exact effects_of_same (by rw [hstage]; rfl) (by rw [hstage]; rfl) rfl rfl rfl
    · cases h
  | requestStop =>
    dsimp only at h
    split at h
    · obtain ⟨rfl, rfl⟩ := Prod.mk.inj (Option.some.inj h)
      exact effects_of_kept rfl rfl
    · obtain ⟨rfl, rfl⟩ := Prod.mk.inj (Option.some.inj h)
      exact effects_of_kept (ledger_onSession (s := { s with stopRequested := true })
        fun _ => rfl) rfl
  | task i act =>
    obtain ⟨task, htask, hstep⟩ := Option.bind_eq_some_iff.mp h
    exact effects_of_taskStep htask hstep

end ClientState

/-! ### Interrupted reports -/

section Reports

variable {config : ClientConfig} {s : ClientState} {log : List ClientEvent}

/-- No report fails, and no record finds the queue full. -/
def ClientState.keepsReports (config : ClientConfig) (s : ClientState) (action : ClientAction) :
    Bool :=
  !s.reportFails action &&
    (!s.records config action || decide (s.interrupted.length < maxInterruptedReports))

/-- The attempts recorded as interrupted are, in their order, those whose reports are written, the
    one whose report is being sent, and those that are queued. -/
structure ReportsDelivered (s : ClientState) (log : List ClientEvent) : Prop where
  in_order : recordedIds log = reportedIds log ++ (s.stage.inHand.toList ++ s.interrupted)
  delivered : ∀ task attemptId, .recorded task attemptId ∈ log →
    attemptId ∈ s.interrupted ∨ s.stage.inHand = some attemptId ∨ ∃ j, .reported j attemptId ∈ log

/-- One step that keeps the reports keeps their order. -/
theorem reports_step {s' : ClientState} {action : ClientAction} {events : List ClientEvent}
    (hkeeps : s.keepsReports config action = true)
    (h : recordedIds log = reportedIds log ++ s.unreported)
    (heffect : QueueEffect config s s' action events) :
    recordedIds (log ++ events) = reportedIds (log ++ events) ++ s'.unreported := by
  obtain ⟨hwritten, hroom⟩ := Bool.and_eq_true_iff.mp hkeeps
  rw [recordedIds_append, reportedIds_append, h]
  cases heffect with
  | kept hdue hrecorded hreported => rw [hdue, hrecorded, hreported, List.append_nil, List.append_nil]
  | recorded hrecords hpushed =>
    rw [hrecords, Bool.not_true, Bool.false_or, decide_eq_true_eq] at hroom
    rw [hpushed hroom, List.append_assoc, List.append_assoc]
    rfl
  | reported hdue =>
    rw [hdue]
    simp [recordedIds, reportedIds, ClientEvent.recordedId, ClientEvent.reportedId]
  | dropped hfails =>
    rw [hfails] at hwritten
    cases hwritten

/-- **Interrupted reports are delivered**: in every run in which no report fails and no record finds
    the queue full. -/
theorem reports_delivered (config : ClientConfig) (stored : Option WorkerLocalIdentity)
    (run : (clientMachine config).Run (fun s action => s.keepsReports config action = true)
      { stored := stored } s log) : ReportsDelivered s log := by
  have h : recordedIds log = reportedIds log ++ s.unreported := by
    refine Machine.Run.invariant
      (I := fun s log => recordedIds log = reportedIds log ++ s.unreported) rfl ?_ run
    intro s s' log events action _ h hkeeps hstep
    exact reports_step hkeeps h (ClientState.effects_of_step hstep).2
  refine ⟨h, fun task attemptId hmem => ?_⟩
  have hrecorded : attemptId ∈ recordedIds log := List.mem_filterMap.mpr ⟨_, hmem, rfl⟩
  rw [h, List.mem_append, ClientState.unreported, List.mem_append, Option.mem_toList] at hrecorded
  rcases hrecorded with hreported | hhand | hqueued
  · obtain ⟨event, hevent, hid⟩ := List.mem_filterMap.mp hreported
    cases event with
    | reported j id =>
      obtain rfl := Option.some.inj hid
      exact .inr (.inr ⟨j, hevent⟩)
    | hello _ _ | persisted _ | accepted _ _ | answered _ _ | recorded _ _ => cases hid
  · exact .inr (.inl hhand)
  · exact .inl hqueued

end Reports

end Steps

/-! ### Examples -/

/-- The identity of a paired worker. -/
def pairedIdentity : WorkerLocalIdentity where
  workerId := .lit "w-0a"
  credential := ⟨Text.ofString "c0", by decide, by decide⟩
  serverOrigin := ⟨Text.ofString "srws://router:8790", by decide, by decide⟩

/-- A worker with one local adapter. -/
def codexWorker : ClientConfig where
  localAdapters := [.lit "codex"]

/-- A connection is accepted at protocol version 4. -/
def helloAccepted : List ClientAction :=
  [.connect .connected, .greet true,
    .answer (.message (.helloAck ⟨4, by decide⟩ ⟨15, by decide⟩))]

/-- The server dispatches an attempt to the local adapter. -/
def attemptDispatched (attemptId : SafeId) : List ClientAction :=
  [.poll, .message (.execute (.lit "req-1") attemptId (.lit "codex")
    (Text.ofString "2026-01-01T00:00:00.000Z") {
      resource := {
        resourceId := .lit "res-1"
        channel := .workerBridged
        provider := .lit "openai"
        model := .lit "gpt-5"
        entitlement := .subscriptionIncluded }
      model := { provider := .lit "openai", model := .lit "gpt-5", variant := .lit "default" }
      messages := [{ role := .lit "user" }] }) true true]

/-- The connection is lost, and the one attempt in flight is recorded. -/
def connectionLost : List ClientAction :=
  [.poll, .leave false, .takeInFlight, .recordInFlight, .recordInFlight, .closeTransport, .backOff]

/-- An attempt is interrupted, and the worker reconnects and takes its record from the queue. -/
def reconnected : List ClientAction :=
  .run true :: helloAccepted ++ [.drain] ++ attemptDispatched (.lit "attempt-1") ++
    connectionLost ++ helloAccepted ++ [.drain]

theorem reports_delivered_reconnected : let _ := binaryFormat
    ∃ s log, (clientMachine codexWorker).Run
        (fun s action => s.keepsReports codexWorker action = true)
        { stored := some pairedIdentity } s log ∧
      .recorded (some 0) (.lit "attempt-1") ∈ log ∧ ReportsDelivered s log := by
  intro _
  obtain ⟨s, -, run⟩ := (clientMachine codexWorker).exists_run_of_exec
    (ClientState.keepsReports codexWorker) { stored := some pairedIdentity }
    (reconnected ++ [.report true, .drain])
    (show _ = some [.hello 0 (Text.ofString "c0"), .accepted 0 (.lit "attempt-1"),
      .recorded (some 0) (.lit "attempt-1"), .hello 1 (Text.ofString "c0"),
      .reported 1 (.lit "attempt-1")] by decide +kernel)
  exact ⟨s, _, run, by simp, reports_delivered codexWorker _ run⟩

/-- **A report that fails drops its record**: the attempt is neither queued nor reported. -/
theorem report_dropped : let _ := binaryFormat
    ¬ ∀ s log, (clientMachine codexWorker).Run (fun _ _ => True)
        { stored := some pairedIdentity } s log → ∀ task attemptId,
      .recorded task attemptId ∈ log → attemptId ∈ s.interrupted ∨
        s.stage.inHand = some attemptId ∨ ∃ j, .reported j attemptId ∈ log := by
  intro _ h
  obtain ⟨⟨s, log⟩, hexec, hstate⟩ := Option.map_eq_some_iff.mp
    (show ((clientMachine codexWorker).exec (fun _ _ => true) { stored := some pairedIdentity } []
      (reconnected ++ [.report false])).map (fun r =>
        (r.1.interrupted, r.1.stage.inHand, r.2)) =
      some ([], none, [.hello 0 (Text.ofString "c0"), .accepted 0 (.lit "attempt-1"),
        .recorded (some 0) (.lit "attempt-1"), .hello 1 (Text.ofString "c0")]) by decide +kernel)
  obtain ⟨hqueue, hrest⟩ := Prod.mk.inj hstate
  obtain ⟨hhand, hlog⟩ := Prod.mk.inj hrest
  have run := (Machine.run_of_exec .refl hexec).mono fun _ _ _ => trivial
  have hdelivered := h s log run (some 0) (.lit "attempt-1")
  change log = _ at hlog
  rw [hqueue, hhand, hlog] at hdelivered
  simp at hdelivered

end ScarcityRouter
