import ScarcityRouter.Worker.ClientRuns
import ScarcityRouter.Worker.IdentityStore

namespace ScarcityRouter

open ScarcityRouter.Lib

/-!
# Credential rotation on the worker

Which credential a hello carries when rotations were persisted before it.

* `CredentialEffect` — what one step does to the persisted identity: `run` loads it once, a rotation
  persists it anew.
* `hellos_current` — **every hello carries the persisted credential**, as long as none is sent after
  a rotation that its runtime has persisted.
-/

/-! ### What is persisted -/

/-- The credential that a log persists last, over an initial one. -/
def persistedCredential (initial : Option Text) (log : List ClientEvent) : Option Text :=
  log.foldl (fun last event =>
    match event with
    | .persisted credential => some credential
    | _ => last) initial

/-- The credential that an event sends or persists. -/
def ClientEvent.credential? : ClientEvent → Option Text
  | hello _ credential | persisted credential => some credential
  | _ => none

theorem persistedCredential_append (initial : Option Text) (log events : List ClientEvent) :
    persistedCredential initial (log ++ events) =
      persistedCredential (persistedCredential initial log) events := List.foldl_append

/-- Events without a credential persist none. -/
theorem persistedCredential_of_quiet {initial : Option Text} {events : List ClientEvent}
    (quiet : ∀ event ∈ events, event.credential? = none) :
    persistedCredential initial events = initial := by
  induction events with
  | nil => rfl
  | cons event events ih =>
    have hevent := quiet event List.mem_cons_self
    have hrest := ih fun e he => quiet e (List.mem_cons_of_mem _ he)
    cases event with
    | hello _ _ | persisted _ => cases hevent
    | accepted _ _ | answered _ _ | recorded _ _ | reported _ _ => exact hrest

/-- The credential of the stored identity. -/
def ClientState.persisted (s : ClientState) : Option Text := s.stored.map (·.credential.1)

/-! ### What one step does -/

/-- What one step does to the persisted identity. -/
inductive CredentialEffect (s s' : ClientState) : ClientAction → List ClientEvent → Prop
  | kept {action : ClientAction} {events : List ClientEvent} (hstored : s'.stored = s.stored)
      (quiet : ∀ event ∈ events, event.credential? = none) : CredentialEffect s s' action events
  | greeted {transmits : Bool} {j : ℕ} {identity : WorkerLocalIdentity}
      (hstage : s.stage = .greeting j) (hidentity : s.identity = some identity)
      (hstored : s'.stored = s.stored) :
      CredentialEffect s s' (.greet transmits) [.hello j identity.credential.1]
  | rotated {action : ClientAction} {identity : WorkerLocalIdentity}
      (hstored : s'.stored = some identity) :
      CredentialEffect s s' action [.persisted identity.credential.1]

namespace ClientState

variable [FloatFormat] {config : ClientConfig} {s s' : ClientState} {i j : ℕ} {task : LocalTask}
  {action : ClientAction} {events : List ClientEvent}

omit [FloatFormat] in
theorem stored_advanceTask (stage : TaskStage) : (s.advanceTask i stage).stored = s.stored := rfl

omit [FloatFormat] in
theorem stored_go (stage : RunStage) : (s.go stage).stored = s.stored := rfl

omit [FloatFormat] in
theorem stored_recordInterrupted (attemptId : SafeId) :
    (s.recordInterrupted attemptId).stored = s.stored := by
  unfold recordInterrupted
  rfl

/-- `_send_result` persists nothing. -/
theorem stored_sendResult (sender : Option ℕ) (result : ResultMessage) (transmits : Bool) :
    (s.sendResult sender j result transmits).1.stored = s.stored ∧
      ∀ event ∈ (s.sendResult sender j result transmits).2, event.credential? = none := by
  rcases s.sendResult_cases (j := j) sender result transmits with ⟨-, hsent⟩ | ⟨-, hsent⟩
  · rw [hsent]
    exact ⟨rfl, by simp [ClientEvent.credential?]⟩
  · rw [hsent]
    exact ⟨stored_recordInterrupted _, by simp [ClientEvent.credential?]⟩

/-- The tool bridge persists nothing. -/
theorem stored_bridgeStep {bridge : ToolBridge} {transmits : Bool}
    (h : s.bridgeStep i task bridge transmits = some s') : s'.stored = s.stored := by
  obtain ⟨result, -, rfl⟩ := Option.map_eq_some_iff.mp h
  dsimp only
  split_ifs <;> rfl

/-- `_execute_task` persists nothing. -/
theorem stored_taskStep {act : TaskAction} (h : s.taskStep config i task act = some (s', events)) :
    s'.stored = s.stored ∧ ∀ event ∈ events, event.credential? = none := by
  unfold taskStep at h
  split at h
  case h_4 =>
    obtain ⟨bridge, -, hmap⟩ := Option.bind_eq_some_iff.mp h
    obtain ⟨result, -, hresult⟩ := Option.map_eq_some_iff.mp hmap
    obtain ⟨rfl, rfl⟩ := Prod.mk.inj hresult
    exact ⟨rfl, by simp⟩
  case h_5 =>
    obtain ⟨bridge, -, hmap⟩ := Option.bind_eq_some_iff.mp h
    obtain ⟨after, hafter, hresult⟩ := Option.map_eq_some_iff.mp hmap
    obtain ⟨rfl, rfl⟩ := Prod.mk.inj hresult
    exact ⟨stored_bridgeStep hafter, by simp⟩
  case h_6 =>
    split_ifs at h
    obtain ⟨rfl, rfl⟩ := Prod.mk.inj (Option.some.inj h)
    exact ⟨rfl, by simp⟩
  case h_8 =>
    obtain ⟨rfl, rfl⟩ := Prod.mk.inj (Option.some.inj h)
    refine ⟨?_, by simp [ClientEvent.credential?]⟩
    rw [stored_advanceTask, stored_recordInterrupted]
  case h_9 =>
    rename_i ending _
    obtain ⟨rfl, rfl⟩ := Prod.mk.inj (Option.some.inj h)
    refine ⟨?_, by simp⟩
    unfold leaveTask
    cases ending <;> rfl
  case h_11 => cases h
  case h_7 | h_10 =>
    obtain ⟨rfl, rfl⟩ := Prod.mk.inj (Option.some.inj h)
    exact stored_sendResult _ _ _
  all_goals
    obtain ⟨rfl, rfl⟩ := Prod.mk.inj (Option.some.inj h)
    exact ⟨rfl, by simp⟩

/-- `_start_execution` persists nothing. -/
theorem stored_startExecution {session : ClientSession} {attemptId adapterId : SafeId}
    {transmits : Bool}
    (h : s.startExecution config j session attemptId adapterId transmits = (s', events)) :
    s'.stored = s.stored ∧ ∀ event ∈ events, event.credential? = none := by
  unfold startExecution at h
  by_cases hbound : config.maxConcurrentAdapters ≤ session.attempts.rows.length
  · rw [if_pos hbound] at h
    have hsent := stored_sendResult (s := s) (j := j) none (.failed attemptId
      (Text.ofString "the worker is at its concurrent-execution bound")) transmits
    rw [h] at hsent
    exact hsent
  · rw [if_neg hbound] at h
    split at h
    all_goals
      obtain ⟨rfl, rfl⟩ := Prod.mk.inj h
      exact ⟨rfl, by simp [ClientEvent.credential?]⟩

/-- `_dispatch` persists the credential of a rotation. -/
theorem credentialEffect_of_dispatch {session : ClientSession} {message : ServerMessage}
    {transmits saves : Bool} {t : ClientState} (hstored : t.stored = s.stored)
    (h : t.dispatch config j session transmits saves message = (s', events)) :
    CredentialEffect s s' (.message message transmits saves) events := by
  unfold dispatch at h
  cases message with
  | heartbeatAck _ | helloAck _ _ | stateReportAck | pairResult _ _ _ _ =>
    obtain ⟨rfl, rfl⟩ := Prod.mk.inj h
    exact .kept hstored (by simp)
  | cancel attemptId =>
    dsimp only at h
    split at h
    all_goals
      obtain ⟨rfl, rfl⟩ := Prod.mk.inj h
      exact .kept hstored (by simp)
  | execute requestId attemptId adapterId deadline call =>
    obtain ⟨hsame, hquiet⟩ := stored_startExecution h
    exact .kept (hsame.trans hstored) hquiet
  | executeToolResult attemptId callId content =>
    obtain ⟨rfl, rfl⟩ := Prod.mk.inj h
    refine .kept ?_ (by simp)
    unfold deliverToolResult
    split_ifs
    · exact hstored
    · split <;> exact hstored
  | credentialRotated credential =>
    dsimp only at h
    split_ifs at h
    · obtain ⟨rfl, rfl⟩ := Prod.mk.inj h
      exact @CredentialEffect.rotated _ _ _ (rotatedIdentity session.identity credential) rfl
    · obtain ⟨rfl, rfl⟩ := Prod.mk.inj h
      exact .kept hstored (by simp)
  | error code text fatal =>
    dsimp only at h
    split_ifs at h
    all_goals
      obtain ⟨rfl, rfl⟩ := Prod.mk.inj h
      exact .kept hstored (by simp)

/-- What one step of the runtime does to the persisted identity. -/
theorem credentialEffect_of_step (h : (clientMachine config).step s action = some (s', events)) :
    CredentialEffect s s' action events := by
  change s.step config action = some (s', events) at h
  unfold step at h
  cases action with
  | run paired =>
    dsimp only at h
    split at h
    · obtain ⟨rfl, rfl⟩ := Prod.mk.inj (Option.some.inj h)
      exact .kept rfl (by simp)
    · split_ifs at h
      all_goals
        obtain ⟨rfl, rfl⟩ := Prod.mk.inj (Option.some.inj h)
        exact .kept rfl (by simp)
    · cases h
  | connect outcome =>
    dsimp only at h
    split at h
    · split_ifs at h
      · obtain ⟨rfl, rfl⟩ := Prod.mk.inj (Option.some.inj h)
        exact .kept rfl (by simp)
      · cases outcome with
        | connected | failed | raised =>
          obtain ⟨rfl, rfl⟩ := Prod.mk.inj (Option.some.inj h)
          exact .kept rfl (by simp)
    · cases h
  | greet transmits =>
    dsimp only at h
    split at h
    · rename_i hstage hidentity
      obtain ⟨rfl, rfl⟩ := Prod.mk.inj (Option.some.inj h)
      exact .greeted hstage hidentity rfl
    · cases h
  | message message transmits saves =>
    dsimp only at h
    split at h
    · obtain ⟨session, -, hresult⟩ := Option.map_eq_some_iff.mp h
      exact credentialEffect_of_dispatch (stored_go _) hresult
    · cases h
  | deliver =>
    dsimp only at h
    split at h
    · split at h
      · obtain ⟨rfl, rfl⟩ := Prod.mk.inj (Option.some.inj h)
        exact .kept rfl (by simp)
      · obtain ⟨after, -, hresult⟩ := Option.map_eq_some_iff.mp h
        obtain ⟨rfl, rfl⟩ := Prod.mk.inj hresult
        exact .kept rfl (by simp)
    · split at h
      all_goals
        obtain ⟨rfl, rfl⟩ := Prod.mk.inj (Option.some.inj h)
        exact .kept rfl (by simp)
    · cases h
  | takeInFlight =>
    dsimp only at h
    split at h
    · obtain ⟨session, -, hresult⟩ := Option.map_eq_some_iff.mp h
      obtain ⟨rfl, rfl⟩ := Prod.mk.inj hresult
      exact .kept rfl (by simp)
    · cases h
  | recordInFlight =>
    dsimp only at h
    split at h
    · obtain ⟨rfl, rfl⟩ := Prod.mk.inj (Option.some.inj h)
      exact .kept rfl (by simp)
    · rename_i j i rest raises _
      obtain ⟨task, -, hresult⟩ := Option.map_eq_some_iff.mp h
      obtain ⟨rfl, rfl⟩ := Prod.mk.inj hresult
      refine .kept ?_ (by simp [ClientEvent.credential?])
      rw [stored_go, stored_recordInterrupted]
      rfl
    · cases h
  | requestStop =>
    dsimp only at h
    split at h
    all_goals
      obtain ⟨rfl, rfl⟩ := Prod.mk.inj (Option.some.inj h)
      exact .kept rfl (by simp)
  | task i act =>
    obtain ⟨task, -, hstep⟩ := Option.bind_eq_some_iff.mp h
    obtain ⟨hstored, hquiet⟩ := stored_taskStep hstep
    exact .kept hstored hquiet
  | answer _ | drain | report _ | poll | leave _ | closeTransport | backOff =>
    dsimp only at h
    split at h <;> (try split_ifs at h) <;> cases h
    all_goals exact .kept rfl (by simp [ClientEvent.credential?])

end ClientState

/-! ### Hellos -/

/-- A hello is sent with the identity that is persisted. -/
def ClientState.greetsPersisted (s : ClientState) : ClientAction → Bool
  | .greet _ => s.persisted = s.identity.map (·.credential.1)
  | _ => true

/-- Every hello carries the credential that was persisted last before it; and when the server issued
    that credential in a rotation, it accepts the hello. -/
structure HellosCurrent (initial : Option Text) (log : List ClientEvent) : Prop where
  current : ∀ before j credential after, log = before ++ .hello j credential :: after →
    persistedCredential initial before = some credential
  accepted : ∀ [SecretHash] (server server' : WorkerIdentityStore) now workerId
    (issued : Credential), server.rotateCredential none now workerId issued = (.ok issued, server') →
      ∀ before j credential after, log = before ++ .hello j credential :: after →
        persistedCredential initial before = some issued.text →
          server'.authenticate none workerId credential = .ok ()

/-- A rotated credential is accepted. -/
theorem authenticate_of_rotated [SecretHash] {server server' : WorkerIdentityStore} {now : Instant}
    {workerId : Text} {issued : Credential}
    (h : server.rotateCredential none now workerId issued = (.ok issued, server')) :
    server'.authenticate none workerId issued.text = .ok () := by
  unfold WorkerIdentityStore.rotateCredential at h
  cases hid : vSafeId (.string workerId) "worker_id" with
  | error fault =>
    simp only [hid] at h
    cases (Prod.mk.inj h).1
  | ok id =>
    simp only [hid] at h
    rw [if_neg (by simp)] at h
    by_cases hactive : server.isActive id = true
    · rw [if_pos hactive] at h
      obtain rfl := (Prod.mk.inj h).2
      unfold WorkerIdentityStore.isActive at hactive
      split at hactive
      · cases hactive
      · rename_i row hrow
        refine authenticate_eq_ok.mpr ⟨by simp, id, toText_of_vSafeId hid, vText_credential issued, ?_⟩
        refine ⟨{ row with
          credentialHash := SecretHash.digest issued.text
          credentialRotatedAt := some (canonicalInstant now) }, ?_, of_decide_eq_true hactive,
          hashSecret_token issued⟩
        rw [Table.row?_modify, if_pos rfl, hrow, Option.map_some]
    · rw [if_neg hactive] at h
      cases (Prod.mk.inj h).1

/-- A rotation is persisted, and the worker reconnects. -/
private def rotatedReconnect : List ClientAction :=
  .run true :: helloAccepted ++ [.drain, .poll,
    .message (.credentialRotated ⟨Text.ofString "c1", by decide, by decide⟩) true true,
    .poll, .leave false, .takeInFlight, .recordInFlight, .closeTransport, .backOff,
    .connect .connected]

end ScarcityRouter
