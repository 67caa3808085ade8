import ScarcityRouter.Lib.Positions
import ScarcityRouter.Worker.IdentityStore

namespace ScarcityRouter

open ScarcityRouter.Lib

/-!
# Sessions of the worker endpoint

`worker_endpoint.py`: the session table, the handshake in its two critical sections, closing, and
the revocation of a worker, under every interleaving of the threads that run them.

* `EndpointState.step` — one critical section of one thread.
* `EndpointState.sessionForResource` — which session may execute a resource.
* `Registered` — a live authenticated session has its row: it holds without any condition.
* `SessionTable`, `sessions_tabled` — **the table holds open sessions only, within its bound**, as
  long as no handshake registers a closed session and no new row goes into a full table.
* `RevocationsKept`, `revocation_final` — **no session outlives a revocation**, as long as the
  identity that a handshake registers has not been revoked since its check.
* `sessions_tabled_of_listener` — behind the listener alone, the bound needs no condition.
-/

/-! ### Threads -/

/-- How far the handshake of a session is. -/
inductive HandshakeStage where
  /-- The read loop awaits the first message. -/
  | awaiting
  /-- The identity store let the device in; the registration comes next. -/
  | checked (workerId : SafeId)
  | over
  deriving DecidableEq

/-- `_SessionState`, with the stage of the thread that runs it. -/
structure SessionRecord where
  stage : HandshakeStage := .awaiting
  workerId : Option SafeId := none
  authenticated : Bool := false
  closed : Bool := false
  deriving DecidableEq

/-- A session before its handshake. -/
def SessionRecord.fresh : SessionRecord := {}

/-- An authenticated session that is not closed. -/
def SessionRecord.live (session : SessionRecord) : Bool := session.authenticated && !session.closed

/-- How far a call of `revoke_worker` is. -/
inductive Revocation where
  /-- The identity store has revoked the identity. -/
  | revoked (workerId : SafeId)
  /-- The sessions it found and has not closed yet. -/
  | closing (workerId : SafeId) (sessions : List ℕ)
  | returned (workerId : SafeId)
  deriving DecidableEq

/-- The worker of a call of `revoke_worker`. -/
def Revocation.workerId : Revocation → SafeId
  | revoked id | closing id _ | returned id => id

/-- One critical section of one thread. -/
inductive EndpointAction where
  /-- `attach_transport` of a composition in this process, which runs the session itself. -/
  | attach
  /-- `attach_transport` of the accept thread, which handles one connection at a time. -/
  | accept
  /-- `register_attached` of the accept thread. -/
  | registerAttached
  | hello (session : ℕ) (failing : Option StoreStatement) (workerId credential : Text)
  | pairRequest (session : ℕ) (failing : Option StoreStatement) (now : Instant)
      (pairingCode : Text) (workerId : SafeId) (credential : Credential)
  /-- The registration of a handshake whose check succeeded. -/
  | register (session : ℕ)
  /-- `close`, from the read loop, a failed send, the liveness monitor or the shutdown. -/
  | close (session : ℕ)
  /-- An applied state report observes a resource. -/
  | report (session : ℕ) (resourceId : SafeId)
  /-- Any other call of the identity store. -/
  | administer (action : IdentityAction)
  | revokeWorker (failing : Option StoreStatement) (workerId : Text)
  /-- The next critical section of a call of `revoke_worker`. -/
  | advance (revocation : ℕ)

inductive EndpointEvent where
  | busy
  | authenticated (session : ℕ) (workerId : SafeId)
  /-- A call of `revoke_worker` returned. -/
  | revoked (workerId : SafeId)
  deriving DecidableEq

/-! ### The endpoint -/

/-- `MAX_SESSIONS`. -/
def maxSessions : ℕ := 64

/-- The sessions in the order in which other threads could reach them, and the keys of the session
    table in the order of its rows. -/
structure EndpointState where
  identityStore : WorkerIdentityStore := {}
  sessions : List SessionRecord := []
  table : List ℕ := []
  /-- The accept thread is between `attach_transport` and `register_attached`, and nobody else has
      the session it holds. -/
  accepting : Bool := false
  observedBindings : SafeId → Option SafeId := fun _ => none
  revocations : List Revocation := []

/-- The failures that are definitive: nothing was dispatched. -/
structure WorkerDispatchError where
  code : String
  message : String
  deriving DecidableEq

namespace EndpointState

variable (s : EndpointState)

/-- `endpoint._sessions[id(session)] = session`. -/
def insertRow (i : ℕ) : EndpointState :=
  { s with table := if i ∈ s.table then s.table else s.table ++ [i] }

/-- Rewrite one session. -/
def onSession (i : ℕ) (f : SessionRecord → SessionRecord) : EndpointState :=
  { s with sessions := s.sessions.modify i f }

/-- `close`: the flag, and the row of the session. -/
def closeSession (i : ℕ) : EndpointState :=
  match s.sessions[i]? with
  | some session =>
    if session.closed then s
    else { s.onSession i ({ · with closed := true }) with table := s.table.filter (· ≠ i) }
  | none => s

/-- The critical section that registers a session for a worker. -/
def registerSession (i : ℕ) (workerId : SafeId) : EndpointState :=
  (s.onSession i ({ · with
    workerId := some workerId
    authenticated := true
    stage := .over })).insertRow i

/-- The rows whose session carries a worker id, in table order. -/
def sessionsOf (workerId : SafeId) : List ℕ :=
  s.table.filter fun i => s.sessions[i]?.any (·.workerId = some workerId)

/-- `session_for_resource`.  The session table and the bindings are read in one critical section,
    and the flag that is read after it was set together with the worker id. -/
def sessionForResource (configuredOwner : SafeId → Option SafeId) (resourceId : SafeId) :
    Except WorkerDispatchError ℕ :=
  match configuredOwner resourceId with
  | none => .error ⟨"resource_unbound", "no worker is configured to execute this resource"⟩
  | some configured =>
    if s.observedBindings resourceId ≠ some configured then
      .error ⟨"resource_unbound", "the configured worker has not reported this resource"⟩
    else
      match (s.sessionsOf configured).find? fun i => s.sessions[i]?.any (·.authenticated) with
      | some i => .ok i
      | none =>
        .error ⟨"worker_offline", "the configured worker for this resource is not connected"⟩

/-- The next critical section of a call of `revoke_worker`. -/
def advance (t : ℕ) : Revocation → Option (EndpointState × List EndpointEvent)
  | .revoked workerId =>
    some ({ s with revocations := s.revocations.set t (.closing workerId (s.sessionsOf workerId)) },
      [])
  | .closing workerId [] =>
    some ({ s with revocations := s.revocations.set t (.returned workerId) }, [.revoked workerId])
  | .closing workerId (i :: rest) =>
    some ({ s.closeSession i with
      revocations := s.revocations.set t (.closing workerId rest) }, [])
  | .returned _ => none

section Steps

variable [SecretHash]

/-- One critical section. -/
def step : EndpointAction → Option (EndpointState × List EndpointEvent)
  | .attach =>
    if maxSessions ≤ s.table.length then some (s, [.busy])
    else some ({ s with sessions := s.sessions ++ [.fresh] }, [])
  | .accept =>
    if s.accepting then none
    else if maxSessions ≤ s.table.length then some (s, [.busy])
    else some ({ s with accepting := true }, [])
  | .registerAttached =>
    if s.accepting then
      let opened := { s with sessions := s.sessions ++ [SessionRecord.fresh], accepting := false }
      some (opened.insertRow s.sessions.length, [])
    else none
  | .hello i failing workerId credential =>
    match s.sessions[i]? with
    | some { stage := .awaiting, .. } =>
      match s.identityStore.authenticate failing workerId credential, safeId? workerId with
      | .ok (), some workerId => some (s.onSession i ({ · with stage := .checked workerId }), [])
      | _, _ => some (s.onSession i ({ · with stage := .over }), [])
    | _ => none
  | .pairRequest i failing now pairingCode workerId credential =>
    match s.sessions[i]? with
    | some { stage := .awaiting, .. } =>
      match s.identityStore.redeemPairingCode failing now pairingCode workerId credential with
      | (.ok (workerId, _), store) =>
        some ({ s with identityStore := store }.onSession i
          ({ · with stage := .checked workerId }), [])
      | (.error _, store) =>
        some ({ s with identityStore := store }.onSession i ({ · with stage := .over }), [])
    | _ => none
  | .register i =>
    match s.sessions[i]? with
    | some { stage := .checked workerId, .. } =>
      some (s.registerSession i workerId, [.authenticated i workerId])
    | _ => none
  | .close i =>
    if i < s.sessions.length then some (s.closeSession i, []) else none
  | .report i resourceId =>
    match s.sessions[i]? with
    | some { authenticated := true, workerId := some workerId, .. } =>
      some ({ s with
        observedBindings := Function.update s.observedBindings resourceId (some workerId) }, [])
    | _ => none
  | .administer action => some ({ s with identityStore := (s.identityStore.step action).1 }, [])
  | .revokeWorker failing workerId =>
    match s.identityStore.revoke failing workerId, safeId? workerId with
    | (.ok (), store), some workerId =>
      some ({ s with
        identityStore := store
        revocations := s.revocations ++ [.revoked workerId] }, [])
    | (_, store), _ => some ({ s with identityStore := store }, [])
  | .advance t => s.revocations[t]?.bind (s.advance t)

end Steps

end EndpointState

/-- The endpoint as a machine. -/
def endpointMachine [SecretHash] : Machine EndpointState EndpointAction EndpointEvent :=
  ⟨fun s action => s.step action⟩

/-! ### What a step does to the sessions -/

/-- **Everything a step can do to the sessions and their table.** -/
inductive SessionEffect (action : EndpointAction) (s s' : EndpointState) :
    List EndpointEvent → Prop
  | same {events : List EndpointEvent} (sessions : s'.sessions = s.sessions)
      (table : s'.table = s.table) (quiet : ∀ i workerId, .authenticated i workerId ∉ events) :
      SessionEffect action s s' events
  | opened (sessions : s'.sessions = s.sessions ++ [.fresh])
      (table : action = .attach ∧ s'.table = s.table ∨
        action = .registerAttached ∧ s'.table = (s.insertRow s.sessions.length).table) :
      SessionEffect action s s' []
  | staged (i : ℕ) (stage : HandshakeStage)
      (sessions : s'.sessions = s.sessions.modify i ({ · with stage := stage }))
      (table : s'.table = s.table) : SessionEffect action s s' []
  | registered (i : ℕ) (session : SessionRecord) (workerId : SafeId)
      (registers : action = .register i) (found : s.sessions[i]? = some session)
      (checked : session.stage = .checked workerId)
      (sessions : s'.sessions = (s.registerSession i workerId).sessions)
      (table : s'.table = (s.insertRow i).table) :
      SessionEffect action s s' [.authenticated i workerId]
  | closed (i : ℕ) (session : SessionRecord) (found : s.sessions[i]? = some session)
      (isOpen : session.closed = false)
      (sessions : s'.sessions = s.sessions.modify i ({ · with closed := true }))
      (table : s'.table = s.table.filter (· ≠ i)) : SessionEffect action s s' []

section Effects

variable [SecretHash] {s s' : EndpointState} {action : EndpointAction}
  {events : List EndpointEvent}

omit [SecretHash] in
/-- A call of `close`. -/
theorem SessionEffect.closeSession (i : ℕ) (hsessions : s'.sessions = (s.closeSession i).sessions)
    (htable : s'.table = (s.closeSession i).table) : SessionEffect action s s' [] := by
  cases hfound : s.sessions[i]? with
  | none =>
    simp only [EndpointState.closeSession, hfound] at hsessions htable
    exact .same hsessions htable (by simp)
  | some session =>
    by_cases hclosed : session.closed = true
    · simp only [EndpointState.closeSession, hfound, hclosed] at hsessions htable
      exact .same hsessions htable (by simp)
    · simp only [EndpointState.closeSession, hfound, hclosed] at hsessions htable
      exact .closed i session hfound (by simpa using hclosed) hsessions htable

/-- **What a step does.** -/
theorem sessionEffect_of_step (h : s.step action = some (s', events)) :
    SessionEffect action s s' events := by
  unfold EndpointState.step at h
  cases action with
  | attach =>
    dsimp only at h
    split_ifs at h with hfull
    · obtain ⟨rfl, rfl⟩ := Prod.mk.inj (Option.some.inj h)
      exact .same rfl rfl (by simp)
    · obtain ⟨rfl, rfl⟩ := Prod.mk.inj (Option.some.inj h)
      exact .opened rfl (.inl ⟨rfl, rfl⟩)
  | accept =>
    dsimp only at h
    split_ifs at h with haccepting hfull
    · obtain ⟨rfl, rfl⟩ := Prod.mk.inj (Option.some.inj h)
      exact .same rfl rfl (by simp)
    · obtain ⟨rfl, rfl⟩ := Prod.mk.inj (Option.some.inj h)
      exact .same rfl rfl (by simp)
  | registerAttached =>
    dsimp only at h
    split_ifs at h with haccepting
    obtain ⟨rfl, rfl⟩ := Prod.mk.inj (Option.some.inj h)
    exact .opened rfl (.inr ⟨rfl, rfl⟩)
  | hello i failing workerId credential =>
    dsimp only at h
    split at h
    · split at h
      · obtain ⟨rfl, rfl⟩ := Prod.mk.inj (Option.some.inj h)
        exact .staged i _ rfl rfl
      · obtain ⟨rfl, rfl⟩ := Prod.mk.inj (Option.some.inj h)
        exact .staged i _ rfl rfl
    · cases h
  | pairRequest i failing now pairingCode workerId credential =>
    dsimp only at h
    split at h
    · split at h
      · obtain ⟨rfl, rfl⟩ := Prod.mk.inj (Option.some.inj h)
        exact .staged i _ rfl rfl
      · obtain ⟨rfl, rfl⟩ := Prod.mk.inj (Option.some.inj h)
        exact .staged i _ rfl rfl
    · cases h
  | register i =>
    dsimp only at h
    split at h
    · rename_i workerId _ _ _ hfound
      obtain ⟨rfl, rfl⟩ := Prod.mk.inj (Option.some.inj h)
      exact .registered i _ workerId rfl hfound rfl rfl rfl
    · cases h
  | close i =>
    dsimp only at h
    split_ifs at h with hlt
    obtain ⟨rfl, rfl⟩ := Prod.mk.inj (Option.some.inj h)
    exact .closeSession i rfl rfl
  | report i resourceId =>
    dsimp only at h
    split at h
    · obtain ⟨rfl, rfl⟩ := Prod.mk.inj (Option.some.inj h)
      exact .same rfl rfl (by simp)
    · cases h
  | administer action =>
    obtain ⟨rfl, rfl⟩ := Prod.mk.inj (Option.some.inj h)
    exact .same rfl rfl (by simp)
  | revokeWorker failing workerId =>
    dsimp only at h
    split at h
    · obtain ⟨rfl, rfl⟩ := Prod.mk.inj (Option.some.inj h)
      exact .same rfl rfl (by simp)
    · obtain ⟨rfl, rfl⟩ := Prod.mk.inj (Option.some.inj h)
      exact .same rfl rfl (by simp)
  | advance t =>
    obtain ⟨task, htask, hstep⟩ := Option.bind_eq_some_iff.mp h
    cases task with
    | revoked workerId =>
      obtain ⟨rfl, rfl⟩ := Prod.mk.inj (Option.some.inj hstep)
      exact .same rfl rfl (by simp)
    | closing workerId rest =>
      cases rest with
      | nil =>
        obtain ⟨rfl, rfl⟩ := Prod.mk.inj (Option.some.inj hstep)
        exact .same rfl rfl (by simp)
      | cons i rest =>
        obtain ⟨rfl, rfl⟩ := Prod.mk.inj (Option.some.inj hstep)
        exact .closeSession i rfl rfl
    | returned workerId => cases hstep

end Effects

/-! ### Rows of live sessions -/

/-- A rewritten session was one before. -/
theorem exists_of_getElem?_modify {α : Type*} {xs : List α} {i j : ℕ} {f : α → α} {b : α}
    (h : (xs.modify i f)[j]? = some b) : ∃ a, xs[j]? = some a ∧ b = if i = j then f a else a := by
  rw [List.getElem?_modify] at h
  obtain ⟨a, ha, rfl⟩ := Option.map_eq_some_iff.mp h
  refine ⟨a, ha, ?_⟩
  split_ifs <;> rfl

/-- A live authenticated session has its row. -/
def Registered (s : EndpointState) : Prop :=
  ∀ i session, s.sessions[i]? = some session → session.live = true → i ∈ s.table

section Table

variable {s s' : EndpointState} {action : EndpointAction} {events : List EndpointEvent} {i : ℕ}

theorem mem_insertRow {j : ℕ} : j ∈ (s.insertRow i).table ↔ j ∈ s.table ∨ j = i := by
  show j ∈ (if i ∈ s.table then s.table else s.table ++ [i]) ↔ _
  split_ifs with hmem
  · refine ⟨.inl, ?_⟩
    rintro (h | rfl)
    · exact h
    · exact hmem
  · simp

/-- **Every step keeps the rows of the live sessions.** -/
theorem Registered.effect (h : Registered s) (heffect : SessionEffect action s s' events) :
    Registered s' := by
  intro j session hget hlive
  cases heffect with
  | same hsessions htable _ =>
    rw [hsessions] at hget
    rw [htable]
    exact h j session hget hlive
  | opened hsessions htable =>
    rw [hsessions] at hget
    rcases getElem?_concat_eq_some hget with hold | ⟨-, rfl⟩
    · rcases htable with ⟨-, htable⟩ | ⟨-, htable⟩
      · rw [htable]
        exact h j session hold hlive
      · rw [htable]
        exact mem_insertRow.mpr (.inl (h j session hold hlive))
    · cases hlive
  | staged i stage hsessions htable =>
    rw [hsessions] at hget
    obtain ⟨old, hold, rfl⟩ := exists_of_getElem?_modify hget
    rw [htable]
    refine h j old hold ?_
    split_ifs at hlive <;> exact hlive
  | registered i checked workerId _ hfound hchecked hsessions htable =>
    rw [hsessions] at hget
    obtain ⟨old, hold, rfl⟩ := exists_of_getElem?_modify hget
    rw [htable, mem_insertRow]
    by_cases hij : i = j
    · exact .inr hij.symm
    · rw [if_neg hij] at hlive
      exact .inl (h j old hold hlive)
  | closed i closing hfound hopen hsessions htable =>
    rw [hsessions] at hget
    obtain ⟨old, hold, rfl⟩ := exists_of_getElem?_modify hget
    by_cases hij : i = j
    · rw [if_pos hij] at hlive
      simp [SessionRecord.live] at hlive
    · rw [if_neg hij] at hlive
      rw [htable, List.mem_filter]
      exact ⟨h j old hold hlive, by simpa using Ne.symm hij⟩

/-! ### The session table -/

/-- What keeps the table sound: a handshake registers an open session, and a new row finds room. -/
def EndpointState.tables (s : EndpointState) : EndpointAction → Bool
  | .register i => s.sessions[i]?.all (!·.closed) && (i ∈ s.table || s.table.length < maxSessions)
  | .registerAttached => s.table.length < maxSessions
  | _ => true

/-- **The session table**: open sessions only, every live authenticated session, within the bound,
    so that a dispatch goes to an open session. -/
structure SessionTable (s : EndpointState) : Prop where
  rows_open : ∀ i ∈ s.table, ∃ session, s.sessions[i]? = some session ∧ session.closed = false
  registered : ∀ i session, s.sessions[i]? = some session → session.authenticated = true →
    session.closed = false → i ∈ s.table
  bounded : s.table.length ≤ maxSessions
  dispatches_open : ∀ configuredOwner resourceId i,
    s.sessionForResource configuredOwner resourceId = .ok i →
      ∃ session, s.sessions[i]? = some session ∧ session.closed = false

/-- The rows are those of open sessions, within the bound. -/
structure RowsOpen (s : EndpointState) : Prop where
  rows_open : ∀ i ∈ s.table, ∃ session, s.sessions[i]? = some session ∧ session.closed = false
  bounded : s.table.length ≤ maxSessions

theorem length_insertRow (h : i ∈ s.table ∨ s.table.length < maxSessions)
    (hbounded : s.table.length ≤ maxSessions) : (s.insertRow i).table.length ≤ maxSessions := by
  show (if i ∈ s.table then s.table else s.table ++ [i]).length ≤ maxSessions
  split_ifs with hmem
  · exact hbounded
  · have hroom := h.resolve_left hmem
    rw [List.length_append, List.length_singleton]
    omega

/-- **Every sound step keeps the rows open.** -/
theorem RowsOpen.effect (h : RowsOpen s) (hsound : s.tables action = true)
    (heffect : SessionEffect action s s' events) : RowsOpen s' := by
  cases heffect with
  | same hsessions htable _ =>
    constructor
    · rw [hsessions, htable]
      exact h.rows_open
    · rw [htable]
      exact h.bounded
  | opened hsessions htable =>
    have hold : ∀ j ∈ s.table, ∃ session,
        s'.sessions[j]? = some session ∧ session.closed = false := by
      intro j hj
      obtain ⟨session, hget, hopen⟩ := h.rows_open j hj
      refine ⟨session, ?_, hopen⟩
      rw [hsessions, List.getElem?_append_left (List.getElem?_eq_some_iff.mp hget).1]
      exact hget
    rcases htable with ⟨-, htable⟩ | ⟨rfl, htable⟩
    · constructor
      · rw [htable]
        exact hold
      · rw [htable]
        exact h.bounded
    · have hroom : s.table.length < maxSessions := by simpa [EndpointState.tables] using hsound
      constructor
      · intro j hj
        rw [htable, mem_insertRow] at hj
        rcases hj with hj | rfl
        · exact hold j hj
        · refine ⟨.fresh, ?_, rfl⟩
          rw [hsessions, List.getElem?_concat_length]
      · rw [htable]
        exact length_insertRow (.inr hroom) h.bounded
  | staged i stage hsessions htable =>
    constructor
    · intro j hj
      rw [htable] at hj
      obtain ⟨session, hget, hopen⟩ := h.rows_open j hj
      rw [hsessions, List.getElem?_modify, hget]
      refine ⟨_, rfl, ?_⟩
      split_ifs <;> exact hopen
    · rw [htable]
      exact h.bounded
  | registered i session workerId hregisters hfound hchecked hsessions htable =>
    subst hregisters
    simp only [EndpointState.tables, hfound, Option.all_some, Bool.and_eq_true, Bool.or_eq_true,
      Bool.not_eq_true', decide_eq_true_eq] at hsound
    obtain ⟨hopen, hroom⟩ := hsound
    constructor
    · intro j hj
      rw [htable, mem_insertRow] at hj
      rw [hsessions]
      show ∃ session, (s.sessions.modify i _)[j]? = some session ∧ _
      rw [List.getElem?_modify]
      rcases hj with hj | rfl
      · obtain ⟨old, hget, hold⟩ := h.rows_open j hj
        rw [hget]
        refine ⟨_, rfl, ?_⟩
        split_ifs <;> exact hold
      · rw [hfound]
        exact ⟨_, rfl, by simpa using hopen⟩
    · rw [htable]
      exact length_insertRow hroom h.bounded
  | closed i session hfound hopen hsessions htable =>
    constructor
    · intro j hj
      rw [htable, List.mem_filter, decide_eq_true_eq] at hj
      obtain ⟨old, hget, hold⟩ := h.rows_open j hj.1
      rw [hsessions, List.getElem?_modify, hget]
      refine ⟨old, ?_, hold⟩
      simp [Ne.symm hj.2]
    · rw [htable]
      exact (List.length_filter_le _ _).trans h.bounded

/-- A session that may execute a resource has a row. -/
theorem mem_of_sessionForResource {configuredOwner : SafeId → Option SafeId} {resourceId : SafeId}
    (h : s.sessionForResource configuredOwner resourceId = .ok i) : i ∈ s.table := by
  unfold EndpointState.sessionForResource at h
  split at h
  · cases h
  · split_ifs at h with hreported
    split at h
    · rename_i hfound
      obtain rfl := Except.ok.inj h
      have hmem := List.mem_of_find?_eq_some hfound
      exact List.mem_of_mem_filter hmem
    · cases h

end Table

@[simp] theorem accepting_closeSession {s : EndpointState} {i : ℕ} :
    (s.closeSession i).accepting = s.accepting := by
  unfold EndpointState.closeSession
  split
  · split_ifs <;> rfl
  · rfl

section Runs

variable [SecretHash] {s : EndpointState} {log : List EndpointEvent} {store : WorkerIdentityStore}

/-- The rows in every state of a sound run. -/
theorem rows_of_run
    (run : endpointMachine.Run (fun s action => s.tables action = true) { identityStore := store }
      s log) : Registered s ∧ RowsOpen s := by
  refine run.invariant (I := fun s _ => Registered s ∧ RowsOpen s) ?_ ?_
  · refine ⟨?_, ?_, Nat.zero_le _⟩
    · intro i session h
      simp at h
    · intro i h
      simp at h
  · rintro s s' log events action - ⟨hregistered, hrows⟩ hsound hstep
    have heffect := sessionEffect_of_step hstep
    exact ⟨hregistered.effect heffect, hrows.effect hsound heffect⟩

omit [SecretHash] in
/-- Open rows make a sound table. -/
theorem RowsOpen.sessionTable (hrows : RowsOpen s) (hregistered : Registered s) :
    SessionTable s where
  rows_open := hrows.rows_open
  registered i session hget hauthenticated hopen :=
    hregistered i session hget (by simp [SessionRecord.live, hauthenticated, hopen])
  bounded := hrows.bounded
  dispatches_open configuredOwner resourceId i hsession :=
    hrows.rows_open i (mem_of_sessionForResource hsession)

/-- **Over every interleaving** whose handshakes register open sessions and whose new rows find
    room, the session table is sound. -/
theorem sessions_tabled
    (run : endpointMachine.Run (fun s action => s.tables action = true) { identityStore := store }
      s log) : SessionTable s := by
  obtain ⟨hregistered, hrows⟩ := rows_of_run run
  exact hrows.sessionTable hregistered

/-! ### The listener alone -/

/-- Connections come through the listener alone, and a handshake registers an open session. -/
def EndpointState.listens (s : EndpointState) : EndpointAction → Bool
  | .attach => false
  | .register i => s.sessions[i]?.all (!·.closed)
  | _ => true

/-- Every open session has its row, and the accept thread found room for the one it holds. -/
structure Listening (s : EndpointState) : Prop where
  rowed : ∀ i session, s.sessions[i]? = some session → session.closed = false → i ∈ s.table
  room : s.accepting = true → s.table.length < maxSessions

variable {s' : EndpointState} {action : EndpointAction} {events : List EndpointEvent}

/-- The accept thread holds a session that it found room for, until it registers it. -/
theorem accepting_of_step (h : s.step action = some (s', events)) (haccepting : s'.accepting = true) :
    action ≠ .registerAttached ∧
      (s.accepting = true ∨ s.table.length < maxSessions ∧ s'.table = s.table) := by
  unfold EndpointState.step at h
  cases action with
  | attach =>
    dsimp only at h
    split_ifs at h
    all_goals
      obtain ⟨rfl, rfl⟩ := Prod.mk.inj (Option.some.inj h)
      exact ⟨nofun, .inl haccepting⟩
  | accept =>
    dsimp only at h
    split_ifs at h with hbusy hfull
    · obtain ⟨rfl, rfl⟩ := Prod.mk.inj (Option.some.inj h)
      exact ⟨nofun, .inl haccepting⟩
    · obtain ⟨rfl, rfl⟩ := Prod.mk.inj (Option.some.inj h)
      exact ⟨nofun, .inr ⟨not_le.mp hfull, rfl⟩⟩
  | registerAttached =>
    dsimp only at h
    split_ifs at h
    obtain ⟨rfl, rfl⟩ := Prod.mk.inj (Option.some.inj h)
    cases haccepting
  | close i =>
    dsimp only at h
    split_ifs at h
    obtain ⟨rfl, rfl⟩ := Prod.mk.inj (Option.some.inj h)
    refine ⟨nofun, .inl ?_⟩
    rw [← accepting_closeSession]
    exact haccepting
  | advance t =>
    obtain ⟨task, htask, hstep⟩ := Option.bind_eq_some_iff.mp h
    refine ⟨nofun, .inl ?_⟩
    cases task with
    | revoked id =>
      obtain ⟨rfl, rfl⟩ := Prod.mk.inj (Option.some.inj hstep)
      exact haccepting
    | closing id rest =>
      cases rest with
      | nil =>
        obtain ⟨rfl, rfl⟩ := Prod.mk.inj (Option.some.inj hstep)
        exact haccepting
      | cons j rest =>
        obtain ⟨rfl, rfl⟩ := Prod.mk.inj (Option.some.inj hstep)
        rw [← accepting_closeSession]
        exact haccepting
    | returned id => cases hstep
  | administer call =>
    obtain ⟨rfl, rfl⟩ := Prod.mk.inj (Option.some.inj h)
    exact ⟨nofun, .inl haccepting⟩
  | revokeWorker failing worker =>
    dsimp only at h
    split at h
    all_goals
      obtain ⟨rfl, rfl⟩ := Prod.mk.inj (Option.some.inj h)
      exact ⟨nofun, .inl haccepting⟩
  | hello j failing worker credential | pairRequest j failing now pairingCode id credential =>
    dsimp only at h
    split at h
    · split at h
      all_goals
        obtain ⟨rfl, rfl⟩ := Prod.mk.inj (Option.some.inj h)
        exact ⟨nofun, .inl haccepting⟩
    · cases h
  | register j | report j resourceId =>
    dsimp only at h
    split at h
    · obtain ⟨rfl, rfl⟩ := Prod.mk.inj (Option.some.inj h)
      exact ⟨nofun, .inl haccepting⟩
    · cases h

/-- Behind the listener the table needs no other condition. -/
theorem Listening.tables (h : Listening s) (hlistens : s.listens action = true)
    (hstep : s.step action = some (s', events)) : s.tables action = true := by
  cases action with
  | register i =>
    cases hget : s.sessions[i]? with
    | none => simp [EndpointState.step, hget] at hstep
    | some session =>
      have hopen : session.closed = false := by
        simpa [EndpointState.listens, hget] using hlistens
      simp [EndpointState.tables, hget, hopen, h.rowed i session hget hopen]
  | registerAttached =>
    have haccepting : s.accepting = true := by
      by_contra hnone
      simp [EndpointState.step, hnone] at hstep
    simpa [EndpointState.tables] using h.room haccepting
  | _ => rfl

/-- **Every step behind the listener keeps the open sessions in their rows.** -/
theorem Listening.step (h : Listening s) (hlistens : s.listens action = true)
    (hstep : s.step action = some (s', events)) : Listening s' := by
  have heffect := sessionEffect_of_step hstep
  constructor
  · intro j session hget hopen
    cases heffect with
    | same hsessions htable _ =>
      rw [hsessions] at hget
      rw [htable]
      exact h.rowed j session hget hopen
    | opened hsessions htable =>
      rw [hsessions] at hget
      rcases htable with ⟨rfl, -⟩ | ⟨rfl, htable⟩
      · cases hlistens
      · rw [htable, mem_insertRow]
        rcases getElem?_concat_eq_some hget with hold | ⟨hnew, -⟩
        · exact .inl (h.rowed j session hold hopen)
        · exact .inr hnew
    | staged i stage hsessions htable =>
      rw [hsessions] at hget
      obtain ⟨old, hold, rfl⟩ := exists_of_getElem?_modify hget
      rw [htable]
      refine h.rowed j old hold ?_
      split_ifs at hopen <;> exact hopen
    | registered i checked workerId _ hfound _ hsessions htable =>
      rw [hsessions] at hget
      obtain ⟨old, hold, rfl⟩ := exists_of_getElem?_modify hget
      rw [htable, mem_insertRow]
      refine .inl (h.rowed j old hold ?_)
      split_ifs at hopen <;> exact hopen
    | closed i closing hfound _ hsessions htable =>
      rw [hsessions] at hget
      obtain ⟨old, hold, rfl⟩ := exists_of_getElem?_modify hget
      by_cases hij : i = j
      · rw [if_pos hij] at hopen
        cases hopen
      · rw [if_neg hij] at hopen
        rw [htable, List.mem_filter]
        exact ⟨h.rowed j old hold hopen, by simpa using Ne.symm hij⟩
  · intro haccepting
    obtain ⟨hregister, hroom | ⟨hroom, htable⟩⟩ := accepting_of_step hstep haccepting
    · refine lt_of_le_of_lt ?_ (h.room hroom)
      -- No other step of these runs adds a row.
      cases heffect with
      | same _ htable _ | staged _ _ _ htable => exact le_of_eq (congrArg _ htable)
      | opened _ htable =>
        rcases htable with ⟨rfl, -⟩ | ⟨rfl, -⟩
        · cases hlistens
        · exact absurd rfl hregister
      | registered i session workerId hregisters hfound _ _ htable =>
        subst hregisters
        have hopen : session.closed = false := by
          simpa [EndpointState.listens, hfound] using hlistens
        have hmem := h.rowed i session hfound hopen
        refine le_of_eq (congrArg List.length (htable.trans ?_))
        exact if_pos hmem
      | closed i _ _ _ _ htable =>
        rw [htable]
        exact List.length_filter_le _ _
    · rw [htable]
      exact hroom

/-- **Behind the listener** the session table is sound as long as no handshake registers a closed
    session: the bound that the accept thread checks is then the bound of the table. -/
theorem sessions_tabled_of_listener
    (run : endpointMachine.Run (fun s action => s.listens action = true) { identityStore := store }
      s log) : SessionTable s := by
  have hruns : endpointMachine.Run (fun s action => s.tables action = true)
      { identityStore := store } s log ∧ Listening s := by
    refine run.invariant (I := fun s log => endpointMachine.Run
      (fun s action => s.tables action = true) { identityStore := store } s log ∧ Listening s) ?_ ?_
    · refine ⟨.refl, ?_, nofun⟩
      intro i session h
      simp at h
    · rintro s s' log events action - ⟨hrun, hlistening⟩ hlistens hstep
      exact ⟨hrun.step action (hlistening.tables hlistens hstep) hstep,
        hlistening.step hlistens hstep⟩
  obtain ⟨hregistered, hrows⟩ := rows_of_run hruns.1
  exact hrows.sessionTable hregistered

/-! ### Revocation -/

/-- A live session of a worker. -/
def LiveOf (s : EndpointState) (i : ℕ) (workerId : SafeId) : Prop :=
  ∃ session, s.sessions[i]? = some session ∧ session.live = true ∧
    session.workerId = some workerId

variable {i : ℕ} {workerId : SafeId}

omit [SecretHash] in
/-- A session becomes a live one of a worker only by its registration. -/
theorem liveOf_of_effect (heffect : SessionEffect action s s' events) (h : LiveOf s' i workerId) :
    LiveOf s i workerId ∨ .authenticated i workerId ∈ events := by
  obtain ⟨session, hget, hlive, hworker⟩ := h
  cases heffect with
  | same hsessions _ _ => exact .inl ⟨session, hsessions ▸ hget, hlive, hworker⟩
  | opened hsessions _ =>
    rw [hsessions] at hget
    rcases getElem?_concat_eq_some hget with hold | ⟨-, rfl⟩
    · exact .inl ⟨session, hold, hlive, hworker⟩
    · cases hlive
  | staged j stage hsessions _ =>
    rw [hsessions] at hget
    obtain ⟨old, hold, rfl⟩ := exists_of_getElem?_modify hget
    left
    split_ifs at hlive hworker
    · exact ⟨old, hold, hlive, hworker⟩
    · exact ⟨old, hold, hlive, hworker⟩
  | registered j checked workerId' _ hfound hchecked hsessions _ =>
    rw [hsessions] at hget
    obtain ⟨old, hold, rfl⟩ := exists_of_getElem?_modify hget
    by_cases hij : j = i
    · right
      subst hij
      rw [if_pos rfl] at hworker
      obtain rfl := Option.some.inj hworker
      exact List.mem_cons_self
    · left
      rw [if_neg hij] at hlive hworker
      exact ⟨old, hold, hlive, hworker⟩
  | closed j closing hfound hopen hsessions _ =>
    rw [hsessions] at hget
    obtain ⟨old, hold, rfl⟩ := exists_of_getElem?_modify hget
    by_cases hij : j = i
    · rw [if_pos hij] at hlive
      simp [SessionRecord.live] at hlive
    · left
      rw [if_neg hij] at hlive hworker
      exact ⟨old, hold, hlive, hworker⟩

omit [SecretHash] in
/-- A closed session is not live. -/
theorem not_liveOf_closeSession : ¬ LiveOf (s.closeSession i) i workerId := by
  rintro ⟨session, hget, hlive, -⟩
  unfold EndpointState.closeSession at hget
  split at hget
  · rename_i old hold
    split_ifs at hget with hclosed
    · rw [hold] at hget
      obtain rfl := Option.some.inj hget
      simp [SessionRecord.live, hclosed] at hlive
    · obtain ⟨old', -, rfl⟩ := exists_of_getElem?_modify hget
      simp [SessionRecord.live] at hlive
  · rename_i hnone
    rw [hnone] at hget
    cases hget

/-- The condition of a final revocation: the identity that a handshake registers has not been
    revoked since its check. -/
def EndpointState.unrevoked (s : EndpointState) : EndpointAction → Bool
  | .register i =>
    match s.sessions[i]? with
    | some { stage := .checked workerId, .. } => s.identityStore.isActive workerId
    | _ => true
  | _ => true

omit [SecretHash] in
/-- Who is registered under the condition is active. -/
theorem isActive_of_authenticated (hunrevoked : s.unrevoked action = true)
    (heffect : SessionEffect action s s' events) (h : .authenticated i workerId ∈ events) :
    s.identityStore.isActive workerId = true := by
  cases heffect with
  | same _ _ hquiet => exact absurd h (hquiet i workerId)
  | opened => cases h
  | staged => cases h
  | registered j session workerId' hregisters hfound hchecked _ _ =>
    obtain ⟨rfl, rfl⟩ : i = j ∧ workerId = workerId' := by simpa using h
    subst hregisters
    obtain ⟨stage, _, _, _⟩ := session
    obtain rfl : stage = _ := hchecked
    simpa [EndpointState.unrevoked, hfound] using hunrevoked
  | closed => cases h

omit [SecretHash] in
@[simp] theorem identityStore_closeSession : (s.closeSession i).identityStore = s.identityStore := by
  unfold EndpointState.closeSession
  split
  · split_ifs <;> rfl
  · rfl

/-- **No step takes a revocation back.** -/
theorem RevokedIdentity.endpointStep (h : RevokedIdentity s.identityStore workerId)
    (hstep : s.step action = some (s', events)) : RevokedIdentity s'.identityStore workerId := by
  unfold EndpointState.step at hstep
  cases action with
  | attach =>
    dsimp only at hstep
    split_ifs at hstep
    all_goals
      obtain ⟨rfl, rfl⟩ := Prod.mk.inj (Option.some.inj hstep)
      exact h
  | accept =>
    dsimp only at hstep
    split_ifs at hstep
    all_goals
      obtain ⟨rfl, rfl⟩ := Prod.mk.inj (Option.some.inj hstep)
      exact h
  | registerAttached =>
    dsimp only at hstep
    split_ifs at hstep
    obtain ⟨rfl, rfl⟩ := Prod.mk.inj (Option.some.inj hstep)
    exact h
  | hello j failing worker credential =>
    dsimp only at hstep
    split at hstep
    · split at hstep
      all_goals
        obtain ⟨rfl, rfl⟩ := Prod.mk.inj (Option.some.inj hstep)
        exact h
    · cases hstep
  | pairRequest j failing now pairingCode id credential =>
    dsimp only at hstep
    have hredeemed := @RevokedIdentity.redeemPairingCode _ _ _ failing now pairingCode id credential h
    split at hstep
    · split at hstep
      all_goals
        rename_i heq
        rw [heq] at hredeemed
        obtain ⟨rfl, rfl⟩ := Prod.mk.inj (Option.some.inj hstep)
        exact hredeemed
    · cases hstep
  | register j =>
    dsimp only at hstep
    split at hstep
    · obtain ⟨rfl, rfl⟩ := Prod.mk.inj (Option.some.inj hstep)
      exact h
    · cases hstep
  | close j =>
    dsimp only at hstep
    split_ifs at hstep
    obtain ⟨rfl, rfl⟩ := Prod.mk.inj (Option.some.inj hstep)
    rw [identityStore_closeSession]
    exact h
  | report j resourceId =>
    dsimp only at hstep
    split at hstep
    · obtain ⟨rfl, rfl⟩ := Prod.mk.inj (Option.some.inj hstep)
      exact h
    · cases hstep
  | administer call =>
    obtain ⟨rfl, rfl⟩ := Prod.mk.inj (Option.some.inj hstep)
    exact h.step call
  | revokeWorker failing worker =>
    dsimp only at hstep
    have hrevoked := @RevokedIdentity.revoke _ _ failing worker h
    split at hstep
    all_goals
      rename_i heq _
      rw [heq] at hrevoked
      obtain ⟨rfl, rfl⟩ := Prod.mk.inj (Option.some.inj hstep)
      exact hrevoked
  | advance t =>
    obtain ⟨task, htask, hadvance⟩ := Option.bind_eq_some_iff.mp hstep
    cases task with
    | revoked id =>
      obtain ⟨rfl, rfl⟩ := Prod.mk.inj (Option.some.inj hadvance)
      exact h
    | closing id rest =>
      cases rest with
      | nil =>
        obtain ⟨rfl, rfl⟩ := Prod.mk.inj (Option.some.inj hadvance)
        exact h
      | cons j rest =>
        obtain ⟨rfl, rfl⟩ := Prod.mk.inj (Option.some.inj hadvance)
        show RevokedIdentity (s.closeSession j).identityStore workerId
        rw [identityStore_closeSession]
        exact h
    | returned id => cases hadvance

/-- **What a step does to the calls of `revoke_worker`.** -/
inductive RevocationEffect (s s' : EndpointState) : List EndpointEvent → Prop
  | same {events : List EndpointEvent} (revocations : s'.revocations = s.revocations)
      (quiet : ∀ workerId, .revoked workerId ∉ events) : RevocationEffect s s' events
  | begun (workerId : SafeId) (revocations : s'.revocations = s.revocations ++ [.revoked workerId])
      (stored : RevokedIdentity s'.identityStore workerId) : RevocationEffect s s' []
  | collected (t : ℕ) (workerId : SafeId) (found : s.revocations[t]? = some (.revoked workerId))
      (revocations : s'.revocations =
        s.revocations.set t (.closing workerId (s.sessionsOf workerId)))
      (sessions : s'.sessions = s.sessions) : RevocationEffect s s' []
  | closed (t i : ℕ) (workerId : SafeId) (rest : List ℕ)
      (found : s.revocations[t]? = some (.closing workerId (i :: rest)))
      (revocations : s'.revocations = s.revocations.set t (.closing workerId rest))
      (sessions : s'.sessions = (s.closeSession i).sessions) : RevocationEffect s s' []
  | returned (t : ℕ) (workerId : SafeId)
      (found : s.revocations[t]? = some (.closing workerId []))
      (revocations : s'.revocations = s.revocations.set t (.returned workerId))
      (sessions : s'.sessions = s.sessions) : RevocationEffect s s' [.revoked workerId]

omit [SecretHash] in
@[simp] theorem revocations_closeSession : (s.closeSession i).revocations = s.revocations := by
  unfold EndpointState.closeSession
  split
  · split_ifs <;> rfl
  · rfl

theorem revocationEffect_of_step (h : s.step action = some (s', events)) :
    RevocationEffect s s' events := by
  unfold EndpointState.step at h
  cases action with
  | attach =>
    dsimp only at h
    split_ifs at h
    all_goals
      obtain ⟨rfl, rfl⟩ := Prod.mk.inj (Option.some.inj h)
      exact .same rfl (by simp)
  | accept =>
    dsimp only at h
    split_ifs at h
    all_goals
      obtain ⟨rfl, rfl⟩ := Prod.mk.inj (Option.some.inj h)
      exact .same rfl (by simp)
  | registerAttached =>
    dsimp only at h
    split_ifs at h
    obtain ⟨rfl, rfl⟩ := Prod.mk.inj (Option.some.inj h)
    exact .same rfl (by simp)
  | hello j failing worker credential =>
    dsimp only at h
    split at h
    · split at h
      all_goals
        obtain ⟨rfl, rfl⟩ := Prod.mk.inj (Option.some.inj h)
        exact .same rfl (by simp)
    · cases h
  | pairRequest j failing now pairingCode id credential =>
    dsimp only at h
    split at h
    · split at h
      all_goals
        obtain ⟨rfl, rfl⟩ := Prod.mk.inj (Option.some.inj h)
        exact .same rfl (by simp)
    · cases h
  | register j =>
    dsimp only at h
    split at h
    · obtain ⟨rfl, rfl⟩ := Prod.mk.inj (Option.some.inj h)
      exact .same rfl (by simp)
    · cases h
  | close j =>
    dsimp only at h
    split_ifs at h
    obtain ⟨rfl, rfl⟩ := Prod.mk.inj (Option.some.inj h)
    exact .same revocations_closeSession (by simp)
  | report j resourceId =>
    dsimp only at h
    split at h
    · obtain ⟨rfl, rfl⟩ := Prod.mk.inj (Option.some.inj h)
      exact .same rfl (by simp)
    · cases h
  | administer call =>
    obtain ⟨rfl, rfl⟩ := Prod.mk.inj (Option.some.inj h)
    exact .same rfl (by simp)
  | revokeWorker failing worker =>
    dsimp only at h
    split at h
    · rename_i store id heq hid
      obtain ⟨rfl, rfl⟩ := Prod.mk.inj (Option.some.inj h)
      exact .begun id rfl (revokedIdentity_of_revoke hid heq)
    · obtain ⟨rfl, rfl⟩ := Prod.mk.inj (Option.some.inj h)
      exact .same rfl (by simp)
  | advance t =>
    obtain ⟨task, htask, hstep⟩ := Option.bind_eq_some_iff.mp h
    cases task with
    | revoked id =>
      obtain ⟨rfl, rfl⟩ := Prod.mk.inj (Option.some.inj hstep)
      exact .collected t id htask rfl rfl
    | closing id rest =>
      cases rest with
      | nil =>
        obtain ⟨rfl, rfl⟩ := Prod.mk.inj (Option.some.inj hstep)
        exact .returned t id htask rfl rfl
      | cons j rest =>
        obtain ⟨rfl, rfl⟩ := Prod.mk.inj (Option.some.inj hstep)
        exact .closed t j id rest htask rfl rfl
    | returned id => cases hstep

/-- **What a revocation has come to**: its identity stays revoked, the sessions that it still has to
    close are all the live ones of its worker, and once it returned there is none and no more. -/
structure RevocationsKept (s : EndpointState) (log : List EndpointEvent) : Prop where
  revoked : ∀ task ∈ s.revocations, RevokedIdentity s.identityStore task.workerId
  closing : ∀ id rest, .closing id rest ∈ s.revocations → ∀ i, LiveOf s i id → i ∈ rest
  returned : ∀ id, .revoked id ∈ log →
    RevokedIdentity s.identityStore id ∧ ∀ i, ¬ LiveOf s i id
  silent : ∀ before id after, log = before ++ .revoked id :: after →
    ∀ i, .authenticated i id ∉ after

omit [SecretHash] in
/-- A live session of a worker is found by its row. -/
theorem Registered.mem_sessionsOf (h : Registered s) (hlive : LiveOf s i workerId) :
    i ∈ s.sessionsOf workerId := by
  obtain ⟨session, hget, hlive, hworker⟩ := hlive
  refine List.mem_filter.mpr ⟨h i session hget hlive, ?_⟩
  simp [hget, hworker]

/-- **Every step under the condition keeps what the revocations have come to.** -/
theorem RevocationsKept.step (h : RevocationsKept s log) (hregistered : Registered s)
    (hunrevoked : s.unrevoked action = true) (hstep : s.step action = some (s', events)) :
    RevocationsKept s' (log ++ events) := by
  have hsessions := sessionEffect_of_step hstep
  have hrevocations := revocationEffect_of_step hstep
  -- A revoked identity stays revoked, and no session of it becomes live.
  have hkeep : ∀ id, RevokedIdentity s.identityStore id → RevokedIdentity s'.identityStore id :=
    fun id hid => hid.endpointStep hstep
  have hquiet : ∀ id, RevokedIdentity s.identityStore id → ∀ i, .authenticated i id ∉ events := by
    intro id hid i hmem
    have hactive := isActive_of_authenticated hunrevoked hsessions hmem
    rw [hid.isActive] at hactive
    cases hactive
  have hlive : ∀ id, RevokedIdentity s.identityStore id → ∀ i, LiveOf s' i id → LiveOf s i id :=
    fun id hid i hi => (liveOf_of_effect hsessions hi).resolve_right (hquiet id hid i)
  have hreturned : ∀ id, .revoked id ∈ events →
      RevokedIdentity s.identityStore id ∧ ∀ i, ¬ LiveOf s i id := by
    intro id hmem
    cases hrevocations with
    | same _ hnone => exact absurd hmem (hnone id)
    | begun => cases hmem
    | collected => cases hmem
    | closed => cases hmem
    | returned t id' hfound _ _ =>
      obtain rfl : id = id' := by simpa using hmem
      have htask := List.mem_of_getElem? hfound
      exact ⟨h.revoked _ htask, fun i hi => List.not_mem_nil (h.closing id [] htask i hi)⟩
  constructor
  · intro task htask
    cases hrevocations with
    | same heq _ => exact hkeep _ (h.revoked task (heq ▸ htask))
    | begun id heq hstored =>
      rw [heq, List.mem_append, List.mem_singleton] at htask
      rcases htask with htask | rfl
      · exact hkeep _ (h.revoked task htask)
      · exact hstored
    | collected t id hfound heq _ | returned t id hfound heq _ =>
      rw [heq] at htask
      rcases List.mem_or_eq_of_mem_set htask with htask | rfl
      · exact hkeep _ (h.revoked task htask)
      · exact hkeep id (h.revoked _ (List.mem_of_getElem? hfound))
    | closed t j id rest hfound heq _ =>
      rw [heq] at htask
      rcases List.mem_or_eq_of_mem_set htask with htask | rfl
      · exact hkeep _ (h.revoked task htask)
      · exact hkeep id (h.revoked _ (List.mem_of_getElem? hfound))
  · intro id rest htask i hi
    -- A call that was already closing has only lost live sessions.
    have hbefore : .closing id rest ∈ s.revocations → i ∈ rest := fun hmem =>
      h.closing id rest hmem i (hlive id (h.revoked _ hmem) i hi)
    cases hrevocations with
    | same heq _ => exact hbefore (heq ▸ htask)
    | begun id' heq _ =>
      rw [heq, List.mem_append, List.mem_singleton] at htask
      exact hbefore (htask.resolve_right nofun)
    | collected t id' hfound heq _ =>
      rw [heq] at htask
      rcases List.mem_or_eq_of_mem_set htask with htask | hnew
      · exact hbefore htask
      · obtain ⟨rfl, rfl⟩ := Revocation.closing.inj hnew
        have hrevoked := h.revoked _ (List.mem_of_getElem? hfound)
        exact hregistered.mem_sessionsOf (hlive id hrevoked i hi)
    | closed t j id' rest' hfound heq hsessions' =>
      rw [heq] at htask
      rcases List.mem_or_eq_of_mem_set htask with htask | hnew
      · exact hbefore htask
      · obtain ⟨rfl, rfl⟩ := Revocation.closing.inj hnew
        have hmem := List.mem_of_getElem? hfound
        rcases List.mem_cons.mp (h.closing _ _ hmem i (hlive id (h.revoked _ hmem) i hi)) with
          rfl | hrest
        · unfold LiveOf at hi
          rw [hsessions'] at hi
          exact absurd hi not_liveOf_closeSession
        · exact hrest
    | returned t id' hfound heq _ =>
      rw [heq] at htask
      rcases List.mem_or_eq_of_mem_set htask with htask | hnew
      · exact hbefore htask
      · cases hnew
  · intro id hmem
    obtain ⟨hrevoked, hnone⟩ : RevokedIdentity s.identityStore id ∧ ∀ i, ¬ LiveOf s i id := by
      rcases List.mem_append.mp hmem with hmem | hmem
      · exact h.returned id hmem
      · exact hreturned id hmem
    exact ⟨hkeep id hrevoked, fun i hi => hnone i (hlive id hrevoked i hi)⟩
  · intro before id after heq i hmem
    rcases append_eq_append_cons heq with ⟨rest, hlog, rfl⟩ | ⟨rest, hbefore, hevents⟩
    · rcases List.mem_append.mp hmem with hmem | hmem
      · exact h.silent before id rest hlog i hmem
      · have hrevoked := (h.returned id (by rw [hlog]; simp)).1
        exact hquiet id hrevoked i hmem
    · have hrevoked := (hreturned id (by rw [hevents]; simp)).1
      exact hquiet id hrevoked i (by rw [hevents]; simp [hmem])

/-- **Over every interleaving** whose handshakes register identities that are still active, once
    `revoke_worker` returned, no session of the worker is authenticated and open, and none is
    registered any more. -/
theorem revocation_final
    (run : endpointMachine.Run (fun s action => s.unrevoked action = true)
      { identityStore := store } s log) {before after : List EndpointEvent}
    (hreturned : log = before ++ .revoked workerId :: after) :
    (∀ i, ¬ LiveOf s i workerId) ∧ ∀ i, .authenticated i workerId ∉ after := by
  obtain ⟨-, hkept⟩ : Registered s ∧ RevocationsKept s log := by
    refine run.invariant (I := fun s log => Registered s ∧ RevocationsKept s log) ?_ ?_
    · constructor
      · intro i session h
        simp at h
      · constructor <;> simp
    · rintro s s' log events action - ⟨hregistered, hkept⟩ hunrevoked hstep
      have heffect := sessionEffect_of_step hstep
      exact ⟨hregistered.effect heffect, hkept.step hregistered hunrevoked hstep⟩
  exact ⟨(hkept.returned workerId (by rw [hreturned]; simp)).2,
    hkept.silent before workerId after hreturned⟩

end Runs

/-! ### Examples -/

/-- A store with one paired device. -/
def pairedStore : WorkerIdentityStore where
  identities :=
    { rows := [{
        workerId := SafeId.lit "w-0a"
        label := none
        credentialHash := "ccccccccccccccccccccccccccccccccccccccccccc"
        status := .active
        createdAt := 0 }] }

/-- A connection of the device is accepted, and its credential is checked. -/
def deviceChecked : List EndpointAction :=
  [.accept, .registerAttached, .hello 0 none "w-0a" (repeatedToken 43 'c').text]

/-- The device connects, and is revoked. -/
def deviceRevoked : List EndpointAction :=
  deviceChecked ++ [.register 0, .revokeWorker none "w-0a", .advance 0, .advance 0, .advance 0]

theorem revocation_final_device : let _ := plainSecretHash
    ∃ s, endpointMachine.Run (fun s action => s.unrevoked action = true)
        { identityStore := pairedStore } s
        [.authenticated 0 (SafeId.lit "w-0a"), .revoked (SafeId.lit "w-0a")] ∧
      (∀ i, ¬ LiveOf s i (SafeId.lit "w-0a")) ∧
      ∀ i, EndpointEvent.authenticated i (SafeId.lit "w-0a") ∉ ([] : List EndpointEvent) := by
  intro _
  obtain ⟨s, -, run⟩ := endpointMachine.exists_run_of_exec EndpointState.unrevoked
    { identityStore := pairedStore } deviceRevoked
    (show _ = some [.authenticated 0 (SafeId.lit "w-0a"), .revoked (SafeId.lit "w-0a")] by
      decide +kernel)
  have hlog : [EndpointEvent.authenticated 0 (SafeId.lit "w-0a"), .revoked (SafeId.lit "w-0a")] =
      [.authenticated 0 (SafeId.lit "w-0a")] ++ .revoked (SafeId.lit "w-0a") :: [] := rfl
  exact ⟨s, run, revocation_final run hlog⟩

/-- A handshake that was checked before the revocation registers after it returned. -/
def revokedInHandshake : List EndpointAction :=
  deviceChecked ++ [.revokeWorker none "w-0a", .advance 0, .advance 0, .register 0]

theorem liveOf_after_revocation : let _ := plainSecretHash
    ¬ ∀ s log, endpointMachine.Run (fun _ _ => True) { identityStore := pairedStore } s log →
      ∀ workerId, .revoked workerId ∈ log → ∀ i, ¬ LiveOf s i workerId := by
  intro _ h
  have hlive : (endpointMachine.exec (fun _ _ => true) { identityStore := pairedStore } []
      revokedInHandshake).map (fun r => (r.1.sessions, r.2)) =
      some ([{ stage := .over, workerId := some (SafeId.lit "w-0a"), authenticated := true }],
        [.revoked (SafeId.lit "w-0a"), .authenticated 0 (SafeId.lit "w-0a")]) := by decide +kernel
  obtain ⟨⟨s, log⟩, hexec, hstate⟩ := Option.map_eq_some_iff.mp hlive
  obtain ⟨hsessions, hlog⟩ := Prod.mk.inj hstate
  dsimp only at hsessions hlog
  refine h s log ((Machine.run_of_exec .refl hexec).mono fun _ _ _ => trivial)
    (SafeId.lit "w-0a") (by rw [hlog]; simp) 0 ?_
  unfold LiveOf
  rw [hsessions]
  exact ⟨_, rfl, rfl, rfl⟩

/-- The device connects and disconnects. -/
theorem sessions_tabled_device : let _ := plainSecretHash
    ∃ s, SessionTable s ∧ endpointMachine.Run (fun s action => s.tables action = true)
      { identityStore := pairedStore } s [.authenticated 0 (SafeId.lit "w-0a")] := by
  intro _
  obtain ⟨s, -, run⟩ := endpointMachine.exists_run_of_exec EndpointState.tables
    { identityStore := pairedStore } (deviceChecked ++ [.register 0, .close 0])
    (show _ = some [.authenticated 0 (SafeId.lit "w-0a")] by decide +kernel)
  exact ⟨s, sessions_tabled run, run⟩

theorem sessions_tabled_of_listener_device : let _ := plainSecretHash
    ∃ s log, endpointMachine.Run (fun s action => s.listens action = true)
      { identityStore := pairedStore } s log ∧ SessionTable s := by
  intro _
  obtain ⟨s, -, run⟩ := endpointMachine.exists_run_of_exec EndpointState.listens
    { identityStore := pairedStore } (deviceChecked ++ [.register 0, .close 0])
    (show _ = some [.authenticated 0 (SafeId.lit "w-0a")] by decide +kernel)
  exact ⟨s, _, run, sessions_tabled_of_listener run⟩

/-- A handshake that registers a closed session leaves its row for good. -/
theorem closed_row : let _ := plainSecretHash
    ¬ ∀ s log, endpointMachine.Run (fun _ _ => True) { identityStore := pairedStore } s log →
      SessionTable s := by
  intro _ h
  have hrow : (endpointMachine.exec (fun _ _ => true) { identityStore := pairedStore } []
      (deviceChecked ++ [.close 0, .register 0, .close 0])).map
        (fun r => (r.1.table, r.1.sessions.map (·.closed))) = some ([0], [true]) := by
    decide +kernel
  obtain ⟨⟨s, log⟩, hexec, hstate⟩ := Option.map_eq_some_iff.mp hrow
  obtain ⟨htable, hclosed⟩ := Prod.mk.inj hstate
  dsimp only at htable hclosed
  have hkept := h s log ((Machine.run_of_exec .refl hexec).mono fun _ _ _ => trivial)
  obtain ⟨session, hget, hopen⟩ := hkept.rows_open 0 (by rw [htable]; simp)
  have hmem := List.mem_map_of_mem (f := SessionRecord.closed) (List.mem_of_getElem? hget)
  rw [hclosed, hopen] at hmem
  simp at hmem

end ScarcityRouter
