import Mathlib.Data.List.Perm.Basic
import ScarcityRouter.Gateway.Continuation

namespace ScarcityRouter

open ScarcityRouter.Lib

/-!
# Interleaved continuation calls

Every call of `ContinuationRegistry` is cut at its lock: between two sections of one call, sections
of other calls run, at any clock.  Callbacks run outside the lock, and `expire_due` holds it over
its whole scan, while `release_unclaimed` takes only the lock of its record.

* `ContinuationTask`, `ContinuationSystem` — what the threads still have to do.
* `ContinuationSystem.step` — one section of one thread, with the events it makes observable.
* `Accounted`, `Ordered` — the invariants: counts of events, and the order of claims.
* `continuation_exactlyOnce` — **exactly-once continuation over every interleaving.**
-/

/-! ### Threads -/

/-- What a thread inside a registry method still has to do. -/
inductive ContinuationTask where
  /-- `register`, before its locked section. -/
  | registering (record : PendingContinuation)
  /-- `close`, after its locked section: the terminal state is still to be marked. -/
  | closing (record : PendingContinuation) (state : ContinuationState) (cancelBackend : Bool)
  /-- `close`, before the cancellation of the backend. -/
  | cancelling (record : PendingContinuation)
  /-- `claim` of an expired record, before its callback. -/
  | rejecting (record : PendingContinuation)
  /-- The scan of `expire_due`, which holds the registry lock. -/
  | expiring (now : Instant) (snapshot expired : List PendingContinuation)
  /-- `expire_due`, with its callbacks still to be invoked. -/
  | reaping (expired : List PendingContinuation)
  deriving DecidableEq

/-- One step of one thread: a call, up to the end of its first section, or the next section of a
    thread that is inside a call. -/
inductive ContinuationAction where
  | register (record : PendingContinuation)
  | claim (token clientId : String) (now : Instant)
  | release (identity : ℕ)
  | close (token : String) (state : ContinuationState) (cancelBackend : Bool)
  | expireDue (now : Instant)
  | resume (thread : ℕ) (raises : Bool)
  deriving DecidableEq

/-- What the calls make observable. -/
inductive ContinuationEvent where
  | registered (record : PendingContinuation)
  | claimed (record : PendingContinuation)
  | released (identity : ℕ)
  | left (record : PendingContinuation)
  | cancelled (record : PendingContinuation)
  | rejected (token clientId : String) (reason : ContinuationRejection)
  deriving DecidableEq

/-- The registry, the threads inside a call, and the number of records constructed so far. -/
structure ContinuationSystem where
  registry : ContinuationRegistry
  tasks : List ContinuationTask := []
  constructed : ℕ := 0

/-- The task holds the registry lock. -/
def ContinuationTask.holdsLock : ContinuationTask → Bool
  | .expiring _ _ _ => true
  | _ => false

/-- The invocation of a record's callback, if it has one. -/
def PendingContinuation.invoke (record : PendingContinuation) : List ContinuationEvent :=
  if record.hasCancelCallback then [.cancelled record] else []

namespace ContinuationSystem

variable (s : ContinuationSystem)

/-- Some thread holds the registry lock. -/
def locked : Bool := s.tasks.any (·.holdsLock)

/-- A thread enters a task. -/
def push (task : ContinuationTask) : ContinuationSystem := { s with tasks := task :: s.tasks }

/-- The next section of a thread whose task has been taken out of the system; `raises` says whether
    the callback it invokes raises. -/
def advance (raises : Bool) : ContinuationTask →
    Option (ContinuationSystem × List ContinuationEvent)
  | .registering record =>
    if s.locked then none
    else if s.registry.admits record then
      some ({ s with registry := s.registry.insert record }, [.registered record])
    else some (s, [])
  | .closing record state cancelBackend =>
    let marked := { s with registry := s.registry.setState record.identity state }
    some (if cancelBackend then marked.push (.cancelling record) else marked, [])
  | .cancelling record => some (s, record.invoke)
  | .rejecting record =>
    -- A callback that raises replaces the rejection.
    some (s, record.invoke ++ if raises && record.hasCancelCallback then [] else
      [.rejected record.continuationToken record.clientId .expired])
  | .expiring _ [] expired => some (s.push (.reaping expired), [])
  | .expiring now (record :: snapshot) expired =>
    if record.expiredAt now then
      some ({ s with registry := s.registry.reap record }.push
        (.expiring now snapshot (expired ++ [record])), [.left record])
    else some (s.push (.expiring now snapshot expired), [])
  | .reaping [] => some (s, [])
  | .reaping (record :: expired) =>
    some (if raises && record.hasCancelCallback then s else s.push (.reaping expired),
      record.invoke)

/-- One step.  A thread that needs the registry lock waits while another one holds it, and each
    `register` call is made with a record constructed for it. -/
def step : ContinuationAction → Option (ContinuationSystem × List ContinuationEvent)
  | .register record =>
    let fresh := { record with identity := s.constructed }
    if fresh.registrable then
      some ({ s with constructed := s.constructed + 1 }.push (.registering fresh), [])
    else some (s, [])
  | .claim token clientId now =>
    if s.locked then none
    else
      match s.registry.claimSection token clientId now with
      | (registry, .rejected reason) =>
        some ({ s with registry }, [.rejected token clientId reason])
      | (registry, .expired record) =>
        some ({ s with registry }.push (.rejecting record), [.left record])
      | (registry, .claimed record) => some ({ s with registry }, [.claimed record])
  | .release identity =>
    some ({ s with registry := s.registry.restoreWaiting identity },
      if s.registry.states identity = .resuming then [.released identity] else [])
  | .close token state cancelBackend =>
    if !state.terminal then some (s, [])
    else if s.locked then none
    else
      match s.registry.closeSection token with
      | (registry, none) => some ({ s with registry }, [])
      | (registry, some record) =>
        some ({ s with registry }.push (.closing record state cancelBackend), [.left record])
  | .expireDue now =>
    if s.locked then none else some (s.push (.expiring now s.registry.pending []), [])
  | .resume thread raises =>
    match s.tasks[thread]? with
    | none => none
    | some task => advance { s with tasks := s.tasks.eraseIdx thread } raises task

/-- The registry of a fresh server process. -/
def start (maxPending : ℕ+) : ContinuationSystem := ⟨⟨maxPending, [], [], fun _ => .waiting⟩, [], 0⟩

end ContinuationSystem

/-- The registry as a machine. -/
def continuationMachine : Machine ContinuationSystem ContinuationAction ContinuationEvent :=
  ⟨ContinuationSystem.step⟩

/-- Some interleaving of calls reaches the state, with the log of what they made observable. -/
abbrev ContinuationRun (maxPending : ℕ+) : ContinuationSystem → List ContinuationEvent → Prop :=
  continuationMachine.Run (fun _ _ => True) (.start maxPending)

/-! ### What the threads owe -/

/-- The record a thread is about to register. -/
def ContinuationTask.entering : ContinuationTask → List PendingContinuation
  | .registering record => [record]
  | _ => []

/-- The records whose callbacks a thread will still invoke. -/
def ContinuationTask.owed : ContinuationTask → List PendingContinuation
  | .registering _ => []
  | .closing record _ cancelBackend => if cancelBackend then [record] else []
  | .cancelling record => [record]
  | .rejecting record => [record]
  | .expiring _ _ expired => expired
  | .reaping expired => expired

/-- The records about to be registered. -/
def ContinuationSystem.entering (s : ContinuationSystem) : List PendingContinuation :=
  s.tasks.flatMap (·.entering)

/-- The records whose callbacks are still to be invoked. -/
def ContinuationSystem.owed (s : ContinuationSystem) : List PendingContinuation :=
  s.tasks.flatMap (·.owed)

namespace ContinuationSystem

variable {s : ContinuationSystem} {task : ContinuationTask} {record : PendingContinuation}

@[simp] theorem push_registry : (s.push task).registry = s.registry := rfl
@[simp] theorem push_tasks : (s.push task).tasks = task :: s.tasks := rfl
@[simp] theorem push_constructed : (s.push task).constructed = s.constructed := rfl
@[simp] theorem push_entering : (s.push task).entering = task.entering ++ s.entering := rfl
@[simp] theorem push_owed : (s.push task).owed = task.owed ++ s.owed := rfl

/-- Taking a thread's task out of the system takes what it owes. -/
theorem perm_eraseIdx {thread : ℕ} (h : s.tasks[thread]? = some task) :
    s.tasks.Perm (task :: s.tasks.eraseIdx thread) := by
  obtain ⟨hlt, rfl⟩ := List.getElem?_eq_some_iff.mp h
  exact (List.getElem_cons_eraseIdx_perm hlt).symm

theorem entering_eraseIdx {thread : ℕ} (h : s.tasks[thread]? = some task) :
    s.entering.Perm (task.entering ++ { s with tasks := s.tasks.eraseIdx thread }.entering) :=
  (perm_eraseIdx h).flatMap_right _

theorem owed_eraseIdx {thread : ℕ} (h : s.tasks[thread]? = some task) :
    s.owed.Perm (task.owed ++ { s with tasks := s.tasks.eraseIdx thread }.owed) :=
  (perm_eraseIdx h).flatMap_right _

/-! ### What a step can do -/

/-- The system without one of its tasks. -/
def without (s : ContinuationSystem) (thread : ℕ) : ContinuationSystem :=
  { s with tasks := s.tasks.eraseIdx thread }

/-- What a step can do. -/
inductive Moves (s : ContinuationSystem) :
    ContinuationSystem → List ContinuationEvent → Prop where
  /-- A call that raises before it changes anything, or releases an unclaimed record. -/
  | refused : Moves s s []
  | rejected (token clientId : String) (reason : ContinuationRejection) :
      Moves s s [.rejected token clientId reason]
  | opened (record : PendingContinuation) (identity : record.identity = s.constructed) :
      Moves s ({ s with constructed := s.constructed + 1 }.push (.registering record)) []
  | claimed (record : PendingContinuation) (pending : record ∈ s.registry.pending)
      (waiting : s.registry.states record.identity = .waiting) :
      Moves s { s with registry := s.registry.setState record.identity .resuming }
        [.claimed record]
  | claimExpired (record : PendingContinuation) (unlocked : s.locked = false)
      (pending : record ∈ s.registry.pending) :
      Moves s ({ s with
        registry := ((s.registry.setState record.identity .expired).pop
          record.continuationToken).bury record.tombstone }.push (.rejecting record))
        [.left record]
  | released (identity : ℕ) (resuming : s.registry.states identity = .resuming) :
      Moves s { s with registry := s.registry.setState identity .waiting } [.released identity]
  | buried (token : String) (unknown : s.registry.detect token = none) :
      Moves s { s with registry := s.registry.bury (token, "") } []
  | closed (record : PendingContinuation) (state : ContinuationState) (cancelBackend : Bool)
      (unlocked : s.locked = false) (pending : record ∈ s.registry.pending) :
      Moves s ({ s with
        registry := (s.registry.pop record.continuationToken).bury record.tombstone }.push
          (.closing record state cancelBackend)) [.left record]
  | expiring (now : Instant) (unlocked : s.locked = false) :
      Moves s (s.push (.expiring now s.registry.pending [])) []
  | entered {thread : ℕ} {record : PendingContinuation}
      (found : s.tasks[thread]? = some (.registering record))
      (admits : s.registry.admits record = true) :
      Moves s { s.without thread with registry := s.registry.insert record } [.registered record]
  | marked {thread : ℕ} {record : PendingContinuation} {state : ContinuationState}
      {cancelBackend : Bool}
      (found : s.tasks[thread]? = some (.closing record state cancelBackend)) :
      Moves s (let marked := { s.without thread with
          registry := s.registry.setState record.identity state }
        if cancelBackend then marked.push (.cancelling record) else marked) []
  /-- A thread ends its call. -/
  | ended {thread : ℕ} {task : ContinuationTask} (found : s.tasks[thread]? = some task)
      (unlocking : task.holdsLock = false) : Moves s (s.without thread) []
  /-- A thread invokes a callback and ends its call, or goes on with the others. -/
  | called {thread : ℕ} {task : ContinuationTask} {record : PendingContinuation}
      {rest : List PendingContinuation} {raised : Bool} {rejection : List ContinuationEvent}
      (found : s.tasks[thread]? = some task) (owed : task.owed = record :: rest)
      (unlocking : task.holdsLock = false)
      (rejects : ∀ e ∈ rejection, ∃ token clientId reason, e = .rejected token clientId reason) :
      Moves s (if raised then s.without thread else (s.without thread).push (.reaping rest))
        (record.invoke ++ rejection)
  | reaped {thread : ℕ} {now : Instant} {record : PendingContinuation}
      {snapshot expired : List PendingContinuation}
      (found : s.tasks[thread]? = some (.expiring now (record :: snapshot) expired))
      (due : record.expiredAt now = true) :
      Moves s ({ s.without thread with registry := s.registry.reap record }.push
        (.expiring now snapshot (expired ++ [record]))) [.left record]
  | kept {thread : ℕ} {now : Instant} {record : PendingContinuation}
      {snapshot expired : List PendingContinuation}
      (found : s.tasks[thread]? = some (.expiring now (record :: snapshot) expired)) :
      Moves s ((s.without thread).push (.expiring now snapshot expired)) []
  | scanned {thread : ℕ} {now : Instant} {expired : List PendingContinuation}
      (found : s.tasks[thread]? = some (.expiring now [] expired)) :
      Moves s ((s.without thread).push (.reaping expired)) []

/-- A release of a record that is not claimed does nothing. -/
theorem restoreWaiting_eq (r : ContinuationRegistry) (identity : ℕ) :
    r.restoreWaiting identity =
      if r.states identity = .resuming then r.setState identity .waiting else r := rfl

/-- **The sections of a thread are moves.** -/
private theorem advance_moves {thread : ℕ} {raises : Bool} {s' : ContinuationSystem}
    {events : List ContinuationEvent} (hget : s.tasks[thread]? = some task)
    (h : (s.without thread).advance raises task = some (s', events)) : s.Moves s' events := by
  cases task with
  | registering record =>
    dsimp only [advance] at h
    split_ifs at h with hlocked hadmits
    · cases h
      exact .entered hget hadmits
    · cases h
      exact .ended hget rfl
  | closing record state cancelBackend =>
    cases h
    exact .marked hget
  | cancelling record =>
    cases h
    have hmove := @Moves.called _ _ _ _ _ true [] hget rfl rfl (fun _ h => nomatch h)
    rwa [List.append_nil] at hmove
  | rejecting record =>
    cases h
    refine @Moves.called _ _ _ _ _ true _ hget rfl rfl fun e he => ?_
    split at he
    · cases he
    · exact ⟨_, _, _, List.mem_singleton.mp he⟩
  | expiring now snapshot expired =>
    cases snapshot with
    | nil =>
      cases h
      exact .scanned hget
    | cons record snapshot =>
      dsimp only [advance] at h
      split_ifs at h with hdue
      · cases h
        exact .reaped hget hdue
      · cases h
        exact .kept hget
  | reaping expired =>
    cases expired with
    | nil =>
      cases h
      exact .ended hget rfl
    | cons record expired =>
      cases h
      have hmove := @Moves.called _ _ _ _ _ (raises && record.hasCancelCallback) [] hget rfl rfl
        (fun _ h => nomatch h)
      rwa [List.append_nil] at hmove

/-- **Every step is a move.** -/
theorem step_moves {action : ContinuationAction} {s' : ContinuationSystem}
    {events : List ContinuationEvent} (hkeyed : s.registry.Keyed)
    (h : s.step action = some (s', events)) : s.Moves s' events := by
  cases action with
  | register record =>
    dsimp only [step] at h
    split_ifs at h
    · cases h
      exact .opened _ rfl
    · cases h
      exact .refused
  | claim token clientId now =>
    dsimp only [step] at h
    split_ifs at h with hlocked
    split at h
    · rename_i registry reason hclaim
      cases h
      obtain rfl := ContinuationRegistry.claimSection_rejected hclaim
      exact .rejected _ _ _
    · rename_i registry record hclaim
      cases h
      obtain ⟨hpending, -, -, rfl⟩ := ContinuationRegistry.claimSection_expired hkeyed hclaim
      exact .claimExpired record (Bool.eq_false_iff.mpr hlocked) hpending
    · rename_i registry record hclaim
      cases h
      obtain ⟨hpending, -, -, hwaiting, -, rfl⟩ :=
        ContinuationRegistry.claimSection_claimed hkeyed hclaim
      exact .claimed record hpending hwaiting
  | release identity =>
    cases h
    rw [restoreWaiting_eq]
    split_ifs with hresuming
    · exact .released identity hresuming
    · exact .refused
  | close token state cancelBackend =>
    dsimp only [step] at h
    split_ifs at h with hterminal hlocked
    · cases h
      exact .refused
    · split at h
      · rename_i registry hclose
        cases h
        obtain ⟨hnone, rfl⟩ := ContinuationRegistry.closeSection_none hclose
        exact .buried token hnone
      · rename_i registry record hclose
        cases h
        obtain ⟨hpending, -, rfl⟩ := ContinuationRegistry.closeSection_some hkeyed hclose
        exact .closed record state cancelBackend (Bool.eq_false_iff.mpr hlocked) hpending
  | expireDue now =>
    dsimp only [step] at h
    split_ifs at h with hlocked
    cases h
    exact .expiring now (Bool.eq_false_iff.mpr hlocked)
  | resume thread raises =>
    dsimp only [step] at h
    split at h
    · cases h
    · rename_i task hget
      exact advance_moves hget h

/-! ### The lock -/

/-- The number of threads that hold the registry lock. -/
def holders (s : ContinuationSystem) : ℕ := s.tasks.countP (·.holdsLock)

/-- Every record is filed under its token, within the bound; at most one thread scans, and what it
    has not scanned yet is still pending. -/
structure Guarded (s : ContinuationSystem) : Prop where
  keyed : s.registry.Keyed
  bounded : s.registry.records.length ≤ s.registry.maxPending
  alone : s.holders ≤ 1
  scanned : ∀ now snapshot expired, .expiring now snapshot expired ∈ s.tasks →
    snapshot.Nodup ∧ ∀ record ∈ snapshot, record ∈ s.registry.pending

theorem holders_push_of_free (h : task.holdsLock = false) :
    (s.push task).holders = s.holders := by
  unfold holders
  rw [push_tasks, List.countP_cons_of_neg (by simp [h])]

theorem holders_push_of_lock (h : task.holdsLock = true) :
    (s.push task).holders = s.holders + 1 := by
  unfold holders
  rw [push_tasks, List.countP_cons_of_pos h]

/-- The threads that hold the lock, without one that does not. -/
theorem holders_without_of_free {thread : ℕ} (hget : s.tasks[thread]? = some task)
    (h : task.holdsLock = false) : (s.without thread).holders = s.holders := by
  unfold holders
  rw [(perm_eraseIdx hget).countP_eq, List.countP_cons_of_neg (by simp [h])]
  rfl

/-- The threads that hold the lock, without one that does. -/
theorem holders_without_of_lock {thread : ℕ} (hget : s.tasks[thread]? = some task)
    (h : task.holdsLock = true) : (s.without thread).holders + 1 = s.holders := by
  unfold holders
  rw [(perm_eraseIdx hget).countP_eq, List.countP_cons_of_pos h]
  rfl

/-- While nobody holds the lock, nobody scans. -/
theorem not_expiring_of_unlocked (h : s.locked = false) {now : Instant}
    {snapshot expired : List PendingContinuation} :
    .expiring now snapshot expired ∉ s.tasks := by
  intro hmem
  have hno := List.any_eq_false.mp h _ hmem
  exact hno rfl

theorem holders_of_unlocked (h : s.locked = false) : s.holders = 0 :=
  List.countP_eq_zero.mpr fun task htask => List.any_eq_false.mp h task htask

theorem mem_of_mem_without {thread : ℕ} {other : ContinuationTask}
    (h : other ∈ (s.without thread).tasks) : other ∈ s.tasks :=
  List.mem_of_mem_eraseIdx h

namespace Guarded

/-- Popping keeps the registry bounded. -/
theorem bounded_pop (h : s.Guarded) (token : String) :
    (s.registry.records.filter (·.1 ≠ token)).length ≤ s.registry.maxPending :=
  (List.length_filter_le _ _).trans h.bounded

/-- Without the scanning thread nobody scans. -/
theorem not_expiring_without (h : s.Guarded) {thread : ℕ}
    (hget : s.tasks[thread]? = some task) (hlock : task.holdsLock = true) {now : Instant}
    {snapshot expired : List PendingContinuation} :
    .expiring now snapshot expired ∉ (s.without thread).tasks := by
  intro hmem
  have hcount := holders_without_of_lock hget hlock
  have halone := h.alone
  have hpos : 0 < (s.without thread).holders := List.countP_pos_iff.mpr ⟨_, hmem, rfl⟩
  omega

/-- A new task that holds no lock disturbs nothing. -/
theorem push_free (h : s.Guarded) (hfree : task.holdsLock = false) : (s.push task).Guarded := by
  refine ⟨h.keyed, h.bounded, ?_, ?_⟩
  · rw [holders_push_of_free hfree]
    exact h.alone
  · intro now snapshot expired hmem
    rcases List.mem_cons.mp hmem with rfl | hmem
    · cases hfree
    · exact h.scanned now snapshot expired hmem

/-- A thread that leaves, with the lock or without it, disturbs nothing. -/
theorem without (h : s.Guarded) {thread : ℕ} (hget : s.tasks[thread]? = some task) :
    (s.without thread).Guarded := by
  refine ⟨h.keyed, h.bounded, ?_, ?_⟩
  · have halone := h.alone
    cases hlock : task.holdsLock with
    | false => rwa [holders_without_of_free hget hlock]
    | true =>
      have hcount := holders_without_of_lock hget hlock
      omega
  · exact fun now snapshot expired hmem =>
      h.scanned now snapshot expired (mem_of_mem_without hmem)

/-- The scan reads the pending records only. -/
theorem withRegistry (h : s.Guarded) {registry : ContinuationRegistry}
    (hrecords : registry.records = s.registry.records)
    (hmax : registry.maxPending = s.registry.maxPending) :
    ({ s with registry } : ContinuationSystem).Guarded := by
  refine ⟨h.keyed.congr hrecords, ?_, h.alone, ?_⟩
  · dsimp only
    rw [hrecords, hmax]
    exact h.bounded
  · intro now snapshot expired hmem
    obtain ⟨hnodup, hpending⟩ := h.scanned now snapshot expired hmem
    refine ⟨hnodup, fun record hrecord => ?_⟩
    unfold ContinuationRegistry.pending
    rw [hrecords]
    exact hpending record hrecord

/-- While nobody scans, a record can be removed. -/
theorem removed (h : s.Guarded) (hunlocked : s.locked = false) {registry : ContinuationRegistry}
    (token : String) (hrecords : registry.records = s.registry.records.filter (·.1 ≠ token))
    (hmax : registry.maxPending = s.registry.maxPending) :
    ({ s with registry } : ContinuationSystem).Guarded := by
  refine ⟨(h.keyed.pop token).congr hrecords, ?_, h.alone, ?_⟩
  · dsimp only
    rw [hrecords, hmax]
    exact h.bounded_pop token
  · exact fun now snapshot expired hmem => absurd hmem (not_expiring_of_unlocked hunlocked)

end Guarded

/-- **Every move keeps the lock discipline.** -/
theorem Guarded.moves {s' : ContinuationSystem} {events : List ContinuationEvent} (h : s.Guarded)
    (hmove : s.Moves s' events) : s'.Guarded := by
  cases hmove with
  | refused => exact h
  | rejected => exact h
  | opened record identity =>
    have hopen : ({ s with constructed := s.constructed + 1 } : ContinuationSystem).Guarded :=
      ⟨h.keyed, h.bounded, h.alone, h.scanned⟩
    exact hopen.push_free rfl
  | claimed => exact h.withRegistry rfl rfl
  | claimExpired record unlocked =>
    exact (h.removed unlocked record.continuationToken (by simp) (by simp)).push_free rfl
  | released => exact h.withRegistry rfl rfl
  | buried => exact h.withRegistry (by simp) (by simp)
  | closed record state cancelBackend unlocked =>
    exact (h.removed unlocked record.continuationToken (by simp) (by simp)).push_free rfl
  | expiring now unlocked =>
    refine ⟨h.keyed, h.bounded, ?_, ?_⟩
    · rw [holders_push_of_lock rfl, holders_of_unlocked unlocked]
    · intro now' snapshot expired hmem
      rcases List.mem_cons.mp hmem with hmem | hmem
      · cases hmem
        exact ⟨h.keyed.nodup_pending, fun _ h => h⟩
      · exact absurd hmem (not_expiring_of_unlocked unlocked)
  | entered found admits =>
    rename_i thread record
    have hrest := h.without found
    refine ⟨h.keyed.insert admits, ?_, hrest.alone, ?_⟩
    · unfold ContinuationRegistry.admits at admits
      simp only [Bool.and_eq_true, decide_eq_true_eq] at admits
      simp only [ContinuationRegistry.insert_records, List.length_append, List.length_singleton,
        ContinuationRegistry.insert_maxPending]
      omega
    · intro now snapshot expired hmem
      obtain ⟨hnodup, hpending⟩ := hrest.scanned now snapshot expired hmem
      refine ⟨hnodup, fun x hx => ?_⟩
      unfold ContinuationRegistry.pending
      rw [ContinuationRegistry.insert_records, List.map_append]
      exact List.mem_append_left _ (hpending x hx)
  | marked found =>
    rename_i thread record state cancelBackend
    have hmarked := @withRegistry _ (h.without found)
      (s.registry.setState record.identity state) rfl rfl
    cases cancelBackend with
    | false => exact hmarked
    | true => exact hmarked.push_free rfl
  | ended found => exact h.without found
  | called found owed unlocking rejects =>
    rename_i thread task record rest raised rejection
    cases raised with
    | true => exact h.without found
    | false => exact (h.without found).push_free rfl
  | reaped found due =>
    rename_i thread now record snapshot expired
    obtain ⟨hnodup, hpending⟩ := h.scanned _ _ _ (List.mem_of_getElem? found)
    have hrecord := hpending record List.mem_cons_self
    have hcount := holders_without_of_lock found rfl
    have halone := h.alone
    refine ⟨(h.keyed.pop record.continuationToken).congr (by simp), ?_, ?_, ?_⟩
    · simpa using h.bounded_pop record.continuationToken
    · rw [holders_push_of_lock rfl]
      exact hcount.trans_le halone
    · intro now' snapshot' expired' hmem
      rcases List.mem_cons.mp hmem with hmem | hmem
      · cases hmem
        refine ⟨(List.nodup_cons.mp hnodup).2, fun x hx => ?_⟩
        have hne : x ≠ record := by
          rintro rfl
          exact (List.nodup_cons.mp hnodup).1 hx
        have hleft := (h.keyed.mem_pending_pop hrecord).mpr
          ⟨hpending x (List.mem_cons_of_mem _ hx), hne⟩
        simpa [ContinuationRegistry.pending] using hleft
      · exact absurd hmem (h.not_expiring_without found rfl)
  | kept found =>
    rename_i thread now record snapshot expired
    obtain ⟨hnodup, hpending⟩ := h.scanned _ _ _ (List.mem_of_getElem? found)
    have hcount := holders_without_of_lock found rfl
    refine ⟨h.keyed, h.bounded, ?_, ?_⟩
    · rw [holders_push_of_lock rfl, hcount]
      exact h.alone
    · intro now' snapshot' expired' hmem
      rcases List.mem_cons.mp hmem with hmem | hmem
      · cases hmem
        exact ⟨(List.nodup_cons.mp hnodup).2, fun x hx => hpending x (List.mem_cons_of_mem _ hx)⟩
      · exact absurd hmem (h.not_expiring_without found rfl)
  | scanned found => exact (h.without found).push_free rfl

/-! ### The accounts -/

/-- How one move changes the counts: what leaves was pending, what is registered was about to be,
    and a callback is invoked only if it is owed, which only a removal makes it. -/
structure Delta (s s' : ContinuationSystem) (events : List ContinuationEvent) : Prop where
  pending : ∀ x, s'.registry.pending.count x + events.count (.left x) =
    s.registry.pending.count x + events.count (.registered x)
  entering : ∃ opened : Option PendingContinuation,
    (∀ record ∈ opened, record.identity = s.constructed ∧ s'.constructed = s.constructed + 1) ∧
    ∀ x, events.count (.registered x) + s'.entering.count x ≤
      s.entering.count x + opened.toList.count x
  owed : ∀ x, events.count (.cancelled x) + s'.owed.count x ≤
    s.owed.count x + events.count (.left x)
  constructed : s.constructed ≤ s'.constructed

theorem count_entering_without {thread : ℕ} (hget : s.tasks[thread]? = some task)
    (x : PendingContinuation) :
    s.entering.count x = task.entering.count x + (s.without thread).entering.count x := by
  rw [(entering_eraseIdx hget).count_eq, List.count_append]
  rfl

theorem count_owed_without {thread : ℕ} (hget : s.tasks[thread]? = some task)
    (x : PendingContinuation) :
    s.owed.count x = task.owed.count x + (s.without thread).owed.count x := by
  rw [(owed_eraseIdx hget).count_eq, List.count_append]
  rfl

/-- Rejections count as nothing. -/
private theorem count_rejections {rejection : List ContinuationEvent} {e : ContinuationEvent}
    (h : ∀ e ∈ rejection, ∃ token clientId reason, e = .rejected token clientId reason)
    (he : ∀ token clientId reason, e ≠ .rejected token clientId reason) :
    rejection.count e = 0 := by
  refine List.count_eq_zero.mpr fun hmem => ?_
  obtain ⟨token, clientId, reason, rfl⟩ := h e hmem
  exact he _ _ _ rfl

/-- A callback is invoked at most once. -/
private theorem count_invoke_le (record x : PendingContinuation) :
    record.invoke.count (.cancelled x) ≤ [record].count x := by
  unfold PendingContinuation.invoke
  split
  · by_cases hx : record = x
    · subst hx
      simp
    · have hne : ContinuationEvent.cancelled record ≠ .cancelled x := by simpa using hx
      rw [List.count_singleton, List.count_singleton]
      simp [hx]
  · simp

/-- The pending records after a removal. -/
private theorem count_pending_pop {r : ContinuationRegistry} (hkeyed : r.Keyed)
    {record : PendingContinuation} (hpending : record ∈ r.pending) (x : PendingContinuation) :
    (r.pop record.continuationToken).pending.count x + [ContinuationEvent.left record].count
      (.left x) = r.pending.count x := by
  rw [(hkeyed.pending_pop hpending).count_eq]
  simp [List.count_cons]

/-- The counts of a single event. -/
@[simp] theorem count_left (record x : PendingContinuation) :
    [ContinuationEvent.left record].count (.left x) = [record].count x := by
  simp [List.count_singleton]

@[simp] theorem count_registered (record x : PendingContinuation) :
    [ContinuationEvent.registered record].count (.registered x) = [record].count x := by
  simp [List.count_singleton]

/-- A move that changes neither the pending records nor what the threads owe. -/
private theorem Delta.ofSame {s' : ContinuationSystem} {events : List ContinuationEvent}
    (hrecords : s'.registry.records = s.registry.records)
    (hentering : ∀ x, s'.entering.count x ≤ s.entering.count x)
    (howed : ∀ x, events.count (.cancelled x) + s'.owed.count x ≤ s.owed.count x)
    (hconstructed : s'.constructed = s.constructed)
    (hleft : ∀ x, events.count (.left x) = 0) (hregistered : ∀ x, events.count (.registered x) = 0) :
    s.Delta s' events := by
  refine ⟨fun x => ?_, ⟨none, (fun _ h => nomatch h), fun x => ?_⟩, fun x => ?_, hconstructed.ge⟩
  · unfold ContinuationRegistry.pending
    rw [hrecords, hleft, hregistered]
  · rw [hregistered, Nat.zero_add]
    exact hentering x
  · rw [hleft]
    exact howed x

/-- A move that removes one record, whose callback may be owed from then on. -/
private theorem Delta.ofRemoved {s' : ContinuationSystem} {record : PendingContinuation}
    (hkeyed : s.registry.Keyed) (hpending : record ∈ s.registry.pending)
    (hrecords : s'.registry.records =
      s.registry.records.filter (·.1 ≠ record.continuationToken))
    (hentering : ∀ x, s'.entering.count x = s.entering.count x)
    (howed : ∀ x, s'.owed.count x ≤ s.owed.count x + [record].count x)
    (hconstructed : s'.constructed = s.constructed) : s.Delta s' [.left record] := by
  refine ⟨fun x => ?_, ⟨none, (fun _ h => nomatch h), fun x => ?_⟩, fun x => ?_, hconstructed.ge⟩
  · have hpop : s'.registry.pending = (s.registry.pop record.continuationToken).pending := by
      unfold ContinuationRegistry.pending
      rw [hrecords]
      rfl
    rw [hpop, count_pending_pop hkeyed hpending]
    simp
  · rw [hentering]
    simp
  · have hle := howed x
    rw [count_left]
    simpa using hle

/-- **Every move balances the accounts.** -/
theorem Guarded.delta {s' : ContinuationSystem} {events : List ContinuationEvent} (h : s.Guarded)
    (hmove : s.Moves s' events) : s.Delta s' events := by
  cases hmove with
  | refused => exact .ofSame rfl (fun _ => le_rfl) (fun _ => by simp) rfl (by simp) (by simp)
  | rejected => exact .ofSame rfl (fun _ => le_rfl) (fun _ => by simp) rfl (by simp) (by simp)
  | opened record identity =>
    refine ⟨fun _ => rfl, ⟨some record, ?_, fun x => ?_⟩,
      fun _ => by simp [ContinuationTask.owed, owed], Nat.le_succ _⟩
    · rintro _ ⟨⟩
      exact ⟨identity, rfl⟩
    · show _ + ([record] ++ s.entering).count x ≤ _
      rw [List.count_append]
      simp [Nat.add_comm]
  | claimed => exact .ofSame rfl (fun _ => le_rfl) (fun _ => by simp [owed]) rfl (by simp) (by simp)
  | claimExpired record unlocked pending =>
    refine .ofRemoved h.keyed pending (by simp) (fun _ => rfl) (fun x => ?_) rfl
    show (record :: s.owed).count x ≤ _
    rw [List.count_cons, List.count_singleton]
  | released =>
    exact .ofSame rfl (fun _ => le_rfl) (fun _ => by simp [owed]) rfl (by simp) (by simp)
  | buried =>
    exact .ofSame (by simp) (fun _ => le_rfl) (fun _ => by simp [owed]) rfl (by simp) (by simp)
  | closed record state cancelBackend unlocked pending =>
    refine .ofRemoved h.keyed pending (by simp) (fun _ => rfl) (fun x => ?_) rfl
    show ((if cancelBackend then [record] else []) ++ s.owed).count x ≤ _
    rw [List.count_append]
    split <;> simp [Nat.add_comm]
  | expiring now unlocked =>
    refine .ofSame rfl (fun _ => le_rfl) (fun x => ?_) rfl (by simp) (by simp)
    show _ + s.owed.count x ≤ _
    simp
  | entered found admits =>
    rename_i thread record
    refine ⟨fun x => ?_, ⟨none, (fun _ h => nomatch h), fun x => ?_⟩, fun x => ?_, le_rfl⟩
    · rw [count_registered]
      unfold ContinuationRegistry.pending
      rw [ContinuationRegistry.insert_records, List.map_append, List.count_append]
      simp
    · have hcount := count_entering_without found x
      show _ + (s.without thread).entering.count x ≤ _
      rw [count_registered, hcount]
      rfl
    · have hcount := count_owed_without found x
      show _ + (s.without thread).owed.count x ≤ _
      rw [hcount]
      simp
  | marked found =>
    rename_i thread record state cancelBackend
    have hentering := count_entering_without found
    have howed := count_owed_without found
    cases cancelBackend with
    | false =>
      refine .ofSame rfl (fun x => ?_) (fun x => ?_) rfl (by simp) (by simp)
      · show (s.without thread).entering.count x ≤ _
        rw [hentering]
        exact Nat.le_add_left _ _
      · show _ + (s.without thread).owed.count x ≤ _
        rw [howed]
        simp
    | true =>
      refine .ofSame rfl (fun x => ?_) (fun x => ?_) rfl (by simp) (by simp)
      · show (s.without thread).entering.count x ≤ _
        rw [hentering]
        exact Nat.le_add_left _ _
      · show _ + ([record] ++ (s.without thread).owed).count x ≤ _
        rw [howed, List.count_append]
        simp [ContinuationTask.owed]
  | ended found unlocking =>
    refine .ofSame rfl (fun x => ?_) (fun x => ?_) rfl (by simp) (by simp)
    · rw [count_entering_without found]
      exact Nat.le_add_left _ _
    · rw [count_owed_without found]
      simp
  | called found owed unlocking rejects =>
    rename_i thread task record rest raised rejection
    have hentering := count_entering_without found
    have howed := count_owed_without found
    have hinvoke : ∀ e, (∀ x, e ≠ .cancelled x) →
        (∀ token clientId reason, e ≠ .rejected token clientId reason) →
        (record.invoke ++ rejection).count e = 0 := by
      intro e hcancelled hrejected
      rw [List.count_append, count_rejections rejects hrejected]
      unfold PendingContinuation.invoke
      split
      · refine List.count_eq_zero.mpr fun hmem => ?_
        exact hcancelled record (List.mem_singleton.mp hmem)
      · rfl
    refine .ofSame ?_ (fun x => ?_) (fun x => ?_) ?_ (fun x => hinvoke _ (by simp) (by simp))
      fun x => hinvoke _ (by simp) (by simp)
    · split <;> rfl
    · have hle : (if raised = true then s.without thread
          else (s.without thread).push (.reaping rest)).entering = (s.without thread).entering := by
        split <;> rfl
      rw [hle, hentering]
      exact Nat.le_add_left _ _
    · have hle : (if raised = true then s.without thread
          else (s.without thread).push (.reaping rest)).owed.count x ≤
            rest.count x + (s.without thread).owed.count x := by
        split
        · exact Nat.le_add_left _ _
        · rw [push_owed, List.count_append]
          rfl
      have hcall := count_invoke_le record x
      rw [List.count_append, count_rejections rejects (by simp), howed, owed, List.count_cons]
      rw [List.count_singleton] at hcall
      omega
    · split <;> rfl
  | reaped found due =>
    rename_i thread now record snapshot expired
    have hpending := (h.scanned _ _ _ (List.mem_of_getElem? found)).2 record List.mem_cons_self
    refine .ofRemoved h.keyed hpending (by simp) (fun x => ?_) (fun x => ?_) rfl
    · rw [count_entering_without found]
      show (s.without thread).entering.count x = _
      simp [ContinuationTask.entering]
    · rw [count_owed_without found]
      show ((expired ++ [record]) ++ (s.without thread).owed).count x ≤ _
      simp only [ContinuationTask.owed, List.count_append]
      omega
  | kept found =>
    rename_i thread now record snapshot expired
    refine .ofSame rfl (fun x => ?_) (fun x => ?_) rfl (by simp) (by simp)
    · rw [count_entering_without found]
      exact Nat.le_add_left _ _
    · rw [count_owed_without found, push_owed, List.count_append]
      simp [ContinuationTask.owed]
  | scanned found =>
    rename_i thread now expired
    refine .ofSame rfl (fun x => ?_) (fun x => ?_) rfl (by simp) (by simp)
    · rw [count_entering_without found]
      exact Nat.le_add_left _ _
    · rw [count_owed_without found, push_owed, List.count_append]
      simp [ContinuationTask.owed]

/-- The record is registered, or about to be. -/
def Known (s : ContinuationSystem) (log : List ContinuationEvent) (x : PendingContinuation) :
    Prop := .registered x ∈ log ∨ x ∈ s.entering

/-- Every record object registers once, is pending until it leaves, and its callback is owed or
    invoked only after it left. -/
structure Accounted (s : ContinuationSystem) (log : List ContinuationEvent) : Prop where
  distinct : ∀ x y, s.Known log x → s.Known log y → x.identity = y.identity → x = y
  fresh : ∀ x, s.Known log x → x.identity < s.constructed
  registered_once : ∀ x, log.count (.registered x) + s.entering.count x ≤ 1
  balance : ∀ x, log.count (.left x) + s.registry.pending.count x = log.count (.registered x)
  owed_once : ∀ x, log.count (.cancelled x) + s.owed.count x ≤ log.count (.left x)

namespace Accounted

variable {log : List ContinuationEvent} {x : PendingContinuation}

/-- A pending record is registered. -/
theorem registered_of_pending (h : s.Accounted log) (hx : x ∈ s.registry.pending) :
    .registered x ∈ log := by
  have hbalance := h.balance x
  have hpos := List.count_pos_iff.mpr hx
  exact List.count_pos_iff.mp (by omega)

/-- A record that left was registered, and is pending no more. -/
theorem of_left (h : s.Accounted log) (hx : .left x ∈ log) :
    .registered x ∈ log ∧ x ∉ s.registry.pending := by
  have hbalance := h.balance x
  have honce := h.registered_once x
  have hpos := List.count_pos_iff.mpr hx
  exact ⟨List.count_pos_iff.mp (by omega), List.count_eq_zero.mp (by omega)⟩

/-- **The accounts stay balanced.** -/
theorem moves {s' : ContinuationSystem} {events : List ContinuationEvent} (h : s.Accounted log)
    (delta : s.Delta s' events) : s'.Accounted (log ++ events) := by
  obtain ⟨opened, hopened, hentering⟩ := delta.entering
  -- A record is known already, or it is the one that the move constructs.
  have hknown : ∀ x, s'.Known (log ++ events) x → s.Known log x ∨ x ∈ opened := by
    intro x hx
    by_cases hlog : .registered x ∈ log
    · exact .inl (.inl hlog)
    have hcount := hentering x
    have hpos : 0 < events.count (.registered x) + s'.entering.count x := by
      rcases hx with hx | hx
      · have hevents := (List.mem_append.mp hx).resolve_left hlog
        exact Nat.add_pos_left (List.count_pos_iff.mpr hevents) _
      · exact Nat.add_pos_right _ (List.count_pos_iff.mpr hx)
    by_cases hold : x ∈ s.entering
    · exact .inl (.inr hold)
    · rw [List.count_eq_zero.mpr hold] at hcount
      exact .inr (Option.mem_toList.mp (List.count_pos_iff.mp (by omega)))
  constructor
  · intro x y hx hy hidentity
    rcases hknown x hx with hx | hx <;> rcases hknown y hy with hy | hy
    · exact h.distinct x y hx hy hidentity
    · have hlt := h.fresh x hx
      have hnew := (hopened y hy).1
      omega
    · have hlt := h.fresh y hy
      have hnew := (hopened x hx).1
      omega
    · exact Option.some.inj (hx.symm.trans hy)
  · intro x hx
    rcases hknown x hx with hx | hx
    · exact (h.fresh x hx).trans_le delta.constructed
    · obtain ⟨hidentity, hconstructed⟩ := hopened x hx
      omega
  · intro x
    have hcount := hentering x
    have honce := h.registered_once x
    rw [List.count_append]
    by_cases hx : x ∈ opened
    · -- A record under construction was never seen before.
      have hnew : ¬ s.Known log x := by
        intro hold
        have hlt := h.fresh x hold
        have hidentity := (hopened x hx).1
        omega
      have hlog : log.count (.registered x) = 0 := List.count_eq_zero.mpr fun hmem => hnew (.inl hmem)
      have hold : s.entering.count x = 0 := List.count_eq_zero.mpr fun hmem => hnew (.inr hmem)
      have hone : opened.toList.count x ≤ 1 := by
        obtain rfl := hx
        simp
      omega
    · have hnone : opened.toList.count x = 0 :=
        List.count_eq_zero.mpr fun hmem => hx (Option.mem_toList.mp hmem)
      omega
  · intro x
    have hpending := delta.pending x
    have hbalance := h.balance x
    rw [List.count_append, List.count_append]
    omega
  · intro x
    have howed := delta.owed x
    have honce := h.owed_once x
    rw [List.count_append, List.count_append]
    omega

end Accounted

/-! ### The order of claims -/

/-- A claim is held until its record is released or leaves, and no two claims of a token are held at
    once. -/
structure Ordered (s : ContinuationSystem) (log : List ContinuationEvent) : Prop where
  closing_left : ∀ record state cancelBackend,
    .closing record state cancelBackend ∈ s.tasks → .left record ∈ log
  resumed : ∀ before after x, log = before ++ .claimed x :: after → x ∈ s.registry.pending →
    s.registry.states x.identity = .resuming ∨ .released x.identity ∈ after
  gone : ∀ before after x, log = before ++ .claimed x :: after →
    x ∈ s.registry.pending ∨ .left x ∈ after
  exclusive : ∀ before between after x y,
    log = before ++ .claimed x :: (between ++ .claimed y :: after) →
    x.continuationToken = y.continuationToken →
    (x = y ∧ .released x.identity ∈ between) ∨ (x ≠ y ∧ .left x ∈ between)

/-- What one move does to claims. -/
structure Holds (s s' : ContinuationSystem) (log events : List ContinuationEvent) : Prop where
  closing_left : ∀ record state cancelBackend, .closing record state cancelBackend ∈ s'.tasks →
    .left record ∈ log ++ events
  claims : ∀ x, .claimed x ∈ events → events = [.claimed x] ∧ x ∈ s.registry.pending ∧
    s.registry.states x.identity = .waiting ∧ s'.registry.states x.identity = .resuming
  keeps : ∀ x ∈ s.registry.pending, x ∈ s'.registry.pending →
    s.registry.states x.identity = .resuming →
    s'.registry.states x.identity = .resuming ∨ .released x.identity ∈ events

section Claims

variable {s' : ContinuationSystem} {log events : List ContinuationEvent}

/-- A task that is not `closing` adds nothing to what `close` calls still do. -/
private theorem closing_of_push (hclosing : ∀ record state cancelBackend,
      .closing record state cancelBackend ∈ s.tasks → .left record ∈ log)
    (hother : ∀ record state cancelBackend, task ≠ .closing record state cancelBackend)
    (record : PendingContinuation) (state : ContinuationState) (cancelBackend : Bool)
    (hmem : .closing record state cancelBackend ∈ (s.push task).tasks) :
    .left record ∈ log := by
  rcases List.mem_cons.mp hmem with hmem | hmem
  · exact absurd hmem.symm (hother _ _ _)
  · exact hclosing _ _ _ hmem

/-- The states of other pending records survive an assignment. -/
private theorem state_of_ne {r : ContinuationRegistry} {identity : ℕ} {state : ContinuationState}
    {x : PendingContinuation} (hne : x.identity ≠ identity) :
    (r.setState identity state).states x.identity = r.states x.identity := by
  rw [ContinuationRegistry.setState_states, Function.update_of_ne hne]

/-- A move without claims that assigns no state to a pending record. -/
private theorem Holds.ofKept
    (hclosing : ∀ record state cancelBackend, .closing record state cancelBackend ∈ s'.tasks →
      .left record ∈ log ++ events)
    (hclaims : ∀ x, .claimed x ∉ events)
    (hstates : ∀ x ∈ s.registry.pending, x ∈ s'.registry.pending →
      s'.registry.states x.identity = s.registry.states x.identity) :
    s.Holds s' log events :=
  ⟨hclosing, fun x hx => absurd hx (hclaims x),
    fun x hx hx' hresuming => .inl ((hstates x hx hx').trans hresuming)⟩

/-- **What every move does to claims.** -/
theorem Guarded.holds (h : s.Guarded) (haccounted : s.Accounted log)
    (hordered : s.Ordered log) (hmove : s.Moves s' events) : s.Holds s' log events := by
  have hclosing := hordered.closing_left
  have hmono : ∀ {tasks : List ContinuationTask} {more : List ContinuationEvent},
      tasks ⊆ s.tasks → ∀ record state cancelBackend,
        .closing record state cancelBackend ∈ tasks → .left record ∈ log ++ more :=
    fun hsub record state cancelBackend hmem =>
      List.mem_append_left _ (hclosing _ _ _ (hsub hmem))
  have hrest : ∀ thread, (s.without thread).tasks ⊆ s.tasks := fun _ _ => mem_of_mem_without
  -- Distinct registered records have distinct identities.
  have hdistinct : ∀ x ∈ s.registry.pending, ∀ record, .registered record ∈ log → x ≠ record →
      x.identity ≠ record.identity := fun x hx record hrecord hne hidentity =>
    hne (haccounted.distinct x record (.inl (haccounted.registered_of_pending hx)) (.inl hrecord)
      hidentity)
  cases hmove with
  | refused => exact .ofKept (hmono fun _ h => h) (fun _ => List.not_mem_nil) fun _ _ _ => rfl
  | rejected => exact .ofKept (hmono fun _ h => h) (by simp) fun _ _ _ => rfl
  | opened record identity =>
    refine .ofKept ?_ (fun _ => List.not_mem_nil) fun _ _ _ => rfl
    rw [List.append_nil]
    exact closing_of_push hclosing (by simp)
  | claimed record pending waiting =>
    refine ⟨hmono fun _ h => h, fun x hx => ?_, fun x hx _ hresuming => .inl ?_⟩
    · obtain rfl : x = record := by simpa using hx
      exact ⟨rfl, pending, waiting, Function.update_self _ _ _⟩
    · by_cases hidentity : x.identity = record.identity
      · rw [hidentity]
        exact Function.update_self _ _ _
      · exact (state_of_ne hidentity).trans hresuming
  | claimExpired record unlocked pending =>
    refine .ofKept ?_ (by simp) fun x hx hx' => ?_
    · exact closing_of_push (hmono fun _ h => h) (by simp)
    · have hne := ((h.keyed.mem_pending_pop pending).mp hx').2
      exact state_of_ne (hdistinct x hx record (haccounted.registered_of_pending pending) hne)
  | released identity resuming =>
    refine ⟨hmono fun _ h => h, by simp, fun x hx _ hresuming => ?_⟩
    by_cases hidentity : x.identity = identity
    · exact .inr (by simp [hidentity])
    · exact .inl ((state_of_ne hidentity).trans hresuming)
  | buried =>
    exact .ofKept (hmono fun _ h => h) (fun _ => List.not_mem_nil) fun _ _ _ => rfl
  | closed record state cancelBackend unlocked pending =>
    refine .ofKept ?_ (by simp) fun _ _ _ => rfl
    intro other otherState otherCancel hmem
    rcases List.mem_cons.mp hmem with hmem | hmem
    · cases hmem
      simp
    · exact List.mem_append_left _ (hclosing _ _ _ hmem)
  | expiring now unlocked =>
    refine .ofKept ?_ (fun _ => List.not_mem_nil) fun _ _ _ => rfl
    rw [List.append_nil]
    exact closing_of_push hclosing (by simp)
  | entered found admits =>
    exact .ofKept (hmono (hrest _)) (by simp) fun _ _ _ => rfl
  | marked found =>
    rename_i thread record state cancelBackend
    obtain ⟨hregistered, hgone⟩ := haccounted.of_left
      (hclosing _ _ _ (List.mem_of_getElem? found))
    have hstates : ∀ x ∈ s.registry.pending,
        (s.registry.setState record.identity state).states x.identity =
          s.registry.states x.identity := by
      intro x hx
      refine state_of_ne (hdistinct x hx record hregistered ?_)
      rintro rfl
      exact hgone hx
    cases cancelBackend with
    | false => exact .ofKept (hmono (hrest _)) (fun _ => List.not_mem_nil) fun x hx _ => hstates x hx
    | true =>
      refine .ofKept ?_ (fun _ => List.not_mem_nil) fun x hx _ => hstates x hx
      intro other otherState otherCancel hmem
      exact hmono (hrest _) _ _ _ ((List.mem_cons.mp hmem).resolve_left (by simp))
  | ended found =>
    exact .ofKept (hmono (hrest _)) (fun _ => List.not_mem_nil) fun _ _ _ => rfl
  | called found owed unlocking rejects =>
    rename_i thread task record rest raised rejection
    have hclaims : ∀ x, .claimed x ∉ record.invoke ++ rejection := by
      intro x hx
      rcases List.mem_append.mp hx with hx | hx
      · unfold PendingContinuation.invoke at hx
        split at hx
        · cases List.mem_singleton.mp hx
        · cases hx
      · obtain ⟨token, clientId, reason, hrejected⟩ := rejects _ hx
        cases hrejected
    cases raised with
    | true => exact .ofKept (hmono (hrest _)) hclaims fun _ _ _ => rfl
    | false =>
      refine .ofKept ?_ hclaims fun _ _ _ => rfl
      intro other otherState otherCancel hmem
      exact hmono (hrest _) _ _ _ ((List.mem_cons.mp hmem).resolve_left (by simp))
  | reaped found due =>
    rename_i thread now record snapshot expired
    have hpending := (h.scanned _ _ _ (List.mem_of_getElem? found)).2 record List.mem_cons_self
    refine .ofKept ?_ (by simp) fun x hx hx' => ?_
    · intro other otherState otherCancel hmem
      exact hmono (hrest _) _ _ _ ((List.mem_cons.mp hmem).resolve_left (by simp))
    · have hmem : x ∈ (s.registry.pop record.continuationToken).pending := by
        simpa [ContinuationRegistry.pending] using hx'
      have hne := ((h.keyed.mem_pending_pop hpending).mp hmem).2
      show (s.registry.reap record).states x.identity = _
      rw [ContinuationRegistry.reap_states, Function.update_of_ne
        (hdistinct x hx record (haccounted.registered_of_pending hpending) hne)]
  | kept found =>
    refine .ofKept ?_ (fun _ => List.not_mem_nil) fun _ _ _ => rfl
    intro other otherState otherCancel hmem
    exact hmono (hrest _) _ _ _ ((List.mem_cons.mp hmem).resolve_left (by simp))
  | scanned found =>
    refine .ofKept ?_ (fun _ => List.not_mem_nil) fun _ _ _ => rfl
    intro other otherState otherCancel hmem
    exact hmono (hrest _) _ _ _ ((List.mem_cons.mp hmem).resolve_left (by simp))

/-- A pending record stays pending or leaves. -/
theorem Delta.pending_or_left (delta : s.Delta s' events) {x : PendingContinuation}
    (hx : x ∈ s.registry.pending) : x ∈ s'.registry.pending ∨ .left x ∈ events := by
  have hpending := delta.pending x
  have hpos := List.count_pos_iff.mpr hx
  by_cases hleft : .left x ∈ events
  · exact .inr hleft
  · rw [List.count_eq_zero.mpr hleft] at hpending
    exact .inl (List.count_pos_iff.mp (by omega))

/-- **Claims stay ordered.** -/
theorem Ordered.moves (h : s.Ordered log) (hkeyed : s.registry.Keyed)
    (haccounted : s'.Accounted (log ++ events)) (delta : s.Delta s' events)
    (holds : s.Holds s' log events) : s'.Ordered (log ++ events) := by
  refine ⟨holds.closing_left, ?_, ?_, ?_⟩
  · intro before after x hlog hx
    rcases append_eq_append_cons hlog with ⟨rest, hold, rfl⟩ | ⟨rest, -, hnew⟩
    · have hpending : x ∈ s.registry.pending := by
        refine (h.gone before rest x hold).resolve_right fun hleft => ?_
        refine (haccounted.of_left (x := x) ?_).2 hx
        rw [hold]
        simp [hleft]
      rcases h.resumed before rest x hold hpending with hresuming | hreleased
      · exact (holds.keeps x hpending hx hresuming).imp_right (List.mem_append_right _)
      · exact .inr (List.mem_append_left _ hreleased)
    · have hmem : .claimed x ∈ events := by simp [hnew]
      exact .inl (holds.claims x hmem).2.2.2
  · intro before after x hlog
    rcases append_eq_append_cons hlog with ⟨rest, hold, rfl⟩ | ⟨rest, -, hnew⟩
    · rcases h.gone before rest x hold with hpending | hleft
      · exact (delta.pending_or_left hpending).imp_right (List.mem_append_right _)
      · exact .inr (List.mem_append_left _ hleft)
    · have hmem : .claimed x ∈ events := by simp [hnew]
      obtain ⟨hevents, hpending, -⟩ := holds.claims x hmem
      refine .inl ((delta.pending_or_left hpending).resolve_right fun hleft => ?_)
      rw [hevents] at hleft
      cases List.mem_singleton.mp hleft
  · intro before between after x y hlog htoken
    have hsplit : log ++ events = (before ++ .claimed x :: between) ++ .claimed y :: after := by
      rw [hlog]
      simp
    rcases append_eq_append_cons hsplit with ⟨rest, hold, -⟩ | ⟨rest, hbefore, hnew⟩
    · refine h.exclusive before between rest x y ?_ htoken
      rw [hold]
      simp
    · have hmem : .claimed y ∈ events := by simp [hnew]
      obtain ⟨hevents, hpending, hwaiting, -⟩ := holds.claims y hmem
      -- The claim of `y` is the whole move, so the claim of `x` is in the log.
      have hrest : rest = [] := by
        rw [hevents] at hnew
        cases rest with
        | nil => rfl
        | cons e rest => simp at hnew
      rw [hrest, List.append_nil] at hbefore
      by_cases hxy : x = y
      · subst hxy
        refine .inl ⟨rfl, ?_⟩
        refine (h.resumed before between x hbefore.symm hpending).resolve_left fun hresuming => ?_
        rw [hwaiting] at hresuming
        cases hresuming
      · refine .inr ⟨hxy, (h.gone before between x hbefore.symm).resolve_left fun hx => ?_⟩
        exact hxy (hkeyed.eq_of_token hx hpending htoken)

end Claims

end ContinuationSystem

/-! ### Exactly once -/

open ContinuationSystem

/-- The invariant of every run. -/
structure ContinuationInvariant (s : ContinuationSystem) (log : List ContinuationEvent) : Prop where
  guarded : s.Guarded
  accounted : s.Accounted log
  ordered : s.Ordered log

section Start

variable {maxPending : ℕ+}

@[simp] theorem start_tasks : (start maxPending).tasks = [] := rfl
@[simp] theorem start_records : (start maxPending).registry.records = [] := rfl
@[simp] theorem start_pending : (start maxPending).registry.pending = [] := rfl
@[simp] theorem start_entering : (start maxPending).entering = [] := rfl
@[simp] theorem start_owed : (start maxPending).owed = [] := rfl
@[simp] theorem start_holders : (start maxPending).holders = 0 := rfl

/-- A fresh registry meets the invariant. -/
theorem continuationInvariant_start : ContinuationInvariant (start maxPending) [] where
  guarded := ⟨⟨by simp, by simp⟩, by simp, by simp, by simp⟩
  accounted := ⟨by simp [Known], by simp [Known], by simp, by simp, by simp⟩
  ordered := ⟨by simp, by simp, by simp, by simp⟩

end Start

/-- **The step lemma.** -/
theorem ContinuationInvariant.step {s s' : ContinuationSystem}
    {log events : List ContinuationEvent} {action : ContinuationAction}
    (h : ContinuationInvariant s log) (hstep : s.step action = some (s', events)) :
    ContinuationInvariant s' (log ++ events) := by
  have hmove := step_moves h.guarded.keyed hstep
  have hdelta := h.guarded.delta hmove
  have haccounted := h.accounted.moves hdelta
  have hholds := h.guarded.holds h.accounted h.ordered hmove
  exact ⟨h.guarded.moves hmove, haccounted,
    h.ordered.moves h.guarded.keyed haccounted hdelta hholds⟩

/-- **The run lemma**, under any condition on the steps. -/
theorem continuationInvariant_of_run {maxPending : ℕ+} {s : ContinuationSystem}
    {log : List ContinuationEvent} {allowed : ContinuationSystem → ContinuationAction → Prop}
    (run : continuationMachine.Run allowed (.start maxPending) s log) :
    ContinuationInvariant s log :=
  run.invariant continuationInvariant_start
    fun _ _ _ _ _ _ h _ hstep => h.step hstep

/-- The bound of a registry is fixed. -/
theorem ContinuationSystem.Moves.maxPending_eq {s s' : ContinuationSystem}
    {events : List ContinuationEvent} (hmove : s.Moves s' events) :
    s'.registry.maxPending = s.registry.maxPending := by
  cases hmove with
  | marked found =>
    rename_i thread record state cancelBackend
    cases cancelBackend <;> rfl
  | called found owed unlocking rejects =>
    rename_i thread task record rest raised rejection
    cases raised <;> rfl
  | reaped found due => exact ContinuationRegistry.reap_maxPending
  | _ => rfl

/-- What holds of every interleaving of `register`, `claim`, `release`, `close` and `expire_due`. -/
structure ExactlyOnce (maxPending : ℕ+) (s : ContinuationSystem) (log : List ContinuationEvent) :
    Prop where
  /-- Between two claims of a token the first claimed record was released, or it left. -/
  exclusive : ∀ before between after x y,
    log = before ++ .claimed x :: (between ++ .claimed y :: after) →
    x.continuationToken = y.continuationToken →
    (x = y ∧ .released x.identity ∈ between) ∨ (x ≠ y ∧ .left x ∈ between)
  /-- A record leaves once: when it is registered and no longer pending. -/
  left_once : ∀ x, log.count (.left x) =
    if .registered x ∈ log ∧ x ∉ s.registry.pending then 1 else 0
  cancelled_once : ∀ x, log.count (.cancelled x) ≤ 1
  bounded : s.registry.pendingCount ≤ maxPending
  foreign : ∀ token clientId now record, s.locked = false →
    s.registry.detect token = some record → record.clientId ≠ clientId →
    s.step (.claim token clientId now) = some (s, [.rejected token clientId .notFound])
  unknown : ∀ token clientId now, s.locked = false → s.registry.detect token = none →
    s.registry.wasTerminalFor token clientId = false →
    s.step (.claim token clientId now) = some (s, [.rejected token clientId .notFound])

/-- A record leaves exactly once. -/
theorem ContinuationSystem.Accounted.left_once {s : ContinuationSystem}
    {log : List ContinuationEvent} (h : s.Accounted log) (x : PendingContinuation) :
    log.count (.left x) = if .registered x ∈ log ∧ x ∉ s.registry.pending then 1 else 0 := by
  have hbalance := h.balance x
  have honce := h.registered_once x
  split_ifs with hx
  · have hregistered := List.count_pos_iff.mpr hx.1
    have hpending := List.count_eq_zero.mpr hx.2
    omega
  · refine List.count_eq_zero.mpr fun hleft => hx ?_
    exact h.of_left hleft

/-- **Exactly-once continuation**: over every interleaving, at any clock. -/
theorem continuation_exactlyOnce (maxPending : ℕ+) (s : ContinuationSystem)
    (log : List ContinuationEvent) (run : ContinuationRun maxPending s log) :
    ExactlyOnce maxPending s log := by
  have hinv := continuationInvariant_of_run run
  have hmax : s.registry.maxPending = maxPending := by
    refine run.invariant (I := fun s _ => s.registry.maxPending = maxPending) rfl ?_
    intro s s' log events action hrun hmax _ hstep
    have hkeyed := (continuationInvariant_of_run hrun).guarded.keyed
    exact (step_moves hkeyed hstep).maxPending_eq.trans hmax
  refine ⟨hinv.ordered.exclusive, hinv.accounted.left_once, fun x => ?_, ?_, ?_, ?_⟩
  · have howed := hinv.accounted.owed_once x
    have hbalance := hinv.accounted.balance x
    have honce := hinv.accounted.registered_once x
    omega
  · have hbounded := hinv.guarded.bounded
    rwa [hmax] at hbounded
  · intro token clientId now record hunlocked hlive hforeign
    dsimp only [ContinuationSystem.step]
    rw [hunlocked, ContinuationRegistry.claimSection_foreign now hlive hforeign]
    rfl
  · intro token clientId now hunlocked hunknown hfresh
    dsimp only [ContinuationSystem.step]
    rw [hunlocked, ContinuationRegistry.claimSection_unknown now hunknown hfresh]
    rfl

/-- A suspended turn of one client, due at instant 10. -/
def acmeTurn : PendingContinuation where
  identity := 0
  continuationToken := "srct-1"
  deadline := 10
  clientId := "acme"
  modelEcho := "atlas"
  hasCancelCallback := true

/-- The turn is claimed, released, claimed again, refused to another client, and cancelled. -/
def busyCalls : List ContinuationAction :=
  [.register acmeTurn, .resume 0 false, .claim "srct-1" "acme" 1, .release 0,
    .claim "srct-1" "acme" 2, .claim "srct-1" "nova" 3, .close "srct-1" .cancelled true,
    .resume 0 false, .resume 0 false]

/-- The run of those calls. -/
theorem continuation_exactlyOnce_busyCalls : ∃ s, ∃ log : List ContinuationEvent,
    log = [.registered acmeTurn, .claimed acmeTurn, .released 0, .claimed acmeTurn,
      .rejected "srct-1" "nova" .notFound, .left acmeTurn, .cancelled acmeTurn] ∧
    ExactlyOnce 1 s log := by
  refine (continuationMachine.exists_run_of_exec (fun _ _ => true) (start 1) busyCalls ?_).elim
    fun s ⟨_, run⟩ => ⟨s, _, rfl, continuation_exactlyOnce 1 s _ (run.mono fun _ _ _ => trivial)⟩
  decide +kernel

end ScarcityRouter
