import ScarcityRouter.Lib.Machine
import Mathlib.Data.PNat.Basic
import Mathlib.Logic.Function.Basic

namespace ScarcityRouter

open ScarcityRouter.Lib

/-!
# Concurrency reservations

`_ConcurrencyReservation` of `gateway_coordinator.py`: a global slot and a slot of the client, taken
before a dispatch and given back after it.

* `ReservationTask`, `ConcurrencyState` — what each call of `acquire` has come to, and the counters.
* `ConcurrencyState.step` — one access of one thread to what the threads share.
* `Counted` — the invariant: the counters count what the threads hold, and the log of each thread
  says how far it is.  `Counted.goesOn` and `Counted.arrives` are the two ways a step keeps it.
* `reservations_counted` — **the counters over every interleaving.**

A reservation is a local variable of the call that acquired it, so that its releases, as many as
there are, follow one another; the calls of different threads interleave at every shared access.
-/

/-! ### Threads -/

/-- The two limits of `GatewayLimits` on executions at a time. -/
structure ConcurrencyLimits where
  maxConcurrentExecutions : ℕ+
  maxConcurrentExecutionsPerClient : ℕ+
  deriving DecidableEq

/-- The flags of a reservation object. -/
structure Reservation where
  clientId : String
  globalAcquired : Bool
  clientAcquired : Bool
  deriving DecidableEq

/-- What a call of `acquire` has come to, and how far the release of its reservation is. -/
inductive ReservationTask where
  /-- `acquire` raised. -/
  | refused (clientId : String)
  /-- The semaphore is acquired, and the section under the client lock comes next. -/
  | acquiring (clientId : String)
  /-- `acquire` returned, and no release is going on. -/
  | holding (reservation : Reservation)
  /-- `release` found the client slot acquired; its section under the client lock comes next. -/
  | releasingClient (reservation : Reservation)
  /-- `release`, before it reads the global flag. -/
  | releasingGlobal (reservation : Reservation)
  /-- `release`, with the semaphore released and the global flag still set. -/
  | clearingGlobal (reservation : Reservation)
  deriving DecidableEq

/-- One access of one thread: a call up to its first shared access, or the next one. -/
inductive ReservationAction where
  | acquire (clientId : String)
  | release (thread : ℕ)
  | advance (thread : ℕ)
  deriving DecidableEq

/-- What the threads do to the counters, and how their calls end. -/
inductive ReservationEvent where
  | tookGlobal (thread : ℕ)
  | gaveGlobal (thread : ℕ)
  | tookClient (thread : ℕ)
  | gaveClient (thread : ℕ)
  | admitted (thread : ℕ)
  | refused (thread : ℕ)
  | released (thread : ℕ)
  /-- The bounded semaphore raised: it was released too often. -/
  | overReleased (thread : ℕ)
  deriving DecidableEq

/-- The thread of an event. -/
def ReservationEvent.thread : ReservationEvent → ℕ
  | tookGlobal t | gaveGlobal t | tookClient t | gaveClient t | admitted t | refused t
  | released t | overReleased t => t

/-- The semaphore's counter, the active count of each client, and the threads in the order in which
    they called `acquire`. -/
structure ConcurrencyState where
  limits : ConcurrencyLimits
  available : ℕ
  clientActive : String → ℕ := fun _ => 0
  threads : List ReservationTask := []

namespace ConcurrencyState

/-- `_carry_concurrency_state`, without a replaced application. -/
def start (limits : ConcurrencyLimits) : ConcurrencyState where
  limits := limits
  available := limits.maxConcurrentExecutions

/-- `_carry_concurrency_state`: the counters survive a rebuild with the same limits. -/
def carry (replaced : ConcurrencyState) (limits : ConcurrencyLimits) : ConcurrencyState :=
  if replaced.limits = limits then replaced else start limits

variable (s : ConcurrencyState)

/-- `semaphore.release()`; `none` stands for the `ValueError`. -/
def semaphoreRelease : Option ConcurrencyState :=
  if s.available < s.limits.maxConcurrentExecutions then
    some { s with available := s.available + 1 }
  else none

/-- The thread goes on with another task. -/
def goesOn (thread : ℕ) (task : ReservationTask) : ConcurrencyState :=
  { s with threads := s.threads.set thread task }

/-- A count of a client. -/
def withActive (clientId : String) (active : ℕ) : ConcurrencyState :=
  { s with clientActive := Function.update s.clientActive clientId active }

/-- The next shared access of a thread. -/
def advance (thread : ℕ) : ReservationTask → Option (ConcurrencyState × List ReservationEvent)
  | .acquiring clientId =>
    if s.limits.maxConcurrentExecutionsPerClient ≤ s.clientActive clientId then
      match s.semaphoreRelease with
      | some s' => some (s'.goesOn thread (.refused clientId), [.gaveGlobal thread, .refused thread])
      | none => some (s.goesOn thread (.refused clientId), [.overReleased thread])
    else some ((s.withActive clientId (s.clientActive clientId + 1)).goesOn thread
      (.holding ⟨clientId, true, true⟩), [.tookClient thread, .admitted thread])
  | .releasingClient reservation =>
    let active := s.clientActive reservation.clientId
    -- A count of one is popped from the dictionary, and reads as zero.
    some ((s.withActive reservation.clientId (if active ≤ 1 then 0 else active - 1)).goesOn thread
      (.releasingGlobal { reservation with clientAcquired := false }), [.gaveClient thread])
  | .releasingGlobal reservation =>
    if reservation.globalAcquired then
      match s.semaphoreRelease with
      | some s' => some (s'.goesOn thread (.clearingGlobal reservation), [.gaveGlobal thread])
      | none => some (s.goesOn thread (.holding reservation), [.overReleased thread])
    else some (s.goesOn thread (.holding reservation), [.released thread])
  | .clearingGlobal reservation =>
    some (s.goesOn thread (.holding { reservation with globalAcquired := false }),
      [.released thread])
  | .refused _ | .holding _ => none

/-- One access of one thread. -/
def step : ReservationAction → Option (ConcurrencyState × List ReservationEvent)
  | .acquire clientId =>
    if s.available = 0 then
      some ({ s with threads := s.threads ++ [.refused clientId] }, [.refused s.threads.length])
    else some ({ s with available := s.available - 1, threads := s.threads ++ [.acquiring clientId] },
      [.tookGlobal s.threads.length])
  | .release thread =>
    match s.threads[thread]? with
    | some (.holding reservation) =>
      if reservation.clientAcquired then some (s.goesOn thread (.releasingClient reservation), [])
      else some (s.goesOn thread (.releasingGlobal reservation), [])
    | _ => none
  | .advance thread => s.threads[thread]?.bind (s.advance thread)

end ConcurrencyState

/-- The coordinator's reservations as a machine. -/
def reservationMachine : Machine ConcurrencyState ReservationAction ReservationEvent :=
  ⟨ConcurrencyState.step⟩

/-! ### What a thread holds -/

namespace ReservationTask

/-- The reservation of a call that was admitted. -/
def reservation? : ReservationTask → Option Reservation
  | holding r | releasingClient r | releasingGlobal r | clearingGlobal r => some r
  | refused _ | acquiring _ => none

/-- The thread holds a global slot. -/
def holdsGlobal : ReservationTask → Bool
  | refused _ | clearingGlobal _ => false
  | acquiring _ => true
  | holding r | releasingClient r | releasingGlobal r => r.globalAcquired

/-- The thread holds a slot of its client. -/
def holdsClient : ReservationTask → Bool
  | refused _ | acquiring _ => false
  | holding r | releasingClient r | releasingGlobal r | clearingGlobal r => r.clientAcquired

/-- The thread holds a slot of the given client. -/
def holdsSlotOf (clientId : String) (task : ReservationTask) : Bool :=
  task.holdsClient && task.reservation?.any (·.clientId = clientId)

/-- How the flags stand at each point of a release. -/
def Consistent : ReservationTask → Prop
  | refused _ | acquiring _ => True
  | holding r => r.clientAcquired = r.globalAcquired
  | releasingClient r => r.clientAcquired = true ∧ r.globalAcquired = true
  | releasingGlobal r => r.clientAcquired = false
  | clearingGlobal r => r.clientAcquired = false ∧ r.globalAcquired = true

end ReservationTask

/-- The executions in flight: the threads that hold a global slot. -/
def ConcurrencyState.inFlight (s : ConcurrencyState) : ℕ := s.threads.countP (·.holdsGlobal)

/-- The reservations a client holds. -/
def ConcurrencyState.held (s : ConcurrencyState) (clientId : String) : ℕ :=
  s.threads.countP (·.holdsSlotOf clientId)

/-! ### The invariant -/

/-- What the log of a thread says about the point it has reached. -/
structure ThreadCounted (task : ReservationTask) (thread : ℕ) (log : List ReservationEvent) :
    Prop where
  consistent : task.Consistent
  global_balance : log.count (.tookGlobal thread) =
    log.count (.gaveGlobal thread) + task.holdsGlobal.toNat
  client_balance : log.count (.tookClient thread) =
    log.count (.gaveClient thread) + task.holdsClient.toNat
  global_le : log.count (.tookGlobal thread) ≤ 1
  global_once : (∀ clientId, task ≠ .refused clientId) → log.count (.tookGlobal thread) = 1
  client_once : log.count (.tookClient thread) = task.reservation?.isSome.toNat
  released : .released thread ∈ log →
    task.reservation?.isSome = true ∧ task.holdsGlobal = false ∧ task.holdsClient = false
  refused : .refused thread ∈ log → ∃ clientId, task = .refused clientId

/-- The counters count what the threads hold. -/
structure Counted (s : ConcurrencyState) (log : List ReservationEvent) : Prop where
  global : s.available + s.inFlight = s.limits.maxConcurrentExecutions
  client : ∀ clientId, s.clientActive clientId = s.held clientId
  bounded : ∀ clientId, s.clientActive clientId ≤ s.limits.maxConcurrentExecutionsPerClient
  threads : ∀ thread task, s.threads[thread]? = some task → ThreadCounted task thread log
  fresh : ∀ e ∈ log, e.thread < s.threads.length
  sound : ∀ thread, .overReleased thread ∉ log

/-- What counts is how often each event of the thread occurs. -/
private theorem ThreadCounted.of_count {task : ReservationTask} {thread : ℕ}
    {log log' : List ReservationEvent} (h : ThreadCounted task thread log)
    (hcount : ∀ e : ReservationEvent, e.thread = thread → log'.count e = log.count e) :
    ThreadCounted task thread log' := by
  have hmem : ∀ e : ReservationEvent, e.thread = thread → e ∈ log' → e ∈ log := by
    intro e he hmem
    rw [← List.count_pos_iff, hcount e he] at hmem
    exact List.count_pos_iff.mp hmem
  refine ⟨h.consistent, ?_, ?_, ?_, fun hne => ?_, ?_, fun hr => ?_, fun hr => ?_⟩
  · rw [hcount _ rfl, hcount _ rfl]
    exact h.global_balance
  · rw [hcount _ rfl, hcount _ rfl]
    exact h.client_balance
  · rw [hcount _ rfl]
    exact h.global_le
  · rw [hcount _ rfl]
    exact h.global_once hne
  · rw [hcount _ rfl]
    exact h.client_once
  · exact h.released (hmem _ rfl hr)
  · exact h.refused (hmem _ rfl hr)

/-- Events of other threads leave the log of a thread as it is. -/
theorem ThreadCounted.frame {task : ReservationTask} {thread : ℕ}
    {log events : List ReservationEvent} (h : ThreadCounted task thread log)
    (hevents : ∀ e ∈ events, e.thread ≠ thread) : ThreadCounted task thread (log ++ events) := by
  apply h.of_count
  intro e he
  rw [List.count_append, List.count_eq_zero.mpr fun hmem => hevents e hmem he, add_zero]

/-- A thread that begins has no event in the log so far. -/
theorem ThreadCounted.begins {task : ReservationTask} {thread : ℕ}
    {log events : List ReservationEvent} (h : ThreadCounted task thread events)
    (hfresh : ∀ e ∈ log, e.thread ≠ thread) : ThreadCounted task thread (log ++ events) := by
  apply h.of_count
  intro e he
  rw [List.count_append, List.count_eq_zero.mpr fun hmem => hfresh e hmem he, zero_add]

/-- What replacing one entry does to a count. -/
theorem countP_set_add {α : Type*} {p : α → Bool} {xs : List α} {i : ℕ} {old new : α}
    (h : xs[i]? = some old) :
    (xs.set i new).countP p + (p old).toNat = xs.countP p + (p new).toNat := by
  induction xs generalizing i with
  | nil => cases h
  | cons x xs ih =>
    cases i with
    | zero =>
      obtain rfl := Option.some.inj h
      rw [List.set_cons_zero, List.countP_cons, List.countP_cons]
      cases p new <;> cases p x <;> simp
    | succ i =>
      have := ih h
      rw [List.set_cons_succ, List.countP_cons, List.countP_cons]
      omega

namespace Counted

variable {s s' : ConcurrencyState} {log events : List ReservationEvent} {thread : ℕ}
  {old new : ReservationTask}

/-- **One thread goes on**: the counters move with what it holds, and its log with both. -/
theorem goesOn (h : Counted s log) (hget : s.threads[thread]? = some old)
    (hthreads : s'.threads = s.threads.set thread new) (hlimits : s'.limits = s.limits)
    (hglobal : s'.available + new.holdsGlobal.toNat = s.available + old.holdsGlobal.toNat)
    (hclient : ∀ clientId, s'.clientActive clientId + (old.holdsSlotOf clientId).toNat =
      s.clientActive clientId + (new.holdsSlotOf clientId).toNat)
    (hbounded : ∀ clientId, s'.clientActive clientId ≤ s.limits.maxConcurrentExecutionsPerClient)
    (hthread : ThreadCounted new thread (log ++ events))
    (hevents : ∀ e ∈ events, e.thread = thread ∧ e ≠ .overReleased thread) :
    Counted s' (log ++ events) := by
  have hlt : thread < s.threads.length := (List.getElem?_eq_some_iff.mp hget).1
  constructor
  · have hcount := @countP_set_add _ (·.holdsGlobal) _ _ _ new hget
    have hmax := h.global
    unfold ConcurrencyState.inFlight at hmax ⊢
    rw [hthreads, hlimits]
    omega
  · intro clientId
    have hcount := @countP_set_add _ (·.holdsSlotOf clientId) _ _ _ new hget
    have heq := h.client clientId
    have hmoves := hclient clientId
    unfold ConcurrencyState.held at heq ⊢
    rw [hthreads]
    omega
  · rw [hlimits]
    exact hbounded
  · intro other task hother
    rw [hthreads] at hother
    by_cases hsame : thread = other
    · subst hsame
      rw [List.getElem?_set_self hlt] at hother
      rw [← Option.some.inj hother]
      exact hthread
    · rw [List.getElem?_set_ne hsame] at hother
      refine (h.threads other task hother).frame fun e he => ?_
      rw [(hevents e he).1]
      exact hsame
  · intro e he
    rw [hthreads, List.length_set]
    rcases List.mem_append.mp he with he | he
    · exact h.fresh e he
    · rw [(hevents e he).1]
      exact hlt
  · intro other hover
    rcases List.mem_append.mp hover with hover | hover
    · exact h.sound other hover
    · obtain ⟨hother, hne⟩ := hevents _ hover
      exact hne (congrArg _ hother)

/-- **A thread begins**: it takes at most a global slot. -/
theorem arrives (h : Counted s log) (hthreads : s'.threads = s.threads ++ [new])
    (hlimits : s'.limits = s.limits)
    (hglobal : s'.available + new.holdsGlobal.toNat = s.available)
    (hclient : s'.clientActive = s.clientActive) (hnone : new.holdsClient = false)
    (hthread : ThreadCounted new s.threads.length events)
    (hevents : ∀ e ∈ events,
      e.thread = s.threads.length ∧ e ≠ .overReleased s.threads.length) :
    Counted s' (log ++ events) := by
  have hlength : s'.threads.length = s.threads.length + 1 := by
    rw [hthreads, List.length_append, List.length_singleton]
  constructor
  · have hmax := h.global
    unfold ConcurrencyState.inFlight at hmax ⊢
    rw [hthreads, hlimits, List.countP_append, List.countP_singleton]
    cases hnew : new.holdsGlobal <;> simp [hnew] at hglobal ⊢ <;> omega
  · intro clientId
    rw [hclient, h.client clientId]
    unfold ConcurrencyState.held
    rw [hthreads, List.countP_append, List.countP_singleton]
    simp [ReservationTask.holdsSlotOf, hnone]
  · rw [hclient, hlimits]
    exact h.bounded
  · intro thread task hget
    rw [hthreads] at hget
    by_cases hold : thread < s.threads.length
    · rw [List.getElem?_append_left hold] at hget
      refine (h.threads thread task hget).frame fun e he => ?_
      rw [(hevents e he).1]
      omega
    · have hlt := (List.getElem?_eq_some_iff.mp hget).1
      rw [List.length_append, List.length_singleton] at hlt
      obtain rfl : thread = s.threads.length := by omega
      rw [List.getElem?_concat_length] at hget
      rw [← Option.some.inj hget]
      exact hthread.begins fun e he => (h.fresh e he).ne
  · intro e he
    rcases List.mem_append.mp he with he | he
    · have := h.fresh e he
      omega
    · rw [(hevents e he).1]
      omega
  · intro thread hover
    rcases List.mem_append.mp hover with hover | hover
    · exact h.sound thread hover
    · obtain ⟨hthread, hne⟩ := hevents _ hover
      exact hne (congrArg _ hthread)

/-- A thread that holds a global slot leaves room in the semaphore. -/
theorem semaphoreRelease (h : Counted s log) (hget : s.threads[thread]? = some old)
    (hold : old.holdsGlobal = true) :
    s.semaphoreRelease = some { s with available := s.available + 1 } := by
  have hpos : 0 < s.inFlight :=
    List.countP_pos_iff.mpr ⟨old, List.mem_of_getElem? hget, hold⟩
  have hmax := h.global
  exact if_pos (by omega)

/-- A thread that holds a slot of its client is counted. -/
theorem one_le_active (h : Counted s log) (hget : s.threads[thread]? = some old) {clientId : String}
    (hold : old.holdsSlotOf clientId = true) : 1 ≤ s.clientActive clientId := by
  rw [h.client clientId]
  exact List.countP_pos_iff.mpr ⟨old, List.mem_of_getElem? hget, hold⟩

/-- The counters at the start count nothing. -/
theorem start (limits : ConcurrencyLimits) : Counted (ConcurrencyState.start limits) [] := by
  constructor <;> simp [ConcurrencyState.start, ConcurrencyState.inFlight, ConcurrencyState.held]

/-- A rebuilt application goes on with the counters, or starts over with its own. -/
theorem carry (h : Counted s log) (limits : ConcurrencyLimits) :
    Counted (s.carry limits) (if s.limits = limits then log else []) := by
  unfold ConcurrencyState.carry
  split_ifs
  · exact h
  · exact start limits

end Counted

/-! ### Every access keeps the invariant -/

namespace Counted

open ReservationTask (holdsGlobal holdsClient holdsSlotOf reservation? Consistent)

variable {s s' : ConcurrencyState} {log events : List ReservationEvent} {thread : ℕ}
  {clientId : String} {reservation : Reservation}

/-- `acquire`, up to its first shared access. -/
theorem acquire (h : Counted s log)
    (hstep : s.step (.acquire clientId) = some (s', events)) : Counted s' (log ++ events) := by
  simp only [ConcurrencyState.step] at hstep
  split_ifs at hstep with hfull
  · obtain ⟨rfl, rfl⟩ := Prod.mk.inj (Option.some.inj hstep)
    refine h.arrives rfl rfl rfl rfl rfl ?_ (by simp [ReservationEvent.thread])
    constructor <;> simp [Consistent, holdsGlobal, holdsClient, reservation?]
  · obtain ⟨rfl, rfl⟩ := Prod.mk.inj (Option.some.inj hstep)
    refine h.arrives rfl rfl ?_ rfl rfl ?_ (by simp [ReservationEvent.thread])
    · show s.available - 1 + 1 = s.available
      omega
    · constructor <;> simp [Consistent, holdsGlobal, holdsClient, reservation?]

/-- `release`, up to its first shared access. -/
theorem release (h : Counted s log)
    (hstep : s.step (.release thread) = some (s', events)) : Counted s' (log ++ events) := by
  simp only [ConcurrencyState.step] at hstep
  split at hstep
  · rename_i reservation hget
    have hold := h.threads thread _ hget
    have hflags : reservation.clientAcquired = reservation.globalAcquired := hold.consistent
    split_ifs at hstep with hclient
    · obtain ⟨rfl, rfl⟩ := Prod.mk.inj (Option.some.inj hstep)
      refine h.goesOn hget rfl rfl rfl (fun _ => rfl) h.bounded ?_ (by simp)
      rw [List.append_nil]
      exact { hold with
        consistent := ⟨hclient, hflags.symm.trans hclient⟩
        global_once := fun _ => hold.global_once (by simp)
        refused := fun hr => by simpa using hold.refused hr }
    · obtain ⟨rfl, rfl⟩ := Prod.mk.inj (Option.some.inj hstep)
      refine h.goesOn hget rfl rfl rfl (fun _ => rfl) h.bounded ?_ (by simp)
      rw [List.append_nil]
      exact { hold with
        consistent := Bool.eq_false_iff.mpr hclient
        global_once := fun _ => hold.global_once (by simp)
        refused := fun hr => by simpa using hold.refused hr }
  · cases hstep

/-- The section of `acquire` under the client lock. -/
private theorem advance_acquiring (h : Counted s log)
    (hget : s.threads[thread]? = some (.acquiring clientId))
    (hadvance : s.advance thread (.acquiring clientId) = some (s', events)) :
    Counted s' (log ++ events) := by
  have hold := h.threads thread _ hget
  have hreleased : ReservationEvent.released thread ∉ log := fun hr => by
    simpa [reservation?] using (hold.released hr).1
  have hrefused : ReservationEvent.refused thread ∉ log := fun hr => by
    simpa using hold.refused hr
  have hglobal := hold.global_balance
  have hclient := hold.client_balance
  have honce := hold.global_once (by simp)
  have hnone := hold.client_once
  simp [holdsGlobal, holdsClient, reservation?] at hglobal hclient hnone
  simp only [ConcurrencyState.advance, h.semaphoreRelease hget rfl] at hadvance
  split_ifs at hadvance with hfull
  · -- The client is at its limit: the global slot goes back.
    obtain ⟨rfl, rfl⟩ := Prod.mk.inj (Option.some.inj hadvance)
    refine h.goesOn hget rfl rfl rfl (fun _ => rfl) h.bounded ?_ (by simp [ReservationEvent.thread])
    constructor <;>
      simp [Consistent, holdsGlobal, holdsClient, reservation?, hreleased, hclient] <;> omega
  · obtain ⟨rfl, rfl⟩ := Prod.mk.inj (Option.some.inj hadvance)
    refine h.goesOn hget rfl rfl rfl (fun other => ?_) (fun other => ?_) ?_
      (by simp [ReservationEvent.thread])
    · by_cases hsame : other = clientId
      · subst hsame
        simp [ConcurrencyState.withActive, ConcurrencyState.goesOn, holdsSlotOf, holdsClient,
          reservation?]
      · simp [ConcurrencyState.withActive, ConcurrencyState.goesOn, holdsSlotOf, holdsClient,
          reservation?, hsame, Ne.symm hsame]
    · by_cases hsame : other = clientId
      · subst hsame
        simp [ConcurrencyState.withActive, ConcurrencyState.goesOn]
        omega
      · simpa [ConcurrencyState.withActive, ConcurrencyState.goesOn, hsame] using h.bounded other
    · constructor <;>
        simp [Consistent, holdsGlobal, holdsClient, reservation?, hreleased, hrefused, hclient] <;>
        omega

/-- The section of `release` under the client lock. -/
private theorem advance_releasingClient (h : Counted s log)
    (hget : s.threads[thread]? = some (.releasingClient reservation))
    (hadvance : s.advance thread (.releasingClient reservation) = some (s', events)) :
    Counted s' (log ++ events) := by
  have hold := h.threads thread _ hget
  obtain ⟨hc, hg⟩ := hold.consistent
  have hreleased : ReservationEvent.released thread ∉ log := fun hr => by
    simpa [holdsGlobal, hg] using (hold.released hr).2.1
  have hrefused : ReservationEvent.refused thread ∉ log := fun hr => by
    simpa using hold.refused hr
  have hglobal := hold.global_balance
  have hclient := hold.client_balance
  have honce := hold.global_once (by simp)
  have hsome := hold.client_once
  simp [holdsGlobal, holdsClient, reservation?, hc, hg] at hglobal hclient hsome
  have hslot : (ReservationTask.releasingClient reservation).holdsSlotOf reservation.clientId =
      true := by
    simp [holdsSlotOf, holdsClient, reservation?, hc]
  have hactive := h.one_le_active hget hslot
  obtain ⟨rfl, rfl⟩ := Prod.mk.inj (Option.some.inj hadvance)
  refine h.goesOn hget rfl rfl rfl (fun other => ?_) (fun other => ?_) ?_
    (by simp [ReservationEvent.thread])
  · by_cases hsame : other = reservation.clientId
    · subst hsame
      simp [ConcurrencyState.withActive, ConcurrencyState.goesOn, holdsSlotOf, holdsClient,
        reservation?, hc]
      split_ifs <;> omega
    · simp [ConcurrencyState.withActive, ConcurrencyState.goesOn, holdsSlotOf, holdsClient,
        reservation?, hsame, Ne.symm hsame]
  · have hbounded := h.bounded other
    by_cases hsame : other = reservation.clientId
    · subst hsame
      simp [ConcurrencyState.withActive, ConcurrencyState.goesOn]
      split_ifs <;> omega
    · simpa [ConcurrencyState.withActive, ConcurrencyState.goesOn, hsame] using hbounded
  · constructor <;>
      simp [Consistent, holdsGlobal, holdsClient, reservation?, hreleased, hrefused, hg] <;> omega

/-- The release of the semaphore. -/
private theorem advance_releasingGlobal (h : Counted s log)
    (hget : s.threads[thread]? = some (.releasingGlobal reservation))
    (hadvance : s.advance thread (.releasingGlobal reservation) = some (s', events)) :
    Counted s' (log ++ events) := by
  have hold := h.threads thread _ hget
  have hc : reservation.clientAcquired = false := hold.consistent
  have hrefused : ReservationEvent.refused thread ∉ log := fun hr => by
    simpa using hold.refused hr
  have hglobal := hold.global_balance
  have hclient := hold.client_balance
  have honce := hold.global_once (by simp)
  have hsome := hold.client_once
  simp [holdsGlobal, holdsClient, reservation?, hc] at hglobal hclient hsome
  simp only [ConcurrencyState.advance] at hadvance
  split_ifs at hadvance with hg
  · have hreleased : ReservationEvent.released thread ∉ log := fun hr => by
      simpa [holdsGlobal, hg] using (hold.released hr).2.1
    rw [h.semaphoreRelease hget hg] at hadvance
    obtain ⟨rfl, rfl⟩ := Prod.mk.inj (Option.some.inj hadvance)
    refine h.goesOn hget rfl rfl ?_ (fun _ => rfl) h.bounded ?_ (by simp [ReservationEvent.thread])
    · simp [ConcurrencyState.goesOn, holdsGlobal, hg]
    · simp [hg] at hglobal
      constructor <;>
        simp [Consistent, holdsGlobal, holdsClient, reservation?, hreleased, hrefused, hg, hc] <;>
        omega
  · -- The flag is cleared already: a repeated release frees nothing.
    obtain ⟨rfl, rfl⟩ := Prod.mk.inj (Option.some.inj hadvance)
    refine h.goesOn hget rfl rfl rfl (fun _ => rfl) h.bounded ?_ (by simp [ReservationEvent.thread])
    simp [hg] at hglobal
    constructor <;>
      simp [Consistent, holdsGlobal, holdsClient, reservation?, hrefused, hg, hc] <;> omega

/-- The end of a release. -/
private theorem advance_clearingGlobal (h : Counted s log)
    (hget : s.threads[thread]? = some (.clearingGlobal reservation))
    (hadvance : s.advance thread (.clearingGlobal reservation) = some (s', events)) :
    Counted s' (log ++ events) := by
  have hold := h.threads thread _ hget
  obtain ⟨hc, -⟩ := hold.consistent
  have hrefused : ReservationEvent.refused thread ∉ log := fun hr => by
    simpa using hold.refused hr
  have hglobal := hold.global_balance
  have hclient := hold.client_balance
  have honce := hold.global_once (by simp)
  have hsome := hold.client_once
  simp [holdsGlobal, holdsClient, reservation?, hc] at hglobal hclient hsome
  obtain ⟨rfl, rfl⟩ := Prod.mk.inj (Option.some.inj hadvance)
  refine h.goesOn hget rfl rfl rfl (fun _ => rfl) h.bounded ?_ (by simp [ReservationEvent.thread])
  constructor <;>
    simp [Consistent, holdsGlobal, holdsClient, reservation?, hrefused, hc] <;> omega

/-- **One access of one thread** keeps the counters counted. -/
theorem step {action : ReservationAction} (h : Counted s log)
    (hstep : s.step action = some (s', events)) : Counted s' (log ++ events) := by
  cases action with
  | acquire => exact h.acquire hstep
  | release => exact h.release hstep
  | advance thread =>
    obtain ⟨task, hget, hadvance⟩ := Option.bind_eq_some_iff.mp hstep
    cases task with
    | refused | holding => cases hadvance
    | acquiring => exact h.advance_acquiring hget hadvance
    | releasingClient => exact h.advance_releasingClient hget hadvance
    | releasingGlobal => exact h.advance_releasingGlobal hget hadvance
    | clearingGlobal => exact h.advance_clearingGlobal hget hadvance

end Counted

/-! ### Every interleaving -/

/-- An `acquire` of a client that runs alone from this state on: its refusal leaves the counters as
    they were. -/
def ConcurrencyState.RefusalKeeps (s : ConcurrencyState) (clientId : String) : Prop :=
  ∀ s₁ events₁, s.step (.acquire clientId) = some (s₁, events₁) →
    (.refused s.threads.length ∈ events₁ →
      s₁.available = s.available ∧ s₁.clientActive = s.clientActive) ∧
    ∀ s₂ events₂, s₁.step (.advance s.threads.length) = some (s₂, events₂) →
      .refused s.threads.length ∈ events₂ →
        s₂.available = s.available ∧ s₂.clientActive = s.clientActive

/-- What the counters keep in every state. -/
structure ReservationsCounted (s : ConcurrencyState) (log : List ReservationEvent) : Prop where
  in_flight : s.inFlight ≤ s.limits.maxConcurrentExecutions
  available : s.available = s.limits.maxConcurrentExecutions - s.inFlight
  active : ∀ clientId, s.clientActive clientId = s.held clientId
  bounded : ∀ clientId, s.held clientId ≤ s.limits.maxConcurrentExecutionsPerClient
  refusal : ∀ clientId, s.RefusalKeeps clientId
  refused : ∀ thread, .refused thread ∈ log →
    log.count (.tookGlobal thread) = log.count (.gaveGlobal thread) ∧
      log.count (.tookClient thread) = 0 ∧ log.count (.gaveClient thread) = 0
  once : ∀ thread, log.count (.gaveGlobal thread) ≤ 1 ∧ log.count (.gaveClient thread) ≤ 1
  released : ∀ thread, .released thread ∈ log →
    log.count (.gaveGlobal thread) = 1 ∧ log.count (.gaveClient thread) = 1
  sound : ∀ thread, .overReleased thread ∉ log

namespace Counted

variable {s : ConcurrencyState} {log : List ReservationEvent}

/-- The thread of an event in the log is one of the threads. -/
theorem exists_task (h : Counted s log) {e : ReservationEvent} (he : e ∈ log) :
    ∃ task, ThreadCounted task e.thread log := by
  have hlt := h.fresh e he
  exact ⟨s.threads[e.thread], h.threads _ _ (List.getElem?_eq_getElem hlt)⟩

/-- What a refused call took, it gave back before it raised. -/
theorem refusalKeeps (h : Counted s log) (clientId : String) : s.RefusalKeeps clientId := by
  intro s₁ events₁ hacquire
  have hcounted := h.acquire hacquire
  simp only [ConcurrencyState.step] at hacquire
  split_ifs at hacquire with hfull
  · obtain ⟨rfl, rfl⟩ := Prod.mk.inj (Option.some.inj hacquire)
    refine ⟨fun _ => ⟨rfl, rfl⟩, fun s₂ events₂ hadvance => ?_⟩
    simp [ConcurrencyState.step, ConcurrencyState.advance] at hadvance
  · obtain ⟨rfl, rfl⟩ := Prod.mk.inj (Option.some.inj hacquire)
    refine ⟨fun hr => by simp at hr, fun s₂ events₂ hadvance hr => ?_⟩
    have hget := List.getElem?_concat_length (l := s.threads) (a := .acquiring clientId)
    have hroom := hcounted.semaphoreRelease hget rfl
    simp only [ConcurrencyState.step, List.getElem?_concat_length, Option.bind_some,
      ConcurrencyState.advance, hroom] at hadvance
    split_ifs at hadvance with hlimit
    · obtain ⟨rfl, rfl⟩ := Prod.mk.inj (Option.some.inj hadvance)
      refine ⟨?_, rfl⟩
      show s.available - 1 + 1 = s.available
      omega
    · obtain ⟨rfl, rfl⟩ := Prod.mk.inj (Option.some.inj hadvance)
      simp at hr

/-- The invariant says what the counters keep. -/
theorem kept (h : Counted s log) : ReservationsCounted s log where
  in_flight := by
    have := h.global
    omega
  available := by
    have := h.global
    omega
  active := h.client
  bounded clientId := by
    rw [← h.client clientId]
    exact h.bounded clientId
  refusal := h.refusalKeeps
  refused thread hr := by
    obtain ⟨task, htask⟩ := h.exists_task hr
    obtain ⟨clientId, rfl⟩ := htask.refused hr
    have hglobal := htask.global_balance
    have hclient := htask.client_balance
    have hnone := htask.client_once
    simp [ReservationTask.holdsGlobal, ReservationTask.holdsClient,
      ReservationTask.reservation?, ReservationEvent.thread] at hglobal hclient hnone
    exact ⟨hglobal, hnone, by omega⟩
  once thread := by
    by_cases hlt : thread < s.threads.length
    · have htask := h.threads _ _ (List.getElem?_eq_getElem hlt)
      have hglobal := htask.global_balance
      have hclient := htask.client_balance
      have hone := htask.client_once
      have hle := htask.global_le
      have := Bool.toNat_le s.threads[thread].reservation?.isSome
      omega
    · -- A thread that has not begun has no event.
      have hnone : ∀ e : ReservationEvent, e.thread = thread → log.count e = 0 := by
        intro e he
        apply List.count_eq_zero.mpr
        intro hmem
        exact hlt (he ▸ h.fresh e hmem)
      rw [hnone _ rfl, hnone _ rfl]
      omega
  released thread hr := by
    obtain ⟨task, htask⟩ := h.exists_task hr
    obtain ⟨hsome, hg, hc⟩ := htask.released hr
    have hglobal := htask.global_balance
    have hclient := htask.client_balance
    have hone := htask.client_once
    have hadmitted : ∀ clientId, task ≠ .refused clientId := by
      rintro clientId rfl
      cases hsome
    have honce := htask.global_once hadmitted
    simp [hsome, hg, hc, ReservationEvent.thread] at hglobal hclient hone honce
    omega
  sound := h.sound

end Counted

/-- **Over every interleaving** of acquire and release calls, the counters count the reservations
    within their limits, a refused call leaves them as they were, and a released reservation freed
    one slot. -/
theorem reservations_counted {limits : ConcurrencyLimits} {s : ConcurrencyState}
    {log : List ReservationEvent}
    (run : reservationMachine.Run (fun _ _ => True) (.start limits) s log) :
    ReservationsCounted s log := by
  have hcounted : Counted s log := by
    apply run.invariant (Counted.start limits)
    intro s s' log events action _ h _ hstep
    exact h.step hstep
  exact hcounted.kept

/-- Two clients under one global slot, and a reservation that is released twice. -/
theorem reservations_counted_two : ∃ s, ReservationsCounted s
    [.tookGlobal 0, .tookClient 0, .admitted 0, .refused 1, .gaveClient 0, .gaveGlobal 0,
      .released 0, .released 0, .tookGlobal 2] := by
  obtain ⟨s, -, run⟩ := Machine.exists_run_of_exec reservationMachine (fun _ _ => true)
    (.start ⟨1, 1⟩)
    [.acquire "a", .advance 0, .acquire "b", .release 0, .advance 0, .advance 0, .advance 0,
      .release 0, .advance 0, .acquire "b"] rfl
  exact ⟨s, reservations_counted (run.mono fun _ _ _ => trivial)⟩

/-- **No slot is lost**: once every call of `acquire` was refused or its reservation released, in
    whatever order the threads took their steps, all slots are free again, and a call that runs
    alone is admitted. -/
theorem slots_returned {limits : ConcurrencyLimits} {s : ConcurrencyState}
    {log : List ReservationEvent}
    (run : reservationMachine.Run (fun _ _ => True) (.start limits) s log)
    (hended : ∀ thread < s.threads.length, .refused thread ∈ log ∨ .released thread ∈ log) :
    s.available = s.limits.maxConcurrentExecutions ∧ ∀ clientId, s.clientActive clientId = 0 ∧
      ∃ s₁ s₂ taken, s.step (.acquire clientId) = some (s₁, taken) ∧
        s₁.step (.advance s.threads.length) =
          some (s₂, [.tookClient s.threads.length, .admitted s.threads.length]) := by
  have h : Counted s log := by
    apply run.invariant (Counted.start limits)
    intro s s' log events action _ h _ hstep
    exact h.step hstep
  have hidle : ∀ task ∈ s.threads, task.holdsGlobal = false ∧ task.holdsClient = false := by
    intro task htask
    obtain ⟨thread, hget⟩ := List.mem_iff_getElem?.mp htask
    have hthread := h.threads thread task hget
    rcases hended thread (List.getElem?_eq_some_iff.mp hget).1 with hrefused | hreleased
    · obtain ⟨clientId, rfl⟩ := hthread.refused hrefused
      exact ⟨rfl, rfl⟩
    · exact (hthread.released hreleased).2
  have hflight : s.inFlight = 0 :=
    List.countP_eq_zero.mpr fun task htask => by simp [(hidle task htask).1]
  have hfree : s.available = s.limits.maxConcurrentExecutions := by
    rw [← h.global, hflight, add_zero]
  refine ⟨hfree, fun clientId => ?_⟩
  have hheld : s.clientActive clientId = 0 := by
    rw [h.client]
    exact List.countP_eq_zero.mpr fun task htask => by
      simp [ReservationTask.holdsSlotOf, (hidle task htask).2]
  have hroom : s.available ≠ 0 := hfree ▸ s.limits.maxConcurrentExecutions.pos.ne'
  have hbelow : ¬ s.limits.maxConcurrentExecutionsPerClient ≤ s.clientActive clientId := by
    simp [hheld]
  refine ⟨hheld, _, ?_, _, if_neg hroom, ?_⟩
  rotate_left
  · rw [ConcurrencyState.step, List.getElem?_concat_length]
    exact if_neg hbelow

/-- One slot, a refused call and a released reservation. -/
theorem slots_returned_two : ∃ s : ConcurrencyState, s.threads.length = 2 ∧
    s.available = s.limits.maxConcurrentExecutions := by
  obtain ⟨⟨s, log⟩, hexec, hseen⟩ := Option.map_eq_some_iff.mp
    (show (reservationMachine.exec (fun _ _ => true) (.start ⟨1, 1⟩) [] [.acquire "a", .advance 0,
      .acquire "b", .release 0, .advance 0, .advance 0, .advance 0]).map (fun r => decide (
        r.1.threads.length = 2 ∧ ReservationEvent.refused 1 ∈ r.2 ∧ .released 0 ∈ r.2)) =
      some true by decide +kernel)
  obtain ⟨hlength, hrefused, hreleased⟩ := of_decide_eq_true hseen
  have run := (Machine.run_of_exec .refl hexec).mono (fun _ _ _ => trivial)
  refine ⟨s, hlength, (slots_returned run fun thread hthread => ?_).1⟩
  obtain rfl | rfl : thread = 0 ∨ thread = 1 := by omega
  · exact .inr hreleased
  · exact .inl hrefused

end ScarcityRouter
