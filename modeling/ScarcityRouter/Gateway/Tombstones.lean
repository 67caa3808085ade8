import ScarcityRouter.Gateway.ContinuationRuns

namespace ScarcityRouter

open ScarcityRouter.Lib ContinuationSystem

/-!
# Terminal tombstones

`was_terminal_for` answers for the continuations that became terminal, from a bounded ring.

* `Tombstoned` — every terminal continuation is remembered until the ring has turned over, and only
  its owner's.
* `not_tombstoned_reapedTurn` — the reaper forgets a waiting continuation: `expire_due` buries only
  what it finds resuming.
* `tombstoned_of_run` — **the ring is faithful over every run in which `expire_due` reaps no waiting
  record and `close` is called on pending tokens.**
-/

/-! ### What the ring promises -/

/-- The event is a continuation becoming terminal. -/
def ContinuationEvent.isLeft : ContinuationEvent → Bool
  | .left _ => true
  | _ => false

/-- The tombstone of a continuation that became terminal. -/
def ContinuationEvent.tombstone? : ContinuationEvent → Option (String × String)
  | .left record => some record.tombstone
  | _ => none

/-- A terminal continuation is remembered for its owner until the ring has turned over, and for
    nobody else. -/
structure Tombstoned (s : ContinuationSystem) (log : List ContinuationEvent) : Prop where
  remembered : ∀ before after x, log = before ++ .left x :: after →
    after.countP (·.isLeft) < maxTerminalTombstones →
    s.registry.wasTerminalFor x.continuationToken x.clientId = true
  owned : ∀ token clientId, s.registry.wasTerminalFor token clientId = true →
    ∃ x, .left x ∈ log ∧ x.continuationToken = token ∧ x.clientId = clientId

/-- One waiting turn reaches its deadline, and the reaper runs. -/
def reapedTurn : List ContinuationAction :=
  [.register acmeTurn, .resume 0 false, .expireDue 10, .resume 0 false, .resume 0 false,
    .resume 0 false, .resume 0 false]

/-- The reaped turn is terminal, and its owner is told that it never was. -/
theorem not_tombstoned_reapedTurn : ¬ ∀ maxPending s log, ContinuationRun maxPending s log →
    Tombstoned s log := by
  intro h
  have hlog : (continuationMachine.exec (fun _ _ => true) (start 1) [] reapedTurn).map Prod.snd =
      some [.registered acmeTurn, .left acmeTurn, .cancelled acmeTurn] := by decide +kernel
  have hforgotten : (continuationMachine.exec (fun _ _ => true) (start 1) [] reapedTurn).any
      (fun result => result.1.registry.wasTerminalFor "srct-1" "acme") = false := by decide +kernel
  obtain ⟨s, hexec, run⟩ := continuationMachine.exists_run_of_exec _ _ _ hlog
  have hremembered := (h 1 s _ (run.mono fun _ _ _ => trivial)).remembered [.registered acmeTurn]
    [.cancelled acmeTurn] acmeTurn rfl (by decide +kernel)
  rw [hexec, Option.any_some] at hforgotten
  exact Bool.false_ne_true (hforgotten.symm.trans hremembered)

/-! ### Runs that bury exactly what becomes terminal -/

/-- The step buries what it removes: `close` is called on a pending token, and the scan of
    `expire_due` reaps no waiting record. -/
def buriesRemoved (s : ContinuationSystem) : ContinuationAction → Bool
  | .close token state _ => !state.terminal || (s.registry.detect token).isSome
  | .resume thread _ =>
    match s.tasks[thread]? with
    | some (.expiring now (record :: _) _) =>
      !record.expiredAt now || s.registry.states record.identity ≠ .waiting
    | _ => true
  | _ => true

/-- The ring after one more batch of events. -/
def ringAfter (log : List ContinuationEvent) : List (String × String) :=
  (log.filterMap (·.tombstone?)).rtake maxTerminalTombstones

/-- The ring is unchanged by events that remove nothing. -/
private theorem ringAfter_quiet {log events : List ContinuationEvent}
    (h : ∀ e ∈ events, e.tombstone? = none) : ringAfter (log ++ events) = ringAfter log := by
  unfold ringAfter
  rw [List.filterMap_append, List.filterMap_eq_nil_iff.mpr h, List.append_nil]

/-- One removal is one push. -/
private theorem ringAfter_left {log : List ContinuationEvent} {record : PendingContinuation} :
    ringAfter (log ++ [.left record]) =
      pushRing maxTerminalTombstones (ringAfter log) record.tombstone := by
  unfold ringAfter
  rw [List.filterMap_append, ring_of_push]
  rfl

/-- Callbacks and rejections remove nothing. -/
private theorem tombstone?_invoke {record : PendingContinuation} {e : ContinuationEvent}
    (h : e ∈ record.invoke) : e.tombstone? = none := by
  unfold PendingContinuation.invoke at h
  split at h
  · rw [List.mem_singleton.mp h]
    rfl
  · cases h

/-- A section that buries what it removes moves the ring along. -/
private theorem ring_of_advance {s s' : ContinuationSystem} {log events : List ContinuationEvent}
    {task : ContinuationTask} {raises : Bool} (hring : s.registry.tombstones = ringAfter log)
    (hsafe : ∀ now record snapshot expired, task = .expiring now (record :: snapshot) expired →
      record.expiredAt now = true → s.registry.states record.identity ≠ .waiting)
    (h : s.advance raises task = some (s', events)) :
    s'.registry.tombstones = ringAfter (log ++ events) := by
  cases task with
  | registering record =>
    dsimp only [advance] at h
    split_ifs at h
    · cases h
      rw [ringAfter_quiet (by simp [ContinuationEvent.tombstone?])]
      exact hring
    · cases h
      rw [List.append_nil]
      exact hring
  | closing record state cancelBackend =>
    cases h
    rw [List.append_nil]
    split <;> exact hring
  | cancelling record =>
    cases h
    rw [ringAfter_quiet fun _ => tombstone?_invoke]
    exact hring
  | rejecting record =>
    cases h
    rw [ringAfter_quiet]
    · exact hring
    · intro e he
      rcases List.mem_append.mp he with he | he
      · exact tombstone?_invoke he
      · split at he
        · cases he
        · rw [List.mem_singleton.mp he]
          rfl
  | expiring now snapshot expired =>
    cases snapshot with
    | nil =>
      cases h
      rw [List.append_nil]
      exact hring
    | cons record snapshot =>
      dsimp only [advance] at h
      split_ifs at h with hdue
      · cases h
        have hresuming := hsafe now record snapshot expired rfl hdue
        rw [ringAfter_left, ← hring]
        unfold ContinuationRegistry.reap
        simp [hresuming]
      · cases h
        rw [List.append_nil]
        exact hring
  | reaping expired =>
    cases expired with
    | nil =>
      cases h
      rw [List.append_nil]
      exact hring
    | cons record expired =>
      cases h
      rw [ringAfter_quiet fun _ => tombstone?_invoke]
      split <;> exact hring

/-- **The step lemma**: the ring holds the last tombstones of what was removed. -/
private theorem ring_of_step {s s' : ContinuationSystem} {log events : List ContinuationEvent}
    {action : ContinuationAction} (hkeyed : s.registry.Keyed)
    (hring : s.registry.tombstones = ringAfter log) (hsafe : buriesRemoved s action = true)
    (h : s.step action = some (s', events)) :
    s'.registry.tombstones = ringAfter (log ++ events) := by
  cases action with
  | register record =>
    dsimp only [step] at h
    split_ifs at h
    · cases h
      rw [List.append_nil]
      exact hring
    · cases h
      rw [List.append_nil]
      exact hring
  | claim token clientId now =>
    dsimp only [step] at h
    split_ifs at h
    split at h
    · rename_i registry reason hclaim
      cases h
      obtain rfl := ContinuationRegistry.claimSection_rejected hclaim
      rw [ringAfter_quiet (by simp [ContinuationEvent.tombstone?])]
      exact hring
    · rename_i registry record hclaim
      cases h
      obtain ⟨-, -, -, rfl⟩ := ContinuationRegistry.claimSection_expired hkeyed hclaim
      rw [ringAfter_left, ← hring]
      rfl
    · rename_i registry record hclaim
      cases h
      obtain ⟨-, -, -, -, -, rfl⟩ := ContinuationRegistry.claimSection_claimed hkeyed hclaim
      rw [ringAfter_quiet (by simp [ContinuationEvent.tombstone?])]
      exact hring
  | release identity =>
    cases h
    rw [ringAfter_quiet]
    · exact ContinuationRegistry.restoreWaiting_tombstones.trans hring
    · intro e he
      split at he
      · rw [List.mem_singleton.mp he]
        rfl
      · cases he
  | close token state cancelBackend =>
    dsimp only [step] at h
    split_ifs at h with hterminal
    · cases h
      rw [List.append_nil]
      exact hring
    · split at h
      · rename_i registry hclose
        obtain ⟨hnone, -⟩ := ContinuationRegistry.closeSection_none hclose
        simp only [buriesRemoved, hnone, Option.isSome_none, Bool.or_false] at hsafe
        exact absurd hsafe hterminal
      · rename_i registry record hclose
        cases h
        obtain ⟨-, -, rfl⟩ := ContinuationRegistry.closeSection_some hkeyed hclose
        rw [ringAfter_left, ← hring]
        rfl
  | expireDue now =>
    dsimp only [step] at h
    split_ifs at h
    cases h
    rw [List.append_nil]
    exact hring
  | resume thread raises =>
    dsimp only [step] at h
    split at h
    · cases h
    · rename_i task hget
      refine ring_of_advance (s := s.without thread) hring ?_ h
      rintro now record snapshot expired rfl hdue
      simp only [buriesRemoved, hget, hdue, Bool.not_true, Bool.false_or,
        decide_eq_true_eq] at hsafe
      exact hsafe

/-- The tombstones of a log are as many as its removals. -/
private theorem length_tombstones (log : List ContinuationEvent) :
    (log.filterMap (·.tombstone?)).length = log.countP (·.isLeft) := by
  rw [List.length_filterMap_eq_countP]
  refine List.countP_congr fun e _ => ?_
  cases e <;> rfl

/-- **The ring is faithful** over every run whose steps bury what they remove. -/
theorem tombstoned_of_run (maxPending : ℕ+) (s : ContinuationSystem)
    (log : List ContinuationEvent)
    (run : continuationMachine.Run (fun s action => buriesRemoved s action = true)
      (.start maxPending) s log) : Tombstoned s log := by
  have hring : s.registry.tombstones = ringAfter log := by
    refine run.invariant (I := fun s log => s.registry.tombstones = ringAfter log) ?_ ?_
    · unfold ringAfter
      rw [List.filterMap_nil, List.rtake_nil]
      rfl
    · intro s s' log events action hrun hring hsafe hstep
      exact ring_of_step (continuationInvariant_of_run hrun).guarded.keyed hring hsafe hstep
  constructor
  · intro before after x hlog hfew
    unfold ContinuationRegistry.wasTerminalFor
    rw [hring, hlog, ringAfter, List.filterMap_append, List.filterMap_cons]
    refine decide_eq_true (mem_rtake_of_length_lt ?_)
    rwa [length_tombstones]
  · intro token clientId hterminal
    have hmem := of_decide_eq_true hterminal
    rw [hring] at hmem
    obtain ⟨e, he, htombstone⟩ := List.mem_filterMap.mp (mem_of_mem_rtake hmem)
    cases e with
    | left record =>
      obtain ⟨rfl, rfl⟩ := Prod.mk.inj (Option.some.inj htombstone)
      exact ⟨record, he, rfl, rfl⟩
    | _ => cases htombstone

/-- A claimed turn expires while its delivery is in flight. -/
def resumedTurn : List ContinuationAction :=
  [.register acmeTurn, .resume 0 false, .claim "srct-1" "acme" 1, .expireDue 10, .resume 0 false]

/-- The ring remembers it. -/
theorem tombstoned_of_run_resumedTurn : ∃ s, ∃ log : List ContinuationEvent,
    log = [.registered acmeTurn, .claimed acmeTurn, .left acmeTurn] ∧ Tombstoned s log := by
  refine (continuationMachine.exists_run_of_exec buriesRemoved (start 1) resumedTurn ?_).elim
    fun s ⟨_, run⟩ => ⟨s, _, rfl, tombstoned_of_run 1 s _ run⟩
  decide +kernel

end ScarcityRouter
