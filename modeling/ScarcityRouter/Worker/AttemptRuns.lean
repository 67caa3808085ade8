import ScarcityRouter.Worker.Attempts

namespace ScarcityRouter

open ScarcityRouter.Lib

/-!
# Runs of a worker session

The trackers of a session over whole runs of its threads, in any order of their critical sections.

* `Accounted` — every tracker is in one place: the table, the hands of a thread, resolved, dropped.
* `Attributed` — items and results go to the tracker that they name.
* `AttemptsTracked`, `attempts_tracked` — **every tracked attempt leaves the table once, is resolved
  once, and hands over what arrived in order**, in every run.
* `unresolved_after_close` — an attempt whose submission failed is not resolved by the close.
-/

/-! ### Every attempt is in one place -/

open AttemptSession

variable {s s' : AttemptSession} {log events : List AttemptEvent}

/-- The log against the trackers, the table and the threads that resolve. -/
structure Accounted (s : AttemptSession) (log : List AttemptEvent) : Prop where
  rows : ∀ row ∈ s.pending.rows, s.attemptId? row.2 = some row.1
  tracks : ∀ i, log.countP (AttemptEvent.tracks i) = (s.tracker? i).toList.length
  leaves : ∀ i, log.countP (AttemptEvent.leaves i) + s.inTable.count i =
    log.countP (AttemptEvent.tracks i)
  places : ∀ i, s.inHand.count i + (s.outcome? i).toList.length +
    log.countP (AttemptEvent.drops i) = log.countP (AttemptEvent.leaves i)
  resolutions : ∀ i, log.filterMap (AttemptEvent.resolution i) = (s.outcome? i).toList
  queues : ∀ i, log.filterMap (AttemptEvent.queuedOn i) =
    log.filterMap (AttemptEvent.takenFrom i) ++ s.queue i
  suspensions : ∀ i attempt, s.tracker? i = some attempt →
    attempt.items.countP TrackerItem.isSuspension = attempt.suspensionOutstanding.toNat

/-- Quiet events count for nothing. -/
theorem quiet_counts (h : ∀ e ∈ events, e.quiet = true) (i : ℕ) :
    events.countP (AttemptEvent.tracks i) = 0 ∧ events.countP (AttemptEvent.leaves i) = 0 ∧
      events.countP (AttemptEvent.drops i) = 0 ∧
      events.filterMap (AttemptEvent.resolution i) = [] ∧
      events.filterMap (AttemptEvent.queuedOn i) = [] ∧
      events.filterMap (AttemptEvent.takenFrom i) = [] := by
  have hone : ∀ e : AttemptEvent, e.quiet = true → e.tracks i = false ∧ e.leaves i = false ∧
      e.drops i = false ∧ e.resolution i = none ∧ e.queuedOn i = none ∧ e.takenFrom i = none := by
    intro e he
    cases e <;> first | exact ⟨rfl, rfl, rfl, rfl, rfl, rfl⟩ | cases he
  refine ⟨List.countP_eq_zero.mpr ?_, List.countP_eq_zero.mpr ?_, List.countP_eq_zero.mpr ?_,
    List.filterMap_eq_nil_iff.mpr ?_, List.filterMap_eq_nil_iff.mpr ?_,
    List.filterMap_eq_nil_iff.mpr ?_⟩
  all_goals
    intro e he
    obtain ⟨htracks, hleaves, hdrops, hresolution, hqueued, htaken⟩ := hone e (h e he)
    simp [*]

/-- A departure marks the tracker that leaves, and is about no other thing. -/
theorem Departure.counts {attemptId : SafeId} {i : ℕ} {hands : List ℕ} {marks : List AttemptEvent}
    (h : Departure s s' attemptId i hands marks) (j : ℕ) :
    marks.countP (AttemptEvent.tracks j) = 0 ∧ marks.countP (AttemptEvent.leaves j) = 0 ∧
      hands.count j + marks.countP (AttemptEvent.drops j) = (if i = j then 1 else 0) ∧
      marks.filterMap (AttemptEvent.resolution j) = [] ∧
      marks.filterMap (AttemptEvent.queuedOn j) = [] ∧
      marks.filterMap (AttemptEvent.takenFrom j) = [] := by
  cases h with
  | held => simp [List.count_singleton]
  | discarded k _ _ =>
    simp [AttemptEvent.tracks, AttemptEvent.leaves, AttemptEvent.drops, AttemptEvent.resolution,
      AttemptEvent.queuedOn, AttemptEvent.takenFrom, List.countP_cons]
  | lost _ _ =>
    simp [AttemptEvent.tracks, AttemptEvent.leaves, AttemptEvent.drops, AttemptEvent.resolution,
      AttemptEvent.queuedOn, AttemptEvent.takenFrom, List.countP_cons]

namespace AttemptSession

variable {i : ℕ} {tracker : Option PendingAttempt}

theorem outcome?_congr (h : s'.tracker? = s.tracker?) : s'.outcome? = s.outcome? := by
  unfold outcome?
  rw [h]

theorem queue_congr (h : s'.tracker? = s.tracker?) : s'.queue = s.queue := by
  unfold queue
  rw [h]

theorem attemptId?_congr (h : s'.tracker? = s.tracker?) : s'.attemptId? = s.attemptId? := by
  unfold attemptId?
  rw [h]

theorem outcome?_update (h : s'.tracker? = Function.update s.tracker? i tracker) :
    s'.outcome? = Function.update s.outcome? i (tracker.bind PendingAttempt.outcome) := by
  show (fun t : Option PendingAttempt => t.bind PendingAttempt.outcome) ∘ s'.tracker? = _
  rw [h]
  exact Function.comp_update _ _ _ _

theorem queue_update (h : s'.tracker? = Function.update s.tracker? i tracker) :
    s'.queue = Function.update s.queue i (tracker.elim [] PendingAttempt.items) := by
  show (fun t : Option PendingAttempt => t.elim [] PendingAttempt.items) ∘ s'.tracker? = _
  rw [h]
  exact Function.comp_update _ _ _ _

theorem attemptId?_update (h : s'.tracker? = Function.update s.tracker? i tracker) :
    s'.attemptId? = Function.update s.attemptId? i (tracker.map PendingAttempt.attemptId) := by
  show (fun t : Option PendingAttempt => t.map PendingAttempt.attemptId) ∘ s'.tracker? = _
  rw [h]
  exact Function.comp_update _ _ _ _

variable {found rewritten : PendingAttempt}

/-- Rewriting a tracker keeps what it keeps of that tracker. -/
theorem outcome?_kept (hfound : s.tracker? i = some found)
    (h : s'.tracker? = Function.update s.tracker? i (some rewritten))
    (hkept : rewritten.outcome = found.outcome) : s'.outcome? = s.outcome? := by
  rw [outcome?_update h]
  refine Function.update_eq_self_iff.mpr ?_
  unfold outcome?
  rw [hfound]
  exact hkept

theorem queue_kept (hfound : s.tracker? i = some found)
    (h : s'.tracker? = Function.update s.tracker? i (some rewritten))
    (hkept : rewritten.items = found.items) : s'.queue = s.queue := by
  rw [queue_update h]
  refine Function.update_eq_self_iff.mpr ?_
  unfold queue
  rw [hfound]
  exact hkept

theorem attemptId?_kept (hfound : s.tracker? i = some found)
    (h : s'.tracker? = Function.update s.tracker? i (some rewritten))
    (hkept : rewritten.attemptId = found.attemptId) : s'.attemptId? = s.attemptId? := by
  rw [attemptId?_update h]
  refine Function.update_eq_self_iff.mpr ?_
  unfold attemptId?
  rw [hfound]
  exact congrArg some hkept

/-- Rewriting a tracker neither adds nor removes one. -/
theorem length_tracker?_kept (hfound : s.tracker? i = some found)
    (h : s'.tracker? = Function.update s.tracker? i (some rewritten)) (j : ℕ) :
    (s'.tracker? j).toList.length = (s.tracker? j).toList.length := by
  rw [h]
  by_cases hj : j = i
  · subst hj
    rw [Function.update_self, hfound]
    rfl
  · rw [Function.update_of_ne hj]

end AttemptSession

namespace PendingAttempt

variable {attempt pushed : PendingAttempt} {item : TrackerItem}

/-- An item goes to the end of the queue, a suspension while no other is unconsumed. -/
theorem push_eq_some (h : attempt.push item = some pushed) :
    pushed = { attempt with
      items := attempt.items ++ [item]
      suspensionOutstanding := attempt.suspensionOutstanding || item.isSuspension } ∧
      (item.isSuspension = true → attempt.suspensionOutstanding = false) := by
  cases item with
  | chunk message =>
    obtain rfl := Option.some.inj h
    refine ⟨?_, nofun⟩
    show attempt.pushChunk message = _
    unfold pushChunk
    rw [TrackerItem.isSuspension, Bool.or_false]
  | suspension message =>
    have h : attempt.pushSuspension message = some pushed := h
    unfold pushSuspension at h
    split_ifs at h with houtstanding
    obtain rfl := Option.some.inj h
    rw [Bool.not_eq_true] at houtstanding
    refine ⟨?_, fun _ => houtstanding⟩
    rw [TrackerItem.isSuspension, Bool.or_true]

/-- What `take` does: it takes the first item, or leaves the tracker as it is. -/
theorem take_cases (attempt : PendingAttempt) :
    (∃ item items, attempt.items = item :: items ∧
      attempt.take = (.item item, { attempt with
        items := items
        suspensionOutstanding := attempt.suspensionOutstanding && !item.isSuspension })) ∨
    (attempt.items = [] ∧ ((∃ outcome, attempt.outcome = some outcome ∧
      attempt.take = (.outcome outcome, attempt)) ∨ attempt.take = (.timeout, attempt))) := by
  unfold take
  split
  · rename_i item items hitems
    exact .inl ⟨item, items, hitems, rfl⟩
  · rename_i outcome hitems houtcome
    exact .inr ⟨hitems, .inl ⟨outcome, houtcome, rfl⟩⟩
  · rename_i hitems _
    exact .inr ⟨hitems, .inr rfl⟩

/-- What `take` leaves as it is. -/
theorem attemptId_take (attempt : PendingAttempt) :
    attempt.take.2.attemptId = attempt.attemptId := by
  rcases attempt.take_cases with ⟨_, _, _, htake⟩ | ⟨_, ⟨_, _, htake⟩ | htake⟩
  all_goals rw [htake]

theorem outcome_take (attempt : PendingAttempt) : attempt.take.2.outcome = attempt.outcome := by
  rcases attempt.take_cases with ⟨_, _, _, htake⟩ | ⟨_, ⟨_, _, htake⟩ | htake⟩
  all_goals rw [htake]

end PendingAttempt

/-- A tracker of the table is found, and resolved by nobody yet. -/
theorem Accounted.of_inTable (h : Accounted s log) {i : ℕ} (hi : 0 < s.inTable.count i) :
    s.inTable.count i = 1 ∧ log.countP (AttemptEvent.leaves i) = 0 ∧
      s.inHand.count i = 0 ∧ s.outcome? i = none := by
  have htracks := h.tracks i
  have hleaves := h.leaves i
  have hplaces := h.places i
  have hone : (s.tracker? i).toList.length ≤ 1 := by cases s.tracker? i <;> simp
  have houtcome : (s.outcome? i).toList.length = 0 := by omega
  refine ⟨by omega, by omega, by omega, ?_⟩
  cases hout : s.outcome? i with
  | none => rfl
  | some outcome =>
    rw [hout] at houtcome
    cases houtcome

/-- A tracker in the hands of a thread is found and not resolved. -/
theorem Accounted.of_inHand (h : Accounted s log) {i : ℕ} (hi : 0 < s.inHand.count i) :
    s.inHand.count i = 1 ∧ s.outcome? i = none ∧ ∃ tracker, s.tracker? i = some tracker := by
  have htracks := h.tracks i
  have hleaves := h.leaves i
  have hplaces := h.places i
  have hone : (s.tracker? i).toList.length ≤ 1 := by cases s.tracker? i <;> simp
  have houtcome : (s.outcome? i).toList.length = 0 := by omega
  have hfound : 0 < (s.tracker? i).toList.length := by omega
  refine ⟨by omega, ?_, ?_⟩
  · cases hout : s.outcome? i with
    | none => rfl
    | some outcome =>
      rw [hout] at houtcome
      cases houtcome
  · cases htracker : s.tracker? i with
    | none =>
      rw [htracker] at hfound
      cases hfound
    | some tracker => exact ⟨tracker, rfl⟩

/-- A table without the rows of an id that stands in one row. -/
theorem count_filter_row {row : SafeId × ℕ} {attemptId : SafeId}
    (hfound : s.pending.row? attemptId = some row) (i : ℕ) :
    ((s.pending.rows.filter fun other => !decide (other.1 = attemptId)).map Prod.snd).count i +
      (if row.2 = i then 1 else 0) = s.inTable.count i := by
  obtain ⟨hmem, hkey⟩ := Table.row?_eq_some.mp hfound
  have hdistinct := s.pending.distinct
  unfold AttemptSession.inTable
  obtain ⟨before, after, hrows⟩ := List.append_of_mem hmem
  rw [hrows, List.map_append, List.map_cons, List.nodup_middle, List.nodup_cons,
    List.mem_append] at hdistinct
  -- No other row stands under the id.
  have hothers : ∀ rows : List (SafeId × ℕ), row.1 ∉ rows.map Prod.fst →
      (rows.filter fun other => !decide (other.1 = attemptId)) = rows := by
    intro rows hnot
    refine List.filter_eq_self.mpr fun other hother => ?_
    have hne : other.1 ≠ attemptId := fun heq => hnot (List.mem_map.mpr ⟨other, hother,
      heq.trans hkey.symm⟩)
    simpa using hne
  rw [hrows, List.filter_append, hothers before fun hin => hdistinct.1 (.inl hin),
    List.filter_cons_of_neg (by simpa using hkey), hothers after fun hin => hdistinct.1 (.inr hin),
    List.map_append, List.map_append, List.map_cons, List.count_append, List.count_append,
    List.count_cons]
  simp only [beq_iff_eq]
  omega

/-- **The account is kept** by every step. -/
theorem Accounted.preserved (h : Accounted s log)
    (idle : s.closed = false → s.interrupting = []) (effect : AttemptEffect s s' events) :
    Accounted s' (log ++ events) := by
  cases effect with
  | still events hquiet htrackers hrows hhands _ =>
    have hcounts := quiet_counts hquiet
    constructor
    · rw [hrows, attemptId?_congr htrackers]
      exact h.rows
    · intro i
      rw [List.countP_append, (hcounts i).1, htrackers]
      exact h.tracks i
    · intro i
      have htable : s'.inTable = s.inTable := by
        unfold inTable
        rw [hrows]
      rw [List.countP_append, List.countP_append, (hcounts i).1, (hcounts i).2.1, htable]
      exact h.leaves i
    · intro i
      rw [List.countP_append, List.countP_append, (hcounts i).2.1, (hcounts i).2.2.1, hhands,
        outcome?_congr htrackers]
      exact h.places i
    · intro i
      rw [List.filterMap_append, (hcounts i).2.2.2.1, List.append_nil, outcome?_congr htrackers]
      exact h.resolutions i
    · intro i
      rw [List.filterMap_append, List.filterMap_append, (hcounts i).2.2.2.2.1,
        (hcounts i).2.2.2.2.2, List.append_nil, List.append_nil, queue_congr htrackers]
      exact h.queues i
    · rw [htrackers]
      exact h.suspensions
  | tracked i attemptId _ _ hnew htrackers hrows hhands _ =>
    have houtcome : s'.outcome? = s.outcome? := by
      rw [outcome?_update htrackers]
      refine Function.update_eq_self_iff.mpr ?_
      unfold outcome?
      rw [hnew]
      rfl
    have hqueue : s'.queue = s.queue := by
      rw [queue_update htrackers]
      refine Function.update_eq_self_iff.mpr ?_
      unfold queue
      rw [hnew]
      rfl
    have htracked : ∀ j, [AttemptEvent.tracked i].countP (AttemptEvent.tracks j) =
        if i = j then 1 else 0 := by
      intro j
      rw [List.countP_singleton]
      simp [AttemptEvent.tracks]
    constructor
    · intro row hrow
      rw [attemptId?_update htrackers]
      rw [hrows, List.mem_append, List.mem_singleton] at hrow
      rcases hrow with hrow | rfl
      · have hold := h.rows row hrow
        have hne : row.2 ≠ i := by
          rintro rfl
          unfold attemptId? at hold
          rw [hnew] at hold
          cases hold
        rw [Function.update_of_ne hne]
        exact hold
      · exact Function.update_self i _ _
    · intro j
      rw [List.countP_append, htracked, htrackers, h.tracks j]
      by_cases hj : j = i
      · subst hj
        rw [Function.update_self, hnew, if_pos rfl]
        rfl
      · rw [Function.update_of_ne hj, if_neg (Ne.symm hj)]
        rfl
    · intro j
      have htable : s'.inTable = s.inTable ++ [i] := by
        unfold inTable
        rw [hrows, List.map_append]
        rfl
      have hleaves := h.leaves j
      rw [List.countP_append, List.countP_append, htracked, htable, List.count_append,
        List.count_singleton, List.countP_cons_of_neg (by exact Bool.false_ne_true),
        List.countP_nil]
      simp only [beq_iff_eq]
      omega
    · intro j
      rw [List.countP_append, List.countP_append, hhands, houtcome]
      exact h.places j
    · intro j
      rw [List.filterMap_append, houtcome, h.resolutions j]
      exact List.append_nil _
    · intro j
      rw [List.filterMap_append, List.filterMap_append, hqueue, h.queues j]
      show _ ++ _ ++ [] = _ ++ [] ++ _
      rw [List.append_nil, List.append_nil]
    · intro j attempt hattempt
      rw [htrackers] at hattempt
      by_cases hj : j = i
      · subst hj
        rw [Function.update_self] at hattempt
        obtain rfl := Option.some.inj hattempt
        rfl
      · rw [Function.update_of_ne hj] at hattempt
        exact h.suspensions j attempt hattempt
  | popped attemptId row hands marks hdeparture hfound htrackers hrows hhands _ =>
    have hcounts := hdeparture.counts
    have hmem := (Table.row?_eq_some.mp hfound).1
    have htable : ∀ j, s'.inTable.count j + (if row.2 = j then 1 else 0) = s.inTable.count j := by
      intro j
      unfold inTable
      rw [hrows]
      exact count_filter_row hfound j
    have hleft : ∀ j, List.countP (AttemptEvent.leaves j) (.left row.2 :: marks) =
        if row.2 = j then 1 else 0 := by
      intro j
      rw [List.countP_cons, (hcounts j).2.1]
      simp [AttemptEvent.leaves]
    constructor
    · rw [hrows, attemptId?_congr htrackers]
      intro other hother
      exact h.rows other (List.mem_filter.mp hother).1
    · intro j
      rw [List.countP_append, List.countP_cons_of_neg (by exact Bool.false_ne_true),
        (hcounts j).1, htrackers]
      exact h.tracks j
    · intro j
      have hleaves := h.leaves j
      have htable := htable j
      rw [List.countP_append, List.countP_append, hleft,
        List.countP_cons_of_neg (by exact Bool.false_ne_true), (hcounts j).1]
      omega
    · intro j
      have hplaces := h.places j
      have hmarks := (hcounts j).2.2.1
      rw [List.countP_append, List.countP_append, hleft,
        List.countP_cons_of_neg (by exact Bool.false_ne_true), hhands, List.count_append,
        outcome?_congr htrackers]
      omega
    · intro j
      rw [List.filterMap_append, List.filterMap_cons_none rfl, (hcounts j).2.2.2.1,
        List.append_nil, outcome?_congr htrackers]
      exact h.resolutions j
    · intro j
      rw [List.filterMap_append, List.filterMap_append, List.filterMap_cons_none rfl,
        List.filterMap_cons_none rfl, (hcounts j).2.2.2.2.1, (hcounts j).2.2.2.2.2,
        List.append_nil, List.append_nil, queue_congr htrackers]
      exact h.queues j
    · rw [htrackers]
      exact h.suspensions
  | closed hopen htrackers hrows hhands _ =>
    have hhands := hhands (idle hopen)
    have hleft : ∀ j, (s.pending.rows.map fun row => AttemptEvent.left row.2).countP
        (AttemptEvent.leaves j) = s.inTable.count j := by
      intro j
      unfold inTable List.count
      rw [List.countP_map, List.countP_map]
      rfl
    have htable : s'.inTable = [] := by
      unfold inTable
      rw [hrows]
      rfl
    have hnone : ∀ p : AttemptEvent → Bool, (∀ j, p (.left j) = false) →
        (s.pending.rows.map fun row => AttemptEvent.left row.2).countP p = 0 := by
      intro p hp
      simp [hp]
    have hnil : ∀ {β : Type} (f : AttemptEvent → Option β), (∀ j, f (.left j) = none) →
        (s.pending.rows.map fun row => AttemptEvent.left row.2).filterMap f = [] := by
      intro β f hf
      simp [hf]
    constructor
    · rw [hrows]
      nofun
    · intro j
      rw [List.countP_append, hnone _ fun _ => rfl, htrackers]
      exact h.tracks j
    · intro j
      rw [List.countP_append, List.countP_append, hleft, hnone _ fun _ => rfl, htable]
      exact h.leaves j
    · intro j
      have hplaces := h.places j
      rw [List.countP_append, List.countP_append, hleft, hnone _ fun _ => rfl, hhands,
        List.count_append, outcome?_congr htrackers]
      omega
    · intro j
      rw [List.filterMap_append, hnil _ fun _ => rfl, List.append_nil, outcome?_congr htrackers]
      exact h.resolutions j
    · intro j
      rw [List.filterMap_append, List.filterMap_append, hnil _ fun _ => rfl, hnil _ fun _ => rfl,
        List.append_nil, List.append_nil, queue_congr htrackers]
      exact h.queues j
    · rw [htrackers]
      exact h.suspensions
  | resolved i outcome answers hanswers _ htrackers hrows hhands _ =>
    have hcounts := quiet_counts hanswers
    have hcount : ∀ j, s.inHand.count j = s'.inHand.count j + if i = j then 1 else 0 := by
      intro j
      rw [hhands.count_eq, List.count_cons]
      simp only [beq_iff_eq]
    have hheld : 0 < s.inHand.count i := by
      have hi := hcount i
      rw [if_pos rfl] at hi
      omega
    -- Nobody has resolved a tracker that is still in hand.
    obtain ⟨-, hunresolved, tracker, htracker⟩ := h.of_inHand hheld
    have hnone : tracker.outcome = none := by
      unfold outcome? at hunresolved
      rw [htracker] at hunresolved
      exact hunresolved
    rw [htracker] at htrackers
    have houtcome : s'.outcome? = Function.update s.outcome? i (some outcome) := by
      have hfirst : (tracker.resolve outcome).outcome = some outcome := by
        unfold PendingAttempt.resolve
        rw [hnone]
        rfl
      rw [outcome?_update htrackers]
      exact congrArg (Function.update s.outcome? i) hfirst
    have hqueue : s'.queue = s.queue := queue_kept htracker htrackers rfl
    have hids : s'.attemptId? = s.attemptId? := attemptId?_kept htracker htrackers rfl
    have htable : s'.inTable = s.inTable := by
      unfold inTable
      rw [hrows]
    constructor
    · rw [hrows, hids]
      exact h.rows
    · intro j
      rw [List.countP_append, List.countP_cons_of_neg (by exact Bool.false_ne_true),
        (hcounts j).1, length_tracker?_kept htracker htrackers]
      exact h.tracks j
    · intro j
      rw [List.countP_append, List.countP_append,
        List.countP_cons_of_neg (by exact Bool.false_ne_true),
        List.countP_cons_of_neg (by exact Bool.false_ne_true), (hcounts j).1, (hcounts j).2.1,
        htable]
      exact h.leaves j
    · intro j
      have hplaces := h.places j
      have hcount := hcount j
      rw [List.countP_append, List.countP_append,
        List.countP_cons_of_neg (by exact Bool.false_ne_true),
        List.countP_cons_of_neg (by exact Bool.false_ne_true), (hcounts j).2.1,
        (hcounts j).2.2.1, houtcome]
      by_cases hj : j = i
      · subst hj
        rw [hunresolved] at hplaces
        rw [if_pos rfl] at hcount
        rw [Function.update_self]
        simp only [Option.toList_some, Option.toList_none, List.length_nil,
          List.length_singleton] at hplaces ⊢
        omega
      · rw [if_neg (Ne.symm hj)] at hcount
        rw [Function.update_of_ne hj]
        omega
    · intro j
      rw [List.filterMap_append, houtcome, h.resolutions j, List.filterMap_cons,
        (hcounts j).2.2.2.1]
      by_cases hj : j = i
      · subst hj
        rw [Function.update_self, hunresolved, AttemptEvent.resolution, if_pos rfl]
        rfl
      · rw [Function.update_of_ne hj, AttemptEvent.resolution, if_neg (Ne.symm hj)]
        exact List.append_nil _
    · intro j
      rw [List.filterMap_append, List.filterMap_append, List.filterMap_cons_none rfl,
        List.filterMap_cons_none rfl, (hcounts j).2.2.2.2.1, (hcounts j).2.2.2.2.2,
        List.append_nil, List.append_nil, hqueue]
      exact h.queues j
    · intro j attempt hattempt
      rw [htrackers] at hattempt
      by_cases hj : j = i
      · subst hj
        rw [Function.update_self] at hattempt
        obtain rfl := Option.some.inj hattempt
        exact h.suspensions j tracker htracker
      · rw [Function.update_of_ne hj] at hattempt
        exact h.suspensions j attempt hattempt
  | queued i item attempt pushed _ hfound hpush htrackers hrows hhands _ =>
    obtain ⟨rfl, hfree⟩ := PendingAttempt.push_eq_some hpush
    have htable : s'.inTable = s.inTable := by
      unfold inTable
      rw [hrows]
    constructor
    · rw [hrows, attemptId?_kept hfound htrackers rfl]
      exact h.rows
    · intro j
      rw [List.countP_append, List.countP_cons_of_neg (by exact Bool.false_ne_true),
        length_tracker?_kept hfound htrackers]
      exact h.tracks j
    · intro j
      rw [List.countP_append, List.countP_append,
        List.countP_cons_of_neg (by exact Bool.false_ne_true),
        List.countP_cons_of_neg (by exact Bool.false_ne_true), htable]
      exact h.leaves j
    · intro j
      rw [List.countP_append, List.countP_append,
        List.countP_cons_of_neg (by exact Bool.false_ne_true),
        List.countP_cons_of_neg (by exact Bool.false_ne_true), hhands,
        outcome?_kept hfound htrackers rfl]
      exact h.places j
    · intro j
      rw [List.filterMap_append, List.filterMap_cons_none rfl, List.filterMap_nil,
        List.append_nil, outcome?_kept hfound htrackers rfl]
      exact h.resolutions j
    · intro j
      rw [List.filterMap_append, List.filterMap_append, h.queues j,
        List.filterMap_cons_none (f := AttemptEvent.takenFrom j) rfl, List.filterMap_nil,
        List.append_nil, List.append_assoc, queue_update htrackers]
      congr 1
      by_cases hj : j = i
      · subst hj
        rw [Function.update_self, List.filterMap_cons, AttemptEvent.queuedOn, if_pos rfl]
        unfold queue
        rw [hfound]
        rfl
      · rw [Function.update_of_ne hj, List.filterMap_cons, AttemptEvent.queuedOn,
          if_neg (Ne.symm hj)]
        exact List.append_nil _
    · intro j other hother
      rw [htrackers] at hother
      by_cases hj : j = i
      · subst hj
        rw [Function.update_self] at hother
        obtain rfl := Option.some.inj hother
        have hold := h.suspensions j attempt hfound
        show (attempt.items ++ [item]).countP _ = (_ || _).toNat
        rw [List.countP_append, List.countP_singleton, hold]
        cases hitem : item.isSuspension with
        | false => rw [Bool.or_false, if_neg Bool.false_ne_true, Nat.add_zero]
        | true => rw [hfree hitem, if_pos rfl]; rfl
      · rw [Function.update_of_ne hj] at hother
        exact h.suspensions j other hother
  | took i attempt hfound htrackers hrows hhands _ =>
    have htable : s'.inTable = s.inTable := by
      unfold inTable
      rw [hrows]
    constructor
    · rw [hrows, attemptId?_kept hfound htrackers attempt.attemptId_take]
      exact h.rows
    · intro j
      rw [List.countP_append, List.countP_cons_of_neg (by exact Bool.false_ne_true),
        length_tracker?_kept hfound htrackers]
      exact h.tracks j
    · intro j
      rw [List.countP_append, List.countP_append,
        List.countP_cons_of_neg (by exact Bool.false_ne_true),
        List.countP_cons_of_neg (by exact Bool.false_ne_true), htable]
      exact h.leaves j
    · intro j
      rw [List.countP_append, List.countP_append,
        List.countP_cons_of_neg (by exact Bool.false_ne_true),
        List.countP_cons_of_neg (by exact Bool.false_ne_true), hhands,
        outcome?_kept hfound htrackers attempt.outcome_take]
      exact h.places j
    · intro j
      rw [List.filterMap_append, List.filterMap_cons_none rfl, List.filterMap_nil,
        List.append_nil, outcome?_kept hfound htrackers attempt.outcome_take]
      exact h.resolutions j
    · intro j
      rw [List.filterMap_append, List.filterMap_append, h.queues j,
        List.filterMap_cons_none (f := AttemptEvent.queuedOn j) rfl, List.filterMap_nil,
        List.append_nil, queue_update htrackers]
      rw [List.append_assoc]
      congr 1
      by_cases hj : j = i
      · subst hj
        have hqueue : s.queue j = attempt.items := by
          unfold queue
          rw [hfound]
          rfl
        rw [Function.update_self, hqueue]
        rcases attempt.take_cases with ⟨item, items, hitems, htake⟩ | ⟨hitems, ⟨o, _, htake⟩ | htake⟩
        · rw [htake, List.filterMap_cons, AttemptEvent.takenFrom, if_pos rfl, hitems]
          rfl
        · rw [htake, hitems]
          exact hitems.symm
        · rw [htake, hitems]
          exact hitems.symm
      · have hnone : (AttemptEvent.took i attempt.take.1).takenFrom j = none := by
          cases attempt.take.1 <;> first | rfl | exact if_neg (Ne.symm hj)
        rw [Function.update_of_ne hj, List.filterMap_cons_none hnone]
        rfl
    · intro j other hother
      rw [htrackers] at hother
      by_cases hj : j = i
      · subst hj
        rw [Function.update_self] at hother
        obtain rfl := Option.some.inj hother
        have hold := h.suspensions j attempt hfound
        rcases attempt.take_cases with ⟨item, items, hitems, htake⟩ | ⟨hitems, ⟨o, _, htake⟩ | htake⟩
        · rw [htake]
          rw [hitems, List.countP_cons] at hold
          show items.countP _ = (_ && _).toNat
          cases hitem : item.isSuspension with
          | false =>
            rw [hitem, if_neg Bool.false_ne_true, Nat.add_zero] at hold
            rw [hold, Bool.not_false, Bool.and_true]
          | true =>
            rw [hitem, if_pos rfl] at hold
            have hle : attempt.suspensionOutstanding.toNat ≤ 1 := Bool.toNat_le _
            rw [Bool.not_true, Bool.and_false, Bool.toNat_false]
            omega
        · rw [htake]
          exact hold
        · rw [htake]
          exact hold
      · rw [Function.update_of_ne hj] at hother
        exact h.suspensions j other hother

/-! ### What the read loop has in hand -/

/-- Where the read loop can be after a step: where it was, without a tracker, or with one that it
    found in the table. -/
inductive ReaderEffect (s : AttemptSession) : ReaderStage → Prop
  | same : ReaderEffect s s.reader
  | reading (h : s.reader ≠ .dead) : ReaderEffect s .reading
  | dead : ReaderEffect s .dead
  | pushing (item : TrackerItem) (row : SafeId × ℕ) (h : s.reader = .reading)
      (hfound : s.pending.row? item.attemptId = some row) : ReaderEffect s (.pushing row.2 item)
  | resolving (attemptId : SafeId) (row : SafeId × ℕ) (outcome : AttemptOutcome)
      (answer : Option String) (h : s.reader = .reading)
      (hfound : s.pending.row? attemptId = some row)
      (hnamed : ∀ message, outcome.result = some message → message.attemptId = attemptId) :
      ReaderEffect s (.resolving row.2 outcome answer)

/-- What a step leaves alone: the version, the failed submissions, and, as long as the session is
    open, the thread that closes it. -/
structure StepFrame (s s' : AttemptSession) : Prop where
  version : s'.negotiatedVersion = s.negotiatedVersion
  idle : s'.interrupting = s.interrupting ∨ s'.closed = true ∨
    (s.interrupting ≠ [] ∧ s'.closed = s.closed)
  failed : ∀ j, SubmissionFailed s j → SubmissionFailed s' j
  reader : ReaderEffect s s'.reader

/-- A step that leaves the session alone but for its trackers. -/
theorem StepFrame.of_onAttempt {i : ℕ} {f : TrackedAttempt → TrackedAttempt}
    (h : ∀ attempt, s.attempts[i]? = some attempt →
      attempt.submission = .discarded ∨ attempt.submission = .raised →
      (f attempt).submission = .discarded ∨ (f attempt).submission = .raised) :
    ∀ j, SubmissionFailed s j → SubmissionFailed (s.onAttempt i f) j := by
  rintro j ⟨attempt, hattempt, hfailed⟩
  by_cases hj : i = j
  · subst hj
    exact ⟨f attempt, getElem?_modify_self hattempt, h attempt hattempt hfailed⟩
  · refine ⟨attempt, ?_, hfailed⟩
    show (s.attempts.modify i f)[j]? = some attempt
    rw [List.getElem?_modify, hattempt]
    simp [hj]

/-- A result that an outcome carries is the one it was made from. -/
theorem result_of_outcomeOf {message other : ExecuteResultMessage} {outcome : AttemptOutcome}
    {answer : Option String} (h : s.outcomeOf message = some (outcome, answer))
    (hresult : outcome.result = some other) : other = message := by
  unfold outcomeOf at h
  split at h
  · obtain ⟨rfl, -⟩ := Prod.mk.inj (Option.some.inj h)
    cases hresult
  · split at h
    · cases h
    · obtain ⟨rfl, -⟩ := Prod.mk.inj (Option.some.inj h)
      cases hresult
    · obtain ⟨rfl, -⟩ := Prod.mk.inj (Option.some.inj h)
      exact (Option.some.inj hresult).symm

theorem stepFrame_of_step {action : AttemptAction}
    (h : attemptMachine.step s action = some (s', events)) : StepFrame s s' := by
  change s.step action = some (s', events) at h
  unfold step at h
  have hkeep : ∀ {i : ℕ} {stage : Submission} {attempt : TrackedAttempt} (next : Submission),
      s.attempts[i]? = some attempt → attempt.submission = stage →
      (stage = .discarded ∨ stage = .raised → next = .discarded ∨ next = .raised) →
      ∀ j, SubmissionFailed s j → SubmissionFailed (s.advance i next) j := by
    intro i stage attempt next hattempt hstage hnext
    refine StepFrame.of_onAttempt fun other hother hfailed => ?_
    obtain rfl := Option.some.inj (hattempt.symm.trans hother)
    exact hnext (hstage ▸ hfailed)
  cases action with
  | submit attemptId =>
    dsimp only at h
    split at h
    all_goals obtain ⟨rfl, -⟩ := Prod.mk.inj (Option.some.inj h)
    · rename_i tracking htrack
      unfold track at htrack
      split_ifs at htrack
      split at htrack
      · cases htrack
      · obtain rfl := Except.ok.inj htrack
        refine ⟨rfl, .inl rfl, ?_, .same⟩
        rintro j ⟨attempt, hattempt, hfailed⟩
        exact ⟨attempt, List.getElem?_append_left (List.getElem?_eq_some_iff.mp hattempt).1 ▸
          hattempt, hfailed⟩
    · exact ⟨rfl, .inl rfl, fun _ => id, .same⟩
  | written i =>
    obtain ⟨_, hattempt, hstage, h⟩ := submitting_eq_some h
    obtain ⟨rfl, -⟩ := Prod.mk.inj h
    exact ⟨rfl, .inl rfl, hkeep _ hattempt hstage (by simp), .same⟩
  | writeFailed i =>
    obtain ⟨_, hattempt, hstage, h⟩ := submitting_eq_some h
    obtain ⟨rfl, -⟩ := Prod.mk.inj h
    exact ⟨rfl, .inl rfl, hkeep _ hattempt hstage (by simp), .same⟩
  | discard i =>
    obtain ⟨_, hattempt, hstage, h⟩ := submitting_eq_some h
    obtain ⟨rfl, -⟩ := Prod.mk.inj h
    exact ⟨rfl, .inl rfl, hkeep _ hattempt hstage (by simp), .same⟩
  | raise i =>
    dsimp only at h
    split_ifs at h
    obtain ⟨_, hattempt, hstage, h⟩ := submitting_eq_some h
    obtain ⟨rfl, -⟩ := Prod.mk.inj h
    exact ⟨rfl, .inl rfl, hkeep _ hattempt hstage (by simp), .same⟩
  | chunk message =>
    obtain ⟨hreading, h⟩ := whileReading_eq_some h
    unfold routeToAttempt unknownAttempt at h
    split at h
    all_goals obtain ⟨rfl, -⟩ := Prod.mk.inj h
    · exact ⟨rfl, .inl rfl, fun _ => id, .same⟩
    · exact ⟨rfl, .inl rfl, fun _ => id, .pushing (.chunk message) _ hreading (by assumption)⟩
  | toolCall message =>
    obtain ⟨hreading, h⟩ := whileReading_eq_some h
    unfold routeSuspension unknownAttempt at h
    split at h
    · obtain ⟨rfl, -⟩ := Prod.mk.inj h
      exact ⟨rfl, .inl rfl, fun _ => id, .same⟩
    · split at h
      all_goals obtain ⟨rfl, -⟩ := Prod.mk.inj h
      · exact ⟨rfl, .inl rfl, fun _ => id, .same⟩
      · exact ⟨rfl, .inl rfl, fun _ => id, .pushing (.suspension message) _ hreading (by assumption)⟩
  | result message =>
    obtain ⟨hreading, h⟩ := whileReading_eq_some h
    unfold completeAttempt unknownAttempt at h
    split at h
    · obtain ⟨rfl, -⟩ := Prod.mk.inj h
      exact ⟨rfl, .inl rfl, fun _ => id, .same⟩
    · split at h
      all_goals obtain ⟨rfl, -⟩ := Prod.mk.inj h
      · exact ⟨rfl, .inl rfl, fun _ => id, .dead⟩
      · rename_i row hfound _ outcome answer houtcome _
        refine ⟨rfl, .inl rfl, fun _ => id, .resolving _ row outcome answer hreading hfound ?_⟩
        intro other hother
        rw [result_of_outcomeOf houtcome hother]
  | interrupted attemptId =>
    obtain ⟨hreading, h⟩ := whileReading_eq_some h
    unfold registerInterrupted at h
    obtain ⟨log, hlog⟩ := (s.pop attemptId).exists_recordInterrupted attemptId
    rw [hlog] at h
    dsimp only at h
    split at h
    all_goals obtain ⟨rfl, -⟩ := Prod.mk.inj h
    · exact ⟨rfl, .inl rfl, fun _ => id, .same⟩
    · exact ⟨rfl, .inl rfl, fun _ => id,
        .resolving attemptId _ _ none hreading (by assumption) fun _ h => by cases h⟩
  | deliver =>
    change s.deliver = some (s', events) at h
    unfold deliver at h
    split at h
    · rename_i i item hreader
      have halive : s.reader ≠ .dead := by
        rw [hreader]
        simp
      obtain ⟨attempt, hattempt, h⟩ := Option.map_eq_some_iff.mp h
      split at h
      all_goals obtain ⟨rfl, -⟩ := Prod.mk.inj h
      · exact ⟨rfl, .inl rfl, StepFrame.of_onAttempt fun _ _ => id, .reading halive⟩
      · exact ⟨rfl, .inl rfl, fun _ => id, .reading halive⟩
    · rename_i i outcome answer hreader
      have halive : s.reader ≠ .dead := by
        rw [hreader]
        simp
      obtain ⟨rfl, -⟩ := Prod.mk.inj (Option.some.inj h)
      exact ⟨rfl, .inl rfl, StepFrame.of_onAttempt fun _ _ => id, .reading halive⟩
    · cases h
    · cases h
  | take i =>
    change s.takeNext i = some (s', events) at h
    obtain ⟨attempt, _, h⟩ := Option.map_eq_some_iff.mp h
    obtain ⟨rfl, -⟩ := Prod.mk.inj h
    exact ⟨rfl, .inl rfl, StepFrame.of_onAttempt fun _ _ => id, .same⟩
  | close note =>
    have h : s.closeSession note = (s', events) := Option.some.inj h
    unfold closeSession at h
    split at h
    all_goals obtain ⟨rfl, -⟩ := Prod.mk.inj h
    · exact ⟨rfl, .inl rfl, fun _ => id, .same⟩
    · exact ⟨rfl, .inr (.inl rfl), fun _ => id, .same⟩
  | interruptNext =>
    change s.interruptNext = some (s', events) at h
    unfold interruptNext at h
    split at h
    · cases h
    · rename_i i rest hrest
      obtain ⟨rfl, -⟩ := Prod.mk.inj (Option.some.inj h)
      refine ⟨rfl, .inr (.inr ⟨?_, rfl⟩), StepFrame.of_onAttempt fun _ _ => id, .same⟩
      rw [hrest]
      simp

/-! ### Whose items, and which outcomes -/

/-- The id of a tracker never changes. -/
theorem attemptId?_mono (effect : AttemptEffect s s' events) {i : ℕ} {attemptId : SafeId}
    (h : s.attemptId? i = some attemptId) : s'.attemptId? i = some attemptId := by
  cases effect with
  | still _ _ htrackers _ _ _ | popped _ _ _ _ _ _ htrackers _ _ _ | closed _ htrackers _ _ _ =>
    rw [attemptId?_congr htrackers]
    exact h
  | tracked j _ _ _ hnew htrackers _ _ _ =>
    have hne : i ≠ j := by
      rintro rfl
      unfold attemptId? at h
      rw [hnew] at h
      cases h
    rw [attemptId?_update htrackers, Function.update_of_ne hne]
    exact h
  | resolved j outcome _ _ _ htrackers _ _ _ =>
    cases hfound : s.tracker? j with
    | none =>
      rw [hfound, Option.map_none, ← hfound, Function.update_eq_self] at htrackers
      rw [attemptId?_congr htrackers]
      exact h
    | some tracker =>
      rw [hfound] at htrackers
      rw [attemptId?_kept hfound htrackers rfl]
      exact h
  | queued j item attempt pushed _ hfound hpush htrackers _ _ _ =>
    obtain ⟨rfl, -⟩ := PendingAttempt.push_eq_some hpush
    rw [attemptId?_kept hfound htrackers rfl]
    exact h
  | took j attempt hfound htrackers _ _ _ =>
    rw [attemptId?_kept hfound htrackers attempt.attemptId_take]
    exact h

/-- What the log tells about items and outcomes, and about the trackers dropped. -/
structure Attributed (s : AttemptSession) (log : List AttemptEvent) : Prop where
  idle : s.closed = false → s.interrupting = []
  empty : s.closed = true → s.pending.rows = []
  room : s.pending.rows.length ≤ maxPendingAttempts
  names : ReaderNames s
  queued : ∀ i item, .queued i item ∈ log → s.attemptId? i = some item.attemptId
  resolved : ∀ i outcome, .resolved i outcome ∈ log → ∀ message, outcome.result = some message →
    s.attemptId? i = some message.attemptId
  discarded : ∀ i, .discarded i ∈ log → ∃ j attemptId, SubmissionFailed s j ∧
    s.attemptId? j = some attemptId ∧ s.attemptId? i = some attemptId
  lost : ∀ i, .lost i ∈ log → s.reader = .dead ∧ s.belowVersion 4 = true
  outcomes : ∀ before i outcome after, log = before ++ .took i (.outcome outcome) :: after →
    before.filterMap (AttemptEvent.queuedOn i) = before.filterMap (AttemptEvent.takenFrom i) ∧
      before.filterMap (AttemptEvent.resolution i) = [outcome]

/-- The read loop names its tracker after every step. -/
theorem readerNames_of_step (account : Accounted s log) (h : Attributed s log)
    (frame : StepFrame s s') (effect : AttemptEffect s s' events) : ReaderNames s' := by
  have hreader := frame.reader
  have hrow : ∀ {attemptId : SafeId} {row : SafeId × ℕ},
      s.pending.row? attemptId = some row → s'.attemptId? row.2 = some attemptId := by
    intro attemptId row hfound
    obtain ⟨hmem, hkey⟩ := Table.row?_eq_some.mp hfound
    exact attemptId?_mono effect (hkey ▸ account.rows row hmem)
  unfold ReaderNames
  generalize s'.reader = stage at hreader ⊢
  cases hreader with
  | same =>
    have hnames := h.names
    unfold ReaderNames at hnames
    cases hstage : s.reader with
    | reading => trivial
    | dead => trivial
    | pushing i item =>
      rw [hstage] at hnames
      exact attemptId?_mono effect hnames
    | resolving i outcome answer =>
      rw [hstage] at hnames
      exact fun message hmessage => attemptId?_mono effect (hnames message hmessage)
  | reading _ => trivial
  | dead => trivial
  | pushing item row _ hfound => exact hrow hfound
  | resolving attemptId row outcome answer _ hfound hnamed =>
    intro message hmessage
    rw [hrow hfound, hnamed message hmessage]

/-- What an event tells about the step that emits it. -/
def EventMeans (s s' : AttemptSession) : AttemptEvent → Prop
  | .queued i item => s.reader = .pushing i item
  | .resolved i outcome => outcome.result = none ∨ ∃ answer, s.reader = .resolving i outcome answer
  | .discarded i => ∃ j attemptId row, SubmissionFailed s' j ∧ s.attemptId? j = some attemptId ∧
      s.pending.row? attemptId = some row ∧ row.2 = i
  | .lost _ => s'.reader = .dead ∧ s.belowVersion 4 = true
  | .took i taken => ∃ attempt, s.tracker? i = some attempt ∧ attempt.take.1 = taken
  | _ => True

theorem eventMeans_of_quiet {e : AttemptEvent} (h : e.quiet = true) : EventMeans s s' e := by
  cases e <;> trivial

theorem eventMeans_of_effect (effect : AttemptEffect s s' events) :
    ∀ e ∈ events, EventMeans s s' e := by
  cases effect with
  | still _ hquiet _ _ _ _ => exact fun e he => eventMeans_of_quiet (hquiet e he)
  | tracked i _ _ _ _ _ _ _ _ =>
    intro e he
    obtain rfl := List.mem_singleton.mp he
    trivial
  | popped attemptId row hands marks hdeparture hfound _ _ _ _ =>
    intro e he
    rcases List.mem_cons.mp he with rfl | he
    · trivial
    cases hdeparture with
    | held => exact absurd he List.not_mem_nil
    | discarded j failed same =>
      obtain rfl := List.mem_singleton.mp he
      exact ⟨j, attemptId, row, failed, same, hfound, rfl⟩
    | lost dead below =>
      obtain rfl := List.mem_singleton.mp he
      exact ⟨dead, below⟩
  | closed _ _ _ _ _ =>
    intro e he
    obtain ⟨row, -, rfl⟩ := List.mem_map.mp he
    trivial
  | resolved i outcome answers hanswers hnamed _ _ _ _ =>
    intro e he
    rcases List.mem_cons.mp he with rfl | he
    · exact hnamed
    · exact eventMeans_of_quiet (hanswers e he)
  | queued i item attempt pushed hreader _ _ _ _ _ _ =>
    intro e he
    obtain rfl := List.mem_singleton.mp he
    exact hreader
  | took i attempt hfound _ _ _ _ =>
    intro e he
    obtain rfl := List.mem_singleton.mp he
    exact ⟨attempt, hfound, rfl⟩

/-- A step that takes from a tracker does nothing else. -/
theorem eq_nil_of_took (effect : AttemptEffect s s' events) {before after : List AttemptEvent}
    {i : ℕ} {taken : Taken} (h : events = before ++ .took i taken :: after) : before = [] := by
  have hmem : AttemptEvent.took i taken ∈ events := by simp [h]
  cases effect with
  | still _ hquiet _ _ _ _ => cases hquiet _ hmem
  | tracked _ _ _ _ _ _ _ _ _ => cases List.mem_singleton.mp hmem
  | popped _ _ _ _ hdeparture _ _ _ _ _ =>
    rcases List.mem_cons.mp hmem with hmem | hmem
    · cases hmem
    · cases hdeparture with
      | held => cases hmem
      | discarded _ _ _ => cases List.mem_singleton.mp hmem
      | lost _ _ => cases List.mem_singleton.mp hmem
  | closed _ _ _ _ _ =>
    obtain ⟨row, -, heq⟩ := List.mem_map.mp hmem
    cases heq
  | resolved _ _ _ hanswers _ _ _ _ _ =>
    rcases List.mem_cons.mp hmem with hmem | hmem
    · cases hmem
    · cases hanswers _ hmem
  | queued _ _ _ _ _ _ _ _ _ _ _ => cases List.mem_singleton.mp hmem
  | took _ _ _ _ _ _ _ =>
    cases before with
    | nil => rfl
    | cons e before =>
      have hlength := congrArg List.length h
      simp at hlength

/-- A session is closed once and stays closed. -/
theorem closed_of_effect (effect : AttemptEffect s s' events) :
    s'.closed = s.closed ∨ (s.closed = false ∧ s'.closed = true ∧ s'.pending.rows = []) := by
  cases effect with
  | closed hopen _ hrows _ hclosed => exact .inr ⟨hopen, hclosed, hrows⟩
  | still _ _ _ _ _ hclosed | tracked _ _ _ _ _ _ _ _ hclosed | popped _ _ _ _ _ _ _ _ _ hclosed
  | resolved _ _ _ _ _ _ _ _ hclosed | queued _ _ _ _ _ _ _ _ _ _ hclosed
  | took _ _ _ _ _ _ hclosed => exact .inl hclosed

/-- The rows of the table after a step are old ones, or one more in an open session with room. -/
theorem rows_of_effect (effect : AttemptEffect s s' events) :
    (s'.pending.rows.length ≤ s.pending.rows.length ∧
      (s.pending.rows = [] → s'.pending.rows = [])) ∨
    (s.closed = false ∧ s.pending.rows.length < maxPendingAttempts ∧
      s'.pending.rows.length = s.pending.rows.length + 1) := by
  cases effect with
  | still _ _ _ hrows _ _ | resolved _ _ _ _ _ _ hrows _ _ | queued _ _ _ _ _ _ _ _ hrows _ _
  | took _ _ _ _ hrows _ _ =>
    rw [hrows]
    exact .inl ⟨le_refl _, id⟩
  | tracked _ _ hopen hroom _ _ hrows _ _ =>
    rw [hrows]
    exact .inr ⟨hopen, hroom, List.length_append⟩
  | popped _ _ _ _ _ _ _ hrows _ _ =>
    rw [hrows]
    refine .inl ⟨List.length_filter_le _ _, fun hnil => ?_⟩
    rw [hnil]
    rfl
  | closed _ _ hrows _ _ =>
    rw [hrows]
    exact .inl ⟨Nat.zero_le _, fun _ => rfl⟩

/-- **The attributions are kept** by every step. -/
theorem Attributed.preserved (account : Accounted s log) (h : Attributed s log)
    {action : AttemptAction} (hstep : attemptMachine.step s action = some (s', events)) :
    Attributed s' (log ++ events) := by
  have effect := attemptEffect_of_step hstep
  have frame := stepFrame_of_step hstep
  have hmeans := eventMeans_of_effect effect
  have hbelow : s'.belowVersion 4 = s.belowVersion 4 := by
    unfold belowVersion
    rw [frame.version]
  constructor
  · intro hopen
    rcases closed_of_effect effect with hclosed | ⟨-, hclosed, -⟩
    · have hopen' := hclosed.symm.trans hopen
      rcases frame.idle with hsame | hclosed' | ⟨hbusy, -⟩
      · rw [hsame]
        exact h.idle hopen'
      · rw [hclosed'] at hopen
        cases hopen
      · exact absurd (h.idle hopen') hbusy
    · rw [hclosed] at hopen
      cases hopen
  · intro hclosed
    rcases closed_of_effect effect with hsame | ⟨-, -, hempty⟩
    · rw [hsame] at hclosed
      rcases rows_of_effect effect with ⟨-, hempty⟩ | ⟨hopen, -, -⟩
      · exact hempty (h.empty hclosed)
      · rw [hclosed] at hopen
        cases hopen
    · exact hempty
  · have hroom := h.room
    rcases rows_of_effect effect with ⟨hle, -⟩ | ⟨-, hlt, hlength⟩ <;> omega
  · exact readerNames_of_step account h frame effect
  · intro i item hmem
    rcases List.mem_append.mp hmem with hmem | hmem
    · exact attemptId?_mono effect (h.queued i item hmem)
    · have hreader : s.reader = .pushing i item := hmeans _ hmem
      have hnames := h.names
      unfold ReaderNames at hnames
      rw [hreader] at hnames
      exact attemptId?_mono effect hnames
  · intro i outcome hmem message hmessage
    rcases List.mem_append.mp hmem with hmem | hmem
    · exact attemptId?_mono effect (h.resolved i outcome hmem message hmessage)
    · rcases hmeans _ hmem with hnone | ⟨answer, hreader⟩
      · rw [hnone] at hmessage
        cases hmessage
      · have hnames := h.names
        unfold ReaderNames at hnames
        rw [hreader] at hnames
        exact attemptId?_mono effect (hnames message hmessage)
  · intro i hmem
    rcases List.mem_append.mp hmem with hmem | hmem
    · obtain ⟨j, attemptId, hfailed, hj, hi⟩ := h.discarded i hmem
      exact ⟨j, attemptId, frame.failed j hfailed, attemptId?_mono effect hj,
        attemptId?_mono effect hi⟩
    · obtain ⟨j, attemptId, row, hfailed, hid, hfound, rfl⟩ := hmeans _ hmem
      obtain ⟨hrow, hkey⟩ := Table.row?_eq_some.mp hfound
      exact ⟨j, attemptId, hfailed, attemptId?_mono effect hid,
        hkey ▸ attemptId?_mono effect (account.rows row hrow)⟩
  · intro i hmem
    rw [hbelow]
    rcases List.mem_append.mp hmem with hmem | hmem
    · obtain ⟨hdead, hold⟩ := h.lost i hmem
      refine ⟨?_, hold⟩
      have hreader := frame.reader
      generalize s'.reader = stage at hreader
      cases hreader with
      | same => exact hdead
      | reading halive => exact absurd hdead halive
      | dead => rfl
      | pushing _ _ hreading _ | resolving _ _ _ _ hreading _ _ =>
        rw [hdead] at hreading
        cases hreading
    · exact hmeans _ hmem
  · intro before i outcome after heq
    rcases append_eq_append_cons heq with ⟨rest, hlog, -⟩ | ⟨rest, rfl, hevents⟩
    · exact h.outcomes before i outcome rest hlog
    · obtain rfl := eq_nil_of_took effect hevents
      obtain ⟨attempt, hfound, htaken⟩ := hmeans (.took i (.outcome outcome)) (by simp [hevents])
      rw [List.append_nil]
      -- An outcome is taken when nothing is queued.
      have hqueue : s.queue i = attempt.items := by
        unfold queue
        rw [hfound]
        rfl
      have houtcome : s.outcome? i = attempt.outcome := by
        unfold outcome?
        rw [hfound]
        rfl
      rcases attempt.take_cases with ⟨_, _, _, htake⟩ | ⟨hitems, ⟨other, hother, htake⟩ | htake⟩
      all_goals rw [htake] at htaken
      · cases htaken
      · obtain rfl := Taken.outcome.inj htaken
        refine ⟨?_, ?_⟩
        · rw [account.queues i, hqueue, hitems, List.append_nil]
        · rw [account.resolutions i, houtcome, hother]
          rfl
      · cases htaken

/-! ### Every run -/

/-- The session after its handshake. -/
def AttemptSession.opened (workerId : Option SafeId) (negotiatedVersion : Option ℤ) :
    AttemptSession :=
  { workerId := workerId
    negotiatedVersion := negotiatedVersion }

/-- A run keeps the account and the attributions. -/
theorem accounted_of_run {workerId : Option SafeId} {negotiatedVersion : Option ℤ}
    (run : attemptMachine.Run (fun _ _ => True) (.opened workerId negotiatedVersion) s log) :
    Accounted s log ∧ Attributed s log := by
  refine Machine.Run.invariant (I := fun s log => Accounted s log ∧ Attributed s log) ?_ ?_ run
  · refine ⟨⟨nofun, fun _ => rfl, fun _ => rfl, fun _ => rfl, fun _ => rfl, fun _ => rfl, nofun⟩,
      ⟨fun _ => rfl, nofun, Nat.zero_le _, trivial, nofun, nofun, nofun, nofun, ?_⟩⟩
    intro before i outcome after heq
    exact absurd heq (by simp)
  · rintro s s' log events action _ ⟨account, h⟩ _ hstep
    exact ⟨account.preserved h.idle (attemptEffect_of_step hstep), h.preserved account hstep⟩

/-- A message about an attempt that is not pending changes nothing but the log of the endpoint: it
    is answered, or forgotten. -/
theorem ignored_of_unknown {action : AttemptAction} {attemptId : SafeId}
    (hnames : action.attemptId? = some attemptId) (hnone : s.pending.row? attemptId = none)
    (hstep : attemptMachine.step s action = some (s', events)) :
    s'.tracker? = s.tracker? ∧ s'.pending = s.pending ∧ s'.reader = s.reader ∧
      ∀ e ∈ events, e.quiet = true := by
  change s.step action = some (s', events) at hstep
  unfold step at hstep
  cases action with
  | chunk message =>
    obtain rfl := Option.some.inj hnames
    obtain ⟨-, h⟩ := whileReading_eq_some hstep
    unfold routeToAttempt at h
    rw [hnone] at h
    obtain ⟨rfl, rfl⟩ := Prod.mk.inj h
    exact ⟨rfl, rfl, rfl, by simp [AttemptEvent.quiet]⟩
  | toolCall message =>
    obtain rfl := Option.some.inj hnames
    obtain ⟨-, h⟩ := whileReading_eq_some hstep
    unfold routeSuspension at h
    rw [hnone] at h
    split_ifs at h
    all_goals
      obtain ⟨rfl, rfl⟩ := Prod.mk.inj h
      exact ⟨rfl, rfl, rfl, by simp [AttemptEvent.quiet]⟩
  | result message =>
    obtain rfl := Option.some.inj hnames
    obtain ⟨-, h⟩ := whileReading_eq_some hstep
    unfold completeAttempt at h
    rw [hnone] at h
    obtain ⟨rfl, rfl⟩ := Prod.mk.inj h
    exact ⟨rfl, rfl, rfl, by simp [AttemptEvent.quiet]⟩
  | interrupted id =>
    obtain rfl := Option.some.inj hnames
    obtain ⟨-, h⟩ := whileReading_eq_some hstep
    obtain ⟨log, hlog⟩ := s.exists_recordInterrupted id
    unfold registerInterrupted at h
    rw [hnone, pop_of_none hnone, hlog] at h
    obtain ⟨rfl, rfl⟩ := Prod.mk.inj h
    exact ⟨rfl, rfl, rfl, by simp⟩
  | _ => cases hnames

/-- The trackers of a session: how each leaves the table and is resolved, and what its waiter
    gets. -/
structure AttemptsTracked (s : AttemptSession) (log : List AttemptEvent) : Prop where
  tracked_once : ∀ i, log.countP (AttemptEvent.tracks i) = if i < s.attempts.length then 1 else 0
  /-- A tracker is in the table until it leaves it, and leaves it once. -/
  leaves_once : ∀ i, log.countP (AttemptEvent.leaves i) + s.inTable.count i =
    log.countP (AttemptEvent.tracks i)
  /-- The outcome of a tracker is the one resolution it ever got. -/
  resolved_once : ∀ i, log.filterMap (AttemptEvent.resolution i) = (s.outcome? i).toList
  /-- A tracker that left the table is resolved, or is in the hands of the thread that resolves it
      next, or was dropped. -/
  left_resolved : ∀ i < s.attempts.length, i ∉ s.inTable → (s.outcome? i).isSome = true ∨
    i ∈ s.inHand ∨ .discarded i ∈ log ∨ .lost i ∈ log
  after_close : s.closed = true → s.inTable = []
  /-- A tracker is discarded for a submission under its id that failed. -/
  discarded_failed : ∀ i, .discarded i ∈ log → ∃ j attemptId, SubmissionFailed s j ∧
    s.attemptId? j = some attemptId ∧ s.attemptId? i = some attemptId
  /-- A tracker is lost to a result that ended the read loop of an older session. -/
  lost_dead : ∀ i, .lost i ∈ log → s.reader = .dead ∧ s.belowVersion 4 = true
  queued_named : ∀ i item, .queued i item ∈ log → s.attemptId? i = some item.attemptId
  resolved_named : ∀ i outcome, .resolved i outcome ∈ log →
    ∀ message, outcome.result = some message → s.attemptId? i = some message.attemptId
  unknown_ignored : ∀ action attemptId s' events, action.attemptId? = some attemptId →
    s.pending.row? attemptId = none → attemptMachine.step s action = some (s', events) →
    s'.tracker? = s.tracker? ∧ s'.pending = s.pending ∧ s'.reader = s.reader ∧
      ∀ e ∈ events, e.quiet = true
  bounded : s.pending.rows.length ≤ maxPendingAttempts
  /-- What a tracker queued is what was taken from it, in this order, and what it still queues. -/
  in_order : ∀ i, log.filterMap (AttemptEvent.queuedOn i) =
    log.filterMap (AttemptEvent.takenFrom i) ++ s.queue i
  /-- An outcome is yielded when everything queued so far was taken, and it is the resolution. -/
  outcome_last : ∀ before i outcome after,
    log = before ++ .took i (.outcome outcome) :: after →
    before.filterMap (AttemptEvent.queuedOn i) = before.filterMap (AttemptEvent.takenFrom i) ∧
      before.filterMap (AttemptEvent.resolution i) = [outcome]
  one_suspension : ∀ i, (s.queue i).countP TrackerItem.isSuspension ≤ 1

/-- **Every tracked attempt leaves the table once, is resolved once, and hands over what arrived in
    order**, whatever the threads of the session do. -/
theorem attempts_tracked (workerId : Option SafeId) (negotiatedVersion : Option ℤ)
    (run : attemptMachine.Run (fun _ _ => True) (.opened workerId negotiatedVersion) s log) :
    AttemptsTracked s log := by
  obtain ⟨account, h⟩ := accounted_of_run run
  have hfound : ∀ i, (s.tracker? i).toList.length = if i < s.attempts.length then 1 else 0 := by
    intro i
    unfold tracker?
    split_ifs with hi
    · rw [List.getElem?_eq_getElem hi]
      rfl
    · rw [List.getElem?_eq_none (not_lt.mp hi)]
      rfl
  have hdropped : ∀ i, 0 < log.countP (AttemptEvent.drops i) →
      .discarded i ∈ log ∨ .lost i ∈ log := by
    intro i hi
    obtain ⟨e, he, hdrops⟩ := List.countP_pos_iff.mp hi
    cases e with
    | discarded j =>
      obtain rfl : j = i := of_decide_eq_true hdrops
      exact .inl he
    | lost j =>
      obtain rfl : j = i := of_decide_eq_true hdrops
      exact .inr he
    | _ => cases hdrops
  constructor
  · intro i
    rw [account.tracks i, hfound i]
  · exact account.leaves
  · exact account.resolutions
  · intro i hi htable
    have htracks := account.tracks i
    have hleaves := account.leaves i
    have hplaces := account.places i
    rw [hfound i, if_pos hi] at htracks
    rw [List.count_eq_zero_of_not_mem htable] at hleaves
    by_cases hhand : i ∈ s.inHand
    · exact .inr (.inl hhand)
    rw [List.count_eq_zero_of_not_mem hhand] at hplaces
    cases houtcome : s.outcome? i with
    | some outcome => exact .inl rfl
    | none =>
      rw [houtcome] at hplaces
      simp only [Option.toList_none, List.length_nil] at hplaces
      exact .inr (.inr (hdropped i (by omega)))
  · intro hclosed
    unfold inTable
    rw [h.empty hclosed]
    rfl
  · exact h.discarded
  · exact h.lost
  · exact h.queued
  · exact h.resolved
  · exact fun action attemptId s' events hnames hnone hstep =>
      ignored_of_unknown hnames hnone hstep
  · exact h.room
  · exact account.queues
  · exact h.outcomes
  · intro i
    unfold queue
    cases htracker : s.tracker? i with
    | none => exact Nat.zero_le _
    | some tracker =>
      have hcount := account.suspensions i tracker htracker
      have hle : tracker.suspensionOutstanding.toNat ≤ 1 := Bool.toNat_le _
      show tracker.items.countP _ ≤ 1
      omega

/-- A chunk of the sample attempt. -/
private def sampleChunk : ExecuteChunkMessage := ⟨.lit "attempt-1", []⟩

/-- A tool call of the sample attempt. -/
private def sampleToolCall : ExecuteToolCallMessage where
  attemptId := .lit "attempt-1"
  callId := ⟨Text.ofString "call-1", by decide, by decide⟩
  name := ⟨Text.ofString "ls", by decide, by decide⟩
  arguments := ⟨Text.ofString "\x7b\x7d", by decide, by decide⟩

/-- The result of the sample attempt. -/
private def sampleResult : ExecuteResultMessage where
  attemptId := .lit "attempt-1"
  status := .completed
  message := some (.object [])
  finishReason := some (.lit "stop")

/-- An attempt is submitted, streams a chunk, suspends, and completes; the session is closed. -/
theorem attempts_tracked_completed : ∃ s log, s.closed = true ∧ (s.outcome? 0).isSome = true ∧
    AttemptsTracked s log := by
  obtain ⟨⟨s, log⟩, hexec, hstate⟩ := Option.map_eq_some_iff.mp
    (show (attemptMachine.exec (fun _ _ => true) (.opened none (some 4)) []
      [.submit (.lit "attempt-1"), .chunk sampleChunk, .written 0, .deliver,
        .toolCall sampleToolCall, .deliver, .take 0, .result sampleResult, .close "", .take 0,
        .deliver, .take 0]).map (fun r => (r.1.closed, (r.1.outcome? 0).isSome)) =
        some (true, true) by decide +kernel)
  have run : attemptMachine.Run (fun _ _ => True) (.opened none (some 4)) s log :=
    (Machine.run_of_exec .refl hexec).mono fun _ _ _ => trivial
  obtain ⟨hclosed, houtcome⟩ := Prod.mk.inj hstate
  exact ⟨s, log, hclosed, houtcome, attempts_tracked none (some 4) run⟩

/-- After the close, an attempt whose submission failed stays unresolved. -/
theorem unresolved_after_close : ¬ ∀ (workerId : Option SafeId) (negotiatedVersion : Option ℤ)
    (s : AttemptSession) (log : List AttemptEvent),
    attemptMachine.Run (fun _ _ => True) (.opened workerId negotiatedVersion) s log →
    s.closed = true → s.inHand = [] → ∀ i < s.attempts.length, (s.outcome? i).isSome = true := by
  intro hall
  obtain ⟨⟨s, log⟩, hexec, hstate⟩ := Option.map_eq_some_iff.mp
    (show (attemptMachine.exec (fun _ _ => true) (.opened none (some 4)) []
      [.submit (.lit "attempt-1"), .writeFailed 0, .discard 0, .close "", .raise 0]).map
      (fun r => (r.1.closed, r.1.inHand, r.1.attempts.length, (r.1.outcome? 0).isSome)) =
        some (true, [], 1, false) by decide +kernel)
  have run : attemptMachine.Run (fun _ _ => True) (.opened none (some 4)) s log :=
    (Machine.run_of_exec .refl hexec).mono fun _ _ _ => trivial
  obtain ⟨hclosed, hstate⟩ := Prod.mk.inj hstate
  obtain ⟨hhand, hstate⟩ := Prod.mk.inj hstate
  obtain ⟨hlength, houtcome⟩ := Prod.mk.inj hstate
  have hresolved := hall none (some 4) s log run hclosed hhand 0 (hlength ▸ Nat.one_pos)
  rw [houtcome] at hresolved
  cases hresolved

end ScarcityRouter
