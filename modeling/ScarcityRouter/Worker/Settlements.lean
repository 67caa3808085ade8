import ScarcityRouter.Worker.ClientRuns

namespace ScarcityRouter

open ScarcityRouter.Lib

/-!
# Settlements of the worker's executions

When an execution that the worker accepted produces its one terminal result or its one interrupted
record.

* `LedgerState` — what a run keeps of the ledger.
* `executions_settled` — **an execution settles exactly once and frees its slot**, as long as the
  end of its session and the end of its adapter do not both, or neither, settle it.
-/

/-! ### The ledger of a run -/

variable {config : ClientConfig} {s : ClientState} {log : List ClientEvent}

/-- The end of a session and the end of an adapter settle an execution once: an adapter that ends
    with an outcome of its own does so while the session tracks the execution, the end of a session
    takes no execution that has one, and a thread dies only after the end of its session. -/
def ClientState.settlesOnce (config : ClientConfig) (s : ClientState) : ClientAction → Bool
  | .takeInFlight =>
    match s.stage with
    | .unwinding j _ => s.tasks.all fun task =>
        task.session ≠ j || (task.stage.phase ≠ .engaged && task.stage.phase ≠ .settled)
    | _ => true
  | .task i act => s.tasks[i]?.all fun task =>
      (!task.engages config act || s.stage.phase = .serving task.session) &&
        match act with
        | .leave => task.stage.phase ≠ .died || s.stage.phase ≠ .serving task.session
        | _ => true
  | _ => true

/-- An execution is settled once: by its thread, or by the end of its session, which may still be
    about to record it. -/
def SettledOnce (serving : Prop) (due settled : ℕ) : TaskPhase → Prop
  | .pending | .died => (serving → settled = 0) ∧ (¬ serving → due + settled = 1)
  | .engaged => serving ∧ settled = 0
  | .settled => serving ∧ settled = 1
  | .answering => due = 0 ∧ settled = 0
  | .finished => due + settled = 1

/-- What a run keeps of the ledger: the table of a session tracks exactly the executions that hold a
    slot while the session serves, and every execution is settled once. -/
structure LedgerState (l : ClientLedger) (log : List ClientEvent) : Prop where
  rows : ∀ j table, l.tables[j]? = some table → ∀ row, row ∈ table.rows ↔
    l.phase = .serving j ∧ ∃ view, l.tasks[row.2]? = some view ∧ view.session = j ∧
      view.attemptId = row.1 ∧ view.phase.holdsSlot = true
  sessions : ∀ view ∈ l.tasks, view.session < l.tables.length
  opening : ∀ j, l.phase = .opening j → ∀ view ∈ l.tasks, view.session ≠ j
  settled : ∀ i view, l.tasks[i]? = some view →
    SettledOnce (l.phase = .serving view.session) (l.phase.unrecorded.count i) (settlements i log)
      view.phase
  unrecorded : ∀ i ∈ l.phase.unrecorded, i < l.tasks.length
  fresh : ∀ i, l.tasks.length ≤ i → settlements i log = 0

/-- A serving session has no attempt to record. -/
theorem ServicePhase.unrecorded_of_serving {phase : ServicePhase} {j : ℕ}
    (h : phase = .serving j) : phase.unrecorded = [] := by
  rw [h]
  rfl

/-- One event that settles an execution. -/
theorem settlements_singleton {i : ℕ} {event : ClientEvent}
    (hevent : ∀ k, event.settles k = decide (i = k)) (k : ℕ) :
    settlements k [event] = if i = k then 1 else 0 := by
  unfold settlements
  rw [List.countP_singleton, hevent]
  simp

/-- The rows of a table that tracks executions name each of them once. -/
theorem count_map_snd {table : Table (Prod.fst : SafeId × ℕ → SafeId)} {tasks : List TaskView}
    (hrows : ∀ row ∈ table.rows, ∃ view, tasks[row.2]? = some view ∧ view.attemptId = row.1)
    (i : ℕ) : (table.rows.map Prod.snd).count i =
      if ∃ row ∈ table.rows, row.2 = i then 1 else 0 := by
  have hnodup : (table.rows.map Prod.snd).Nodup := by
    refine List.Nodup.map_on ?_ (List.Nodup.of_map _ table.distinct)
    intro row hrow row' hrow' hsame
    obtain ⟨view, hview, hid⟩ := hrows row hrow
    obtain ⟨view', hview', hid'⟩ := hrows row' hrow'
    rw [hsame] at hview
    obtain rfl := Option.some.inj (hview.symm.trans hview')
    exact Prod.ext (hid.symm.trans hid') hsame
  split_ifs with h
  · obtain ⟨row, hrow, rfl⟩ := h
    exact List.count_eq_one_of_mem hnodup (List.mem_map_of_mem hrow)
  · refine List.count_eq_zero_of_not_mem fun hmem => h ?_
    obtain ⟨row, hrow, hi⟩ := List.mem_map.mp hmem
    exact ⟨row, hrow, hi⟩

namespace LedgerState

variable {l : ClientLedger} {events : List ClientEvent} {i j : ℕ} {view : TaskView}

/-- Outside a service every table is empty. -/
theorem no_row (h : LedgerState l log) {table : Table (Prod.fst : SafeId × ℕ → SafeId)}
    (htable : l.tables[j]? = some table) (hphase : l.phase ≠ .serving j) (row : SafeId × ℕ) :
    row ∉ table.rows := fun hrow => hphase ((h.rows j table htable row).mp hrow).1

/-- Quiet events change nothing. -/
theorem kept (h : LedgerState l log) (quiet : ∀ i, settlements i events = 0) :
    LedgerState l (log ++ events) where
  rows := h.rows
  sessions := h.sessions
  opening := h.opening
  settled i view hview := by
    rw [settlements_append, quiet, Nat.add_zero]
    exact h.settled i view hview
  unrecorded := h.unrecorded
  fresh i hi := by rw [settlements_append, quiet, h.fresh i hi]

/-- A change of phase between two that serve no session. -/
theorem change_phase (h : LedgerState l log) {phase : ServicePhase}
    (hbefore : ∀ j, l.phase ≠ .serving j) (hafter : ∀ j, phase ≠ .serving j)
    (hsame : phase.unrecorded = l.phase.unrecorded)
    (hopening : ∀ j, phase = .opening j → ∀ view ∈ l.tasks, view.session ≠ j) :
    LedgerState { l with phase := phase } log where
  rows j table htable row := by
    rw [h.rows j table htable row]
    exact ⟨fun hrow => absurd hrow.1 (hbefore j), fun hrow => absurd hrow.1 (hafter j)⟩
  sessions := h.sessions
  opening := hopening
  settled i view hview := by
    have hsettled := h.settled i view hview
    rw [hsame]
    have hneither : (phase = .serving view.session) = (l.phase = .serving view.session) := by
      rw [eq_iff_iff]
      exact ⟨fun hphase => absurd hphase (hafter _), fun hphase => absurd hphase (hbefore _)⟩
    rw [hneither]
    exact hsettled
  unrecorded i hi := h.unrecorded i (hsame ▸ hi)
  fresh := h.fresh

theorem connected (h : LedgerState l log) (hphase : l.phase = .idle) :
    LedgerState { l with
      phase := .opening l.tables.length
      tables := l.tables ++ [{}] } log := by
  have hopened : LedgerState { l with phase := .opening l.tables.length } log := by
    refine h.change_phase (by simp [hphase]) (by simp) (by rw [hphase]; rfl) ?_
    intro j hj view hview hsession
    obtain rfl := ServicePhase.opening.inj hj
    exact absurd (h.sessions view hview) (by omega)
  refine { hopened with rows := ?_, sessions := ?_ }
  · intro j table htable row
    rcases getElem?_concat_eq_some htable with hold | ⟨-, rfl⟩
    · exact hopened.rows j table hold row
    · simp
  · intro view hview
    rw [List.length_append]
    exact Nat.lt_add_right _ (h.sessions view hview)

theorem started (h : LedgerState l log) (hphase : l.phase = .opening j) :
    LedgerState { l with phase := .serving j } log where
  rows k table htable row := by
    constructor
    · intro hrow
      exact absurd hrow (h.no_row htable (by simp [hphase]) row)
    · rintro ⟨hserving, view, hview, hsession, -⟩
      obtain rfl := ServicePhase.serving.inj hserving
      exact absurd hsession (h.opening j hphase view (List.mem_of_getElem? hview))
  sessions := h.sessions
  opening := nofun
  settled i view hview := by
    have hsettled := h.settled i view hview
    have hother := h.opening j hphase view (List.mem_of_getElem? hview)
    have hneither : (ServicePhase.serving j = .serving view.session) =
        (l.phase = .serving view.session) := by
      rw [hphase]
      simp [Ne.symm hother]
    rw [hphase] at hneither hsettled
    show SettledOnce (ServicePhase.serving j = .serving view.session) _ _ _
    rw [hneither]
    exact hsettled
  unrecorded := nofun
  fresh := h.fresh

/-- An execution thread goes to another phase under its slot, or without one. -/
theorem set_phase (h : LedgerState l log) (hview : l.tasks[i]? = some view) {phase : TaskPhase}
    (hslot : phase.holdsSlot = view.phase.holdsSlot)
    (hsettled : SettledOnce (l.phase = .serving view.session) (l.phase.unrecorded.count i)
      (settlements i (log ++ events)) phase)
    (hothers : ∀ k, k ≠ i → settlements k events = 0) :
    LedgerState { l with tasks := l.tasks.set i { view with phase := phase } } (log ++ events) := by
  obtain ⟨hi, -⟩ := List.getElem?_eq_some_iff.mp hview
  have hset : ∀ k, (l.tasks.set i { view with phase := phase })[k]? =
      if i = k then some { view with phase := phase } else l.tasks[k]? := by
    intro k
    rw [List.getElem?_set, if_pos hi]
  constructor
  · intro j table htable row
    rw [h.rows j table htable row]
    refine and_congr_right fun _ => ?_
    show _ ↔ ∃ after, (l.tasks.set i { view with phase := phase })[row.2]? = some after ∧ _
    rw [hset]
    by_cases hrow : i = row.2
    · rw [if_pos hrow, ← hrow, hview]
      simp [hslot]
    · rw [if_neg hrow]
  · intro after hafter
    rcases List.mem_or_eq_of_mem_set hafter with hold | rfl
    · exact h.sessions after hold
    · exact h.sessions view (List.mem_of_getElem? hview)
  · intro j hj after hafter
    rcases List.mem_or_eq_of_mem_set hafter with hold | rfl
    · exact h.opening j hj after hold
    · exact h.opening j hj view (List.mem_of_getElem? hview)
  · intro k after hafter
    change (l.tasks.set i { view with phase := phase })[k]? = some after at hafter
    rw [hset] at hafter
    split_ifs at hafter with hik
    · obtain rfl := Option.some.inj hafter
      subst hik
      exact hsettled
    · rw [settlements_append, hothers k (Ne.symm hik), Nat.add_zero]
      exact h.settled k after hafter
  · intro k hk
    rw [List.length_set]
    exact h.unrecorded k hk
  · intro k hk
    rw [List.length_set] at hk
    rw [settlements_append, h.fresh k hk, hothers k (by omega)]

theorem accepted (h : LedgerState l log) {attemptId : SafeId}
    {table : Table (Prod.fst : SafeId × ℕ → SafeId)} (hphase : l.phase = .serving j)
    (htable : l.tables[j]? = some table) (hnew : table.row? attemptId = none)
    (hi : i = l.tasks.length) :
    LedgerState { l with
      tables := l.tables.set j (table.insert (attemptId, i) hnew)
      tasks := l.tasks ++ [⟨j, attemptId, .pending⟩] } (log ++ [.accepted i attemptId]) := by
  subst hi
  obtain ⟨hj, -⟩ := List.getElem?_eq_some_iff.mp htable
  have hquiet : ∀ k, settlements k [ClientEvent.accepted l.tasks.length attemptId] = 0 :=
    fun _ => rfl
  have hkept := h.kept hquiet
  constructor
  · intro k other hother row
    by_cases hk : k = j
    · subst hk
      rw [List.getElem?_set_self hj] at hother
      obtain rfl := Option.some.inj hother
      rw [Table.rows_insert, List.mem_append, List.mem_singleton, h.rows k table htable row]
      constructor
      · rintro (⟨hserving, view, hview, hrest⟩ | rfl)
        · refine ⟨hserving, view, ?_, hrest⟩
          rw [List.getElem?_append_left (List.getElem?_eq_some_iff.mp hview).1]
          exact hview
        · exact ⟨hphase, _, List.getElem?_concat_length, rfl, rfl, rfl⟩
      · rintro ⟨hserving, view, hview, hsession, hid, hslot⟩
        rcases getElem?_concat_eq_some hview with hold | ⟨hrow, rfl⟩
        · exact .inl ⟨hserving, view, hold, hsession, hid, hslot⟩
        · exact .inr (Prod.ext hid.symm hrow)
    · -- No other session serves.
      have hother' : l.tables[k]? = some other := by rwa [List.getElem?_set_ne (Ne.symm hk)] at hother
      have hidle : l.phase ≠ .serving k := by
        rw [hphase]
        exact fun hsame => hk (ServicePhase.serving.inj hsame).symm
      exact ⟨fun hrow => absurd hrow (h.no_row hother' hidle row), fun hrow => absurd hrow.1 hidle⟩
  · intro view hview
    rw [List.length_set]
    rcases List.mem_append.mp hview with hold | hview
    · exact h.sessions view hold
    · obtain rfl := List.mem_singleton.mp hview
      exact hj
  · intro k hk
    rw [hphase] at hk
    cases hk
  · intro k view hview
    rcases getElem?_concat_eq_some hview with hold | ⟨rfl, rfl⟩
    · exact hkept.settled k view hold
    · refine ⟨fun _ => ?_, fun hother => absurd hphase hother⟩
      rw [settlements_append, h.fresh _ le_rfl, hquiet]
  · intro k hk
    rw [ServicePhase.unrecorded_of_serving hphase] at hk
    cases hk
  · intro k hk
    rw [List.length_append] at hk
    exact hkept.fresh k (by omega)

/-- The `finally` clause takes an execution out of its table. -/
theorem left (h : LedgerState l log) (hview : l.tasks[i]? = some view) {phase : TaskPhase}
    (hslot : view.phase.holdsSlot = true) (hfreed : phase.holdsSlot = false)
    (hsettled : SettledOnce (l.phase = .serving view.session) (l.phase.unrecorded.count i)
      (settlements i log) phase) :
    LedgerState { l with
      tables := l.tables.modify view.session (·.delete (·.1 = view.attemptId))
      tasks := l.tasks.set i { view with phase := phase } } log := by
  obtain ⟨hi, -⟩ := List.getElem?_eq_some_iff.mp hview
  have hset : ∀ k, (l.tasks.set i { view with phase := phase })[k]? =
      if i = k then some { view with phase := phase } else l.tasks[k]? := by
    intro k
    rw [List.getElem?_set, if_pos hi]
  constructor
  · intro j table htable row
    rw [List.getElem?_modify] at htable
    obtain ⟨before, hbefore, rfl⟩ := Option.map_eq_some_iff.mp htable
    have hrows := h.rows j before hbefore
    show _ ↔ l.phase = .serving j ∧
      ∃ after, (l.tasks.set i { view with phase := phase })[row.2]? = some after ∧ _
    rw [hset]
    constructor
    · intro hrow
      -- What is left in the table is of another execution.
      have hold : row ∈ before.rows ∧ ¬ (view.session = j ∧ row.1 = view.attemptId) := by
        split_ifs at hrow with hj
        · obtain ⟨hmem, hother⟩ := List.mem_filter.mp hrow
          exact ⟨hmem, fun hsame => by simp [hsame.2] at hother⟩
        · exact ⟨hrow, fun hsame => hj hsame.1⟩
      obtain ⟨hserving, other, hother, hsession, hid, hholds⟩ := (hrows row).mp hold.1
      refine ⟨hserving, other, ?_, hsession, hid, hholds⟩
      rw [if_neg]
      · exact hother
      · rintro rfl
        obtain rfl := Option.some.inj (hview.symm.trans hother)
        exact hold.2 ⟨hsession, hid.symm⟩
    · rintro ⟨hserving, other, hother, hsession, hid, hholds⟩
      split_ifs at hother with hrow
      · obtain rfl := Option.some.inj hother
        rw [hfreed] at hholds
        cases hholds
      · have hmem : row ∈ before.rows :=
          (hrows row).mpr ⟨hserving, other, hother, hsession, hid, hholds⟩
        split_ifs with hj
        · refine List.mem_filter.mpr ⟨hmem, ?_⟩
          have hown : (view.attemptId, i) ∈ before.rows :=
            (hrows _).mpr ⟨hserving, view, hview, hj, rfl, hslot⟩
          simp only [Bool.not_eq_true', decide_eq_false_iff_not]
          intro hsame
          exact hrow (congrArg Prod.snd
            (List.inj_on_of_nodup_map before.distinct hown hmem hsame.symm))
        · exact hmem
  · intro after hafter
    rw [List.length_modify]
    rcases List.mem_or_eq_of_mem_set hafter with hold | rfl
    · exact h.sessions after hold
    · exact h.sessions view (List.mem_of_getElem? hview)
  · intro j hj after hafter
    rcases List.mem_or_eq_of_mem_set hafter with hold | rfl
    · exact h.opening j hj after hold
    · exact h.opening j hj view (List.mem_of_getElem? hview)
  · intro k after hafter
    change (l.tasks.set i { view with phase := phase })[k]? = some after at hafter
    rw [hset] at hafter
    split_ifs at hafter with hik
    · obtain rfl := Option.some.inj hafter
      subst hik
      exact hsettled
    · exact h.settled k after hafter
  · intro k hk
    rw [List.length_set]
    exact h.unrecorded k hk
  · intro k hk
    rw [List.length_set] at hk
    exact h.fresh k hk

/-- The end of a session takes its executions, none of which has an outcome of its own. -/
theorem taken (h : LedgerState l log) {table : Table (Prod.fst : SafeId × ℕ → SafeId)}
    (hphase : l.phase = .serving j) (htable : l.tables[j]? = some table)
    (hopen : ∀ view ∈ l.tasks, view.session = j →
      view.phase ≠ .engaged ∧ view.phase ≠ .settled) :
    LedgerState { l with
      phase := .recording (table.rows.map Prod.snd)
      tables := l.tables.modify j fun _ => {} } log := by
  have hrows := h.rows j table htable
  have hnamed : ∀ row ∈ table.rows, ∃ view, l.tasks[row.2]? = some view ∧ view.attemptId = row.1 := by
    intro row hrow
    obtain ⟨-, view, hview, -, hid, -⟩ := (hrows row).mp hrow
    exact ⟨view, hview, hid⟩
  constructor
  · intro k other hother row
    refine ⟨fun hrow => ?_, fun hserves => by cases hserves.1⟩
    rw [List.getElem?_modify] at hother
    obtain ⟨before, hbefore, rfl⟩ := Option.map_eq_some_iff.mp hother
    split_ifs at hrow with hk
    · simp at hrow
    · refine absurd hrow (h.no_row hbefore ?_ row)
      rw [hphase]
      exact fun hsame => hk (ServicePhase.serving.inj hsame)
  · intro view hview
    rw [List.length_modify]
    exact h.sessions view hview
  · intro _ hbegun
    cases hbegun
  · intro i view hview
    have hsettled := h.settled i view hview
    have hmem := List.mem_of_getElem? hview
    rw [ServicePhase.unrecorded_of_serving hphase, List.count_nil, hphase] at hsettled
    show SettledOnce (ServicePhase.recording _ = .serving view.session)
      ((table.rows.map Prod.snd).count i) _ _
    rw [count_map_snd hnamed]
    have htracked : (∃ row ∈ table.rows, row.2 = i) ↔
        view.session = j ∧ view.phase.holdsSlot = true := by
      constructor
      · rintro ⟨row, hrow, rfl⟩
        obtain ⟨-, other, hother, hsession, -, hslot⟩ := (hrows row).mp hrow
        obtain rfl := Option.some.inj (hview.symm.trans hother)
        exact ⟨hsession, hslot⟩
      · rintro ⟨hsession, hslot⟩
        exact ⟨(view.attemptId, i), (hrows _).mpr ⟨hphase, view, hview, hsession, rfl, hslot⟩, rfl⟩
    simp only [htracked]
    by_cases hsession : view.session = j
    · subst hsession
      obtain ⟨hengaged, hdone⟩ := hopen view hmem rfl
      cases hview' : view.phase with
      | pending | died =>
        rw [hview'] at hsettled
        refine ⟨fun hserving => (by cases hserving), fun _ => ?_⟩
        rw [hsettled.1 rfl]
        simp [TaskPhase.holdsSlot]
      | engaged => exact absurd hview' hengaged
      | settled => exact absurd hview' hdone
      | answering =>
        rw [hview'] at hsettled
        exact ⟨by simp [TaskPhase.holdsSlot], hsettled.2⟩
      | finished =>
        rw [hview'] at hsettled
        show _ + _ = 1
        simpa [TaskPhase.holdsSlot, SettledOnce] using hsettled
    · have hnot : ServicePhase.serving j ≠ .serving view.session := fun hsame =>
        hsession (ServicePhase.serving.inj hsame).symm
      have hneither : (ServicePhase.recording (table.rows.map Prod.snd) = .serving view.session) =
          (ServicePhase.serving j = .serving view.session) := by
        rw [eq_iff_iff]
        exact iff_of_false (fun hserving => by cases hserving) hnot
      rw [hneither, if_neg fun hboth => hsession hboth.1]
      exact hsettled
  · intro i hi
    obtain ⟨row, hrow, rfl⟩ := List.mem_map.mp hi
    obtain ⟨view, hview, -⟩ := hnamed row hrow
    exact (List.getElem?_eq_some_iff.mp hview).1
  · exact h.fresh

/-- `_fail_in_flight` records an execution. -/
theorem recorded (h : LedgerState l log) {rest : List ℕ} {event : ClientEvent}
    (hphase : l.phase = .recording (i :: rest))
    (hevent : ∀ k, event.settles k = decide (i = k)) :
    LedgerState { l with phase := .recording rest } (log ++ [event]) := by
  have hcount : ∀ k, settlements k (log ++ [event]) =
      settlements k log + if i = k then 1 else 0 := by
    intro k
    rw [settlements_append, settlements_singleton hevent]
  have hdue : ∀ k, l.phase.unrecorded.count k = rest.count k + if i = k then 1 else 0 := by
    intro k
    rw [hphase]
    show (i :: rest).count k = _
    rw [List.count_cons]
    simp
  constructor
  · intro j table htable row
    exact ⟨fun hrow => absurd hrow (h.no_row htable (by simp [hphase]) row), nofun⟩
  · exact h.sessions
  · nofun
  · intro k view hview
    have hsettled := h.settled k view hview
    rw [hdue] at hsettled
    rw [hcount]
    have hneither : (ServicePhase.recording rest = .serving view.session) =
        (l.phase = .serving view.session) := by
      rw [hphase, eq_iff_iff]
      exact ⟨nofun, nofun⟩
    show SettledOnce (ServicePhase.recording rest = .serving view.session) (rest.count k) _ _
    rw [hneither]
    have hnot : l.phase ≠ .serving view.session := by
      rw [hphase]
      nofun
    cases hview' : view.phase with
    | pending | died =>
      rw [hview'] at hsettled
      refine ⟨fun hserving => absurd hserving hnot, fun _ => ?_⟩
      have hone := hsettled.2 hnot
      omega
    | engaged | settled =>
      rw [hview'] at hsettled
      exact absurd hsettled.1 hnot
    | answering =>
      rw [hview'] at hsettled
      obtain ⟨hnone, hzero⟩ := hsettled
      exact ⟨by omega, by omega⟩
    | finished =>
      rw [hview'] at hsettled
      have hone : _ + _ = 1 := hsettled
      show _ + _ = 1
      omega
  · intro k hk
    exact h.unrecorded k (by rw [hphase]; exact List.mem_cons_of_mem _ hk)
  · intro k hk
    rw [hcount, h.fresh k hk, if_neg]
    rintro rfl
    exact absurd (h.unrecorded i (by rw [hphase]; exact List.mem_cons_self)) (not_lt.mpr hk)

end LedgerState

/-! ### Settlements -/

/-- An outcome of its own comes to an execution that the session tracks. -/
theorem serving_of_engages {i : ℕ} {task : LocalTask} {act : TaskAction}
    (honce : s.settlesOnce config (.task i act) = true) (htask : s.tasks[i]? = some task)
    (hengages : task.engages config act = true) : s.stage.phase = .serving task.session := by
  unfold ClientState.settlesOnce at honce
  dsimp only at honce
  rw [htask, Option.all_some, hengages] at honce
  exact of_decide_eq_true (Bool.and_eq_true_iff.mp honce).1

/-- A thread dies after the end of its session. -/
theorem not_serving_of_died {i : ℕ} {task : LocalTask}
    (honce : s.settlesOnce config (.task i .leave) = true) (htask : s.tasks[i]? = some task)
    (hdied : task.stage.phase = .died) : s.stage.phase ≠ .serving task.session := by
  unfold ClientState.settlesOnce at honce
  dsimp only at honce
  rw [htask, Option.all_some] at honce
  have hleave := (Bool.and_eq_true_iff.mp honce).2
  rw [hdied] at hleave
  simpa using hleave

/-- The end of a session takes no execution with an outcome of its own. -/
theorem open_of_taken {j : ℕ} {raises : Bool} (honce : s.settlesOnce config .takeInFlight = true)
    (hstage : s.stage = .unwinding j raises) :
    ∀ view ∈ s.ledger.tasks, view.session = j → view.phase ≠ .engaged ∧ view.phase ≠ .settled := by
  intro view hview hsession
  obtain ⟨task, htask, rfl⟩ := List.mem_map.mp hview
  unfold ClientState.settlesOnce at honce
  dsimp only at honce
  rw [hstage] at honce
  have hopen := List.all_eq_true.mp honce task htask
  have hown : task.session = j := hsession
  show task.stage.phase ≠ .engaged ∧ task.stage.phase ≠ .settled
  simpa [hown] using hopen

/-- One step that settles once keeps the ledger's state. -/
theorem LedgerState.preserved (h : LedgerState s.ledger log) {action : ClientAction}
    {l' : ClientLedger} {events : List ClientEvent} (honce : s.settlesOnce config action = true)
    (heffect : LedgerEffect config s action l' events) : LedgerState l' (log ++ events) := by
  have htasks : ∀ {i : ℕ} {task : LocalTask}, s.tasks[i]? = some task →
      s.ledger.tasks[i]? = some task.view := by
    intro i task htask
    show (s.tasks.map LocalTask.view)[i]? = _
    rw [List.getElem?_map, htask]
    rfl
  cases heffect with
  | kept quiet => exact h.kept quiet
  | connected hphase =>
    rw [List.append_nil]
    exact h.connected hphase
  | started hphase =>
    rw [List.append_nil]
    exact h.started hphase
  | ended hphase quiet =>
    have hidle : LedgerState { s.ledger with phase := .idle } log := by
      refine h.change_phase ?_ (by simp) ?_ (by simp)
      · intro j
        rcases hphase with hphase | ⟨k, hphase⟩
        · exact fun hserving => by cases hphase.symm.trans hserving
        · exact fun hserving => by cases hphase.symm.trans hserving
      · rcases hphase with hphase | ⟨k, hphase⟩
        · exact (congrArg ServicePhase.unrecorded hphase).symm
        · exact (congrArg ServicePhase.unrecorded hphase).symm
    exact hidle.kept quiet
  | accepted hphase htable hnew hi => exact h.accepted hphase htable hnew hi
  | @moved i task act phase htask hpending hphase =>
    have hsettled := h.settled i task.view (htasks htask)
    have hpending' : task.view.phase = .pending := hpending
    rw [hpending'] at hsettled
    refine h.set_phase (htasks htask) ?_ ?_ fun _ _ => rfl
    · rw [hpending']
      rcases hphase with rfl | rfl | ⟨rfl, -⟩ <;> rfl
    · rw [List.append_nil]
      rcases hphase with rfl | rfl | ⟨rfl, hengages⟩
      · exact hsettled
      · exact hsettled
      · -- An outcome of its own comes while the session tracks the execution.
        have hserving := serving_of_engages honce htask hengages
        exact ⟨hserving, hsettled.1 hserving⟩
  | @settled i task act phase event htask hphase hevent =>
    have hsettled := h.settled i task.view (htasks htask)
    refine h.set_phase (htasks htask) ?_ ?_ fun k hk => ?_
    · rcases hphase with ⟨hbefore, rfl⟩ | ⟨hbefore, rfl⟩
      · exact (congrArg TaskPhase.holdsSlot hbefore).symm
      · exact (congrArg TaskPhase.holdsSlot hbefore).symm
    · rw [settlements_append, settlements_singleton hevent, if_pos rfl]
      rcases hphase with ⟨hbefore, rfl⟩ | ⟨hbefore, rfl⟩
      · have hengaged : task.view.phase = .engaged := hbefore
        rw [hengaged] at hsettled
        exact ⟨hsettled.1, by rw [hsettled.2]⟩
      · have hanswering : task.view.phase = .answering := hbefore
        rw [hanswering] at hsettled
        show _ + _ = 1
        rw [hsettled.1, hsettled.2]
    · rw [settlements_singleton hevent, if_neg (Ne.symm hk)]
  | @left i task phase htask hphase =>
    have hsettled := h.settled i task.view (htasks htask)
    rw [List.append_nil]
    refine h.left (htasks htask) ?_ ?_ ?_
    · rcases hphase with ⟨hbefore, -⟩ | ⟨hbefore, -⟩ | ⟨hbefore, -⟩ <;>
        exact congrArg TaskPhase.holdsSlot hbefore
    · rcases hphase with ⟨-, rfl⟩ | ⟨-, rfl⟩ | ⟨-, rfl⟩ <;> rfl
    · rcases hphase with ⟨hbefore, rfl⟩ | ⟨hbefore, rfl⟩ | ⟨hbefore, rfl⟩
      · have hengaged : task.view.phase = .engaged := hbefore
        rw [hengaged] at hsettled
        exact ⟨by rw [ServicePhase.unrecorded_of_serving hsettled.1, List.count_nil], hsettled.2⟩
      · have hdone : task.view.phase = .settled := hbefore
        rw [hdone] at hsettled
        show _ + _ = 1
        rw [ServicePhase.unrecorded_of_serving hsettled.1, List.count_nil, hsettled.2]
      · -- A thread dies after the end of its session.
        have hdied : task.view.phase = .died := hbefore
        rw [hdied] at hsettled
        exact hsettled.2 (not_serving_of_died honce htask hbefore)
  | @taken j raises table hstage htable =>
    rw [List.append_nil]
    have hserving : s.stage.phase = .serving j := by rw [hstage]; rfl
    exact h.taken hserving htable (open_of_taken honce hstage)
  | recorded hphase hevent => exact h.recorded hphase hevent

/-- Every execution is settled at most once. -/
theorem LedgerState.at_most_once {l : ClientLedger} (h : LedgerState l log) (i : ℕ) :
    settlements i log ≤ 1 := by
  by_cases hi : i < l.tasks.length
  · have hsettled := h.settled i l.tasks[i] (List.getElem?_eq_getElem hi)
    cases hphase : l.tasks[i].phase with
    | pending | died =>
      rw [hphase] at hsettled
      by_cases hserving : l.phase = .serving l.tasks[i].session
      · rw [hsettled.1 hserving]
        exact Nat.zero_le 1
      · have hone := hsettled.2 hserving
        omega
    | engaged | answering =>
      rw [hphase] at hsettled
      rw [hsettled.2]
      exact Nat.zero_le 1
    | settled =>
      rw [hphase] at hsettled
      exact hsettled.2.le
    | finished =>
      rw [hphase] at hsettled
      have hone : _ + _ = 1 := hsettled
      omega
  · rw [h.fresh i (not_lt.mp hi)]
    exact Nat.zero_le 1

/-- How many steps a thread still takes once its adapter has ended. -/
def TaskStage.remaining : TaskStage → ℕ
  | starting | invoking | finished => 0
  | failing _ | recording | leaving (.returned _) => 2
  | leaving .settled | leaving .died | answering _ => 1

section Runs

variable [FloatFormat]

/-- A thread whose adapter has ended goes on, whatever its frames come to. -/
theorem ClientState.proceeds {i : ℕ} {task : LocalTask} (htask : s.tasks[i]? = some task)
    (hends : 0 < task.stage.remaining) (transmits : Bool) :
    ∃ act ∈ [TaskAction.send transmits, .record, .leave], ∃ s' events,
      (clientMachine config).step s (.task i act) = some (s', events) ∧
        ∃ after, s'.tasks[i]? = some after ∧ after.stage.remaining < task.stage.remaining := by
  have hstep : ∀ act, (clientMachine config).step s (.task i act) = s.taskStep config i task act := by
    intro act
    show (s.tasks[i]?).bind _ = _
    rw [htask]
    rfl
  have hadvanced : ∀ (s' : ClientState) (stage : TaskStage), s'.tasks = s.tasks →
      (s'.advanceTask i stage).tasks[i]? = some { task with stage := stage } := by
    intro s' stage hsame
    show (s'.tasks.modify i _)[i]? = _
    rw [hsame]
    exact getElem?_modify_self htask
  have hsent : ∀ result : ResultMessage,
      (s.sendResult (some i) task.session result transmits).1.tasks = s.tasks := by
    intro result
    rcases s.sendResult_cases (j := task.session) (some i) result transmits with
      ⟨-, hsent⟩ | ⟨-, hsent⟩
    · rw [hsent]
    · rw [hsent]
      exact tasks_recordInterrupted _
  unfold taskStep at hstep
  cases hstage : task.stage with
  | starting | invoking | finished =>
    rw [hstage] at hends
    cases hends
  | failing result =>
    refine ⟨.send transmits, by simp, _, _, (hstep _).trans (by rw [hstage]), _,
      hadvanced _ _ (hsent result), ?_⟩
    simp [TaskStage.remaining]
  | recording =>
    refine ⟨.record, by simp, _, _, (hstep _).trans (by rw [hstage]), _,
      hadvanced _ _ (tasks_recordInterrupted _), ?_⟩
    simp [TaskStage.remaining]
  | answering result =>
    refine ⟨.send transmits, by simp, _, _, (hstep _).trans (by rw [hstage]), _,
      hadvanced _ _ (hsent result), ?_⟩
    simp [TaskStage.remaining]
  | leaving ending =>
    refine ⟨.leave, by simp, _, _, (hstep _).trans (by rw [hstage]), ?_⟩
    unfold leaveTask
    cases ending with
    | settled | died => exact ⟨_, hadvanced _ _ rfl, by simp [TaskStage.remaining]⟩
    | returned result => exact ⟨_, hadvanced _ _ rfl, by simp [TaskStage.remaining]⟩

/-- What holds in every state of a run: an execution has at most one result or record, a thread
    whose adapter has ended comes to its end, and an execution whose thread has finished, and which
    the end of its session has not still to record, has exactly one and is tracked nowhere. -/
structure ExecutionsSettled (config : ClientConfig) (s : ClientState) (log : List ClientEvent) :
    Prop where
  at_most_once : ∀ i, settlements i log ≤ 1
  settled : ∀ i task, s.tasks[i]? = some task → task.stage = .finished →
    i ∉ s.stage.phase.unrecorded → settlements i log = 1
  freed : ∀ i task, s.tasks[i]? = some task → task.stage = .finished →
    ∀ session ∈ s.sessions, ∀ row ∈ session.attempts.rows, row.2 ≠ i
  ends : ∀ i task, s.tasks[i]? = some task → 0 < task.stage.remaining → ∀ transmits,
    ∃ act ∈ [TaskAction.send transmits, .record, .leave], ∃ s' events,
      (clientMachine config).step s (.task i act) = some (s', events) ∧
        ∃ after, s'.tasks[i]? = some after ∧ after.stage.remaining < task.stage.remaining

/-- **Executions settle exactly once**, and free their slot, in every run in which the end of a
    session and the end of an adapter settle each execution once. -/
theorem executions_settled (config : ClientConfig) (stored : Option WorkerLocalIdentity)
    (run : (clientMachine config).Run (fun s action => s.settlesOnce config action = true)
      { stored := stored } s log) : ExecutionsSettled config s log := by
  have h : LedgerState s.ledger log := by
    refine Machine.Run.invariant (I := fun s log => LedgerState s.ledger log) ?_ ?_ run
    · refine ⟨?_, ?_, ?_, ?_, ?_, fun _ _ => rfl⟩
      all_goals simp [ClientState.ledger, RunStage.phase, ServicePhase.unrecorded]
    · intro s s' log events action _ h honce hstep
      exact h.preserved honce (ClientState.effects_of_step hstep).1
  have hview : ∀ {i : ℕ} {task : LocalTask}, s.tasks[i]? = some task →
      s.ledger.tasks[i]? = some task.view := by
    intro i task htask
    show (s.tasks.map LocalTask.view)[i]? = _
    rw [List.getElem?_map, htask]
    rfl
  have hfinished : ∀ {task : LocalTask}, task.stage = .finished → task.view.phase = .finished := by
    intro task hstage
    show task.stage.phase = .finished
    rw [hstage]
    rfl
  constructor
  · exact h.at_most_once
  · intro i task htask hstage hdue
    have hsettled := h.settled i task.view (hview htask)
    rw [hfinished hstage] at hsettled
    have hone : s.stage.phase.unrecorded.count i + settlements i log = 1 := hsettled
    rw [List.count_eq_zero_of_not_mem hdue] at hone
    omega
  · rintro i task htask hstage session hsession row hrow rfl
    obtain ⟨j, hj⟩ := List.getElem?_of_mem hsession
    have htable : s.ledger.tables[j]? = some session.attempts := by
      show (s.sessions.map _)[j]? = _
      rw [List.getElem?_map, hj]
      rfl
    obtain ⟨-, view, hmine, -, -, hslot⟩ := (h.rows j _ htable row).mp hrow
    obtain rfl := Option.some.inj ((hview htask).symm.trans hmine)
    rw [hfinished hstage] at hslot
    cases hslot
  · intro i task htask hends transmits
    exact ClientState.proceeds htask hends transmits

end Runs

/-! ### Examples -/

/-- An adapter that completes with nothing to say. -/
private def quietResult : AdapterResult where
  status := .completed
  calls := []
  message := some { role := .lit "assistant" }
  finishReason := some .stop
  ordered := .nil
  carries_message := by simp
  carries_reason := by simp

/-- A session serves, and an attempt is dispatched. -/
private def attemptStarted : List ClientAction :=
  .run true :: helloAccepted ++ [.drain] ++ attemptDispatched (.lit "attempt-1") ++
    [.task 0 (.begin (some 5))]

/-- One execution answers, and another dies after the loss of its session. -/
theorem executions_settled_twice : let _ := binaryFormat
    ∃ s log, (clientMachine codexWorker).Run
        (fun s action => s.settlesOnce codexWorker action = true)
        { stored := some pairedIdentity } s log ∧
      settlements 0 log = 1 ∧ settlements 1 log = 1 ∧ ExecutionsSettled codexWorker s log := by
  intro _
  obtain ⟨s, -, run⟩ := (clientMachine codexWorker).exists_run_of_exec
    (ClientState.settlesOnce codexWorker) { stored := some pairedIdentity }
    (attemptStarted ++ [.task 0 (.finish (.returned quietResult)), .task 0 .leave,
      .task 0 (.send true)] ++ attemptDispatched (.lit "attempt-2") ++
      [.task 1 (.begin (some 5))] ++ connectionLost ++
      [.task 1 (.finish .uncaught), .task 1 .leave])
    (show _ = some [.hello 0 (Text.ofString "c0"), .accepted 0 (.lit "attempt-1"),
      .answered (some 0) (.lit "attempt-1"), .accepted 1 (.lit "attempt-2"),
      .recorded (some 1) (.lit "attempt-2")] by decide +kernel)
  exact ⟨s, _, run, rfl, rfl, executions_settled codexWorker _ run⟩

/-- **An exception that nothing catches settles nothing**: the execution has finished, and its
    attempt has neither a result nor a record. -/
theorem execution_unsettled : let _ := binaryFormat
    ¬ ∀ s log, (clientMachine codexWorker).Run (fun _ _ => True)
        { stored := some pairedIdentity } s log → ∀ i task, s.tasks[i]? = some task →
      task.stage = .finished → i ∉ s.stage.phase.unrecorded → settlements i log = 1 := by
  intro _ h
  obtain ⟨⟨s, log⟩, hexec, hstate⟩ := Option.map_eq_some_iff.mp
    (show ((clientMachine codexWorker).exec (fun _ _ => true) { stored := some pairedIdentity } []
      (attemptStarted ++ [.task 0 (.finish .uncaught), .task 0 .leave])).map (fun r =>
        (r.1.tasks.map LocalTask.view, r.1.stage.phase, settlements 0 r.2)) =
      some ([⟨0, .lit "attempt-1", .finished⟩], .serving 0, 0) by decide +kernel)
  obtain ⟨htasks, hrest⟩ := Prod.mk.inj hstate
  obtain ⟨hphase, hcount⟩ := Prod.mk.inj hrest
  have run := (Machine.run_of_exec .refl hexec).mono fun _ _ _ => trivial
  obtain ⟨task, hlist, hview⟩ := List.map_eq_singleton_iff.mp htasks
  change s.tasks = [task] at hlist
  have hfinished : task.stage = .finished := by
    have hphase : task.stage.phase = .finished := congrArg TaskView.phase hview
    unfold TaskStage.phase at hphase
    split at hphase <;> first | assumption | cases hphase
  have hsettled := h s log run 0 task (by rw [hlist]; rfl) hfinished
    (by rw [ServicePhase.unrecorded_of_serving hphase]; simp)
  rw [hcount] at hsettled
  cases hsettled

end ScarcityRouter
