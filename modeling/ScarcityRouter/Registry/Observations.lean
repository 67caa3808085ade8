import ScarcityRouter.Registry.Store

namespace ScarcityRouter

open ScarcityRouter.Lib

/-!
# Stored observations

Which observation the registry holds after any calls, and how a report compares with its entries.

* `LatestWins` — the registry holds the newest of what it accepted.
* `latestWins_of_run` — **in order of their instants, the latest observation wins**, and exactly
  then: a late observation replaces the newer one it meets.
* `acceptedIdentity_iff` — **which submitted identities are checked.**
* `applyWorkerReport_atomic` — **a report is all or nothing**, and as its entries one by one.
* `reports_reordered` — **the order of reports about different resources** does not count.
-/

/-! ### The latest observation -/

/-- What the log accepted, as it was stored. -/
def acceptedObservations (log : List RegistryEvent) : List ResourceObservation :=
  log.filterMap fun
    | .accepted observation => some observation
    | .registered _ | .rejected _ => none

@[simp] theorem mem_acceptedObservations {log : List RegistryEvent} {o : ResourceObservation} :
    o ∈ acceptedObservations log ↔ .accepted o ∈ log := by
  unfold acceptedObservations
  rw [List.mem_filterMap]
  constructor
  · rintro ⟨e, hmem, he⟩
    cases e with
    | accepted observation => rwa [Option.some.inj he] at hmem
    | registered => cases he
    | rejected => cases he
  · intro h
    exact ⟨_, h, rfl⟩

theorem acceptedObservations_append {log events : List RegistryEvent} :
    acceptedObservations (log ++ events) =
      acceptedObservations log ++ acceptedObservations events :=
  List.filterMap_append

theorem acceptedObservations_events {s : ResourceRegistry} {call : RegistryCall} :
    acceptedObservations (call.events s) = call.observations.map s.canonical := by
  unfold acceptedObservations RegistryCall.events
  rw [List.filterMap_append, List.filterMap_map, List.filterMap_map]
  simp

/-- The registry holds, of each resource, the newest observation it accepted. -/
structure LatestWins (s : ResourceRegistry) (log : List RegistryEvent) : Prop where
  /-- What is held was accepted, and nothing newer was. -/
  newest : ∀ resourceId stored, s.observations resourceId = some stored →
    .accepted stored ∈ log ∧ stored.identity.resourceId = resourceId ∧
      ∀ o, .accepted o ∈ log → o.identity.resourceId = resourceId →
        o.observedAt ≤ stored.observedAt
  /-- What was accepted is held, or a newer one is. -/
  held : ∀ o, .accepted o ∈ log → (s.observations o.identity.resourceId).isSome = true

/-- The call, where it is accepted, brings nothing older than what the registry holds. -/
def ResourceRegistry.InOrder (s : ResourceRegistry) (call : RegistryCall) : Prop :=
  call.Accepted s → ∀ o ∈ call.observations, ∀ stored,
    s.observations o.identity.resourceId = some stored → stored.observedAt ≤ o.observedAt

/-- The observations replay what the log accepted. -/
def Recorded (s : ResourceRegistry) (log : List RegistryEvent) : Prop :=
  s.observations = lastWrite (·.identity.resourceId) (acceptedObservations log)

section Recorded

variable {s s' : ResourceRegistry} {log events : List RegistryEvent} {call : RegistryCall}

/-- One call records what it accepts. -/
theorem Recorded.step (h : Recorded s log) (hstep : s.step call = some (s', events)) :
    Recorded s' (log ++ events) := by
  unfold Recorded at h ⊢
  rw [acceptedObservations_append]
  rcases ResourceRegistry.step_cases hstep with
    ⟨-, rfl, -, hobservations⟩ | ⟨-, rfl, e, rfl⟩
  · rw [hobservations, acceptedObservations_events, h, ← recordAll_eq_lastWrite,
      ← recordAll_eq_lastWrite, recordAll_append]
  · rw [h]
    exact congrArg _ (List.append_nil _).symm

/-- Every run records what it accepts. -/
theorem recorded_of_run {allowed : ResourceRegistry → RegistryCall → Prop}
    (run : registryMachine.Run allowed {} s log) : Recorded s log := by
  apply run.invariant
  · rfl
  · intro s s' log events call _ h _ hstep
    exact h.step hstep

/-- Of a record, the newest observations are the newest writes. -/
theorem Recorded.latestWins_iff (h : Recorded s log) : LatestWins s log ↔
    Newest (·.identity.resourceId) (·.observedAt) (acceptedObservations log) := by
  constructor
  · intro hlatest resourceId stored hstored o ho hid
    rw [← h] at hstored
    exact (hlatest.newest resourceId stored hstored).2.2 o (mem_acceptedObservations.mp ho) hid
  · intro hnewest
    constructor
    · intro resourceId stored hstored
      rw [h] at hstored
      obtain ⟨hmem, hid⟩ := mem_of_lastWrite hstored
      refine ⟨mem_acceptedObservations.mp hmem, hid, fun o ho hoid => ?_⟩
      exact hnewest resourceId stored hstored o (mem_acceptedObservations.mpr ho) hoid
    · intro o ho
      rw [h]
      obtain ⟨stored, hstored⟩ :=
        @exists_lastWrite _ _ _ (·.identity.resourceId) _ _ (mem_acceptedObservations.mpr ho)
      exact Option.isSome_iff_exists.mpr ⟨stored, hstored⟩

/-- A call names each resource once. -/
theorem RegistryCall.nodup_observations (s : ResourceRegistry) (call : RegistryCall) :
    ((call.observations.map s.canonical).map (·.identity.resourceId)).Nodup := by
  have hids : (call.observations.map s.canonical).map (·.identity.resourceId) =
      call.observations.map (·.identity.resourceId) := by
    rw [List.map_map]
    exact List.map_congr_left fun o _ => ResourceRegistry.canonical_resourceId
  rw [hids]
  cases call with
  | register => exact List.nodup_nil
  | applySnapshot => exact List.nodup_singleton _
  | applyWorkerReport clock report => exact List.pairwise_map.mpr (report.sorted.imp ne_of_lt)

/-- **One call** keeps the newest observations exactly when it is in order. -/
theorem LatestWins.step_iff (hrecorded : Recorded s log) (h : LatestWins s log)
    (hstep : s.step call = some (s', events)) :
    LatestWins s' (log ++ events) ↔ s.InOrder call := by
  have hnewest := hrecorded.latestWins_iff.mp h
  rw [(hrecorded.step hstep).latestWins_iff, acceptedObservations_append]
  rcases ResourceRegistry.step_cases hstep with
    ⟨haccepted, rfl, -, -⟩ | ⟨hrejected, rfl, e, rfl⟩
  · rw [acceptedObservations_events, newest_append_iff hnewest (call.nodup_observations s),
      ← hrecorded]
    unfold ResourceRegistry.InOrder
    simp [haccepted]
  · have hnone : acceptedObservations [.rejected e] = [] := rfl
    rw [hnone, List.append_nil]
    exact ⟨fun _ haccepted => absurd haccepted hrejected, fun _ => hnewest⟩

end Recorded

/-- **In order, the latest observation wins**: in every run whose calls bring nothing older than
    what is held, the registry holds the newest observations; and the next call keeps that exactly
    when it, too, is in order. -/
theorem latestWins_of_run {s : ResourceRegistry} {log : List RegistryEvent}
    (run : registryMachine.Run (fun s call => s.InOrder call) {} s log) :
    LatestWins s log ∧ ∀ call s' events, s.step call = some (s', events) →
      (LatestWins s' (log ++ events) ↔ s.InOrder call) := by
  have hlatest : LatestWins s log := by
    refine @Machine.Run.invariant _ _ _ _ _ _ _ _ LatestWins ?_ ?_ run
    · have hempty : Recorded {} [] := rfl
      exact hempty.latestWins_iff.mpr newest_nil
    · intro s s' log events call hrun hlatest hallowed hstep
      exact (hlatest.step_iff (recorded_of_run hrun) hstep).mpr hallowed
  exact ⟨hlatest, fun call s' events hstep => hlatest.step_iff (recorded_of_run run) hstep⟩

/-- The identity of a resource that is served directly. -/
def atlasIdentity : ResourceIdentity where
  resourceId := .lit "acme-http"
  channel := .serverDirectHttp
  provider := .lit "acme"
  model := .lit "atlas"
  entitlement := .localUngated

/-- A healthy observation of that resource. -/
def atlasAt (observedAt : Timestamp) : ResourceObservation where
  observedAt := observedAt
  health := { status := .ok }
  identity := atlasIdentity

/-- The resource is registered, and two observations of it arrive. -/
def atlasCalls (first second : Timestamp) : List RegistryCall :=
  [.register ⟨atlasIdentity, 60, none, {}, none⟩, .applySnapshot 20 (atlasAt first),
    .applySnapshot 20 (atlasAt second)]

/-- Two observations that arrive in order. -/
theorem latestWins_of_run_atlas : ∃ s, LatestWins s
    [.registered (.lit "acme-http"), .accepted (atlasAt 5), .accepted (atlasAt 10)] := by
  let timely : ResourceRegistry → RegistryCall → Bool := fun s call =>
    call.observations.all fun o =>
      (s.observations o.identity.resourceId).all (·.observedAt ≤ o.observedAt)
  obtain ⟨s, -, run⟩ := registryMachine.exists_run_of_exec timely {} (atlasCalls 5 10)
    (show _ = some [RegistryEvent.registered (.lit "acme-http"), .accepted (atlasAt 5),
      .accepted (atlasAt 10)] by decide +kernel)
  refine ⟨s, (latestWins_of_run (run.mono fun s call h _ o ho stored hstored => ?_)).1⟩
  have hle := List.all_eq_true.mp h o ho
  rw [hstored] at hle
  exact of_decide_eq_true hle

/-- A late observation replaces the newer one. -/
theorem not_latestWins_late : ¬ ∀ s log, registryMachine.Run (fun _ _ => True) {} s log →
    LatestWins s log := by
  intro h
  obtain ⟨s, hexec, run⟩ := registryMachine.exists_run_of_exec (fun _ _ => true) {}
    (atlasCalls 10 5) (show _ = some [RegistryEvent.registered (.lit "acme-http"),
      .accepted (atlasAt 10), .accepted (atlasAt 5)] by decide +kernel)
  have hstored : s.observations (.lit "acme-http") = some (atlasAt 5) := by
    have heval : ((registryMachine.exec (fun _ _ => true) {} [] (atlasCalls 10 5)).map
        fun result => result.1.observations (.lit "acme-http")) = some (some (atlasAt 5)) := by
      decide +kernel
    rw [hexec] at heval
    exact Option.some.inj heval
  have hlatest := (h _ _ (run.mono fun _ _ _ => trivial)).newest _ _ hstored
  have hle : (atlasAt 10).observedAt ≤ (atlasAt 5).observedAt :=
    hlatest.2.2 (atlasAt 10) (by simp) rfl
  exact absurd hle (by decide)

/-! ### Submitted identities -/

/-- The observation was submitted under the registered execution identity. -/
def ResourceRegistry.Matches (s : ResourceRegistry) (o : ResourceObservation) : Prop :=
  ∃ registration, s.registration? o.identity.resourceId = some registration ∧
    o.identity.observationKey = registration.identity.observationKey

/-- An observation with other pool ids than the registered ones repeats the registered execution
    identity. -/
def ResourceRegistry.RepeatsIdentity (s : ResourceRegistry) (o : ResourceObservation) : Prop :=
  ∀ registration, s.registration? o.identity.resourceId = some registration →
    o.identity.quotaPoolIds ≠ registration.identity.quotaPoolIds →
    o.identity.observationKey = registration.identity.observationKey

/-- Of an accepted observation, only one with other pool ids can have another identity. -/
theorem ResourceRegistry.Accepts.matches_of_repeats {s : ResourceRegistry} {now : Timestamp}
    {o : ResourceObservation} (h : s.Accepts now o) (hrepeats : s.RepeatsIdentity o) :
    s.Matches o := by
  obtain ⟨registration, hget, -, hidentity⟩ := h
  refine ⟨registration, hget, ?_⟩
  by_cases hpools : o.identity.quotaPoolIds = registration.identity.quotaPoolIds
  · rw [hidentity hpools]
  · exact hrepeats registration hget hpools

/-- An observation with other pool ids is accepted at its own instant, whatever it names. -/
theorem ResourceRegistry.accepts_of_pools_ne {s : ResourceRegistry} {o : ResourceObservation}
    {registration : ResourceRegistration}
    (hget : s.registration? o.identity.resourceId = some registration)
    (hpools : o.identity.quotaPoolIds ≠ registration.identity.quotaPoolIds) :
    s.Accepts o.observedAt o :=
  ⟨registration, hget, le_rfl, fun h => absurd h hpools⟩

/-- **Both write paths check the submitted identity** exactly of the observations that repeat the
    registered pool ids, or the registered identity anyway: for any other one the identity is
    replaced before it is compared. -/
theorem acceptedIdentity_iff (s : ResourceRegistry) (o : ResourceObservation) :
    ((∀ now, (s.applySnapshot now o).1 = .ok () → s.Matches o) ↔ s.RepeatsIdentity o) ∧
    ((∀ clock report, o ∈ report.resources → (s.applyWorkerReport clock report).1 = .ok () →
        s.Matches o) ↔
      (o.identity.channel.workerReportable = true → s.RepeatsIdentity o)) := by
  have hmatch : ∀ {registration}, s.registration? o.identity.resourceId = some registration →
      s.Matches o → o.identity.observationKey = registration.identity.observationKey := by
    rintro registration hget ⟨found, hfound, hkey⟩
    rwa [Option.some.inj (hget.symm.trans hfound)]
  constructor
  · constructor
    · intro h registration hget hpools
      apply hmatch hget
      apply h o.observedAt
      exact @RegistryCall.ok_iff s (.applySnapshot o.observedAt o) |>.mpr
        (ResourceRegistry.accepts_of_pools_ne hget hpools)
    · intro hrepeats now hok
      have haccepts : s.Accepts now o := @RegistryCall.ok_iff s (.applySnapshot now o) |>.mp hok
      exact haccepts.matches_of_repeats hrepeats
  · constructor
    · intro h hreportable registration hget hpools
      -- A report of this observation alone.
      let report : WorkerStateReport :=
        { workerId := o.identity.resourceId
          reportedAt := o.observedAt
          resources := [o]
          sorted := List.pairwise_singleton _ _
          reportable := by simpa using hreportable
          reported := by simp }
      apply hmatch hget
      apply h (fun _ => o.observedAt) report (List.mem_singleton_self o)
      refine @RegistryCall.ok_iff s (.applyWorkerReport (fun _ => o.observedAt) report) |>.mpr ?_
      intro i snapshot hsnapshot
      obtain rfl := List.mem_singleton.mp (List.mem_of_getElem? hsnapshot)
      exact ResourceRegistry.accepts_of_pools_ne hget hpools
    · intro hrepeats clock report hmem hok
      have haccepted := @RegistryCall.ok_iff s (.applyWorkerReport clock report) |>.mp hok
      obtain ⟨now, haccepts⟩ := haccepted.accepts hmem
      exact haccepts.matches_of_repeats (hrepeats (report.reportable o hmem))

/-- The registry of one resource that is served directly. -/
def atlasRegistry : ResourceRegistry where
  registrations := [⟨atlasIdentity, 60, none, {}, none⟩]
  distinct := by decide +kernel

/-- An observation of another model, with a pool id. -/
def contradictingObservation : ResourceObservation where
  observedAt := 5
  health := { status := .ok }
  identity := { atlasIdentity with
    model := .lit "nova"
    quotaPoolIds := [.lit "pool"]
    pools_sorted := by decide +kernel }

/-- Another model's observation is stored as this resource's state. -/
theorem not_matches_contradicting : ¬ ∀ (s : ResourceRegistry) (now : Timestamp)
    (o : ResourceObservation), (s.applySnapshot now o).1 = .ok () → s.Matches o := by
  intro h
  obtain ⟨registration, hget, hkey⟩ := h atlasRegistry 10 contradictingObservation
    (eq_ok_of_toOption (by decide +kernel))
  have hregistered : atlasRegistry.registration? contradictingObservation.identity.resourceId =
      some ⟨atlasIdentity, 60, none, {}, none⟩ := by decide +kernel
  obtain rfl := Option.some.inj (hget.symm.trans hregistered)
  exact absurd hkey (by decide +kernel)

/-! ### Reports -/

/-- `apply_snapshot` for each entry in turn, with what the clock reads for it, up to the first one
    that raises. -/
def ResourceRegistry.applySnapshots (s : ResourceRegistry) :
    List (Timestamp × ResourceObservation) → Except RegistryError Unit × ResourceRegistry
  | [] => (.ok (), s)
  | (now, snapshot) :: rest =>
    match s.applySnapshot now snapshot with
    | (.error e, s') => (.error e, s')
    | (.ok (), s') => s'.applySnapshots rest

/-- The entries of a report, each with its reading of the clock. -/
def WorkerStateReport.readings (report : WorkerStateReport) (clock : ℕ → Timestamp) :
    List (Timestamp × ResourceObservation) :=
  report.resources.zipIdx.map fun entry => (clock entry.2, entry.1)

/-- Entries that are all accepted are stored one after the other. -/
theorem ResourceRegistry.applySnapshots_of_accepts {s : ResourceRegistry}
    {entries : List (Timestamp × ResourceObservation)}
    (h : ∀ entry ∈ entries, s.Accepts entry.1 entry.2) :
    ∃ s', s.applySnapshots entries = (.ok (), s') ∧
      s'.observations = recordAll (·.identity.resourceId) s.observations
        (entries.map fun entry => s.canonical entry.2) := by
  induction entries generalizing s with
  | nil => exact ⟨s, rfl, rfl⟩
  | cons entry entries ih =>
    obtain ⟨now, snapshot⟩ := entry
    obtain ⟨hfirst, hrest⟩ := List.forall_mem_cons.mp h
    obtain ⟨s₁, hrun, hregistrations, hobservations, -⟩ :=
      @RegistryCall.run_of_accepted s (.applySnapshot now snapshot) hfirst
    have hsame : s₁.registrations = s.registrations := by
      rw [hregistrations]
      exact List.append_nil _
    obtain ⟨s₂, hall, hstored⟩ := ih fun entry hmem => (accepts_congr hsame).mpr (hrest entry hmem)
    refine ⟨s₂, ?_, ?_⟩
    · have hone : s.applySnapshot now snapshot = (.ok (), s₁) := hrun
      unfold applySnapshots
      rw [hone]
      exact hall
    · have hcanonical : (entries.map fun entry => s₁.canonical entry.2) =
          entries.map fun entry => s.canonical entry.2 :=
        List.map_congr_left fun _ _ => canonical_congr hsame
      rw [hstored, hobservations, hcanonical]
      rfl

/-- **A report is all or nothing**: it raises exactly when one of its entries would be rejected on
    its own, it then leaves the registry as it was, and otherwise it stores what its entries store
    one by one. -/
theorem applyWorkerReport_atomic (s : ResourceRegistry) (clock : ℕ → Timestamp)
    (report : WorkerStateReport) :
    ((∃ e, (s.applyWorkerReport clock report).1 = .error e) ↔
      ∃ i snapshot, report.resources[i]? = some snapshot ∧
        ∃ e, (s.applySnapshot (clock i) snapshot).1 = .error e) ∧
    (∀ e, (s.applyWorkerReport clock report).1 = .error e →
      (s.applyWorkerReport clock report).2 = s) ∧
    ((s.applyWorkerReport clock report).1 = .ok () →
      (s.applySnapshots (report.readings clock)).1 = .ok () ∧
        (s.applyWorkerReport clock report).2.observations =
          (s.applySnapshots (report.readings clock)).2.observations) := by
  refine ⟨?_, ?_, ?_⟩
  · have hreport := @RegistryCall.raises_iff s (.applyWorkerReport clock report)
    have heach : ∀ i snapshot, (∃ e, (s.applySnapshot (clock i) snapshot).1 = .error e) ↔
        ¬ s.Accepts (clock i) snapshot := fun i snapshot =>
      @RegistryCall.raises_iff s (.applySnapshot (clock i) snapshot)
    refine Iff.trans hreport ?_
    simp only [heach]
    unfold RegistryCall.Accepted
    push Not
    rfl
  · intro e he
    exact @RegistryCall.run_of_raises s (.applyWorkerReport clock report) e he
  · intro hok
    have haccepted : (RegistryCall.applyWorkerReport clock report).Accepted s :=
      RegistryCall.ok_iff.mp hok
    obtain ⟨s₁, hrun, -, hobservations, -⟩ := RegistryCall.run_of_accepted haccepted
    have hentries : ∀ entry ∈ report.readings clock, s.Accepts entry.1 entry.2 := by
      intro entry hmem
      obtain ⟨⟨snapshot, i⟩, hzip, rfl⟩ := List.mem_map.mp hmem
      exact haccepted i snapshot (List.mem_zipIdx_iff_getElem?.mp hzip)
    obtain ⟨s₂, hall, hstored⟩ := ResourceRegistry.applySnapshots_of_accepts hentries
    have hcanonical : ((report.readings clock).map fun entry => s.canonical entry.2) =
        report.resources.map s.canonical := by
      unfold WorkerStateReport.readings
      conv_rhs => rw [← List.zipIdx_map_fst 0 report.resources]
      rw [List.map_map, List.map_map]
      rfl
    rw [hall, hstored, hcanonical]
    refine ⟨rfl, ?_⟩
    have hafter : (s.applyWorkerReport clock report).2 = s₁ := congrArg Prod.snd hrun
    rw [hafter]
    exact hobservations

/-! ### Reports in any order -/

/-- What an observing call does depends on the registrations alone. -/
theorem RegistryCall.run_observing {call : RegistryCall} (s : ResourceRegistry)
    (h : call.registrations = []) : ∃ stored n,
    (∀ o ∈ stored, ∃ o' ∈ call.observations, o'.identity.resourceId = o.identity.resourceId) ∧
    ∀ s', s'.registrations = s.registrations →
      ((call.run s').1 = .ok () ↔ call.Accepted s) ∧ (call.run s').2 = { s' with
        observations := recordAll (·.identity.resourceId) s'.observations stored
        revision := s'.revision + n } := by
  have hsame : ∀ s' : ResourceRegistry, s'.registrations = s.registrations →
      (call.Accepted s' ↔ call.Accepted s) := by
    intro s' hs
    cases call with
    | register => cases h
    | applySnapshot => exact ResourceRegistry.accepts_congr hs
    | applyWorkerReport => simp only [Accepted, ResourceRegistry.accepts_congr hs]
  by_cases haccepted : call.Accepted s
  · refine ⟨call.observations.map s.canonical, 1, ?_, fun s' hs => ⟨ok_iff.trans (hsame s' hs), ?_⟩⟩
    · intro o ho
      obtain ⟨o', ho', rfl⟩ := List.mem_map.mp ho
      exact ⟨o', ho', ResourceRegistry.canonical_resourceId.symm⟩
    · obtain ⟨⟨⟩, hrun, hregistrations, hobservations, hrevision⟩ :=
        run_of_accepted ((hsame s' hs).mpr haccepted)
      have hcanonical : s'.canonical = s.canonical :=
        funext fun _ => ResourceRegistry.canonical_congr hs
      simp_all
  · refine ⟨[], 0, by simp, fun s' hs => ⟨ok_iff.trans (hsame s' hs), ?_⟩⟩
    obtain ⟨e, hrun⟩ := run_of_not_accepted ((not_congr (hsame s' hs)).mpr haccepted)
    rw [hrun]
    rfl

/-- The registry after some calls, whether they return or raise. -/
def ResourceRegistry.after (s : ResourceRegistry) (calls : List RegistryCall) : ResourceRegistry :=
  calls.foldl (fun s call => (call.run s).2) s

/-- **Reports about different resources** leave the same registry in every order, and each returns
    or raises as it would alone. -/
theorem reports_reordered {s : ResourceRegistry} {calls calls' : List RegistryCall}
    (hperm : calls.Perm calls') (hobserving : ∀ call ∈ calls, call.registrations = [])
    (hdisjoint : ∀ a ∈ calls, ∀ b ∈ calls, a ≠ b → ∀ o ∈ a.observations, ∀ o' ∈ b.observations,
      o.identity.resourceId ≠ o'.identity.resourceId) :
    s.after calls = s.after calls' ∧ ∀ before call rest, calls' = before ++ call :: rest →
      ((call.run (s.after before)).1 = .ok () ↔ (call.run s).1 = .ok ()) := by
  constructor
  · apply hperm.foldl_eq'
    intro a ha b hb t
    by_cases hsame : a = b
    · rw [hsame]
    obtain ⟨storedA, n, hA, hrunA⟩ := RegistryCall.run_observing t (hobserving a ha)
    obtain ⟨storedB, m, hB, hrunB⟩ := RegistryCall.run_observing t (hobserving b hb)
    have hcomm := @recordAll_comm _ _ _ (fun o : ResourceObservation => o.identity.resourceId)
      storedA storedB t.observations fun o ho o' ho' => by
        obtain ⟨p, hp, hid⟩ := hA o ho
        obtain ⟨p', hp', hid'⟩ := hB o' ho'
        rw [← hid, ← hid']
        exact (hdisjoint a ha b hb hsame p hp p' hp').symm
    have hleft := fun s' hs => (hrunA s' hs).2
    have hright := fun s' hs => (hrunB s' hs).2
    rw [hleft t rfl, hright t rfl, hright, hleft]
    · simp only [hcomm, add_right_comm t.revision n m]
    all_goals rfl
  · rintro before call rest rfl
    have hall := fun call h => hobserving call (hperm.mem_iff.mpr h)
    obtain ⟨stored, n, -, hrun⟩ := RegistryCall.run_observing s (hall call (by simp))
    have hkept : (s.after before).registrations = s.registrations := by
      refine List.foldlRecOn (motive := fun t : ResourceRegistry =>
        t.registrations = s.registrations) before _ rfl fun t ht c hc => ?_
      obtain ⟨_, _, -, hrunC⟩ := RegistryCall.run_observing t (hall c (by simp [hc]))
      rw [(hrunC t rfl).2]
      exact ht
    exact (hrun _ hkept).1.trans (hrun s rfl).1.symm

/-- Snapshots of the resource and of another one. -/
theorem reports_reordered_two :
    let a := RegistryCall.applySnapshot 10 (atlasAt 5)
    let b := RegistryCall.applySnapshot 10 { atlasAt 5 with
      identity := { atlasIdentity with resourceId := .lit "beta-http" } }
    atlasRegistry.after [a, b] = atlasRegistry.after [b, a] := by
  intro a b
  have hids : (atlasAt 5).identity.resourceId ≠ .lit "beta-http" := by decide +kernel
  refine (reports_reordered (.swap b a []) ?_ ?_).1
  · simp [a, b, RegistryCall.registrations]
  · simp [a, b, RegistryCall.observations, hids, hids.symm]

end ScarcityRouter
