import ScarcityRouter.Lib.LastWrite
import ScarcityRouter.Lib.Machine
import ScarcityRouter.ResourceState

namespace ScarcityRouter

open ScarcityRouter.Lib

/-!
# The resource registry

`ResourceRegistry` of `resource_state.py`: registrations, the stored observations, and the three
calls that write them.

* `ResourceObservation`, `WorkerStateReport`, `ResourceRegistration` — what the calls are given,
  with the checks of their constructors as fields.
* `ResourceRegistry.register`, `ResourceRegistry.applySnapshot`,
  `ResourceRegistry.applyWorkerReport` — the calls, each with what it raises and the state it
  leaves.
* `ResourceRegistry.Accepts` — when an observation is accepted, spelled out.
* `RegistryCall.run_of_accepted`, `RegistryCall.run_of_not_accepted` — **what each call does**:
  everything it is given, or nothing.
* `registryMachine` — any calls, in any order.

A call reads the clock once for each observation it checks, so that a report is given a sequence of
readings.
-/

/-! ### Observations, reports and registrations -/

/-- One resource-state observation, with the resource it names. -/
structure ResourceObservation extends ResourceStateSnapshot where
  identity : ResourceIdentity
  deriving DecidableEq

/-- `_identity_observation_key`: the identity without its quota pools. -/
def ResourceIdentity.observationKey (identity : ResourceIdentity) :
    SafeId × Channel × SafeId × SafeId × Entitlement × Option SafeId :=
  (identity.resourceId, identity.channel, identity.provider, identity.model, identity.entitlement,
    identity.variant)

/-- The key and the quota pools make the identity. -/
theorem ResourceIdentity.eq_of_observationKey {a b : ResourceIdentity}
    (hkey : a.observationKey = b.observationKey) (hpools : a.quotaPoolIds = b.quotaPoolIds) :
    a = b := by
  obtain ⟨⟩ := a
  obtain ⟨⟩ := b
  simp_all [observationKey]

/-- `WORKER_REPORTABLE_CHANNELS`. -/
def Channel.workerReportable : Channel → Bool
  | .workerBridged | .localAppAdapter => true
  | .serverDirectHttp => false

/-- One authenticated worker's report of the state it observed. -/
structure WorkerStateReport where
  workerId : SafeId
  reportedAt : Timestamp
  resources : List ResourceObservation
  sorted : resources.Pairwise (fun a b => a.identity.resourceId < b.identity.resourceId) := by
    decide
  reportable : ∀ o ∈ resources, o.identity.channel.workerReportable = true := by decide
  reported : ∀ o ∈ resources, o.observedAt ≤ reportedAt := by decide
  deriving DecidableEq

/-- Administrator-side registration of one executable resource. -/
structure ResourceRegistration where
  identity : ResourceIdentity
  freshnessTtlSeconds : ℕ+
  pollIntervalSeconds : Option ℕ+ := none
  capabilities : ExecutionCapabilities := {}
  cost : Option ResourceCost := none
  deriving DecidableEq

/-! ### The store -/

/-- The reasons for which the registry raises `CapacityValidationError`. -/
inductive RegistryError where
  | alreadyRegistered (resourceId : SafeId)
  | notRegistered (resourceId : SafeId)
  | identityMismatch (resourceId : SafeId)
  /-- `_age_or_reject`: the fact is dated after the evaluation instant. -/
  | futureDated (resourceId : SafeId) (earlier later : Timestamp)
  /-- The constructor of a read record rejects its fields. -/
  | invalidRead (message : String)
  deriving DecidableEq

/-- The registry: the registrations in the order of their calls, and the latest observations, both
    by resource id. -/
structure ResourceRegistry where
  registrations : List ResourceRegistration := []
  observations : SafeId → Option ResourceObservation := fun _ => none
  revision : ℕ := 0
  distinct : (registrations.map (·.identity.resourceId)).Nodup := by decide

namespace ResourceRegistry

variable (s : ResourceRegistry)

/-- `self._registrations.get(resource_id)`. -/
def registration? (resourceId : SafeId) : Option ResourceRegistration :=
  s.registrations.find? (·.identity.resourceId == resourceId)

/-- What `registration?` finds is registered under the id. -/
theorem registration?_eq_some {resourceId : SafeId} {registration : ResourceRegistration} :
    s.registration? resourceId = some registration ↔
      registration ∈ s.registrations ∧ registration.identity.resourceId = resourceId := by
  constructor
  · intro h
    have hfind : s.registrations.find? (·.identity.resourceId == resourceId) =
        some registration := h
    have hid := List.find?_some hfind
    exact ⟨List.mem_of_find?_eq_some hfind, beq_iff_eq.mp hid⟩
  · rintro ⟨hmem, rfl⟩
    refine find?_eq_some_of_unique hmem (beq_self_eq_true _) fun other hother hid => ?_
    exact List.inj_on_of_nodup_map s.distinct hother hmem (beq_iff_eq.mp hid)

/-- An id without a registration is the id of none. -/
theorem registration?_eq_none {resourceId : SafeId} : s.registration? resourceId = none ↔
    resourceId ∉ s.registrations.map (·.identity.resourceId) := by
  unfold registration?
  simp

/-- `register`: duplicate ids fail closed. -/
def register (registration : ResourceRegistration) : Except RegistryError Unit × ResourceRegistry :=
  if h : registration.identity.resourceId ∈ s.registrations.map (·.identity.resourceId) then
    (.error (.alreadyRegistered registration.identity.resourceId), s)
  else (.ok (), { s with
    registrations := s.registrations ++ [registration]
    revision := s.revision + 1
    distinct := by
      rw [List.map_append, List.map_singleton]
      exact s.distinct.append (List.nodup_singleton _)
        (List.disjoint_singleton.mpr h) })

/-- The snapshot with the pools of the registration: where the pool ids differ, the whole identity
    is replaced. -/
def canonical (snapshot : ResourceObservation) : ResourceObservation :=
  match s.registration? snapshot.identity.resourceId with
  | none => snapshot
  | some registration =>
    if snapshot.identity.quotaPoolIds ≠ registration.identity.quotaPoolIds then
      { snapshot with identity := registration.identity }
    else snapshot

/-- `_checked_observation`. -/
def checkedObservation (now : Timestamp) (snapshot : ResourceObservation) :
    Except RegistryError Unit :=
  match s.registration? snapshot.identity.resourceId with
  | none => .error (.notRegistered snapshot.identity.resourceId)
  | some registration =>
    if snapshot.identity.observationKey ≠ registration.identity.observationKey then
      .error (.identityMismatch snapshot.identity.resourceId)
    else if now < snapshot.observedAt then
      .error (.futureDated snapshot.identity.resourceId snapshot.observedAt now)
    else .ok ()

/-- The part the two write paths share: the canonical snapshot, once it is checked. -/
def checkedCanonical (now : Timestamp) (snapshot : ResourceObservation) :
    Except RegistryError ResourceObservation := do
  s.checkedObservation now (s.canonical snapshot)
  return s.canonical snapshot

/-- `apply_snapshot`. -/
def applySnapshot (now : Timestamp) (snapshot : ResourceObservation) :
    Except RegistryError Unit × ResourceRegistry :=
  match s.checkedCanonical now snapshot with
  | .error e => (.error e, s)
  | .ok snapshot => (.ok (), { s with
      -- `self._observations[resource_id] = snapshot`
      observations := Function.update s.observations snapshot.identity.resourceId (some snapshot)
      revision := s.revision + 1 })

/-- `apply_worker_report`: every entry is checked before the first one is stored. -/
def applyWorkerReport (clock : ℕ → Timestamp) (report : WorkerStateReport) :
    Except RegistryError Unit × ResourceRegistry :=
  match report.resources.zipIdx.mapM fun entry => s.checkedCanonical (clock entry.2) entry.1 with
  | .error e => (.error e, s)
  | .ok canonical => (.ok (), { s with
      observations := recordAll (·.identity.resourceId) s.observations canonical
      revision := s.revision + 1 })

end ResourceRegistry

/-! ### What is accepted -/

namespace ResourceRegistry

variable {s : ResourceRegistry} {now : Timestamp} {snapshot : ResourceObservation}

/-- An observation is accepted: its resource is registered, it is not dated after the clock, and it
    names either other pools than the registration or the registered identity. -/
def Accepts (s : ResourceRegistry) (now : Timestamp) (snapshot : ResourceObservation) : Prop :=
  ∃ registration, s.registration? snapshot.identity.resourceId = some registration ∧
    snapshot.observedAt ≤ now ∧
    (snapshot.identity.quotaPoolIds = registration.identity.quotaPoolIds →
      snapshot.identity = registration.identity)

/-- Canonicalization keeps the resource id. -/
@[simp] theorem canonical_resourceId :
    (s.canonical snapshot).identity.resourceId = snapshot.identity.resourceId := by
  unfold canonical
  split
  · rfl
  · rename_i registration hget
    split_ifs
    · exact ((s.registration?_eq_some).mp hget).2
    · rfl

/-- Canonicalization keeps what was observed. -/
@[simp] theorem canonical_toSnapshot :
    (s.canonical snapshot).toResourceStateSnapshot = snapshot.toResourceStateSnapshot := by
  unfold canonical
  split
  · rfl
  · split_ifs <;> rfl

/-- **An accepted observation is stored under the registered identity.** -/
theorem checkedCanonical_eq_ok {stored : ResourceObservation} :
    s.checkedCanonical now snapshot = .ok stored ↔
      ∃ registration, s.registration? snapshot.identity.resourceId = some registration ∧
        snapshot.observedAt ≤ now ∧
        (snapshot.identity.quotaPoolIds = registration.identity.quotaPoolIds →
          snapshot.identity = registration.identity) ∧
        stored = { snapshot with identity := registration.identity } := by
  unfold checkedCanonical checkedObservation
  rw [canonical_resourceId]
  cases hget : s.registration? snapshot.identity.resourceId with
  | none => simp
  | some registration =>
    have hid := ((s.registration?_eq_some).mp hget).2
    by_cases hpools : snapshot.identity.quotaPoolIds = registration.identity.quotaPoolIds
    · -- The same pools: the identity must be the registered one.
      have hcanonical : s.canonical snapshot = snapshot := by
        unfold canonical
        rw [hget]
        exact if_neg (not_not.mpr hpools)
      rw [hcanonical]
      have hkey : snapshot.identity.observationKey ≠ registration.identity.observationKey ↔
          snapshot.identity ≠ registration.identity :=
        not_congr ⟨fun h => ResourceIdentity.eq_of_observationKey h hpools, congrArg _⟩
      by_cases hidentity : snapshot.identity = registration.identity
      · have hstored : { snapshot with identity := registration.identity } = snapshot := by
          rw [← hidentity]
        by_cases htime : now < snapshot.observedAt
        · simp [hidentity, htime]
        · simp only [hidentity, htime, ne_eq, not_true, if_false, ok_bind, pure_eq_ok,
            Except.ok.injEq, Option.some.injEq, exists_eq_left', hstored]
          simp [not_lt.mp htime, eq_comm]
      · simp [hkey, hidentity, hpools]
    · -- Other pools: the registered identity replaces the one given.
      have hcanonical : s.canonical snapshot =
          { snapshot with identity := registration.identity } := by
        unfold canonical
        rw [hget]
        exact if_pos hpools
      rw [hcanonical]
      by_cases htime : now < snapshot.observedAt
      · simp [htime, hpools]
      · simp [htime, hpools, not_lt.mp htime, @eq_comm _ stored]

/-- An observation that is not accepted makes its check raise. -/
theorem accepts_iff : s.Accepts now snapshot ↔
    ∃ stored, s.checkedCanonical now snapshot = .ok stored := by
  simp only [checkedCanonical_eq_ok, Accepts]
  constructor
  · rintro ⟨registration, hget, htime, hidentity⟩
    exact ⟨_, registration, hget, htime, hidentity, rfl⟩
  · rintro ⟨_, registration, hget, htime, hidentity, -⟩
    exact ⟨registration, hget, htime, hidentity⟩

/-- The checked snapshot is the canonical one. -/
theorem checkedCanonical_of_accepts (h : s.Accepts now snapshot) :
    s.checkedCanonical now snapshot = .ok (s.canonical snapshot) := by
  obtain ⟨stored, hstored⟩ := accepts_iff.mp h
  obtain ⟨_, _, hcanonical⟩ := bind_eq_ok.mp hstored
  rw [hstored, ← Except.ok.inj hcanonical]

/-- An accepted observation is stored under the registered identity. -/
theorem canonical_of_accepts (h : s.Accepts now snapshot) :
    ∃ registration ∈ s.registrations,
      registration.identity.resourceId = snapshot.identity.resourceId ∧
      (s.canonical snapshot).identity = registration.identity := by
  obtain ⟨registration, hget, -, -, hstored⟩ :=
    checkedCanonical_eq_ok.mp (checkedCanonical_of_accepts h)
  obtain ⟨hmem, hid⟩ := (s.registration?_eq_some).mp hget
  exact ⟨registration, hmem, hid, by rw [hstored]⟩

/-- What is accepted, and as what, depends on the registrations alone. -/
theorem accepts_congr {s' : ResourceRegistry} (h : s'.registrations = s.registrations) :
    s'.Accepts now snapshot ↔ s.Accepts now snapshot := by
  unfold Accepts registration?
  rw [h]

theorem canonical_congr {s' : ResourceRegistry} (h : s'.registrations = s.registrations) :
    s'.canonical snapshot = s.canonical snapshot := by
  unfold canonical registration?
  rw [h]

end ResourceRegistry

/-! ### Calls in any order -/

/-- A call that writes the registry, with what the clock reads during the call. -/
inductive RegistryCall where
  | register (registration : ResourceRegistration)
  | applySnapshot (now : Timestamp) (snapshot : ResourceObservation)
  | applyWorkerReport (clock : ℕ → Timestamp) (report : WorkerStateReport)

/-- What a call has done. -/
inductive RegistryEvent where
  | registered (resourceId : SafeId)
  /-- An observation was accepted and stored. -/
  | accepted (observation : ResourceObservation)
  | rejected (error : RegistryError)
  deriving DecidableEq

namespace RegistryCall

/-- The call, from a state of the registry. -/
def run (s : ResourceRegistry) : RegistryCall → Except RegistryError Unit × ResourceRegistry
  | register registration => s.register registration
  | applySnapshot now snapshot => s.applySnapshot now snapshot
  | applyWorkerReport clock report => s.applyWorkerReport clock report

/-- The observations a call is given. -/
def observations : RegistryCall → List ResourceObservation
  | register _ => []
  | applySnapshot _ snapshot => [snapshot]
  | applyWorkerReport _ report => report.resources

/-- The registrations a call is given. -/
def registrations : RegistryCall → List ResourceRegistration
  | register registration => [registration]
  | applySnapshot _ _ | applyWorkerReport _ _ => []

/-- The checks of a call. -/
def Accepted (s : ResourceRegistry) : RegistryCall → Prop
  | register registration => s.registration? registration.identity.resourceId = none
  | applySnapshot now snapshot => s.Accepts now snapshot
  | applyWorkerReport clock report =>
    ∀ i snapshot, report.resources[i]? = some snapshot → s.Accepts (clock i) snapshot

/-- What a call whose checks pass has done. -/
def events (s : ResourceRegistry) (call : RegistryCall) : List RegistryEvent :=
  call.registrations.map (fun registration => .registered registration.identity.resourceId) ++
    call.observations.map fun snapshot => .accepted (s.canonical snapshot)

variable {s : ResourceRegistry} {call : RegistryCall}

/-- The observations of an accepted call are accepted. -/
theorem Accepted.accepts (h : call.Accepted s) {o : ResourceObservation}
    (ho : o ∈ call.observations) : ∃ now, s.Accepts now o := by
  cases call with
  | register => cases ho
  | applySnapshot now snapshot =>
    obtain rfl := List.mem_singleton.mp ho
    exact ⟨now, h⟩
  | applyWorkerReport clock report =>
    obtain ⟨i, hget⟩ := List.mem_iff_getElem?.mp ho
    exact ⟨clock i, h i o hget⟩

/-- The checks of a report pass together. -/
theorem returns_checks {clock : ℕ → Timestamp} {report : WorkerStateReport} :
    Returns (report.resources.zipIdx.mapM fun entry => s.checkedCanonical (clock entry.2) entry.1) ↔
      (applyWorkerReport clock report).Accepted s := by
  rw [returns_mapM]
  constructor
  · intro h i snapshot hget
    exact ResourceRegistry.accepts_iff.mpr
      (h (snapshot, i) (List.mem_zipIdx_iff_getElem?.mpr hget))
  · rintro h ⟨snapshot, i⟩ hmem
    exact ResourceRegistry.accepts_iff.mp (h i snapshot (List.mem_zipIdx_iff_getElem?.mp hmem))

/-- **A call whose checks pass** registers and stores all it is given. -/
theorem run_of_accepted (h : call.Accepted s) : ∃ s', call.run s = (.ok (), s') ∧
    s'.registrations = s.registrations ++ call.registrations ∧
    s'.observations = recordAll (·.identity.resourceId) s.observations
      (call.observations.map s.canonical) ∧
    s'.revision = s.revision + 1 := by
  cases call with
  | register registration =>
    have hnone := (s.registration?_eq_none).mp h
    exact ⟨_, dif_neg hnone, rfl, rfl, rfl⟩
  | applySnapshot now snapshot =>
    have hchecked := ResourceRegistry.checkedCanonical_of_accepts h
    refine ⟨{ s with
      observations := recordAll (·.identity.resourceId) s.observations [s.canonical snapshot]
      revision := s.revision + 1 }, ?_, (List.append_nil _).symm, rfl, rfl⟩
    show s.applySnapshot now snapshot = _
    unfold ResourceRegistry.applySnapshot
    rw [hchecked]
    rfl
  | applyWorkerReport clock report =>
    have hchecked : (report.resources.zipIdx.mapM fun entry =>
        s.checkedCanonical (clock entry.2) entry.1) =
          .ok (report.resources.zipIdx.map fun entry => s.canonical entry.1) := by
      apply mapM_eq_ok_map
      rintro ⟨snapshot, i⟩ hmem
      exact ResourceRegistry.checkedCanonical_of_accepts
        (h i snapshot (List.mem_zipIdx_iff_getElem?.mp hmem))
    have hmap : (report.resources.zipIdx.map fun entry => s.canonical entry.1) =
        report.resources.map s.canonical := by
      conv_rhs => rw [← List.zipIdx_map_fst 0 report.resources, List.map_map]
      rfl
    refine ⟨{ s with
      observations := recordAll (·.identity.resourceId) s.observations
        (report.resources.map s.canonical)
      revision := s.revision + 1 }, ?_, (List.append_nil _).symm, rfl, rfl⟩
    show s.applyWorkerReport clock report = _
    unfold ResourceRegistry.applyWorkerReport
    rw [hchecked, hmap]

/-- **A call one of whose checks fails** changes nothing. -/
theorem run_of_not_accepted (h : ¬ call.Accepted s) : ∃ e, call.run s = (.error e, s) := by
  cases call with
  | register registration =>
    have hsome : registration.identity.resourceId ∈
        s.registrations.map (·.identity.resourceId) :=
      not_not.mp ((not_congr (s.registration?_eq_none)).mp h)
    exact ⟨_, dif_pos hsome⟩
  | applySnapshot now snapshot =>
    cases hchecked : s.checkedCanonical now snapshot with
    | error e =>
      refine ⟨e, ?_⟩
      show s.applySnapshot now snapshot = _
      unfold ResourceRegistry.applySnapshot
      rw [hchecked]
    | ok stored => exact absurd (ResourceRegistry.accepts_iff.mpr ⟨stored, hchecked⟩) h
  | applyWorkerReport clock report =>
    cases hchecked : report.resources.zipIdx.mapM fun entry =>
        s.checkedCanonical (clock entry.2) entry.1 with
    | error e =>
      refine ⟨e, ?_⟩
      show s.applyWorkerReport clock report = _
      unfold ResourceRegistry.applyWorkerReport
      rw [hchecked]
    | ok canonical => exact absurd (returns_checks.mp ⟨canonical, hchecked⟩) h

/-- A call returns exactly when its checks pass. -/
theorem ok_iff : (call.run s).1 = .ok () ↔ call.Accepted s := by
  by_cases h : call.Accepted s
  · obtain ⟨s', hrun, -⟩ := run_of_accepted h
    simp [hrun, h]
  · obtain ⟨e, hrun⟩ := run_of_not_accepted h
    simp [hrun, h]

/-- A call raises exactly when one of its checks fails. -/
theorem raises_iff : (∃ e, (call.run s).1 = .error e) ↔ ¬ call.Accepted s := by
  rw [← ok_iff]
  cases (call.run s).1 <;> simp

/-- A call that raises leaves the registry as it was. -/
theorem run_of_raises {e : RegistryError} (h : (call.run s).1 = .error e) : (call.run s).2 = s := by
  obtain ⟨_, hrun⟩ := run_of_not_accepted (raises_iff.mp ⟨e, h⟩)
  rw [hrun]

end RegistryCall

/-- One call of the registry. -/
def ResourceRegistry.step (s : ResourceRegistry) (call : RegistryCall) :
    Option (ResourceRegistry × List RegistryEvent) :=
  match call.run s with
  | (.ok (), s') => some (s', call.events s)
  | (.error e, s') => some (s', [.rejected e])

/-- The registry as a machine. -/
def registryMachine : Machine ResourceRegistry RegistryCall RegistryEvent := ⟨ResourceRegistry.step⟩

/-- **What a call does**: all it is given, or nothing. -/
theorem ResourceRegistry.step_cases {s s' : ResourceRegistry} {call : RegistryCall}
    {events : List RegistryEvent} (h : s.step call = some (s', events)) :
    (call.Accepted s ∧ events = call.events s ∧
      s'.registrations = s.registrations ++ call.registrations ∧
      s'.observations = recordAll (·.identity.resourceId) s.observations
        (call.observations.map s.canonical)) ∨
    (¬ call.Accepted s ∧ s' = s ∧ ∃ e, events = [.rejected e]) := by
  unfold ResourceRegistry.step at h
  by_cases haccepted : call.Accepted s
  · obtain ⟨after, hrun, hregistrations, hobservations, -⟩ := call.run_of_accepted haccepted
    rw [hrun] at h
    obtain ⟨rfl, rfl⟩ := Prod.mk.inj (Option.some.inj h)
    exact .inl ⟨haccepted, rfl, hregistrations, hobservations⟩
  · obtain ⟨e, hrun⟩ := call.run_of_not_accepted haccepted
    rw [hrun] at h
    obtain ⟨rfl, rfl⟩ := Prod.mk.inj (Option.some.inj h)
    exact .inr ⟨haccepted, rfl, e, rfl⟩

end ScarcityRouter
