import ScarcityRouter.Lib.Groups
import ScarcityRouter.Registry.Observations

namespace ScarcityRouter

open ScarcityRouter.Lib

/-!
# Registry reads

`registry_snapshot` and `refresh_due` of `resource_state.py`, with the constructors that validate
what they build once more.

* `RegistryReadEntry`, `QuotaPoolGroup`, `RegistryRead` — the read records, each with its `make`.
* `Coherent` — the invariant of the store: an observation is held under the identity of a
  registration.
* `registry_reads` — **no state the calls allow makes a read fail**, and what a read says.
* `RegistryRead.toSnapshot` — the read as the routing core consumes it.
-/

/-! ### Read records -/

/-- One registry read entry: the registration, the observation and their evaluation. -/
structure RegistryReadEntry where
  identity : ResourceIdentity
  freshnessTtlSeconds : ℕ+
  pollIntervalSeconds : Option ℕ+
  capabilities : ExecutionCapabilities
  cost : Option ResourceCost
  observation : Option ResourceObservation
  freshness : Freshness
  refreshDue : Bool
  matching : observation.all (·.identity.observationKey = identity.observationKey) = true
  observed : observation = none ↔ freshness = .neverObserved
  deriving DecidableEq

/-- The administrator's part of an entry. -/
def RegistryReadEntry.registration (entry : RegistryReadEntry) : ResourceRegistration where
  identity := entry.identity
  freshnessTtlSeconds := entry.freshnessTtlSeconds
  pollIntervalSeconds := entry.pollIntervalSeconds
  capabilities := entry.capabilities
  cost := entry.cost

/-- `ResourceRegistryEntry.__post_init__`. -/
def RegistryReadEntry.make (registration : ResourceRegistration)
    (observation : Option ResourceObservation) (freshness : Freshness) (refreshDue : Bool) :
    Except RegistryError RegistryReadEntry :=
  if hmatching : observation.all
      (·.identity.observationKey = registration.identity.observationKey) = true then
    if hobserved : observation = none ↔ freshness = .neverObserved then
      .ok {
        identity := registration.identity
        freshnessTtlSeconds := registration.freshnessTtlSeconds
        pollIntervalSeconds := registration.pollIntervalSeconds
        capabilities := registration.capabilities
        cost := registration.cost
        observation, freshness, refreshDue
        matching := hmatching, observed := hobserved }
    else .error (.invalidRead (if observation = none then
      "registry_entry: a resource without observation must be 'never_observed'"
      else "registry_entry: an observed resource is never 'never_observed'"))
  else .error (.invalidRead ("registry_entry: observation identity for "
    ++ observation.elim "" (·.identity.resourceId.repr) ++ " does not match the entry identity "
    ++ registration.identity.resourceId.repr ++ "; cross-resource registry state fails closed"))

/-- `_v_sorted_unique`. -/
def checkSortedUnique (values : List SafeId) (label : String) : Except RegistryError Unit := do
  check (values = sortBy id values) (.invalidRead (label ++ ": must be deterministically sorted"))
  check values.Nodup (.invalidRead (label ++ ": duplicate values are not permitted"))

theorem checkSortedUnique_eq_ok {values : List SafeId} {label : String} {u : Unit} :
    checkSortedUnique values label = .ok u ↔ StrictlySorted values := by
  unfold checkSortedUnique
  rw [check_bind_eq_ok, check_eq_ok]
  constructor
  · rintro ⟨hsorted, hnodup⟩
    rw [hsorted]
    exact strictlySorted_sortBy_id hnodup
  · intro h
    exact ⟨(sortBy_eq_self (h.imp le_of_lt)).symm, h.nodup⟩

theorem checkSortedUnique_ok {values : List SafeId} (h : StrictlySorted values) (label : String) :
    checkSortedUnique values label = .ok () :=
  checkSortedUnique_eq_ok.mpr h

/-- One confirmed quota pool and the resources that draw from it. -/
structure QuotaPoolGroup where
  poolId : SafeId
  resourceIds : List SafeId
  sorted : StrictlySorted resourceIds
  nonempty : resourceIds ≠ []
  deriving DecidableEq

/-- `QuotaPoolGroup.__post_init__`. -/
def QuotaPoolGroup.make (poolId : SafeId) (resourceIds : List SafeId) :
    Except RegistryError QuotaPoolGroup :=
  match h : checkSortedUnique resourceIds "quota_pool_group.resource_ids" with
  | .error e => .error e
  | .ok _ =>
    if hne : resourceIds ≠ [] then .ok ⟨poolId, resourceIds, checkSortedUnique_eq_ok.mp h, hne⟩
    else .error (.invalidRead "quota_pool_group: a pool must have at least one member resource")

/-- The pools some identities confirm, each with the resources that name it. -/
def poolGroups (identities : List ResourceIdentity) : Except RegistryError (List QuotaPoolGroup) :=
  let members := groupPairs (identities.flatMap fun identity =>
    identity.quotaPoolIds.map fun poolId => (poolId, identity.resourceId))
  (sortBy (·.1) members).mapM fun group => QuotaPoolGroup.make group.1 (sortBy id group.2)

/-- One versioned read of the whole registry. -/
structure RegistryRead where
  revision : ℕ
  generatedAt : Timestamp
  entries : List RegistryReadEntry
  quotaPools : List QuotaPoolGroup
  sorted : StrictlySorted (entries.map (·.identity.resourceId))
  pools_sorted : StrictlySorted (quotaPools.map (·.poolId))
  /-- The pools are exactly the confirmed pools of the entries. -/
  pools_derived : poolGroups (entries.map (·.identity)) = .ok quotaPools

/-- `RegistrySnapshot.__post_init__`. -/
def RegistryRead.make (revision : ℕ) (generatedAt : Timestamp) (entries : List RegistryReadEntry)
    (quotaPools : List QuotaPoolGroup) : Except RegistryError RegistryRead :=
  match hsorted : checkSortedUnique (entries.map (·.identity.resourceId))
      "registry_snapshot.entries" with
  | .error e => .error e
  | .ok _ =>
    match hpools : checkSortedUnique (quotaPools.map (·.poolId)) "registry_snapshot.quota_pools" with
    | .error e => .error e
    | .ok _ =>
      match hderived : poolGroups (entries.map (·.identity)) with
      | .error e => .error e
      | .ok expected =>
        if h : expected = quotaPools then
          .ok {
            revision, generatedAt, entries, quotaPools
            sorted := checkSortedUnique_eq_ok.mp hsorted
            pools_sorted := checkSortedUnique_eq_ok.mp hpools
            pools_derived := by rw [hderived, h] }
        else .error (.invalidRead ("registry_snapshot.quota_pools: must be exactly the confirmed-"
          ++ "pool derivation of the entries"))

/-! ### Reads -/

namespace ResourceRegistry

variable (s : ResourceRegistry) (now : Timestamp)

/-- `sorted(self._registrations)`, with the registrations. -/
def sortedRegistrations : List ResourceRegistration :=
  sortBy (·.identity.resourceId) s.registrations

/-- The freshness of a registered resource. -/
def readFreshness (registration : ResourceRegistration) :
    Option ResourceObservation → Except RegistryError Freshness
  | none => .ok .neverObserved
  | some observation =>
    match classifyFreshness observation.observedAt now registration.freshnessTtlSeconds
        observation.windowResetInstants.min? with
    | some freshness => .ok freshness
    | none => .error (.futureDated registration.identity.resourceId observation.observedAt now)

/-- An observation is due: its age is a poll interval, or one of its windows has reset. -/
def observationDue (registration : ResourceRegistration) (pollIntervalSeconds : ℕ+)
    (observation : ResourceObservation) : Except RegistryError Bool :=
  if now < observation.observedAt then
    .error (.futureDated registration.identity.resourceId observation.observedAt now)
  else .ok (decide ((pollIntervalSeconds : ℤ) * 1000 ≤ now - observation.observedAt) ||
    observation.windowResetInstants.any (· ≤ now))

/-- `_entry_refresh_due`. -/
def entryRefreshDue (registration : ResourceRegistration)
    (observation : Option ResourceObservation) : Except RegistryError Bool :=
  match registration.pollIntervalSeconds with
  | none => .ok false
  | some pollIntervalSeconds =>
    match observation with
    | none => .ok true
    | some observation => observationDue now registration pollIntervalSeconds observation

/-- The body of the loop of `refresh_due`: the id, where the resource is due. -/
def dueResource (registration : ResourceRegistration) : Except RegistryError (Option SafeId) :=
  match registration.pollIntervalSeconds with
  | none => .ok none
  | some pollIntervalSeconds =>
    match s.observations registration.identity.resourceId with
    | none => .ok (some registration.identity.resourceId)
    | some observation => do
      let isDue ← observationDue now registration pollIntervalSeconds observation
      return if isDue then some registration.identity.resourceId else none

/-- `refresh_due`. -/
def refreshDue : Except RegistryError (List SafeId) := do
  let due ← s.sortedRegistrations.mapM (s.dueResource now)
  return due.reduceOption

/-- One entry of a read. -/
def readEntry (registration : ResourceRegistration) : Except RegistryError RegistryReadEntry := do
  let observation := s.observations registration.identity.resourceId
  let freshness ← readFreshness now registration observation
  let refreshDue ← entryRefreshDue now registration observation
  RegistryReadEntry.make registration observation freshness refreshDue

/-- `registry_snapshot`. -/
def registrySnapshot : Except RegistryError RegistryRead := do
  let entries ← s.sortedRegistrations.mapM (s.readEntry now)
  let pools ← poolGroups (s.sortedRegistrations.map (·.identity))
  RegistryRead.make s.revision now entries pools

end ResourceRegistry

/-! ### What the constructors accept -/

theorem RegistryReadEntry.make_eq_ok {registration : ResourceRegistration}
    {observation : Option ResourceObservation} {freshness : Freshness} {refreshDue : Bool}
    {entry : RegistryReadEntry} :
    RegistryReadEntry.make registration observation freshness refreshDue = .ok entry →
      entry.registration = registration ∧ entry.observation = observation ∧
        entry.freshness = freshness ∧ entry.refreshDue = refreshDue := by
  unfold make
  split_ifs
  · intro h
    obtain rfl := Except.ok.inj h
    exact ⟨rfl, rfl, rfl, rfl⟩
  all_goals exact nofun

theorem RegistryReadEntry.returns_make {registration : ResourceRegistration}
    {observation : Option ResourceObservation} {freshness : Freshness} {refreshDue : Bool}
    (hmatching : ∀ o, observation = some o → o.identity = registration.identity)
    (hobserved : observation = none ↔ freshness = .neverObserved) :
    Returns (RegistryReadEntry.make registration observation freshness refreshDue) := by
  have hall : observation.all
      (·.identity.observationKey = registration.identity.observationKey) = true := by
    rw [Option.all_eq_true]
    intro o ho
    rw [hmatching o ho]
    exact decide_eq_true rfl
  unfold make
  rw [dif_pos hall, dif_pos hobserved]
  exact returns_ok _

theorem QuotaPoolGroup.make_eq_ok {poolId : SafeId} {resourceIds : List SafeId}
    {group : QuotaPoolGroup} : QuotaPoolGroup.make poolId resourceIds = .ok group →
      group.poolId = poolId ∧ group.resourceIds = resourceIds := by
  unfold make
  split
  · exact nofun
  · split_ifs
    · intro h
      obtain rfl := Except.ok.inj h
      exact ⟨rfl, rfl⟩
    · exact nofun

theorem QuotaPoolGroup.returns_make {poolId : SafeId} {resourceIds : List SafeId}
    (hsorted : StrictlySorted resourceIds) (hne : resourceIds ≠ []) :
    Returns (QuotaPoolGroup.make poolId resourceIds) := by
  unfold make
  split
  · rename_i e h
    rw [checkSortedUnique_ok hsorted] at h
    cases h
  · rw [dif_pos hne]
    exact returns_ok _

/-- The confirmed pools are checked once more, and never rejected. -/
theorem RegistryRead.make_eq_ok {revision : ℕ} {generatedAt : Timestamp}
    {entries : List RegistryReadEntry} {quotaPools : List QuotaPoolGroup}
    (hsorted : StrictlySorted (entries.map (·.identity.resourceId)))
    (hpools : StrictlySorted (quotaPools.map (·.poolId)))
    (hderived : poolGroups (entries.map (·.identity)) = .ok quotaPools) :
    RegistryRead.make revision generatedAt entries quotaPools =
      .ok ⟨revision, generatedAt, entries, quotaPools, hsorted, hpools, hderived⟩ := by
  unfold make
  split
  · rename_i h
    rw [checkSortedUnique_ok hsorted] at h
    cases h
  · split
    · rename_i h
      rw [checkSortedUnique_ok hpools] at h
      cases h
    · split
      · rename_i h
        rw [hderived] at h
        cases h
      · rename_i expected h
        rw [hderived] at h
        exact dif_pos (Except.ok.inj h).symm

/-- A read has the entries and the pools it is made of. -/
theorem RegistryRead.entries_of_make {revision : ℕ} {generatedAt : Timestamp}
    {entries : List RegistryReadEntry} {quotaPools : List QuotaPoolGroup} {read : RegistryRead}
    (h : RegistryRead.make revision generatedAt entries quotaPools = .ok read) :
    read.entries = entries := by
  unfold make at h
  split at h
  · cases h
  · split at h
    · cases h
    · split at h
      · cases h
      · split_ifs at h
        rw [← Except.ok.inj h]

/-! ### Pools -/

/-- The pool names of one identity. -/
private theorem valuesOf_pools {identity : ResourceIdentity} {poolId : SafeId} :
    valuesOf (identity.quotaPoolIds.map fun pool => (pool, identity.resourceId)) poolId =
      if poolId ∈ identity.quotaPoolIds then [identity.resourceId] else [] := by
  unfold valuesOf
  rw [List.filter_map, List.map_map]
  split_ifs with hmem
  · have hone : identity.quotaPoolIds.filter
        ((fun pair : SafeId × SafeId => decide (pair.1 = poolId)) ∘
          fun pool => (pool, identity.resourceId)) = [poolId] := by
      refine filter_eq_singleton (StrictlySorted.nodup identity.pools_sorted) hmem ?_ ?_
      · exact decide_eq_true rfl
      · intro pool _ hpool
        exact of_decide_eq_true hpool
    rw [hone]
    rfl
  · rw [List.filter_eq_nil_iff.mpr, List.map_nil]
    intro pool hpool heq
    exact hmem (of_decide_eq_true heq ▸ hpool)

/-- The resources of a pool are those that name it. -/
theorem valuesOf_flatMap_pools {identities : List ResourceIdentity} {poolId : SafeId} :
    valuesOf (identities.flatMap fun identity =>
      identity.quotaPoolIds.map fun pool => (pool, identity.resourceId)) poolId =
      (identities.filter (poolId ∈ ·.quotaPoolIds)).map (·.resourceId) := by
  induction identities with
  | nil => rfl
  | cons identity identities ih =>
    rw [List.flatMap_cons]
    have happend : ∀ xs ys : List (SafeId × SafeId),
        valuesOf (xs ++ ys) poolId = valuesOf xs poolId ++ valuesOf ys poolId := by
      intro xs ys
      unfold valuesOf
      rw [List.filter_append, List.map_append]
    rw [happend, ih, valuesOf_pools, List.filter_cons]
    by_cases h : poolId ∈ identity.quotaPoolIds <;> simp [h]

/-- **The pools of some resources**: each pool one of them names, with the resources that name
    it. -/
theorem poolGroups_eq_ok {identities : List ResourceIdentity}
    (hdistinct : (identities.map (·.resourceId)).Nodup) :
    ∃ groups, poolGroups identities = .ok groups ∧ StrictlySorted (groups.map (·.poolId)) ∧
      (∀ poolId, poolId ∈ groups.map (·.poolId) ↔ ∃ i ∈ identities, poolId ∈ i.quotaPoolIds) ∧
      ∀ group ∈ groups, ∀ resourceId, resourceId ∈ group.resourceIds ↔
        ∃ i ∈ identities, i.resourceId = resourceId ∧ group.poolId ∈ i.quotaPoolIds := by
  unfold poolGroups
  dsimp only
  generalize hpairs : (identities.flatMap fun identity =>
    identity.quotaPoolIds.map fun poolId => (poolId, identity.resourceId)) = pairs
  have hvalues : ∀ poolId, valuesOf pairs poolId =
      (identities.filter (poolId ∈ ·.quotaPoolIds)).map (·.resourceId) := by
    intro poolId
    rw [← hpairs]
    exact valuesOf_flatMap_pools
  have hkeys : ∀ poolId, poolId ∈ pairs.map (·.1) ↔ ∃ i ∈ identities, poolId ∈ i.quotaPoolIds := by
    intro poolId
    rw [← hpairs]
    simp
  have hreturns : Returns ((sortBy (·.1) (groupPairs pairs)).mapM fun group =>
      QuotaPoolGroup.make group.1 (sortBy id group.2)) := by
    refine returns_mapM.mpr fun group hgroup => ?_
    obtain ⟨hkey, hmembers⟩ := mem_groupPairs.mp (mem_sortBy.mp hgroup)
    apply QuotaPoolGroup.returns_make
    · -- The resource ids are distinct, and so are those of a pool.
      apply strictlySorted_sortBy_id
      rw [hmembers, hvalues]
      exact hdistinct.sublist (List.filter_sublist.map _)
    · obtain ⟨i, hi, hpool⟩ := (hkeys _).mp hkey
      rw [ne_eq, sortBy_eq_nil, hmembers, hvalues, List.map_eq_nil_iff, List.filter_eq_nil_iff]
      intro hnone
      exact hnone i hi (decide_eq_true hpool)
  obtain ⟨groups, hgroups⟩ := hreturns
  have hids : groups.map (·.poolId) = (sortBy (·.1) (groupPairs pairs)).map (·.1) :=
    map_eq_of_mapM hgroups fun _ _ hmake => (QuotaPoolGroup.make_eq_ok hmake).1
  refine ⟨groups, hgroups, ?_, fun poolId => ?_, fun group hgroup resourceId => ?_⟩
  · rw [hids]
    exact List.pairwise_map.mpr (pairwise_lt_sortBy nodup_keys_groupPairs)
  · rw [hids, ((sortBy_perm _ _).map _).mem_iff, mem_keys_groupPairs]
    exact hkeys poolId
  · obtain ⟨⟨poolId, members⟩, hmem, hmake⟩ := exists_of_mem_mapM hgroups hgroup
    obtain ⟨hpoolId, hresourceIds⟩ := QuotaPoolGroup.make_eq_ok hmake
    obtain ⟨-, hmembers⟩ := mem_groupPairs.mp (mem_sortBy.mp hmem)
    rw [hpoolId, hresourceIds, mem_sortBy, hmembers, hvalues, List.mem_map]
    simp only [List.mem_filter, decide_eq_true_eq]
    constructor
    · rintro ⟨i, ⟨hi, hpool⟩, hid⟩
      exact ⟨i, hi, hid, hpool⟩
    · rintro ⟨i, hi, hid, hpool⟩
      exact ⟨i, ⟨hi, hpool⟩, hid⟩

/-! ### The store between calls -/

/-- **What every call keeps**: an observation is held under the id and the identity of a
    registration. -/
def Coherent (s : ResourceRegistry) : Prop :=
  ∀ resourceId o, s.observations resourceId = some o → ∃ registration ∈ s.registrations,
    registration.identity.resourceId = resourceId ∧ o.identity = registration.identity

section Runs

variable {s s' : ResourceRegistry} {log log' events : List RegistryEvent} {call : RegistryCall}
  {allowed : ResourceRegistry → RegistryCall → Prop}

/-- A call only adds registrations. -/
theorem ResourceRegistry.step_registrations (h : s.step call = some (s', events)) :
    ∀ registration ∈ s.registrations, registration ∈ s'.registrations := by
  intro registration hmem
  rcases ResourceRegistry.step_cases h with ⟨-, -, hregistrations, -⟩ | ⟨-, rfl, -⟩
  · rw [hregistrations]
    exact List.mem_append_left _ hmem
  · exact hmem

/-- A run only adds registrations. -/
theorem registrations_of_run (run : registryMachine.Run allowed s s' log) :
    ∀ registration ∈ s.registrations, registration ∈ s'.registrations := by
  refine @Machine.Run.invariant _ _ _ _ _ _ _ _
    (fun s' _ => ∀ registration ∈ s.registrations, registration ∈ s'.registrations) ?_ ?_ run
  · exact fun _ hmem => hmem
  · intro s₁ s₂ _ _ _ _ hkept _ hstep registration hmem
    exact ResourceRegistry.step_registrations hstep registration (hkept registration hmem)

/-- One call keeps the store coherent. -/
theorem Coherent.step (hs : Coherent s) (h : s.step call = some (s', events)) : Coherent s' := by
  intro resourceId o ho
  have hkept := ResourceRegistry.step_registrations h
  rcases ResourceRegistry.step_cases h with ⟨haccepted, -, -, hobservations⟩ | ⟨-, rfl, -⟩
  · rw [hobservations] at ho
    rcases recordAll_eq_some ho with ⟨hmem, hid⟩ | hold
    · obtain ⟨snapshot, hsnapshot, rfl⟩ := List.mem_map.mp hmem
      obtain ⟨now, haccepts⟩ := haccepted.accepts hsnapshot
      obtain ⟨registration, hregistration, hsame, hidentity⟩ :=
        ResourceRegistry.canonical_of_accepts haccepts
      refine ⟨registration, hkept _ hregistration, ?_, hidentity⟩
      rw [hsame, ← hid, ResourceRegistry.canonical_resourceId]
    · obtain ⟨registration, hregistration, hrest⟩ := hs resourceId o hold
      exact ⟨registration, hkept _ hregistration, hrest⟩
  · exact hs resourceId o ho

/-- Every reachable store is coherent. -/
theorem coherent_of_run (run : registryMachine.Run allowed {} s log) : Coherent s := by
  refine @Machine.Run.invariant _ _ _ _ _ _ _ _ (fun s _ => Coherent s) ?_ ?_ run
  · intro resourceId o ho
    cases ho
  · intro s s' _ _ _ _ hs _ hstep
    exact hs.step hstep

/-- The observation held for a registration is one of its resource. -/
theorem Coherent.identity_eq (hs : Coherent s) {registration : ResourceRegistration}
    (hmem : registration ∈ s.registrations) {o : ResourceObservation}
    (ho : s.observations registration.identity.resourceId = some o) :
    o.identity = registration.identity := by
  obtain ⟨other, hother, hid, hidentity⟩ := hs _ _ ho
  rw [hidentity, List.inj_on_of_nodup_map s.distinct hother hmem hid]

end Runs

/-! ### What a read says -/

namespace ResourceRegistry

variable {s : ResourceRegistry} {now later : Timestamp} {registration : ResourceRegistration}
  {observation : Option ResourceObservation} {entry : RegistryReadEntry}

/-- What an entry of a read is made of. -/
theorem readEntry_eq_ok (h : s.readEntry now registration = .ok entry) :
    entry.registration = registration ∧
      entry.observation = s.observations registration.identity.resourceId ∧
      readFreshness now registration (s.observations registration.identity.resourceId) =
        .ok entry.freshness ∧
      entryRefreshDue now registration (s.observations registration.identity.resourceId) =
        .ok entry.refreshDue := by
  obtain ⟨freshness, hfreshness, h⟩ := bind_eq_ok.mp h
  obtain ⟨due, hdue, h⟩ := bind_eq_ok.mp h
  obtain ⟨hregistration, hobservation, rfl, rfl⟩ := RegistryReadEntry.make_eq_ok h
  exact ⟨hregistration, hobservation, hfreshness, hdue⟩

/-- The freshness of an observation that is not dated after the read. -/
theorem readFreshness_eq_ok (hnow : ∀ o, observation = some o → o.observedAt ≤ now) :
    ∃ freshness, readFreshness now registration observation = .ok freshness ∧
      (observation = none ↔ freshness = .neverObserved) := by
  cases observation with
  | none => exact ⟨.neverObserved, rfl, by simp⟩
  | some o =>
    unfold readFreshness classifyFreshness
    simp only [not_lt.mpr (hnow o rfl), if_false]
    split_ifs <;> exact ⟨_, rfl, by simp⟩

/-- Whether an observation that is not dated after the read is due. -/
theorem returns_entryRefreshDue (hnow : ∀ o, observation = some o → o.observedAt ≤ now) :
    Returns (entryRefreshDue now registration observation) := by
  unfold entryRefreshDue
  cases registration.pollIntervalSeconds with
  | none => exact returns_ok _
  | some poll =>
    cases observation with
    | none => exact returns_ok _
    | some o =>
      have hdated : ¬ now < o.observedAt := not_lt.mpr (hnow o rfl)
      exact ⟨_, if_neg hdated⟩

/-- Past its TTL or a reset, an observation stays so. -/
theorem classifyFreshness_mono {observedAt : Timestamp} {ttl : ℕ+} {reset : Option Timestamp}
    (hle : now ≤ later) (h : classifyFreshness observedAt now ttl reset = some .stale) :
    classifyFreshness observedAt later ttl reset = some .stale := by
  unfold classifyFreshness at h ⊢
  split_ifs at h with hfuture hold hreset
  · have hpast : ¬ later < observedAt := not_lt.mpr ((not_lt.mp hfuture).trans hle)
    have hage : (ttl : ℤ) * 1000 < later - observedAt := hold.trans_le (sub_le_sub_right hle _)
    rw [if_neg hpast, if_pos hage]
  · have hpast : ¬ later < observedAt := not_lt.mpr ((not_lt.mp hfuture).trans hle)
    have hlater : reset.any (· ≤ later) = true := by
      cases reset with
      | none => cases hreset
      | some instant => exact decide_eq_true ((of_decide_eq_true hreset).trans hle)
    rw [if_neg hpast, if_pos hlater]
    split_ifs <;> rfl
  · cases h

/-- Stale stays stale. -/
theorem readFreshness_stale (hle : now ≤ later) {freshness : Freshness}
    (h : readFreshness now registration observation = .ok .stale)
    (hlater : readFreshness later registration observation = .ok freshness) :
    freshness = .stale := by
  cases observation with
  | none => cases h
  | some o =>
    unfold readFreshness at h hlater
    dsimp only at h hlater
    cases hnow : classifyFreshness o.observedAt now registration.freshnessTtlSeconds
        o.windowResetInstants.min? with
    | none =>
      rw [hnow] at h
      cases h
    | some earlier =>
      rw [hnow] at h
      obtain rfl := Except.ok.inj h
      rw [classifyFreshness_mono hle hnow] at hlater
      exact (Except.ok.inj hlater).symm

/-- Due stays due. -/
theorem observationDue_mono {poll : ℕ+} {o : ResourceObservation} (hle : now ≤ later) {due : Bool}
    (h : observationDue now registration poll o = .ok true)
    (hlater : observationDue later registration poll o = .ok due) : due = true := by
  unfold observationDue at h hlater
  split_ifs at h hlater
  rw [← Except.ok.inj hlater]
  rcases Bool.or_eq_true _ _ |>.mp (Except.ok.inj h) with hage | hreset
  · have hlate : (poll : ℤ) * 1000 ≤ later - o.observedAt :=
      (of_decide_eq_true hage).trans (sub_le_sub_right hle _)
    rw [decide_eq_true hlate, Bool.true_or]
  · have hlate : o.windowResetInstants.any (· ≤ later) = true := by
      obtain ⟨instant, hinstant, hle'⟩ := List.any_eq_true.mp hreset
      exact List.any_eq_true.mpr
        ⟨instant, hinstant, decide_eq_true ((of_decide_eq_true hle').trans hle)⟩
    rw [hlate, Bool.or_true]

/-- An entry that is due stays due. -/
theorem entryRefreshDue_mono (hle : now ≤ later) {due : Bool}
    (h : entryRefreshDue now registration observation = .ok true)
    (hlater : entryRefreshDue later registration observation = .ok due) : due = true := by
  unfold entryRefreshDue at h hlater
  cases hpoll : registration.pollIntervalSeconds with
  | none =>
    rw [hpoll] at h
    cases h
  | some poll =>
    rw [hpoll] at h hlater
    cases observation with
    | none => exact (Except.ok.inj hlater).symm
    | some o => exact observationDue_mono hle h hlater

/-- Of a coherent store, no entry of a read raises. -/
theorem returns_readEntry (hs : Coherent s)
    (hnow : ∀ resourceId o, s.observations resourceId = some o → o.observedAt ≤ now)
    (hmem : registration ∈ s.registrations) : Returns (s.readEntry now registration) := by
  have hdated := hnow registration.identity.resourceId
  obtain ⟨freshness, hfreshness, hobserved⟩ : ∃ freshness,
      readFreshness now registration (s.observations registration.identity.resourceId) =
        .ok freshness ∧ _ := readFreshness_eq_ok hdated
  obtain ⟨due, hdue⟩ : Returns (entryRefreshDue now registration _) := returns_entryRefreshDue hdated
  unfold readEntry
  simp only [hfreshness, hdue, ok_bind]
  exact RegistryReadEntry.returns_make (fun o ho => hs.identity_eq hmem ho) hobserved

/-- The loop of `refresh_due` decides as the entry of a read is flagged. -/
theorem dueResource_eq_map :
    s.dueResource now registration =
      (fun due => if due then some registration.identity.resourceId else none) <$>
        entryRefreshDue now registration
          (s.observations registration.identity.resourceId) := by
  unfold dueResource entryRefreshDue
  cases registration.pollIntervalSeconds with
  | none => rfl
  | some poll =>
    cases s.observations registration.identity.resourceId with
    | none => rfl
    | some o => cases observationDue now registration poll o <;> rfl

/-- The due resources are those whose entry is flagged. -/
theorem refreshDue_eq_ok {entries : List RegistryReadEntry}
    (h : s.sortedRegistrations.mapM (s.readEntry now) = .ok entries) :
    s.refreshDue now =
      .ok ((entries.filter (·.refreshDue)).map (·.identity.resourceId)) := by
  have hdue : s.sortedRegistrations.mapM (s.dueResource now) =
      .ok (entries.map fun entry =>
        if entry.refreshDue then some entry.identity.resourceId else none) := by
    rw [mapM_eq_ok, List.forall₂_map_right_iff]
    refine (mapM_eq_ok.mp h).imp fun registration entry hentry => ?_
    obtain ⟨rfl, -, -, hentryDue⟩ := readEntry_eq_ok hentry
    rw [dueResource_eq_map, hentryDue]
    rfl
  have hreduce : ∀ entries : List RegistryReadEntry,
      (entries.map fun entry =>
        if entry.refreshDue then some entry.identity.resourceId else none).reduceOption =
      (entries.filter (·.refreshDue)).map (·.identity.resourceId) := by
    intro entries
    induction entries with
    | nil => rfl
    | cons entry entries ih =>
      rw [List.map_cons, List.filter_cons]
      cases entry.refreshDue with
      | true => exact congrArg _ ih
      | false => exact ih
  unfold refreshDue
  rw [hdue, ok_bind, hreduce]
  rfl

/-- The entries of a read are those of its registrations. -/
theorem mapM_readEntry_of_registrySnapshot {read : RegistryRead}
    (h : s.registrySnapshot now = .ok read) :
    s.sortedRegistrations.mapM (s.readEntry now) = .ok read.entries := by
  obtain ⟨entries, hentries, h⟩ := bind_eq_ok.mp h
  obtain ⟨pools, -, h⟩ := bind_eq_ok.mp h
  rw [hentries, RegistryRead.entries_of_make h]

/-- The resource ids of the registrations, in order. -/
theorem strictlySorted_sortedRegistrations :
    StrictlySorted ((s.sortedRegistrations.map (·.identity)).map (·.resourceId)) := by
  rw [List.map_map]
  exact List.pairwise_map.mpr (pairwise_lt_sortBy s.distinct)

/-- **The read of a coherent store**, at an instant that is not before its observations. -/
theorem registrySnapshot_eq_ok (hs : Coherent s)
    (hnow : ∀ resourceId o, s.observations resourceId = some o → o.observedAt ≤ now) :
    ∃ read, s.registrySnapshot now = .ok read ∧
      s.sortedRegistrations.mapM (s.readEntry now) = .ok read.entries ∧
      poolGroups (s.sortedRegistrations.map (·.identity)) = .ok read.quotaPools ∧
      read.revision = s.revision ∧ read.generatedAt = now := by
  have hreturns : Returns (s.sortedRegistrations.mapM (s.readEntry now)) :=
    returns_mapM.mpr fun registration hmem => returns_readEntry hs hnow (mem_sortBy.mp hmem)
  obtain ⟨entries, hentries⟩ := hreturns
  have hidentities : entries.map (·.identity) = s.sortedRegistrations.map (·.identity) := by
    refine map_eq_of_mapM hentries fun registration entry hentry => ?_
    rw [← (readEntry_eq_ok hentry).1]
    rfl
  have hids := s.strictlySorted_sortedRegistrations
  obtain ⟨pools, hpools, hpoolsSorted, -⟩ := poolGroups_eq_ok hids.nodup
  have hentriesSorted : StrictlySorted (entries.map (·.identity.resourceId)) := by
    have hmap : entries.map (·.identity.resourceId) =
        (entries.map (·.identity)).map (·.resourceId) := by
      rw [List.map_map]
      rfl
    rw [hmap, hidentities]
    exact hids
  have hderived : poolGroups (entries.map (·.identity)) = .ok pools := by
    rw [hidentities]
    exact hpools
  refine ⟨⟨s.revision, now, entries, pools, hentriesSorted, hpoolsSorted, hderived⟩, ?_, hentries,
    hpools, rfl, rfl⟩
  unfold registrySnapshot
  rw [hentries, ok_bind, hpools, ok_bind]
  exact RegistryRead.make_eq_ok hentriesSorted hpoolsSorted hderived

end ResourceRegistry

/-- What a read says of the registry. -/
structure ReadOf (s : ResourceRegistry) (now : Timestamp) (read : RegistryRead) : Prop where
  revision : read.revision = s.revision
  generatedAt : read.generatedAt = now
  /-- The administrator's part of every entry is its registration. -/
  registrations : read.entries.map (·.registration) = s.sortedRegistrations
  observations : ∀ entry ∈ read.entries,
    entry.observation = s.observations entry.identity.resourceId
  identities : ∀ entry ∈ read.entries, ∀ o, entry.observation = some o →
    o.identity = entry.identity
  pools : ∀ poolId, poolId ∈ read.quotaPools.map (·.poolId) ↔
    ∃ r ∈ s.registrations, poolId ∈ r.identity.quotaPoolIds
  members : ∀ pool ∈ read.quotaPools, ∀ resourceId, resourceId ∈ pool.resourceIds ↔
    ∃ r ∈ s.registrations, r.identity.resourceId = resourceId ∧
      pool.poolId ∈ r.identity.quotaPoolIds
  due : s.refreshDue now =
    .ok ((read.entries.filter (·.refreshDue)).map (·.identity.resourceId))

/-- What an entry of a later read keeps while no new observation of its resource is accepted. -/
structure StaysDue (earlier later : RegistryReadEntry) : Prop where
  registration : later.registration = earlier.registration
  stale : later.observation = earlier.observation → earlier.freshness = .stale →
    later.freshness = .stale
  due : later.observation = earlier.observation → earlier.refreshDue = true →
    later.refreshDue = true

/-- **No state the calls allow makes a read fail**: at every instant that is not before the stored
    observations the read succeeds, its entries repeat the registrations, its pools are theirs, the
    due resources are the flagged ones, and later reads keep what was stale or due. -/
theorem registry_reads {s : ResourceRegistry} {log : List RegistryEvent}
    (run : registryMachine.Run (fun _ _ => True) {} s log) (now : Timestamp)
    (hnow : ∀ resourceId o, s.observations resourceId = some o → o.observedAt ≤ now) :
    ∃ read, s.registrySnapshot now = .ok read ∧ ReadOf s now read ∧
      ∀ s' log', registryMachine.Run (fun _ _ => True) s s' log' → ∀ later, now ≤ later →
        ∀ read', s'.registrySnapshot later = .ok read' →
          ∀ entry ∈ read.entries, ∃ entry' ∈ read'.entries, StaysDue entry entry' := by
  have hs := coherent_of_run run
  obtain ⟨read, hread, hentries, hpools, hrevision, hgenerated⟩ :=
    ResourceRegistry.registrySnapshot_eq_ok hs hnow
  refine ⟨read, hread, ?_, ?_⟩
  · obtain ⟨pools, hpools', -, hnames, hmembers⟩ :=
      poolGroups_eq_ok s.strictlySorted_sortedRegistrations.nodup
    obtain rfl := Except.ok.inj (hpools.symm.trans hpools')
    have hmem : ∀ P : ResourceIdentity → Prop,
        (∃ i ∈ s.sortedRegistrations.map (·.identity), P i) ↔ ∃ r ∈ s.registrations, P r.identity := by
      intro P
      simp [ResourceRegistry.sortedRegistrations]
    refine ⟨hrevision, hgenerated, ?_, fun entry hentry => ?_, fun entry hentry o ho => ?_,
      fun poolId => ?_, fun pool hpool resourceId => ?_,
      ResourceRegistry.refreshDue_eq_ok hentries⟩
    · have hmap : read.entries.map (·.registration) = s.sortedRegistrations.map id :=
        map_eq_of_mapM hentries fun _ _ hentry => (ResourceRegistry.readEntry_eq_ok hentry).1
      rw [hmap, List.map_id]
    · obtain ⟨registration, -, hread'⟩ := exists_of_mem_mapM hentries hentry
      obtain ⟨rfl, hobservation, -, -⟩ := ResourceRegistry.readEntry_eq_ok hread'
      exact hobservation
    · obtain ⟨registration, hregistration, hread'⟩ := exists_of_mem_mapM hentries hentry
      obtain ⟨rfl, hobservation, -, -⟩ := ResourceRegistry.readEntry_eq_ok hread'
      rw [hobservation] at ho
      exact hs.identity_eq (mem_sortBy.mp hregistration) ho
    · rw [hnames]
      exact hmem (poolId ∈ ·.quotaPoolIds)
    · rw [hmembers pool hpool]
      exact hmem fun i => i.resourceId = resourceId ∧ pool.poolId ∈ i.quotaPoolIds
  · intro s' log' run' later hle read' hread' entry hentry
    obtain ⟨registration, hregistration, hearlier⟩ := exists_of_mem_mapM hentries hentry
    have hkept : registration ∈ s'.sortedRegistrations :=
      mem_sortBy.mpr (registrations_of_run run' _ (mem_sortBy.mp hregistration))
    obtain ⟨entry', hentry', hlater⟩ :=
      exists_mem_of_mapM (ResourceRegistry.mapM_readEntry_of_registrySnapshot hread') hkept
    obtain ⟨hsame, hobservation, hfreshness, hdue⟩ := ResourceRegistry.readEntry_eq_ok hearlier
    obtain ⟨hsame', hobservation', hfreshness', hdue'⟩ := ResourceRegistry.readEntry_eq_ok hlater
    refine ⟨entry', hentry', hsame'.trans hsame.symm, fun hkeeps hstale => ?_,
      fun hkeeps hflag => ?_⟩
    · rw [hobservation, hobservation'] at hkeeps
      rw [hstale] at hfreshness
      rw [hkeeps] at hfreshness'
      exact ResourceRegistry.readFreshness_stale hle hfreshness hfreshness'
    · rw [hobservation, hobservation'] at hkeeps
      rw [hflag] at hdue
      rw [hkeeps] at hdue'
      exact ResourceRegistry.entryRefreshDue_mono hle hdue hdue'

/-- The registry with one resource and two observations of it. -/
theorem registry_reads_atlas : ∃ s read, s.registrySnapshot 30 = .ok read ∧ ReadOf s 30 read := by
  obtain ⟨s, -, run⟩ := registryMachine.exists_run_of_exec (fun _ _ => true) {}
    (atlasCalls 5 10) (show _ = some [RegistryEvent.registered (.lit "acme-http"),
      .accepted (atlasAt 5), .accepted (atlasAt 10)] by decide +kernel)
  have hnow : ∀ resourceId o, s.observations resourceId = some o → o.observedAt ≤ 30 := by
    intro resourceId o ho
    rw [recorded_of_run run] at ho
    have hmem : o ∈ [atlasAt 5, atlasAt 10] := (mem_of_lastWrite ho).1
    rcases List.mem_pair.mp hmem with rfl | rfl <;> decide
  obtain ⟨read, hread, hof, -⟩ := registry_reads (run.mono fun _ _ _ => trivial) 30 hnow
  exact ⟨s, read, hread, hof⟩

/-! ### The routing core's view -/

/-- The entry as the routing core reads it: without the polling cadence, and with the observation
    under the entry's identity. -/
def RegistryReadEntry.toEntry (entry : RegistryReadEntry) : ResourceRegistryEntry where
  identity := entry.identity
  freshnessTtlSeconds := entry.freshnessTtlSeconds
  capabilities := entry.capabilities
  cost := entry.cost
  observation := entry.observation.map (·.toResourceStateSnapshot)
  freshness := entry.freshness
  observed := by
    rw [Option.map_eq_none_iff]
    exact entry.observed

/-- The read as the routing core consumes it. -/
def RegistryRead.toSnapshot (read : RegistryRead) : RegistrySnapshot where
  revision := read.revision
  generatedAt := read.generatedAt
  entries := read.entries.map RegistryReadEntry.toEntry
  sorted := List.pairwise_map.mpr (List.pairwise_map.mp read.sorted)

end ScarcityRouter
