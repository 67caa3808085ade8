import ScarcityRouter.Routing.RuntimeSpec

namespace ScarcityRouter

open ScarcityRouter.Lib

/-!
# What a route decision establishes

* `RouteInputs.Serves`, `RouteInputs.Routable` — a resource qualifies for a model; the pins of the
  request name both.  `mem_routable_iff` says that these are the models a request ranks.
* `Ranked` — what both branches establish of their ranking.
* `routeCore_returns_iff` — when a request has a decision.
* `RouteDecision.Offers`, `offer_spec` — what every offered target satisfies.
-/

namespace RouteInputs

variable {i : RouteInputs} {requirement : TaskRequirement}

/-! ### Gates of the registry -/

@[simp] theorem routeGate_entry (entry : ResourceRegistryEntry) :
    (i.routeGate requirement entry).entry = expireContext entry i.evaluatedAt := rfl

/-- The registry read is in resource-id order already. -/
theorem routeGates_eq_map : i.routeGates requirement =
    i.registrySnapshot.entries.map (i.routeGate requirement) := by
  unfold routeGates
  refine sortBy_eq_self (List.pairwise_map.mpr (i.registrySnapshot.sorted.imp fun hlt => ?_))
  simp only [routeGate_entry, expireContext_identity]
  exact le_of_lt hlt

theorem mem_routeGates {gate : ResourceGate} : gate ∈ i.routeGates requirement ↔
    ∃ entry ∈ i.registrySnapshot.entries, i.routeGate requirement entry = gate := by
  rw [routeGates_eq_map, List.mem_map]

/-- The identities a qualified gate retains. -/
theorem routeGate_boundIdentities {entry : ResourceRegistryEntry}
    (h : (i.routeGate requirement entry).failure = none) :
    (i.routeGate requirement entry).boundIdentities =
      (i.routeGateInputs requirement entry.identity).servedIdentities
        (expireContext entry i.evaluatedAt) :=
  GateInputs.runStages_fst_of_none h

/-- A registered resource qualifies for a model. -/
structure Serves (i : RouteInputs) (requirement : TaskRequirement)
    (entry : ResourceRegistryEntry) (identity : ModelIdentity) : Prop where
  registered : entry ∈ i.registrySnapshot.entries
  qualified : (i.routeGate requirement entry).failure = none
  retained : identity ∈ (i.routeGate requirement entry).boundIdentities

namespace Serves

variable {entry : ResourceRegistryEntry} {identity : ModelIdentity}

/-- Every stage of a serving resource is clean. -/
theorem passes (h : i.Serves requirement entry identity) :
    (i.routeGateInputs requirement entry.identity).Passes (expireContext entry i.evaluatedAt) :=
  (GateInputs.runStages_eq_none_iff.mp h.qualified).1

/-- The availability stage of a serving resource. -/
theorem available (h : i.Serves requirement entry identity) :
    (i.routeGateInputs requirement entry.identity).Available (expireContext entry i.evaluatedAt) :=
  GateInputs.availabilityCodes_eq_nil.mp h.passes.available

/-- The model survives the effort loop of a serving resource. -/
theorem served (h : i.Serves requirement entry identity) :
    identity ∈ (i.routeGateInputs requirement entry.identity).servedIdentities
      (expireContext entry i.evaluatedAt) := by
  rw [← routeGate_boundIdentities h.qualified]
  exact h.retained

/-- The model is bound to a serving resource. -/
theorem bound (h : i.Serves requirement entry identity) :
    identity ∈ bindIdentities entry.identity i.catalog := by
  have hbound := GateInputs.usableIdentities_subset_bound
    (GateInputs.servedIdentities_subset_usable h.served)
  rwa [expireContext_identity] at hbound

end Serves

/-- A resource qualifies for a model exactly when its gate does and retains the model. -/
theorem mem_qualifiedFor {identity : ModelIdentity} {resource : GatedResource} :
    resource ∈ qualifiedFor (i.routeGates requirement) identity ↔
      ∃ entry, i.Serves requirement entry identity ∧
        (i.routeGate requirement entry).toGatedResource = resource := by
  unfold qualifiedFor ResourceGate.qualified
  simp only [List.mem_map, List.mem_filter, mem_routeGates, Bool.and_eq_true,
    Option.isNone_iff_eq_none, decide_eq_true_eq]
  constructor
  · rintro ⟨gate, ⟨⟨entry, hentry, rfl⟩, hqualified, hretained⟩, rfl⟩
    exact ⟨entry, ⟨hentry, hqualified, hretained⟩, rfl⟩
  · rintro ⟨entry, ⟨hentry, hqualified, hretained⟩, rfl⟩
    exact ⟨_, ⟨⟨entry, hentry, rfl⟩, hqualified, hretained⟩, rfl⟩

/-- Qualified resources are healthy. -/
theorem healthy_of_qualifiedFor (identity : ModelIdentity) :
    ∀ resource ∈ qualifiedFor (i.routeGates requirement) identity,
      ∀ o ∈ resource.entry.observation, o.health.status = .ok := by
  intro resource hresource o ho
  obtain ⟨entry, hserves, rfl⟩ := mem_qualifiedFor.mp hresource
  exact hserves.available.healthy o ho

/-! ### Routable models -/

/-- The pins of a binding name the resource and the model. -/
structure Named (request : RequestBinding) (resourceId : SafeId) (identity : ModelIdentity) :
    Prop where
  pin : ∀ pin ∈ request.pinnedTarget, pin.resourceId = resourceId ∧ pin.model = identity
  explicit : matchesExplicit request identity = true

/-- A model the request ranks: some resource serves it, and the pins name both. -/
def Routable (i : RouteInputs) (requirement : TaskRequirement) (identity : ModelIdentity) : Prop :=
  ∃ entry, i.Serves requirement entry identity ∧
    Named i.request entry.identity.resourceId identity

/-- The gate of the pinned resource is its own. -/
theorem pinnedGate?_eq_some {gate : ResourceGate} {pin : PinnedTarget}
    (hpin : i.request.pinnedTarget = some pin) :
    pinnedGate? (i.routeGates requirement) i.request = some gate ↔
      ∃ entry ∈ i.registrySnapshot.entries, entry.identity.resourceId = pin.resourceId ∧
        i.routeGate requirement entry = gate := by
  unfold pinnedGate?
  rw [hpin, Option.bind_some]
  constructor
  · intro h
    obtain ⟨entry, hentry, rfl⟩ := mem_routeGates.mp (List.mem_of_find?_eq_some h)
    have hid := List.find?_some h
    rw [decide_eq_true_eq, routeGate_entry, expireContext_identity] at hid
    exact ⟨entry, hentry, hid, rfl⟩
  · rintro ⟨entry, hentry, hid, rfl⟩
    refine find?_eq_some_of_unique (mem_routeGates.mpr ⟨entry, hentry, rfl⟩) ?_ ?_
    · rw [routeGate_entry, expireContext_identity]
      exact decide_eq_true hid
    · intro gate hgate hgid
      obtain ⟨other, hother, rfl⟩ := mem_routeGates.mp hgate
      rw [routeGate_entry, expireContext_identity, decide_eq_true_eq] at hgid
      rw [i.registrySnapshot.entry_ext hother hentry (hgid.trans hid.symm)]

/-- The identities a pinned target leaves. -/
theorem mem_pinTarget {identity : ModelIdentity} :
    identity ∈ (pinTarget (i.routeGates requirement) i.request).routable ↔
      ∃ entry, i.Serves requirement entry identity ∧ ∀ pin ∈ i.request.pinnedTarget,
        pin.resourceId = entry.identity.resourceId ∧ pin.model = identity := by
  unfold pinTarget
  split
  · rename_i hpin
    unfold qualifiedIdentities identitySet ResourceGate.qualified
    simp only [mem_sortBy, List.mem_dedup, List.mem_flatMap, List.mem_filter, mem_routeGates,
      Option.isNone_iff_eq_none, hpin]
    constructor
    · rintro ⟨gate, ⟨⟨entry, hentry, rfl⟩, hqualified⟩, hretained⟩
      exact ⟨entry, ⟨hentry, hqualified, hretained⟩, fun _ h => by cases h⟩
    · rintro ⟨entry, hserves, -⟩
      exact ⟨_, ⟨⟨entry, hserves.registered, rfl⟩, hserves.qualified⟩, hserves.retained⟩
  · rename_i pin hpin
    have hgate : ∀ gate, pinnedGate? (i.routeGates requirement) i.request = some gate ↔
        ∃ entry ∈ i.registrySnapshot.entries, entry.identity.resourceId = pin.resourceId ∧
          i.routeGate requirement entry = gate := fun _ => pinnedGate?_eq_some hpin
    split
    · rename_i hnone
      refine iff_of_false List.not_mem_nil ?_
      rintro ⟨entry, hserves, hnamed⟩
      have hsome := (hgate _).mpr ⟨entry, hserves.registered, (hnamed pin hpin).1.symm, rfl⟩
      rw [hnone] at hsome
      cases hsome
    · rename_i gate hsome
      obtain ⟨entry, hentry, hid, rfl⟩ := (hgate gate).mp hsome
      have hsame : ∀ other, i.Serves requirement other identity →
          pin.resourceId = other.identity.resourceId → other = entry := fun other hserves hother =>
        i.registrySnapshot.entry_ext hserves.registered hentry (hother.symm.trans hid.symm)
      split
      · rename_i hqualified
        simp only [List.mem_filter, decide_eq_true_eq]
        constructor
        · rintro ⟨hretained, rfl⟩
          refine ⟨entry, ⟨hentry, Option.isNone_iff_eq_none.mp hqualified, hretained⟩, ?_⟩
          intro pin' hpin'
          obtain rfl : pin = pin' := Option.some.inj (hpin.symm.trans hpin')
          exact ⟨hid.symm, rfl⟩
        · rintro ⟨other, hserves, hnamed⟩
          obtain ⟨hother, rfl⟩ := hnamed pin hpin
          obtain rfl := hsame other hserves hother
          exact ⟨hserves.retained, rfl⟩
      · rename_i hqualified
        refine iff_of_false List.not_mem_nil ?_
        rintro ⟨other, hserves, hnamed⟩
        obtain rfl := hsame other hserves (hnamed pin hpin).1
        exact hqualified (Option.isNone_iff_eq_none.mpr hserves.qualified)

/-- The identities an explicit model or variant leaves. -/
theorem mem_pinModel {pinning : Pinning} {identity : ModelIdentity} :
    identity ∈ (pinModel i pinning).routable ↔
      identity ∈ pinning.routable ∧ matchesExplicit i.request identity = true := by
  unfold pinModel
  split
  · rename_i hnone
    have hmatches : matchesExplicit i.request identity = true := by
      unfold matchesExplicit
      rw [hnone.1, hnone.2]
      rfl
    exact ⟨fun h => ⟨h, hmatches⟩, fun h => h.1⟩
  · dsimp only
    split
    · rename_i hnil
      refine iff_of_false List.not_mem_nil fun ⟨hmem, hmatches⟩ => ?_
      exact List.ne_nil_of_mem (List.mem_filter.mpr ⟨hmem, hmatches⟩) hnil
    · exact List.mem_filter

/-- The identities of the request, in ranking order. -/
abbrev pinning (i : RouteInputs) (requirement : TaskRequirement) : Pinning :=
  pinModel i (pinTarget (i.routeGates requirement) i.request)

/-- **A request ranks exactly its routable models.** -/
theorem mem_routable_iff {identity : ModelIdentity} :
    identity ∈ (i.pinning requirement).routable ↔ i.Routable requirement identity := by
  rw [mem_pinModel, mem_pinTarget]
  constructor
  · rintro ⟨⟨entry, hserves, hpin⟩, hexplicit⟩
    exact ⟨entry, hserves, hpin, hexplicit⟩
  · rintro ⟨entry, hserves, hpin, hexplicit⟩
    exact ⟨⟨entry, hserves, hpin⟩, hexplicit⟩

/-- No model is ranked twice. -/
theorem nodup_routable : (i.pinning requirement).routable.Nodup := by
  have htarget : (pinTarget (i.routeGates requirement) i.request).routable.Nodup := by
    unfold pinTarget
    split
    · exact (sortBy_perm _ _).nodup_iff.mpr (List.nodup_dedup _)
    · split
      · exact List.nodup_nil
      · rename_i pin hpin _ gate hgate
        split
        · rename_i hqualified
          obtain ⟨entry, -, -, rfl⟩ := (pinnedGate?_eq_some hpin).mp hgate
          rw [routeGate_boundIdentities (Option.isNone_iff_eq_none.mp hqualified)]
          refine List.Nodup.filter _ ?_
          unfold GateInputs.servedIdentities GateInputs.usableIdentities
          split
          · exact ((nodup_bindIdentities _ _).filter _).filter _
          · exact (nodup_bindIdentities _ _).filter _
        · exact List.nodup_nil
  unfold pinning pinModel
  split
  · exact htarget
  · dsimp only
    split
    · exact List.nodup_nil
    · exact htarget.filter _

/-- A routable model is one of the catalog. -/
theorem Routable.known {identity : ModelIdentity} (h : i.Routable requirement identity) :
    ∃ entry ∈ i.catalog.entries, entry.identity = identity := by
  obtain ⟨entry, hserves, -⟩ := h
  exact (of_mem_bindIdentities hserves.bound).1

/-! ### Failing gates -/

/-- Every bound resource fails its authorization checks in the order of their texts, if it fails
    them at all. -/
def Representable (i : RouteInputs) : Prop :=
  ∀ entry ∈ i.registrySnapshot.entries, bindIdentities entry.identity i.catalog ≠ [] →
    OrderedFailures entry i.effective i.executionAssurances i.evaluatedAt

/-- The exclusion record of a failed gate. -/
def gateRecord? (gate : ResourceGate) : Option ExclusionRecord :=
  gate.failure.map (·.exclusionRecord gate.entry)

/-- The record of a failed resource can be held exactly when its failures are ordered. -/
theorem gateRecord_wellFormed_iff (entry : ResourceRegistryEntry) :
    (∀ record ∈ gateRecord? (i.routeGate requirement entry), record.WellFormed) ↔
      (bindIdentities entry.identity i.catalog ≠ [] →
        OrderedFailures entry i.effective i.executionAssurances i.evaluatedAt) := by
  have hcodes : (i.routeGateInputs requirement entry.identity).authorizationCodes
      (expireContext entry i.evaluatedAt) =
      authorizationFailureCodes entry i.effective i.executionAssurances i.evaluatedAt :=
    authorizationFailureCodes_expireContext _ _ _ _ _
  rw [← strictlySorted_authorizationFailureCodes, ← hcodes]
  unfold gateRecord?
  cases hfailure : (i.routeGate requirement entry).failure with
  | none =>
    have hclean : (i.routeGateInputs requirement entry.identity).authorizationCodes
        (expireContext entry i.evaluatedAt) = [] :=
      (GateInputs.runStages_eq_none_iff.mp hfailure).1.authorized
    rw [hclean]
    exact iff_of_true (fun _ h => nomatch h) fun _ => List.Pairwise.nil
  | some failure =>
    have hiff := GateInputs.exclusionRecord_wellFormed_iff
      (i.routeGate requirement entry).entry hfailure
    rw [expireContext_identity] at hiff
    simp only [Option.map_some, Option.mem_def, Option.some.injEq, forall_eq']
    exact hiff

/-- The exclusions of a list of records carry those records. -/
theorem mapM_make_records {records : List ExclusionRecord} {failed : List TargetExclusion}
    (h : records.mapM TargetExclusion.make = .ok failed) :
    failed.map (·.toExclusionRecord) = records := by
  induction mapM_eq_ok.mp h with
  | nil => rfl
  | cons hmake _ ih =>
    rename_i htail
    rw [List.map_cons, (TargetExclusion.make_eq_ok.mp hmake).2, ih (mapM_eq_ok.mpr htail)]

/-- **The exclusions return exactly when every failure is representable.** -/
theorem targetExclusions_returns_iff {extra : List TargetExclusion} :
    Returns (targetExclusions (i.routeGates requirement) extra) ↔ i.Representable := by
  have hrecords : (∀ record ∈ (i.routeGates requirement).filterMap gateRecord?,
      record.WellFormed) ↔ i.Representable := by
    simp only [List.mem_filterMap, mem_routeGates]
    constructor
    · intro h entry hentry
      exact (gateRecord_wellFormed_iff entry).mp fun record hrecord =>
        h record ⟨_, ⟨entry, hentry, rfl⟩, hrecord⟩
    · rintro h record ⟨_, ⟨entry, hentry, rfl⟩, hrecord⟩
      exact (gateRecord_wellFormed_iff entry).mpr (h entry hentry) record hrecord
  unfold targetExclusions
  rw [returns_bind, ← hrecords]
  constructor
  · rintro ⟨failed, hfailed, -⟩ record hrecord
    exact TargetExclusion.make_returns_iff.mp (returns_mapM.mp ⟨failed, hfailed⟩ record hrecord)
  · intro h
    obtain ⟨failed, hfailed⟩ := returns_mapM.mpr fun record hrecord =>
      TargetExclusion.make_returns_iff.mpr (h record hrecord)
    exact ⟨failed, hfailed, returns_ok _⟩

/-- **A failed resource has exactly one exclusion**: that of its gate, when the other exclusions
    are of qualified resources. -/
theorem targetExclusions_of_failure {extra exclusions : List TargetExclusion}
    (h : targetExclusions (i.routeGates requirement) extra = .ok exclusions)
    (hextra : ∀ x ∈ extra, ∃ entry ∈ i.registrySnapshot.entries,
      (i.routeGate requirement entry).failure = none ∧ x.resourceId = entry.identity.resourceId)
    {entry : ResourceRegistryEntry} (hentry : entry ∈ i.registrySnapshot.entries)
    {failure : GateFailure} (hfailure : (i.routeGate requirement entry).failure = some failure) :
    ∃ x, exclusions.filter (·.resourceId = entry.identity.resourceId) = [x] ∧
      x.toExclusionRecord = failure.exclusionRecord (expireContext entry i.evaluatedAt) := by
  obtain ⟨failed, hfailed, h⟩ := bind_eq_ok.mp h
  obtain rfl := Except.ok.inj h
  have hrecords : failed.map (·.toExclusionRecord) =
      (i.routeGates requirement).filterMap gateRecord? := mapM_make_records hfailed
  -- One record for each failed resource.
  have hrecord : failure.exclusionRecord (expireContext entry i.evaluatedAt) ∈
      (i.routeGates requirement).filterMap gateRecord? :=
    List.mem_filterMap.mpr ⟨_, mem_routeGates.mpr ⟨entry, hentry, rfl⟩,
      Option.map_eq_some_iff.mpr ⟨failure, hfailure, rfl⟩⟩
  obtain ⟨x, hx, hxrecord⟩ := List.mem_map.mp (hrecords ▸ hrecord)
  have hids : (failed.map (·.resourceId)).Nodup := by
    have hsub : ((failed.map (·.toExclusionRecord)).map (·.resourceId)).Sublist
        (i.registrySnapshot.entries.map (·.identity.resourceId)) := by
      rw [hrecords, routeGates_eq_map, List.filterMap_map]
      refine map_filterMap_sublist fun e _ record hrecord => ?_
      obtain ⟨f, -, rfl⟩ := Option.map_eq_some_iff.mp hrecord
      simp only [GateFailure.exclusionRecord, routeGate_entry, expireContext_identity]
    rw [List.map_map] at hsub
    exact i.registrySnapshot.nodup_ids.sublist hsub
  have hxid : x.resourceId = entry.identity.resourceId := by
    rw [hxrecord]
    simp only [GateFailure.exclusionRecord, expireContext_identity]
  have hfilter : failed.filter (·.resourceId = entry.identity.resourceId) = [x] := by
    refine filter_eq_singleton (List.Nodup.of_map _ hids) hx (decide_eq_true hxid) ?_
    intro y hy hyid
    exact List.inj_on_of_nodup_map hids hy hx ((of_decide_eq_true hyid).trans hxid.symm)
  have hnone : extra.filter (·.resourceId = entry.identity.resourceId) = [] := by
    refine List.filter_eq_nil_iff.mpr fun x hx hxid => ?_
    obtain ⟨other, hother, hclean, hotherid⟩ := hextra x hx
    obtain rfl := i.registrySnapshot.entry_ext hother hentry
      (hotherid.symm.trans (of_decide_eq_true hxid))
    rw [hfailure] at hclean
    cases hclean
  refine ⟨x, ?_, hxrecord⟩
  have hperm := (sortBy_perm (fun x : TargetExclusion => x.key) (failed ++ extra)).filter
    (fun x => decide (x.resourceId = entry.identity.resourceId))
  rw [List.filter_append, hfilter, hnone, List.append_nil] at hperm
  exact List.perm_singleton.mp hperm

end RouteInputs

/-! ### Rankings -/

section Decision

variable [RouteHost]

/-- The model-level evidence behind one resource of a ranked model: a versioned catalog holds an
    entry that meets the requirement, a runtime inventory is accepted on the resource itself. -/
structure Endorsed (i : RouteInputs) (requirement : TaskRequirement) (identity : ModelIdentity)
    (resource : GatedResource) : Prop where
  candidate : ∀ candidates ∈ i.candidateIdentities, identity ∈ candidates
  versioned : i.isRuntime = false → ∃ entry ∈ i.catalog.entries, entry.identity = identity ∧
    evaluateHardConstraints requirement.hardConstraints entry = [] ∧
    evaluateCapabilitySufficiency requirement.capabilityMinima entry.capabilities = []
  runtime : i.isRuntime = true → Accepts i requirement identity resource

/-- What both branches establish of their ranking. -/
structure Ranked (i : RouteInputs) (requirement : TaskRequirement) (ranking : Ranking) :
    Prop where
  catalog_version : ranking.selection.catalogVersion = i.catalog.catalogVersion
  ranked_candidate : ∀ s, s ∈ ranking.selection.selected ∨ s ∈ ranking.selection.alternatives →
    i.Routable requirement s.identity ∧ ∀ candidates ∈ i.candidateIdentities, s.identity ∈ candidates
  serving_nonempty : ∀ s ∈ ranking.selection.selected, ranking.serving s.identity ≠ []
  serving_pinned : ∀ s ∈ ranking.selection.selected, ∀ pin ∈ i.request.pinnedTarget,
    ∃ resource ∈ ranking.serving s.identity, resource.entry.identity.resourceId = pin.resourceId
  serving_qualified : ∀ s ∈ ranking.selection.selected, ∀ resource ∈ ranking.serving s.identity,
    (∃ entry, i.Serves requirement entry s.identity ∧
      (i.routeGate requirement entry).toGatedResource = resource) ∧
    Endorsed i requirement s.identity resource
  exclusion_qualified : ∀ x ∈ ranking.exclusions, ∃ entry ∈ i.registrySnapshot.entries,
    (i.routeGate requirement entry).failure = none ∧ x.resourceId = entry.identity.resourceId

/-- A sound runtime ranking is ranked. -/
theorem SoundRanking.ranked {i : RouteInputs} {requirement : TaskRequirement} {ranking : Ranking}
    (hruntime : i.isRuntime = true)
    (h : SoundRanking i requirement (i.routeGates requirement) (i.pinning requirement).routable
      ranking) : Ranked i requirement ranking := by
  have hserving : ∀ s ∈ ranking.selection.selected, ∀ resource ∈ ranking.serving s.identity,
      resource ∈ qualifiedFor (i.routeGates requirement) s.identity ∧
        Accepts i requirement s.identity resource := fun s hs resource hresource =>
    (h.mem_serving s.identity (h.selected_serving s hs).1 resource).mp hresource
  refine ⟨?_, ?_, fun s hs => (h.selected_serving s hs).2, ?_, ?_, ?_⟩
  · rw [h.catalog_version]
    exact (Option.isNone_iff_eq_none.mp hruntime).symm
  · intro s hs
    obtain ⟨hroutable, hcandidate⟩ := h.ranked_candidate s hs
    exact ⟨RouteInputs.mem_routable_iff.mp hroutable, hcandidate⟩
  · intro s hs pin hpin
    obtain ⟨resource, hresource⟩ := List.exists_mem_of_ne_nil _ (h.selected_serving s hs).2
    have hpinned := (hserving s hs resource hresource).2.1
    unfold matchesPin at hpinned
    rw [hpin] at hpinned
    exact ⟨resource, hresource, of_decide_eq_true hpinned⟩
  · intro s hs resource hresource
    obtain ⟨hqualified, haccepts⟩ := hserving s hs resource hresource
    refine ⟨RouteInputs.mem_qualifiedFor.mp hqualified, ?_, ?_, fun _ => haccepts⟩
    · exact (h.ranked_candidate s (.inl hs)).2
    · intro hversioned
      exact absurd (hruntime.symm.trans hversioned) (by simp)
  · intro x hx
    obtain ⟨identity, -, resource, hresource, hid⟩ := h.exclusion_resource x hx
    obtain ⟨entry, hserves, rfl⟩ := RouteInputs.mem_qualifiedFor.mp hresource
    refine ⟨entry, hserves.registered, hserves.qualified, ?_⟩
    rwa [RouteInputs.routeGate_entry, expireContext_identity] at hid

/-- A versioned selection is ranked. -/
theorem ranked_of_versioned {r : RouteRequest} {requirement : TaskRequirement} {ranking : Ranking}
    (hversioned : r.isRuntime = false)
    (h : rankVersioned r requirement (r.routeGates requirement) (r.pinning requirement).routable =
      .ok ranking) : Ranked r.toRouteInputs requirement ranking := by
  obtain ⟨selection, hselection, h⟩ := bind_eq_ok.mp h
  obtain rfl := Except.ok.inj h
  have hentry : ∀ s, s ∈ selection.selected ∨ s ∈ selection.alternatives →
      ∃ entry ∈ r.catalog.entries, entry.identity = s.identity ∧
        entry.identity ∈ (r.pinning requirement).routable ∧
        (∀ candidates ∈ r.candidateIdentities, entry.identity ∈ candidates) ∧
        evaluateHardConstraints requirement.hardConstraints entry = [] ∧
        evaluateCapabilitySufficiency requirement.capabilityMinima entry.capabilities = [] := by
    intro s hs
    obtain ⟨heligible, entry, hentry, hspec⟩ := exists_entry_of_selected hselection hs
    obtain ⟨original, horiginal, rfl⟩ := List.mem_map.mp (mem_sortBy.mp hentry)
    obtain ⟨hcatalog, hview⟩ := List.mem_filter.mp horiginal
    have hsame : viewEntry r.toRouteInputs (qualifiedFor (r.routeGates requirement)) original =
        original := by
      unfold viewEntry
      rw [hversioned]
      rfl
    rw [hsame] at hspec
    simp only [inView, Bool.and_eq_true, decide_eq_true_eq, Option.all_eq_true] at hview
    exact ⟨original, hcatalog, hspec.identity_eq.symm, hview.1, hview.2,
      hspec.eligible_hard heligible, hspec.eligible_capability heligible⟩
  have hroutable : ∀ s, s ∈ selection.selected ∨ s ∈ selection.alternatives →
      r.Routable requirement s.identity := by
    intro s hs
    obtain ⟨entry, -, hident, hroutable, -⟩ := hentry s hs
    exact RouteInputs.mem_routable_iff.mp (hident ▸ hroutable)
  refine ⟨?_, ?_, ?_, ?_, ?_, fun _ h => by cases h⟩
  · obtain ⟨-, evaluations, -, rfl⟩ := selectModel_eq_ok.mp hselection
    rfl
  · intro s hs
    obtain ⟨entry, -, hident, -, hcandidate, -⟩ := hentry s hs
    exact ⟨hroutable s hs, hident ▸ hcandidate⟩
  · intro s hs hnil
    obtain ⟨entry, hserves, -⟩ := hroutable s (.inl hs)
    have hmem := RouteInputs.mem_qualifiedFor.mpr ⟨entry, hserves, rfl⟩
    rw [sortBy_eq_nil.mp hnil] at hmem
    cases hmem
  · intro s hs pin hpin
    obtain ⟨entry, hserves, hnamed⟩ := hroutable s (.inl hs)
    refine ⟨_, mem_sortBy.mpr (RouteInputs.mem_qualifiedFor.mpr ⟨entry, hserves, rfl⟩), ?_⟩
    rw [RouteInputs.routeGate_entry, expireContext_identity]
    exact (hnamed.pin pin hpin).1.symm
  · intro s hs resource hresource
    obtain ⟨entry, hcatalog, hident, -, hcandidate, hhard, hcapability⟩ := hentry s (.inl hs)
    refine ⟨RouteInputs.mem_qualifiedFor.mp (mem_sortBy.mp hresource), hident ▸ hcandidate,
      fun _ => ⟨entry, hcatalog, hident, hhard, hcapability⟩, fun hruntime => ?_⟩
    exact absurd (hversioned.symm.trans hruntime) (by simp)

/-- What a request demands for its ranking to return. -/
structure Rankable (i : RouteInputs) (requirement : TaskRequirement) : Prop where
  candidates : i.isRuntime = true → ∀ identity, i.Routable requirement identity →
    ∀ candidates ∈ i.candidateIdentities, candidates ⊆ [identity]
  snapshots : i.isRuntime = false → UniqueProviders i.capacitySnapshots
  states : i.isRuntime = false → (i.replenishmentStates.map (·.key)).Nodup

/-- The runtime branch over the routable models. -/
theorem rankRuntime_routable {r : RouteRequest} (requirement : TaskRequirement)
    (hruntime : r.isRuntime = true) :
    (Returns (rankRuntime r requirement (r.routeGates requirement)
      (r.pinning requirement).routable) ↔
      ∀ identity, r.Routable requirement identity →
        ∀ candidates ∈ r.candidateIdentities, candidates ⊆ [identity]) ∧
    ∀ ranking, rankRuntime r requirement (r.routeGates requirement)
      (r.pinning requirement).routable = .ok ranking →
      SoundRanking r.toRouteInputs requirement (r.routeGates requirement)
        (r.pinning requirement).routable ranking := by
  obtain ⟨hreturns, hsound⟩ := rankRuntime_spec hruntime requirement (r.routeGates requirement)
    (r.pinning requirement).routable
    RouteInputs.healthy_of_qualifiedFor
    (fun identity hmem => (RouteInputs.mem_routable_iff.mp hmem).known)
    RouteInputs.nodup_routable
  refine ⟨hreturns.trans ?_, hsound⟩
  simp only [RouteInputs.mem_routable_iff]

/-- **When a request has a ranking**, and that every ranking is ranked. -/
theorem rank_spec (r : RouteRequest) (requirement : TaskRequirement) :
    (Returns (rank r requirement (r.routeGates requirement) (r.pinning requirement).routable) ↔
      Rankable r.toRouteInputs requirement) ∧
    ∀ ranking, rank r requirement (r.routeGates requirement) (r.pinning requirement).routable =
      .ok ranking → Ranked r.toRouteInputs requirement ranking := by
  unfold rank
  cases hruntime : r.isRuntime with
  | true =>
    obtain ⟨hreturns, hsound⟩ := rankRuntime_routable requirement hruntime
    refine ⟨hreturns.trans ⟨fun h => ⟨fun _ => h, ?_, ?_⟩, fun h => h.candidates hruntime⟩, ?_⟩
    · intro hversioned
      exact absurd (hruntime.symm.trans hversioned) (by simp)
    · intro hversioned
      exact absurd (hruntime.symm.trans hversioned) (by simp)
    · exact fun ranking h => (hsound ranking h).ranked hruntime
  | false =>
    refine ⟨?_, fun ranking h => ranked_of_versioned hruntime h⟩
    rw [if_neg Bool.false_ne_true]
    unfold rankVersioned
    have hselection := runSelection_catalog_returns_iff r.valid (narrowedCatalog r.toRouteInputs
      (r.pinning requirement).routable (qualifiedFor (r.routeGates requirement))) requirement
    constructor
    · intro h
      obtain ⟨selection, hok, -⟩ := returns_bind.mp h
      obtain ⟨hsnapshots, hstates⟩ := hselection.mp ⟨selection, hok⟩
      refine ⟨fun h' => ?_, fun _ => hsnapshots, fun _ => hstates⟩
      exact absurd (hruntime.symm.trans h') (by simp)
    · intro h
      obtain ⟨selection, hok⟩ := hselection.mpr ⟨h.snapshots hruntime, h.states hruntime⟩
      exact returns_bind.mpr ⟨selection, hok, returns_ok _⟩

/-! ### Decisions -/

/-- The decision offers the target: as its own or as an alternative. -/
def RouteContent.Offers (d : RouteContent) (target : RouteTarget) : Prop :=
  target ∈ d.target ∨ target ∈ d.targetAlternatives

theorem RouteDecision.make_eq_ok {content : RouteContent} {d : RouteDecision} :
    RouteDecision.make content = .ok d ↔ ∃ h : content.WellFormed,
      d = { toRouteContent := content, decisionId := RouteHost.decisionId content
            well_formed := h } := by
  unfold RouteDecision.make
  rw [certify_map_eq_ok, RouteContent.checks_eq_ok]
  constructor
  · rintro ⟨-, h, rfl⟩
    exact ⟨h, rfl⟩
  · rintro ⟨h, rfl⟩
    exact ⟨h, h, rfl⟩

/-- What the decision of a ranked request says. -/
structure DecisionOf (i : RouteInputs) (requirement : TaskRequirement) (ranking : Ranking)
    (d : RouteDecision) : Prop where
  selection_eq : d.selection = ranking.selection
  exclusions_eq : targetExclusions (i.routeGates requirement) ranking.exclusions =
    .ok d.targetExclusions
  target_iff : d.target ≠ none ↔ ranking.selection.selected ≠ none
  offered : ∀ target, d.Offers target → ∃ s ∈ ranking.selection.selected,
    ∃ resource ∈ ranking.serving s.identity,
      (∀ pin ∈ i.request.pinnedTarget, resource.entry.identity.resourceId = pin.resourceId) ∧
      target = routeTarget resource s.identity i.profileId target.sharesQuotaPoolWithSelected
        (targetEffort i s.identity resource)
  pinned_alone : i.request.pinnedTarget ≠ none → d.targetAlternatives = []

omit [RouteHost] in
/-- The targets of a selected model, from the resources that serve it. -/
private theorem chooseTargets_spec (i : RouteInputs) {pinned : Option ResourceGate}
    (identity : ModelIdentity) {resources : List GatedResource} (hne : resources ≠ [])
    (hpinned : ∀ gate ∈ pinned, ∃ resource ∈ resources,
      resource.entry.identity.resourceId = gate.entry.identity.resourceId) :
    ∃ target alternatives, chooseTargets i pinned identity resources = .ok (target, alternatives) ∧
      target.sharesQuotaPoolWithSelected = false ∧ (pinned ≠ none → alternatives = []) ∧
      ∀ t, t = target ∨ t ∈ alternatives → ∃ resource ∈ resources,
        (∀ gate ∈ pinned,
          resource.entry.identity.resourceId = gate.entry.identity.resourceId) ∧
        t = routeTarget resource identity i.profileId t.sharesQuotaPoolWithSelected
          (targetEffort i identity resource) := by
  unfold chooseTargets
  split
  · rename_i gate
    obtain ⟨found, hfound, hid⟩ := hpinned gate rfl
    have hsome : (resources.find? fun resource =>
        decide (resource.entry.identity.resourceId = gate.entry.identity.resourceId)).isSome := by
      rw [List.find?_isSome]
      exact ⟨found, hfound, decide_eq_true hid⟩
    obtain ⟨resource, hresource⟩ := Option.isSome_iff_exists.mp hsome
    rw [hresource]
    refine ⟨_, _, rfl, rfl, fun _ => rfl, ?_⟩
    rintro t (rfl | h)
    · refine ⟨resource, List.mem_of_find?_eq_some hresource, ?_, rfl⟩
      rintro _ ⟨⟩
      exact of_decide_eq_true (List.find?_some hresource :)
    · cases h
  · split
    · exact absurd rfl hne
    · rename_i first rest
      refine ⟨_, _, rfl, rfl, fun h => absurd rfl h, ?_⟩
      rintro t (rfl | h)
      · exact ⟨first, List.mem_cons_self, (fun _ h => nomatch h), rfl⟩
      · obtain ⟨resource, hresource, rfl⟩ := List.mem_map.mp h
        exact ⟨resource, List.mem_cons_of_mem _ hresource, (fun _ h => nomatch h), rfl⟩

/-- The members every decision shares are well formed. -/
private theorem decisionContent_wellFormed {i : RouteInputs} {requirement : TaskRequirement}
    {ranking : Ranking} (hranked : Ranked i requirement ranking)
    (exclusions : List TargetExclusion) (content : RouteContent)
    (hbase : content = { decisionContent i (i.routeGates requirement)
      (i.pinning requirement).routable ranking.selection exclusions with
        status := content.status
        target := content.target
        targetAlternatives := content.targetAlternatives
        reasonCodes := content.reasonCodes })
    (hcodes : StrictlySorted content.reasonCodes)
    (hselected : content.status = .selected → content.SelectedShape)
    (hnone : content.status = .noSolution → content.NoSolutionShape) : content.WellFormed where
  schema_matches := by
    rw [hbase]
    exact congrArg schemaVersionOf hranked.catalog_version.symm
  unroutable_unique := by
    rw [hbase]
    exact (sortBy_perm _ _).nodup_iff.mpr (List.nodup_dedup _)
  promotions_sorted := by
    rw [hbase]
    exact strictlySorted_sortedSet _
  codes_sorted := hcodes
  selected_shape := hselected
  no_solution_shape := hnone

/-- **A ranked request has a decision exactly when every failure is representable.** -/
theorem assembleDecision_spec {i : RouteInputs} {requirement : TaskRequirement}
    {ranking : Ranking} (hranked : Ranked i requirement ranking) :
    (Returns (assembleDecision i (i.routeGates requirement) (i.pinning requirement) ranking) ↔
      i.Representable) ∧
    ∀ d, assembleDecision i (i.routeGates requirement) (i.pinning requirement) ranking = .ok d →
      DecisionOf i requirement ranking d := by
  have hrun : ∀ exclusions, targetExclusions (i.routeGates requirement) ranking.exclusions =
      .ok exclusions → ∃ d, assembleDecision i (i.routeGates requirement) (i.pinning requirement)
        ranking = .ok d ∧ DecisionOf i requirement ranking d := by
    intro exclusions hexclusions
    unfold assembleDecision
    rw [hexclusions, ok_bind]
    dsimp only
    split
    · rename_i hnone
      have hwf := decisionContent_wellFormed hranked exclusions
        { decisionContent i (i.routeGates requirement) (i.pinning requirement).routable
            ranking.selection exclusions with
          reasonCodes := sortedSet (.noEligibleTarget :: (i.pinning requirement).codes ++
            if i.hasPin then [.pinnedRequestFailed] else []) } rfl
        (strictlySorted_sortedSet _) nofun fun _ =>
          ⟨rfl, rfl, mem_sortedSet.mpr (List.mem_append_left _ List.mem_cons_self), fun hpin => by
            change i.hasPin = true at hpin
            rw [hpin]
            exact mem_sortedSet.mpr (List.mem_append_right _ (List.mem_singleton_self _))⟩
      refine ⟨_, RouteDecision.make_eq_ok.mpr ⟨hwf, rfl⟩, rfl, hexclusions, ?_, ?_, fun _ => rfl⟩
      · exact iff_of_false (fun h => h rfl) fun h => h hnone
      · rintro target (h | h) <;> cases h
    · rename_i s hsome
      -- A selected model is routable, so its pinned resource is registered.
      have hgate : ∀ pin ∈ i.request.pinnedTarget,
          ∃ gate ∈ pinnedGate? (i.routeGates requirement) i.request,
            gate.entry.identity.resourceId = pin.resourceId := by
        intro pin hpin
        obtain ⟨⟨entry, hserves, hnamed⟩, -⟩ := hranked.ranked_candidate s (.inl hsome)
        have hid := (hnamed.pin pin hpin).1.symm
        refine ⟨_, (RouteInputs.pinnedGate?_eq_some hpin).mpr
          ⟨entry, hserves.registered, hid, rfl⟩, ?_⟩
        rwa [RouteInputs.routeGate_entry, expireContext_identity]
      have hpinned : ∀ gate ∈ pinnedGate? (i.routeGates requirement) i.request,
          ∃ resource ∈ ranking.serving s.identity,
            resource.entry.identity.resourceId = gate.entry.identity.resourceId := by
        intro gate hfound
        obtain ⟨pin, hpin, -⟩ := Option.bind_eq_some_iff.mp hfound
        obtain ⟨resource, hresource, hid⟩ := hranked.serving_pinned s hsome pin hpin
        obtain ⟨gate', hfound', hgid⟩ := hgate pin hpin
        obtain rfl : gate = gate' := Option.some.inj (hfound.symm.trans hfound')
        exact ⟨resource, hresource, hid.trans hgid.symm⟩
      obtain ⟨target, alternatives, hchoose, hshares, halone, hoffered⟩ := chooseTargets_spec i
        s.identity (hranked.serving_nonempty s hsome) hpinned
      rw [hchoose, ok_bind]
      dsimp only
      have hwf := decisionContent_wellFormed hranked exclusions
        { decisionContent i (i.routeGates requirement) (i.pinning requirement).routable
            ranking.selection exclusions with
          status := .selected
          target := some target
          targetAlternatives := alternatives
          reasonCodes := [.routeSelected] } rfl (List.pairwise_singleton _ _)
        (fun _ => ⟨⟨target, rfl, hshares⟩, rfl⟩) nofun
      refine ⟨_, RouteDecision.make_eq_ok.mpr ⟨hwf, rfl⟩, rfl, hexclusions, ?_, ?_, ?_⟩
      · exact iff_of_true (Option.some_ne_none _) (by simp [hsome])
      · rintro t h
        have h' : t = target ∨ t ∈ alternatives := h.imp_left fun h => (Option.some.inj h).symm
        obtain ⟨resource, hresource, hid, ht⟩ := hoffered t h'
        refine ⟨s, hsome, resource, hresource, fun pin hpin => ?_, ht⟩
        obtain ⟨gate, hfound, hgid⟩ := hgate pin hpin
        exact (hid gate hfound).trans hgid
      · intro hpin
        obtain ⟨pin, hpin⟩ := Option.ne_none_iff_exists'.mp hpin
        obtain ⟨gate, hfound, -⟩ := hgate pin hpin
        exact halone (Option.ne_none_iff_exists'.mpr ⟨gate, hfound⟩)
  constructor
  · have hrepresentable : Returns (targetExclusions (i.routeGates requirement)
        ranking.exclusions) ↔ i.Representable := RouteInputs.targetExclusions_returns_iff
    rw [← hrepresentable]
    constructor
    · rintro ⟨d, hd⟩
      obtain ⟨exclusions, hexclusions, -⟩ := bind_eq_ok.mp hd
      exact ⟨exclusions, hexclusions⟩
    · rintro ⟨exclusions, hexclusions⟩
      obtain ⟨d, hd, -⟩ := hrun exclusions hexclusions
      exact ⟨d, hd⟩
  · intro d hd
    obtain ⟨exclusions, hexclusions, -⟩ := bind_eq_ok.mp hd
    obtain ⟨d', hd', hspec⟩ := hrun exclusions hexclusions
    rwa [Except.ok.inj (hd.symm.trans hd')]

/-- **When a request has a decision.** -/
theorem routeCore_returns_iff (r : RouteRequest) : Returns (routeCore r) ↔
    ∃ requirement, r.resolveRequirement = .ok requirement ∧
      Rankable r.toRouteInputs requirement ∧ r.Representable := by
  unfold routeCore
  rw [returns_bind]
  refine exists_congr fun requirement => and_congr_right fun _ => ?_
  obtain ⟨hreturns, hranked⟩ := rank_spec r requirement
  rw [returns_bind, ← hreturns]
  constructor
  · rintro ⟨ranking, hranking, hd⟩
    exact ⟨⟨ranking, hranking⟩, (assembleDecision_spec (hranked ranking hranking)).1.mp hd⟩
  · rintro ⟨⟨ranking, hranking⟩, hrepresentable⟩
    exact ⟨ranking, hranking,
      (assembleDecision_spec (hranked ranking hranking)).1.mpr hrepresentable⟩

/-- **What a decision rests on**: the requirement, the ranking, and what the ranking says. -/
theorem routeCore_spec {r : RouteRequest} {d : RouteDecision} (h : routeCore r = .ok d) :
    ∃ requirement ranking, r.resolveRequirement = .ok requirement ∧
      rank r requirement (r.routeGates requirement) (r.pinning requirement).routable =
        .ok ranking ∧
      Ranked r.toRouteInputs requirement ranking ∧
      DecisionOf r.toRouteInputs requirement ranking d := by
  obtain ⟨requirement, hrequirement, h⟩ := bind_eq_ok.mp h
  obtain ⟨ranking, hranking, h⟩ := bind_eq_ok.mp h
  have hranked := (rank_spec r requirement).2 ranking hranking
  exact ⟨requirement, ranking, hrequirement, hranking, hranked,
    (assembleDecision_spec hranked).2 d h⟩

/-! ### Offers -/

/-- What an offered target is: the target of a registered resource that serves the model, named by
    the pins and endorsed at model level. -/
structure OfferOf (i : RouteInputs) (requirement : TaskRequirement)
    (entry : ResourceRegistryEntry) (target : RouteTarget) : Prop where
  serves : i.Serves requirement entry target.model
  named : RouteInputs.Named i.request entry.identity.resourceId target.model
  endorsed : Endorsed i requirement target.model (i.routeGate requirement entry).toGatedResource
  target_eq : target = routeTarget (i.routeGate requirement entry).toGatedResource target.model
    i.profileId target.sharesQuotaPoolWithSelected
    (targetEffort i target.model (i.routeGate requirement entry).toGatedResource)

theorem OfferOf.resource_eq {i : RouteInputs} {requirement : TaskRequirement}
    {entry : ResourceRegistryEntry} {target : RouteTarget} (h : OfferOf i requirement entry target) :
    target.resource = entry.identity := by
  rw [h.target_eq]
  exact expireContext_identity _ _

/-- **Every offered target is an offer** of a serving resource. -/
theorem offer_spec {r : RouteRequest} {d : RouteDecision} (h : routeCore r = .ok d)
    {target : RouteTarget} (hoffer : d.Offers target) :
    ∃ requirement, r.resolveRequirement = .ok requirement ∧
      ∃ entry, OfferOf r.toRouteInputs requirement entry target := by
  obtain ⟨requirement, ranking, hrequirement, -, hranked, hdecision⟩ := routeCore_spec h
  obtain ⟨s, hs, resource, hresource, hid, htarget⟩ := hdecision.offered target hoffer
  have hmodel : target.model = s.identity := by rw [htarget]; rfl
  obtain ⟨⟨entry, hserves, rfl⟩, hendorsed⟩ := hranked.serving_qualified s hs resource hresource
  obtain ⟨⟨other, hother, hnamed⟩, -⟩ := hranked.ranked_candidate s (.inl hs)
  refine ⟨requirement, hrequirement, entry, ?_, ?_, ?_, ?_⟩
  · rwa [hmodel]
  · rw [hmodel]
    refine ⟨fun pin hpin => ⟨?_, (hnamed.pin pin hpin).2⟩, hnamed.explicit⟩
    have hpin' := hid pin hpin
    rw [RouteInputs.routeGate_entry, expireContext_identity] at hpin'
    exact hpin'.symm
  · rwa [hmodel]
  · rwa [hmodel]

end Decision

end ScarcityRouter
