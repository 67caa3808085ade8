import ScarcityRouter.Routing.EvaluatedSpec

namespace ScarcityRouter

open ScarcityRouter.Lib

/-!
# What a pinned admission establishes

* `Admissible` — the pinned resource qualifies in exact admission and its entry meets the
  requirement.
* `admitCore_of_admissible`, `admitCore_of_not_admissible` — **admission approves exactly the
  admissible pins**, and what it does with the others.
* `admitCore_returns_iff` — when a pin has a decision.
-/

/-! ### Rejections -/

/-- The computation returns a rejection. -/
def Rejects (x : Except ContractError AdmissionDecision) : Prop :=
  ∃ d, x = .ok d ∧ d.approved = false

theorem AdmissionDecision.make_eq_ok {content : AdmissionContent} {d : AdmissionDecision} :
    AdmissionDecision.make content = .ok d ↔ ∃ h : content.WellFormed,
      d = { toAdmissionContent := content, well_formed := h } := by
  unfold AdmissionDecision.make
  rw [certify_map_eq_ok, AdmissionContent.checks_eq_ok]
  constructor
  · rintro ⟨-, h, rfl⟩
    exact ⟨h, rfl⟩
  · rintro ⟨h, rfl⟩
    exact ⟨h, h, rfl⟩

/-- A well-formed rejection is returned. -/
private theorem rejects_make {content : AdmissionContent} (hcodes : StrictlySorted content.reasonCodes)
    (hrejected : .admissionRejected ∈ content.reasonCodes) (happroved : content.approved = false)
    (htarget : content.target = none) : Rejects (AdmissionDecision.make content) := by
  refine ⟨_, AdmissionDecision.make_eq_ok.mpr ⟨⟨hcodes, List.ne_nil_of_mem hrejected, ?_,
    fun _ => ⟨htarget, hrejected⟩⟩, rfl⟩, happroved⟩
  intro h
  rw [happroved] at h
  cases h

/-- The codes a rejection adds to its first one. -/
def rejectionReasons : List AdmissionReason :=
  [.pinnedRequestFailed, .pinTargetNotFound, .pinnedModelNotBound,
    .exclusion .reasoningEffortUnverified, .hardConstraintFailed, .capabilityFailed,
    .capacityFailed, .policyFailed]

/-- Every one of them sorts after `admission_rejected`. -/
theorem admissionRejected_lt {code : AdmissionReason} (h : code ∈ rejectionReasons) :
    AdmissionReason.admissionRejected < code := by
  revert h code
  unfold rejectionReasons
  decide +kernel

/-- A rejection with one code of its own is returned. -/
theorem rejects_rejectPin (pin : PinnedTarget) {code : AdmissionReason}
    (h : code ∈ rejectionReasons) : Rejects (rejectPin pin code) :=
  rejects_make (List.pairwise_cons.mpr
    ⟨fun _ hmem => (List.mem_singleton.mp hmem) ▸ admissionRejected_lt h,
      List.pairwise_singleton _ _⟩) List.mem_cons_self rfl rfl

/-- A rejection by the gate is returned when its exclusion can be held, and raises otherwise. -/
theorem rejectGate_spec (pin : PinnedTarget) (entry : ResourceRegistryEntry)
    (failure : GateFailure) :
    ((failure.exclusionRecord entry).WellFormed → Rejects (rejectGate pin entry failure)) ∧
      (¬ (failure.exclusionRecord entry).WellFormed →
        ¬ Returns (rejectGate pin entry failure)) := by
  unfold rejectGate
  constructor
  · intro hwf
    obtain ⟨exclusion, hexclusion⟩ := TargetExclusion.make_returns_iff.mpr hwf
    rw [hexclusion, ok_bind]
    have hnodup : (AdmissionReason.admissionRejected ::
        failure.reasonCodes.map AdmissionReason.exclusion).Nodup := by
      refine List.nodup_cons.mpr ⟨fun h => ?_, ?_⟩
      · obtain ⟨_, -, h⟩ := List.mem_map.mp h
        cases h
      · exact hwf.codes_sorted.nodup.map fun _ _ h => AdmissionReason.exclusion.inj h
    exact rejects_make (strictlySorted_sortBy_id hnodup) (mem_sortBy.mpr List.mem_cons_self) rfl rfl
  · intro hwf h
    obtain ⟨exclusion, hexclusion, -⟩ := returns_bind.mp h
    exact hwf (TargetExclusion.make_returns_iff.mp ⟨exclusion, hexclusion⟩)

/-! ### The gate of the pinned resource -/

section Gate

variable {i : RouteInputs} {requirement : TaskRequirement} {pin : PinnedTarget}

/-- A clean gate of exact admission is healthy. -/
theorem RouteInputs.admitGate_healthy {entry : ResourceRegistryEntry}
    (h : (i.admitGate requirement pin entry).failure = none) :
    ∀ o ∈ (i.admitGate requirement pin entry).entry.observation, o.health.status = .ok :=
  (GateInputs.availabilityCodes_eq_nil.mp (GateInputs.runStages_eq_none_iff.mp h).1.available).healthy

/-- A failed pinned resource has its exclusion exactly when its failures are ordered. -/
theorem RouteInputs.admitGate_wellFormed_iff {entry : ResourceRegistryEntry} {failure : GateFailure}
    (h : (i.admitGate requirement pin entry).failure = some failure) :
    (failure.exclusionRecord (i.admitGate requirement pin entry).entry).WellFormed ↔
      (bindIdentities entry.identity i.catalog ≠ [] →
        OrderedFailures entry i.effective i.executionAssurances i.evaluatedAt) := by
  have hcodes : (i.admitGateInputs requirement pin entry.identity).authorizationCodes
      (expireContext entry i.evaluatedAt) =
      authorizationFailureCodes entry i.effective i.executionAssurances i.evaluatedAt :=
    authorizationFailureCodes_expireContext _ _ _ _ _
  rw [← strictlySorted_authorizationFailureCodes, ← hcodes]
  have hiff := GateInputs.exclusionRecord_wellFormed_iff
    (i.admitGate requirement pin entry).entry h
  rw [expireContext_identity] at hiff
  exact hiff

end Gate

section Admission

variable [RouteHost]

/-! ### Admissible pins -/

/-- The pinned resource qualifies in exact admission, and the entry of the pinned model, narrowed to
    it, has the pinned effort, meets the requirement and is selected. -/
structure Admissible (i : RouteInputs) (requirement : TaskRequirement) (pin : PinnedTarget)
    (entry : ResourceRegistryEntry) (candidate : ModelCatalogEntry) : Prop where
  respects : respectsRequest i.request pin = true
  registered : entry ∈ i.registrySnapshot.entries
  resource_id : entry.identity.resourceId = pin.resourceId
  qualified : (i.admitGate requirement pin entry).failure = none
  retained : pin.model ∈ (i.admitGate requirement pin entry).boundIdentities
  view : (narrowedCatalog i [pin.model] fun _ =>
    [(i.admitGate requirement pin entry).toGatedResource]).entries = [candidate]
  effort : honoursEffort pin.reasoningEffort candidate = true
  hard : evaluateHardConstraints requirement.hardConstraints candidate = []
  capability :
    evaluateCapabilitySufficiency requirement.capabilityMinima candidate.capabilities = []
  selected : i.isRuntime = true → ∃ snapshots,
    resourceSnapshots (expireContext entry i.evaluatedAt) candidate = .ok snapshots ∧
    ∃ evaluated, runSelection i (narrowedCatalog i [pin.model] fun _ =>
      [(i.admitGate requirement pin entry).toGatedResource]) requirement (some snapshots) =
        .ok evaluated ∧ evaluated.selected ≠ none

/-- The target of an admissible pin. -/
def admittedTarget (i : RouteInputs) (requirement : TaskRequirement) (pin : PinnedTarget)
    (entry : ResourceRegistryEntry) (candidate : ModelCatalogEntry) : RouteTarget :=
  routeTarget (i.admitGate requirement pin entry).toGatedResource pin.model i.profileId false
    (if i.isRuntime then candidate.reasoningEffort.map ReasoningEffort.text else none)

/-- A versioned entry is not selected again, and a runtime one always has its verdict. -/
private theorem admissionSelectionCode_spec {i : RouteInputs} (hvalid : i.Valid)
    (requirement : TaskRequirement) (catalog : ModelCatalog) {resource : GatedResource}
    (hhealth : ∀ o ∈ resource.entry.observation, o.health.status = .ok)
    (candidate : ModelCatalogEntry) :
    ∃ code, admissionSelectionCode i requirement catalog resource candidate = .ok code ∧
      (code = none ↔ (i.isRuntime = true → ∃ snapshots,
        resourceSnapshots resource.entry candidate = .ok snapshots ∧
        ∃ evaluated, runSelection i catalog requirement (some snapshots) = .ok evaluated ∧
          evaluated.selected ≠ none)) ∧
      ∀ c ∈ code, c = .capacityFailed ∨ c = .policyFailed := by
  unfold admissionSelectionCode
  cases hruntime : i.isRuntime with
  | false => exact ⟨none, rfl, iff_of_true rfl nofun, fun _ h => nomatch h⟩
  | true =>
    obtain ⟨snapshots, hsnapshots, hlength⟩ := resourceSnapshots_of_healthy hhealth candidate
    obtain ⟨evaluated, hevaluated⟩ := runSelection_resource_returns hvalid hruntime catalog
      requirement hlength
    have hverdict : (∃ snapshots, resourceSnapshots resource.entry candidate = .ok snapshots ∧
        ∃ evaluated, runSelection i catalog requirement (some snapshots) = .ok evaluated ∧
          evaluated.selected ≠ none) ↔ evaluated.selected ≠ none := by
      constructor
      · rintro ⟨snapshots', hsnapshots', evaluated', hevaluated', hne⟩
        obtain rfl := Except.ok.inj (hsnapshots.symm.trans hsnapshots')
        obtain rfl := Except.ok.inj (hevaluated.symm.trans hevaluated')
        exact hne
      · exact fun hne => ⟨snapshots, hsnapshots, evaluated, hevaluated, hne⟩
    simp only [forall_const, hverdict]
    rw [Bool.not_true, if_neg Bool.false_ne_true, hsnapshots, ok_bind, hevaluated, ok_bind]
    split
    · rename_i s hsome
      exact ⟨none, rfl, iff_of_true rfl (by simp [hsome]), fun _ h => nomatch h⟩
    · rename_i hnone
      split
      · refine ⟨_, rfl, iff_of_false (Option.some_ne_none _) (fun h => h hnone), ?_⟩
        rintro _ ⟨⟩
        exact .inl rfl
      · refine ⟨_, rfl, iff_of_false (Option.some_ne_none _) (fun h => h hnone), ?_⟩
        rintro _ ⟨⟩
        exact .inr rfl

/-- **The model-level half of admission** approves an entry that meets every demand and rejects any
    other. -/
private theorem admitEntry_spec {i : RouteInputs} (hvalid : i.Valid) (requirement : TaskRequirement)
    (pin : PinnedTarget) (catalog : ModelCatalog) {resource : GatedResource}
    (hhealth : ∀ o ∈ resource.entry.observation, o.health.status = .ok)
    (candidate : ModelCatalogEntry) :
    let demands := honoursEffort pin.reasoningEffort candidate = true ∧
      evaluateHardConstraints requirement.hardConstraints candidate = [] ∧
      evaluateCapabilitySufficiency requirement.capabilityMinima candidate.capabilities = [] ∧
      (i.isRuntime = true → ∃ snapshots,
        resourceSnapshots resource.entry candidate = .ok snapshots ∧
        ∃ evaluated, runSelection i catalog requirement (some snapshots) = .ok evaluated ∧
          evaluated.selected ≠ none)
    (demands → ∃ d, admitEntry i requirement pin resource catalog candidate = .ok d ∧
      d.approved = true ∧ d.target = some (routeTarget resource pin.model i.profileId false
        (if i.isRuntime then candidate.reasoningEffort.map ReasoningEffort.text else none))) ∧
    (¬ demands → Rejects (admitEntry i requirement pin resource catalog candidate)) := by
  intro demands
  obtain ⟨code, hcode, hnone, hreason⟩ := admissionSelectionCode_spec hvalid
    requirement catalog hhealth candidate
  unfold admitEntry
  split
  · rename_i heffort
    refine ⟨fun h => ?_, fun _ => rejects_rejectPin pin (by decide)⟩
    rw [h.1] at heffort
    cases heffort
  rename_i heffort
  replace heffort : honoursEffort pin.reasoningEffort candidate = true := by simpa using heffort
  split
  · rename_i hhard
    exact ⟨fun h => absurd h.2.1 hhard, fun _ => rejects_rejectPin pin (by decide)⟩
  rename_i hhard
  split
  · rename_i hcapability
    exact ⟨fun h => absurd h.2.2.1 hcapability, fun _ => rejects_rejectPin pin (by decide)⟩
  rename_i hcapability
  rw [hcode, ok_bind]
  split
  · rename_i c
    refine ⟨fun h => ?_, fun _ => ?_⟩
    · exact absurd (hnone.mpr h.2.2.2) (Option.some_ne_none _)
    · rcases hreason c rfl with rfl | rfl
      · exact rejects_rejectPin pin (by decide)
      · exact rejects_rejectPin pin (by decide)
  · refine ⟨fun _ => ⟨_, AdmissionDecision.make_eq_ok.mpr ⟨⟨List.pairwise_singleton _ _, ?_, ?_,
      nofun⟩, rfl⟩, rfl, rfl⟩, fun h => absurd ⟨heffort, not_not.mp hhard, not_not.mp hcapability,
      hnone.mp rfl⟩ h⟩
    · exact List.cons_ne_nil _ _
    · exact fun _ => ⟨Option.some_ne_none _, rfl, List.mem_singleton_self _⟩

/-! ### The decision -/

/-- The pinned resource, once it is looked up, has representable failures. -/
def PinRepresentable (i : RouteInputs) (pin : PinnedTarget) : Prop :=
  respectsRequest i.request pin = true → ∀ entry ∈ i.registrySnapshot.entries,
    entry.identity.resourceId = pin.resourceId → bindIdentities entry.identity i.catalog ≠ [] →
    OrderedFailures entry i.effective i.executionAssurances i.evaluatedAt

/-- **Admission decides every pin whose failures are representable**: it approves the admissible
    ones, with their target, and rejects the others. -/
theorem admitCore_spec {r : RouteRequest} {requirement : TaskRequirement}
    (hrequirement : r.resolveRequirement = .ok requirement) (pin : PinnedTarget) :
    (∀ entry candidate, Admissible r.toRouteInputs requirement pin entry candidate →
      ∃ d, admitCore r pin = .ok d ∧ d.approved = true ∧
        d.target = some (admittedTarget r.toRouteInputs requirement pin entry candidate)) ∧
    ((¬ ∃ entry candidate, Admissible r.toRouteInputs requirement pin entry candidate) →
      PinRepresentable r.toRouteInputs pin → Rejects (admitCore r pin)) ∧
    (¬ PinRepresentable r.toRouteInputs pin → ¬ Returns (admitCore r pin)) := by
  unfold admitCore
  rw [hrequirement, ok_bind]
  split
  · rename_i hrespects
    refine ⟨fun entry candidate h => ?_, fun _ _ => rejects_rejectPin pin (by decide),
      fun h => absurd (fun hrespects' => ?_) h⟩
    · rw [h.respects] at hrespects
      cases hrespects
    · rw [hrespects'] at hrespects
      cases hrespects
  rename_i hrespects
  replace hrespects : respectsRequest r.request pin = true := by simpa using hrespects
  split
  · rename_i hnone
    have habsent : ∀ entry ∈ r.registrySnapshot.entries,
        entry.identity.resourceId ≠ pin.resourceId := by
      intro entry hentry hid
      rw [RegistrySnapshot.lookup?_eq_some.mpr ⟨hentry, hid⟩] at hnone
      cases hnone
    refine ⟨fun entry candidate h => absurd h.resource_id (habsent entry h.registered),
      fun _ _ => rejects_rejectPin pin (by decide), fun h => absurd (fun _ entry hentry hid => ?_) h⟩
    exact absurd hid (habsent entry hentry)
  rename_i entry hentry
  obtain ⟨hregistered, hid⟩ := RegistrySnapshot.lookup?_eq_some.mp hentry
  have hsame : ∀ other candidate, Admissible r.toRouteInputs requirement pin other candidate →
      other = entry := fun other candidate h =>
    r.registrySnapshot.entry_ext h.registered hregistered (h.resource_id.trans hid.symm)
  have hrepresentable : PinRepresentable r.toRouteInputs pin ↔
      (bindIdentities entry.identity r.catalog ≠ [] →
        OrderedFailures entry r.effective r.executionAssurances r.evaluatedAt) := by
    constructor
    · exact fun h => h hrespects entry hregistered hid
    · intro h _ other hother hotherid
      rwa [r.registrySnapshot.entry_ext hother hregistered (hotherid.trans hid.symm)]
  dsimp only
  split
  · rename_i failure hfailure
    have hwf := RouteInputs.admitGate_wellFormed_iff hfailure
    obtain ⟨hok, herror⟩ := rejectGate_spec pin (r.admitGate requirement pin entry).entry failure
    refine ⟨fun other candidate h => ?_, fun _ h => hok (hwf.mpr (hrepresentable.mp h)),
      fun h => herror fun hwell => h (hrepresentable.mpr (hwf.mp hwell))⟩
    obtain rfl := hsame other candidate h
    rw [h.qualified] at hfailure
    cases hfailure
  rename_i hqualified
  have hclean : PinRepresentable r.toRouteInputs pin := by
    refine hrepresentable.mpr fun _ => ?_
    have hpasses := (GateInputs.runStages_eq_none_iff.mp hqualified).1.authorized
    have hcodes : authorizationFailureCodes entry r.effective r.executionAssurances
        r.evaluatedAt = [] :=
      (authorizationFailureCodes_expireContext _ _ _ _ _).symm.trans hpasses
    rw [← strictlySorted_authorizationFailureCodes, hcodes]
    exact List.Pairwise.nil
  have hhealth := RouteInputs.admitGate_healthy hqualified
  split
  · rename_i hunbound
    refine ⟨fun other candidate h => ?_, fun _ _ => rejects_rejectPin pin (by decide),
      fun h => absurd hclean h⟩
    obtain rfl := hsame other candidate h
    exact absurd h.retained hunbound
  rename_i hretained
  split
  · rename_i hnil
    refine ⟨fun other candidate h => ?_, fun _ _ => rejects_rejectPin pin (by decide),
      fun h => absurd hclean h⟩
    obtain rfl := hsame other candidate h
    have hview := h.view
    rw [hnil] at hview
    cases hview
  · rename_i candidate rest hentries
    obtain rfl := view_eq_singleton hentries
    obtain ⟨happroves, hrejects⟩ := admitEntry_spec r.valid requirement pin
      (narrowedCatalog r.toRouteInputs [pin.model] fun _ =>
        [(r.admitGate requirement pin entry).toGatedResource]) hhealth candidate
    refine ⟨fun other candidate' h => ?_, fun h _ => hrejects fun hdemands => h ⟨entry, candidate, ?_⟩,
      fun h => absurd hclean h⟩
    · obtain rfl := hsame other candidate' h
      obtain rfl : candidate = candidate' := (List.cons.inj (hentries.symm.trans h.view)).1
      exact happroves ⟨h.effort, h.hard, h.capability, h.selected⟩
    · obtain ⟨heffort, hhard, hcapability, hselected⟩ := hdemands
      exact ⟨hrespects, hregistered, hid, hqualified, not_not.mp hretained, hentries, heffort, hhard,
        hcapability, hselected⟩

/-- **When a pin has a decision.** -/
theorem admitCore_returns_iff (r : RouteRequest) (pin : PinnedTarget) :
    Returns (admitCore r pin) ↔
      Returns r.resolveRequirement ∧ PinRepresentable r.toRouteInputs pin := by
  constructor
  · intro h
    obtain ⟨requirement, hrequirement, -⟩ := returns_bind.mp h
    refine ⟨⟨requirement, hrequirement⟩, ?_⟩
    by_contra hno
    exact (admitCore_spec hrequirement pin).2.2 hno h
  · rintro ⟨⟨requirement, hrequirement⟩, hrepresentable⟩
    obtain ⟨happroves, hrejects, -⟩ := admitCore_spec hrequirement pin
    by_cases hadmissible : ∃ entry candidate,
        Admissible r.toRouteInputs requirement pin entry candidate
    · obtain ⟨entry, candidate, h⟩ := hadmissible
      obtain ⟨d, hd, -⟩ := happroves entry candidate h
      exact ⟨d, hd⟩
    · obtain ⟨d, hd, -⟩ := hrejects hadmissible hrepresentable
      exact ⟨d, hd⟩

/-- **Admission approves exactly the admissible pins.** -/
theorem admitCore_approves_iff {r : RouteRequest} {pin : PinnedTarget} {d : AdmissionDecision}
    (h : admitCore r pin = .ok d) : d.approved = true ↔
      ∃ requirement, r.resolveRequirement = .ok requirement ∧ ∃ entry candidate,
        Admissible r.toRouteInputs requirement pin entry candidate ∧
        d.target = some (admittedTarget r.toRouteInputs requirement pin entry candidate) := by
  obtain ⟨⟨requirement, hrequirement⟩, hrepresentable⟩ := (admitCore_returns_iff r pin).mp ⟨d, h⟩
  obtain ⟨happroves, hrejects, -⟩ := admitCore_spec hrequirement pin
  constructor
  · intro happroved
    by_cases hadmissible : ∃ entry candidate,
        Admissible r.toRouteInputs requirement pin entry candidate
    · obtain ⟨entry, candidate, hpin⟩ := hadmissible
      obtain ⟨d', hd', -, htarget⟩ := happroves entry candidate hpin
      obtain rfl := Except.ok.inj (h.symm.trans hd')
      exact ⟨requirement, hrequirement, entry, candidate, hpin, htarget⟩
    · obtain ⟨d', hd', hrejected⟩ := hrejects hadmissible hrepresentable
      obtain rfl := Except.ok.inj (h.symm.trans hd')
      rw [hrejected] at happroved
      cases happroved
  · rintro ⟨requirement', hrequirement', entry, candidate, hpin, -⟩
    obtain rfl := Except.ok.inj (hrequirement.symm.trans hrequirement')
    obtain ⟨d', hd', happroved, -⟩ := happroves entry candidate hpin
    rwa [Except.ok.inj (h.symm.trans hd')]

end Admission

end ScarcityRouter
