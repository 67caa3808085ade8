import ScarcityRouter.Routing.Gate

namespace ScarcityRouter

open ScarcityRouter.Lib

/-!
# What the resource gate establishes

* `gateStages`, `runStages_firstFailure` — **the gate reports the first failing stage with
  all of its codes**: it refines the staged check of `Lib.Staged`.
* `runStages_eq_none_iff`, `mem_servedIdentities_iff` — when a gate qualifies, and for whom.
* `exclusionRecord_wellFormed_iff` — the only failure a `TargetExclusion` cannot hold is an
  authorization failure whose codes come out unsorted.
* `runStages_of_perm` — the gate does not depend on the order of the catalog entries.
-/

/-! ### Unfolding the parts -/

theorem mem_bindIdentities {resource : ResourceIdentity} {catalog : ModelCatalog}
    {identity : ModelIdentity} : identity ∈ bindIdentities resource catalog ↔
      ∃ entry ∈ catalog.entries, bindsEntry catalog resource entry = true ∧
        entry.identity = identity := by
  simp only [bindIdentities, List.mem_map, List.mem_filter, and_assoc]

/-- A bound identity is one of the catalog, of the resource's own provider and model. -/
theorem of_mem_bindIdentities {resource : ResourceIdentity} {catalog : ModelCatalog}
    {identity : ModelIdentity} (h : identity ∈ bindIdentities resource catalog) :
    (∃ entry ∈ catalog.entries, entry.identity = identity) ∧
      identity.provider = resource.provider ∧ identity.model = resource.model ∧
      ∀ variant ∈ resource.variant, variant = identity.variant := by
  obtain ⟨entry, hentry, hbinds, rfl⟩ := mem_bindIdentities.mp h
  simp only [bindsEntry, Bool.and_eq_true, decide_eq_true_eq, Option.all_eq_true] at hbinds
  obtain ⟨⟨⟨hprovider, hmodel⟩, hvariant⟩, -⟩ := hbinds
  exact ⟨⟨entry, hentry, rfl⟩, hprovider, hmodel, hvariant⟩

/-- Bound identities are distinct, as catalog identities are. -/
theorem nodup_bindIdentities (resource : ResourceIdentity) (catalog : ModelCatalog) :
    (bindIdentities resource catalog).Nodup :=
  catalog.unique.sublist (List.filter_sublist.map _)

/-- Withdrawing a context attestation touches nothing the authorization stage reads. -/
@[simp] theorem authorizationFailureCodes_expireContext (entry : ResourceRegistryEntry)
    (at_ : Instant) (effective : EffectiveAuthorization) (assurances : List ExecutionAssurance)
    (assessedAt : Instant) :
    authorizationFailureCodes (expireContext entry at_) effective assurances assessedAt =
      authorizationFailureCodes entry effective assurances assessedAt := by
  unfold authorizationFailureCodes noPaygCodes
  have hspend : spendLimitCodes (expireContext entry at_) = spendLimitCodes entry := by
    funext limit
    simp only [spendLimitCodes, expireContext_identity, expireContext_cost]
  simp only [expireContext_identity, expireContext_ttl, hspend]

namespace GateInputs

variable {inputs : GateInputs} {entry : ResourceRegistryEntry}

theorem servedIdentities_subset_usable : inputs.servedIdentities entry ⊆
    inputs.usableIdentities entry := by
  unfold servedIdentities
  split
  · exact fun _ h => List.mem_of_mem_filter h
  · exact List.Subset.refl _

theorem usableIdentities_subset_bound : inputs.usableIdentities entry ⊆
    bindIdentities entry.identity inputs.catalog :=
  fun _ h => List.mem_of_mem_filter h

/-- When no bound identity survives the effort loop, the loop has recorded a failure. -/
theorem firstEffortFailure_spec (husable : inputs.usableIdentities entry ≠ [])
    (hserved : inputs.servedIdentities entry = []) :
    (inputs.firstEffortFailure entry).codes ≠ [] ∧
      ∃ identity ∈ inputs.usableIdentities entry,
        inputs.firstEffortFailure entry = inputs.effortFailure entry identity := by
  unfold servedIdentities at hserved
  split at hserved
  · have hall : ∀ identity ∈ inputs.usableIdentities entry,
        (inputs.effortFailure entry identity).codes ≠ [] := by
      intro identity hmem hnil
      have := List.filter_eq_nil_iff.mp hserved identity hmem
      exact this (decide_eq_true hnil)
    unfold firstEffortFailure
    cases hu : inputs.usableIdentities entry with
    | nil => exact absurd hu husable
    | cons identity rest =>
      have hfirst := hall identity (hu ▸ List.mem_cons_self)
      rw [List.map_cons, List.find?_cons_of_pos (by simpa using hfirst), Option.getD_some]
      exact ⟨hfirst, identity, List.mem_cons_self, rfl⟩
  · exact absurd hserved husable

/-! ### First failing stage -/

/-- The findings of each stage, whatever the others find.  The compatibility stage adds the effort
    loop to its matrix, context and output checks. -/
def stageCodes (inputs : GateInputs) (entry : ResourceRegistryEntry) :
    RouteStage → List TargetReason
  | .binding =>
    if bindIdentities entry.identity inputs.catalog = [] then [.capabilityUnassessed] else []
  | .authorization =>
    if inputs.authorizationCodes entry ≠ [] then inputs.authorizationCodes entry
    else if inputs.usableIdentities entry = [] then [.resourceBlocked] else []
  | .availability => inputs.availabilityCodes entry
  | .compatibility =>
    let base := inputs.compatibility entry inputs.configuredReasoningRequired
    if base.codes ≠ [] then base.codes
    else if inputs.servedIdentities entry = [] then (inputs.firstEffortFailure entry).codes else []
  | .capacity | .policy => []

/-- The gate stages in evaluation order, each with its findings. -/
def gateStages (inputs : GateInputs) (entry : ResourceRegistryEntry) :
    List (RouteStage × List TargetReason) :=
  [RouteStage.binding, .authorization, .availability, .compatibility].map fun stage =>
    (stage, inputs.stageCodes entry stage)

/-- **The pipeline reports the first failing stage with all of its codes.** -/
theorem runStages_firstFailure : (inputs.runStages entry).2.map (fun f => (f.stage, f.reasonCodes)) =
    firstFailure (inputs.gateStages entry) := by
  unfold runStages gateStages
  simp only [List.map_cons, List.map_nil, stageCodes]
  by_cases hbound : bindIdentities entry.identity inputs.catalog = []
  · rw [if_pos hbound, if_pos hbound, firstFailure_cons_of_ne_nil (List.cons_ne_nil _ _)]
    rfl
  rw [if_neg hbound, if_neg hbound, firstFailure_cons_of_nil]
  by_cases hauth : inputs.authorizationCodes entry ≠ []
  · rw [if_pos hauth, if_pos hauth, firstFailure_cons_of_ne_nil hauth]
    rfl
  rw [if_neg hauth, if_neg hauth]
  by_cases husable : inputs.usableIdentities entry = []
  · rw [if_pos husable, if_pos husable, firstFailure_cons_of_ne_nil (List.cons_ne_nil _ _)]
    rfl
  rw [if_neg husable, if_neg husable, firstFailure_cons_of_nil]
  by_cases havail : inputs.availabilityCodes entry ≠ []
  · rw [if_pos havail, firstFailure_cons_of_ne_nil havail]
    rfl
  rw [if_neg havail, not_not.mp havail, firstFailure_cons_of_nil]
  by_cases hbase : (inputs.compatibility entry inputs.configuredReasoningRequired).codes ≠ []
  · rw [if_pos hbase, if_pos hbase, firstFailure_cons_of_ne_nil hbase]
    rfl
  rw [if_neg hbase, if_neg hbase]
  by_cases hserved : inputs.servedIdentities entry = []
  · rw [if_pos hserved, if_pos hserved,
      firstFailure_cons_of_ne_nil (firstEffortFailure_spec husable hserved).1]
    rfl
  · rw [if_neg hserved, if_neg hserved, firstFailure_cons_of_nil]
    rfl

/-! ### Qualified gates -/

/-- The resource passes every check before the effort loop. -/
structure Passes (inputs : GateInputs) (entry : ResourceRegistryEntry) : Prop where
  authorized : inputs.authorizationCodes entry = []
  available : inputs.availabilityCodes entry = []
  compatible : (inputs.compatibility entry inputs.configuredReasoningRequired).codes = []

/-- **When a gate qualifies**: every stage is clean and some bound identity is served. -/
theorem runStages_eq_none_iff : (inputs.runStages entry).2 = none ↔
    inputs.Passes entry ∧ inputs.servedIdentities entry ≠ [] := by
  have hsubset : inputs.servedIdentities entry ≠ [] → inputs.usableIdentities entry ≠ [] ∧
      bindIdentities entry.identity inputs.catalog ≠ [] := by
    intro hserved
    obtain ⟨identity, hmem⟩ := List.exists_mem_of_ne_nil _ hserved
    have husable := servedIdentities_subset_usable hmem
    exact ⟨List.ne_nil_of_mem husable, List.ne_nil_of_mem (usableIdentities_subset_bound husable)⟩
  unfold runStages
  dsimp only
  constructor
  · intro h
    split_ifs at h with hbound hauth husable havail hbase hserved
    exact ⟨⟨not_not.mp hauth, not_not.mp havail, not_not.mp hbase⟩, hserved⟩
  · rintro ⟨⟨hauth, havail, hbase⟩, hserved⟩
    obtain ⟨husable, hbound⟩ := hsubset hserved
    rw [if_neg hbound, if_neg (not_not.mpr hauth), if_neg husable, if_neg (not_not.mpr havail),
      if_neg (not_not.mpr hbase), if_neg hserved]

/-- A qualified gate retains exactly the served identities. -/
theorem runStages_fst_of_none (h : (inputs.runStages entry).2 = none) :
    (inputs.runStages entry).1 = inputs.servedIdentities entry := by
  obtain ⟨⟨hauth, havail, hbase⟩, hserved⟩ := runStages_eq_none_iff.mp h
  unfold runStages at h ⊢
  dsimp only at h ⊢
  split_ifs at h ⊢
  rfl

/-- An effort is demanded only by the catalog-effort flag or by an MI association. -/
theorem effortDemanded_source {identity : ModelIdentity}
    (h : inputs.effortDemanded entry identity = true) :
    inputs.requireCatalogEffort = true ∨ identity ∈ inputs.miEffortRequired := by
  unfold effortDemanded at h
  cases hentry : inputs.catalog.lookup? identity with
  | none =>
    rw [hentry] at h
    cases h
  | some candidate =>
    rw [hentry, Option.any_some, Bool.and_eq_true, Bool.or_eq_true] at h
    exact h.2.imp_right of_decide_eq_true

/-- An identity survives the effort loop when it is bound, unblocked and, if its configured effort
    is exercised, served with reasoning controls. -/
theorem mem_servedIdentities_iff {identity : ModelIdentity}
    (hbase : (inputs.compatibility entry inputs.configuredReasoningRequired).codes = []) :
    identity ∈ inputs.servedIdentities entry ↔
      identity ∈ bindIdentities entry.identity inputs.catalog ∧ identity ∉ inputs.miBlocked ∧
      (inputs.effortDemanded entry identity = true →
        (inputs.compatibility entry true).codes = []) := by
  have heffort : (inputs.effortFailure entry identity).codes = [] ↔
      (inputs.effortDemanded entry identity = true →
        (inputs.compatibility entry true).codes = []) := by
    unfold effortFailure
    cases inputs.effortDemanded entry identity <;> simp [hbase]
  have husable : identity ∈ inputs.usableIdentities entry ↔
      identity ∈ bindIdentities entry.identity inputs.catalog ∧ identity ∉ inputs.miBlocked := by
    simp [usableIdentities]
  unfold servedIdentities
  split
  · simp only [List.mem_filter, decide_eq_true_eq, husable, heffort, and_assoc]
  · rename_i hchecks
    rw [husable]
    refine ⟨fun ⟨hbound, hblocked⟩ => ⟨hbound, hblocked, fun hdemand => ?_⟩,
      fun ⟨hbound, hblocked, _⟩ => ⟨hbound, hblocked⟩⟩
    -- Without the loop no identity can demand its effort.
    exfalso
    apply hchecks
    have hsource := effortDemanded_source hdemand
    unfold checksEffort
    rw [Bool.or_eq_true, List.any_eq_true]
    rcases hsource with hrequire | hmi
    · exact .inl hrequire
    · exact .inr ⟨identity, husable.mpr ⟨hbound, hblocked⟩, decide_eq_true hmi⟩

/-- What a clean compatibility check establishes under a reasoning demand. -/
structure Compatible (inputs : GateInputs) (entry : ResourceRegistryEntry) (demand : Bool) :
    Prop where
  features : ∀ feature ∈ requiredFeatures inputs.request demand,
    ∃ cell ∈ lookupCell inputs.cells entry.identity feature, cell.value.serves = true
  context : ∀ minimum ∈ inputs.requirement.hardConstraints.minimumInputContextTokens,
    ∃ limit ∈ entry.capabilities.contextLimitTokens, minimum ≤ limit
  output : routeOutputCode entry.capabilities
    (requestOutputContext inputs.request entry.identity inputs.catalog).1
    inputs.request.maximumOutputTokens
    (requestOutputContext inputs.request entry.identity inputs.catalog).2 = none
  floor : routeOutputCode entry.capabilities
    (requestOutputContext inputs.request entry.identity inputs.catalog).1
    inputs.requirement.hardConstraints.minimumOutputTokens
    (requestOutputContext inputs.request entry.identity inputs.catalog).2 false = none

/-- A cell is served exactly when it yields no code. -/
theorem featureCode_eq_none {cell : Option CompatibilityCell} :
    featureCode cell = none ↔ ∃ c ∈ cell, c.value.serves = true := by
  cases cell with
  | none => simp [featureCode]
  | some c =>
    unfold featureCode
    cases hvalue : c.value <;> simp [hvalue, CellValue.serves]

/-- The context check passes when the minimum is known to be met. -/
theorem contextCode_eq_none {minimum limit : Option ℕ+} :
    contextCode minimum limit = none ↔ ∀ m ∈ minimum, ∃ l ∈ limit, m ≤ l := by
  unfold contextCode
  cases minimum with
  | none => simp
  | some m =>
    cases limit with
    | none => simp
    | some l =>
      by_cases h : l < m
      · simp [h]
      · simpa [h] using not_lt.mp h

/-- **A clean compatibility check**: every required feature served, the context minimum met, both
    output rules satisfied. -/
theorem compatibility_codes_eq_nil {demand : Bool} :
    (inputs.compatibility entry demand).codes = [] ↔ inputs.Compatible entry demand := by
  unfold compatibility compatibilityFailure failingFeatures
  simp only [sortedSet_eq_nil, List.append_eq_nil_iff, List.filterMap_eq_nil_iff, List.mem_filter,
    Option.toList_eq_nil_iff, List.map_eq_nil_iff, contextCode_eq_none]
  constructor
  · rintro ⟨⟨⟨hfeatures, hcontext⟩, houtput⟩, hfloor⟩
    refine ⟨fun feature hfeature => featureCode_eq_none.mp ?_, hcontext, houtput, hfloor⟩
    by_contra hsome
    exact hsome (hfeatures feature ⟨hfeature, Option.ne_none_iff_isSome.mp hsome⟩)
  · rintro ⟨hfeatures, hcontext, houtput, hfloor⟩
    exact ⟨⟨⟨fun feature h => featureCode_eq_none.mpr (hfeatures feature h.1), hcontext⟩, houtput⟩,
      hfloor⟩

/-- What a clean availability stage establishes. -/
structure Available (inputs : GateInputs) (entry : ResourceRegistryEntry) : Prop where
  fresh : entry.freshness = .fresh
  healthy : ∀ o ∈ entry.observation, o.health.status = .ok
  eligible : ∀ report ∈ inputs.eligibilityReports.find? (·.provider = entry.identity.provider),
    report.state = .eligible
  adapter : ∀ ids ∈ inputs.availableAdapterResourceIds, entry.identity.resourceId ∈ ids
  continuation : inputs.request.requiresToolCalls = true → entry.identity.channel = .workerBridged →
    ∃ ids ∈ inputs.continuationCapableResourceIds, entry.identity.resourceId ∈ ids

/-- **A clean availability stage**: fresh, healthy, eligible, and with the live adapter and
    continuation the request needs. -/
theorem availabilityCodes_eq_nil : inputs.availabilityCodes entry = [] ↔
    inputs.Available entry := by
  unfold availabilityCodes availabilityFailureCodes adapterMissing continuationMissing
  simp only [sortBy_eq_nil, List.append_eq_nil_iff, codeIf_eq_nil, decide_eq_false_iff_not]
  constructor
  · rintro ⟨⟨⟨⟨⟨hnever, hstale⟩, hhealth⟩, hreport⟩, hadapter⟩, hcontinuation⟩
    refine ⟨?_, ?_, ?_, ?_, ?_⟩
    · cases hf : entry.freshness <;> simp_all
    · simpa [Option.any_eq_false] using hhealth
    · simpa [Option.any_eq_false] using hreport
    · simpa [Option.any_eq_false] using hadapter
    · intro htools hworker
      simpa [htools, hworker, Option.any_eq_true] using hcontinuation
  · rintro ⟨hfresh, hhealth, hreport, hadapter, hcontinuation⟩
    refine ⟨⟨⟨⟨⟨by simp [hfresh], by simp [hfresh]⟩, ?_⟩, ?_⟩, ?_⟩, ?_⟩
    · simpa [Option.any_eq_false] using hhealth
    · simpa [Option.any_eq_false] using hreport
    · simpa [Option.any_eq_false] using hadapter
    · by_cases hneeds : inputs.request.requiresToolCalls = true ∧
        entry.identity.channel = .workerBridged
      · simpa [hneeds.1, hneeds.2, Option.any_eq_true] using hcontinuation hneeds.1 hneeds.2
      · rw [not_and] at hneeds
        cases htools : inputs.request.requiresToolCalls with
        | false => simp
        | true => simp [hneeds htools]

/-! ### Failures as exclusion records -/

theorem codeIf_sublist (failed : Bool) (code : TargetReason) :
    (codeIf failed code).Sublist [code] := by
  cases failed
  · exact List.nil_sublist _
  · exact List.Sublist.refl _

/-- The availability codes are a selection of the six codes of the stage. -/
theorem availabilityCodes_perm_sublist (inputs : GateInputs) (entry : ResourceRegistryEntry) :
    ∃ codes, (inputs.availabilityCodes entry).Perm codes ∧
    codes.Sublist [TargetReason.resourceNeverObserved, .resourceStale, .resourceUnhealthy,
      .executionIneligible, .adapterUnavailable, .workerContinuationUnavailable] := by
  refine ⟨_, sortBy_perm _ _, ?_⟩
  unfold availabilityFailureCodes
  exact ((((((codeIf_sublist _ _).append (codeIf_sublist _ _)).append (codeIf_sublist _ _)).append
    (codeIf_sublist _ _)).append (codeIf_sublist _ _)).append (codeIf_sublist _ _))

theorem strictlySorted_availabilityCodes : StrictlySorted (inputs.availabilityCodes entry) := by
  obtain ⟨codes, hperm, hsub⟩ := availabilityCodes_perm_sublist inputs entry
  have hnodup : (inputs.availabilityCodes entry).Nodup :=
    hperm.nodup_iff.mpr (List.Nodup.sublist hsub (by decide))
  unfold availabilityCodes at hnodup ⊢
  exact strictlySorted_sortBy_id ((sortBy_perm _ _).nodup_iff.mp hnodup)

theorem mem_reasons_of_mem_availabilityCodes {code : TargetReason}
    (h : code ∈ inputs.availabilityCodes entry) : code ∈ RouteStage.availability.reasons := by
  obtain ⟨codes, hperm, hsub⟩ := availabilityCodes_perm_sublist inputs entry
  have hall : ∀ code ∈ [TargetReason.resourceNeverObserved, .resourceStale, .resourceUnhealthy,
      .executionIneligible, .adapterUnavailable, .workerContinuationUnavailable],
      code ∈ RouteStage.availability.reasons := by decide
  exact hall code (hsub.subset (hperm.subset h))

/-- Every compatibility code is a primary code of its stage. -/
theorem mem_reasons_of_mem_compatibility {demand : Bool} {code : TargetReason}
    (h : code ∈ (inputs.compatibility entry demand).codes) :
    code ∈ RouteStage.compatibility.reasons := by
  have hfeature : ∀ {cell : Option CompatibilityCell} {code : TargetReason},
      featureCode cell = some code → code ∈ RouteStage.compatibility.reasons := by
    intro cell code hcode
    unfold featureCode at hcode
    split at hcode
    · cases hcode
      decide
    · split at hcode <;> cases hcode <;> decide
  have hcontext : ∀ {minimum limit : Option ℕ+} {code : TargetReason},
      contextCode minimum limit = some code → code ∈ RouteStage.compatibility.reasons := by
    intro minimum limit code hcode
    unfold contextCode at hcode
    split at hcode
    · cases hcode
    · split at hcode
      · cases hcode
        decide
      · split_ifs at hcode
        cases hcode
        decide
  have houtput : ∀ code : OutputCode, TargetReason.outputLimit code ∈
      RouteStage.compatibility.reasons := by
    intro code
    cases code <;> decide
  unfold compatibility compatibilityFailure at h
  simp only [mem_sortedSet, List.mem_append, List.mem_filterMap, Option.mem_toList,
    List.mem_map] at h
  rcases h with ((⟨feature, -, hcode⟩ | hcode) | ⟨code, -, rfl⟩) | ⟨code, -, rfl⟩
  · exact hfeature hcode
  · exact hcontext hcode
  · exact houtput code
  · exact houtput code

theorem strictlySorted_compatibility (demand : Bool) :
    StrictlySorted (inputs.compatibility entry demand).codes := by
  unfold compatibility compatibilityFailure
  exact strictlySorted_sortedSet _

/-- A failing matrix stage is a well-formed exclusion. -/
private theorem wellFormed_compatibility {demand : Bool} (entry' : ResourceRegistryEntry)
    (h : (inputs.compatibility entry demand).codes ≠ []) :
    (GateFailure.exclusionRecord
      { stage := .compatibility
        reasonCodes := (inputs.compatibility entry demand).codes
        compatibilityFeature := (inputs.compatibility entry demand).feature
        compatibilityValue := (inputs.compatibility entry demand).value } entry').WellFormed := by
  obtain ⟨code, hcode⟩ := List.exists_mem_of_ne_nil _ h
  exact ⟨strictlySorted_compatibility demand, ⟨code, hcode, mem_reasons_of_mem_compatibility hcode⟩,
    fun _ => rfl, nofun⟩

/-- **Which failures an exclusion record can hold**: all of them, except an authorization failure
    whose codes come out unsorted. -/
theorem exclusionRecord_wellFormed_iff {failure : GateFailure} (entry' : ResourceRegistryEntry)
    (h : (inputs.runStages entry).2 = some failure) :
    (failure.exclusionRecord entry').WellFormed ↔
      (bindIdentities entry.identity inputs.catalog ≠ [] →
        StrictlySorted (inputs.authorizationCodes entry)) := by
  unfold runStages at h
  dsimp only at h
  split_ifs at h with hbound hauth husable havail hbase hserved
  · cases h
    have hwf : (GateFailure.exclusionRecord
        { stage := .binding, reasonCodes := [.capabilityUnassessed] } entry').WellFormed :=
      ⟨List.pairwise_singleton _ _, ⟨_, List.mem_singleton_self _, List.mem_cons_self⟩, nofun,
        nofun⟩
    exact iff_of_true hwf fun hne => absurd hbound hne
  · cases h
    constructor
    · exact fun hwf _ => hwf.codes_sorted
    · intro hsorted
      obtain ⟨code, hcode⟩ := List.exists_mem_of_ne_nil _ hauth
      exact ⟨hsorted hbound, ⟨code, hcode, mem_reasons_of_mem_authorizationFailureCodes hcode⟩,
        nofun, nofun⟩
  all_goals rw [not_not.mp hauth]
  · cases h
    have hwf : (GateFailure.exclusionRecord
        { stage := .authorization, reasonCodes := [.resourceBlocked] } entry').WellFormed :=
      ⟨List.pairwise_singleton _ _, ⟨_, List.mem_singleton_self _,
        List.mem_append_left _ (show TargetReason.resourceBlocked ∈ TargetReason.grantCodes by
          decide)⟩, nofun, nofun⟩
    exact iff_of_true hwf fun _ => List.Pairwise.nil
  · cases h
    obtain ⟨code, hcode⟩ := List.exists_mem_of_ne_nil _ havail
    refine iff_of_true ⟨strictlySorted_availabilityCodes,
      ⟨code, hcode, mem_reasons_of_mem_availabilityCodes hcode⟩, nofun, fun _ => rfl⟩
      fun _ => List.Pairwise.nil
  · cases h
    exact iff_of_true (wellFormed_compatibility entry' hbase) fun _ => List.Pairwise.nil
  · cases h
    obtain ⟨hne, identity, -, hfirst⟩ := firstEffortFailure_spec husable hserved
    rw [hfirst] at hne ⊢
    exact iff_of_true (wellFormed_compatibility entry' hne) fun _ => List.Pairwise.nil

/-! ### Other bindings -/

/-- The gate reads a binding through its tool demand and the compatibility stage only. -/
theorem runStages_of_request {request : RequestBinding}
    (htools : request.requiresToolCalls = inputs.request.requiresToolCalls)
    (hcompatible : ({ inputs with request } : GateInputs).compatibility entry =
      inputs.compatibility entry) :
    ({ inputs with request } : GateInputs).runStages entry = inputs.runStages entry := by
  have heffort : ({ inputs with request } : GateInputs).effortFailure entry =
      inputs.effortFailure entry := by
    funext identity
    exact congrFun hcompatible _
  have hserved : ({ inputs with request } : GateInputs).servedIdentities entry =
      inputs.servedIdentities entry := by
    unfold servedIdentities
    rw [heffort]
    rfl
  have hfirst : ({ inputs with request } : GateInputs).firstEffortFailure entry =
      inputs.firstEffortFailure entry := by
    unfold firstEffortFailure
    rw [heffort]
    rfl
  have havailable : ({ inputs with request } : GateInputs).availabilityCodes entry =
      inputs.availabilityCodes entry := by
    unfold availabilityCodes continuationMissing
    rw [htools]
    rfl
  unfold runStages
  rw [hcompatible, hserved, hfirst, havailable]
  rfl

theorem evaluateResource_of_request {request : RequestBinding}
    (htools : request.requiresToolCalls = inputs.request.requiresToolCalls)
    (hcompatible : ({ inputs with request } : GateInputs).compatibility
      (expireContext entry inputs.evaluatedAt) =
        inputs.compatibility (expireContext entry inputs.evaluatedAt)) :
    evaluateResource { inputs with request } entry = evaluateResource inputs entry := by
  unfold evaluateResource
  dsimp only
  rw [runStages_of_request htools hcompatible]

/-! ### Order independence -/

section Permutation

variable {catalog : ModelCatalog} (hperm : inputs.catalog.entries.Perm catalog.entries)
  (hversion : inputs.catalog.catalogVersion = catalog.catalogVersion)

include hperm hversion

/-- The bound identities are those of the permuted catalog, in its order. -/
theorem bindIdentities_perm (resource : ResourceIdentity) :
    (bindIdentities resource inputs.catalog).Perm (bindIdentities resource catalog) := by
  have hbinds : bindsEntry inputs.catalog resource = bindsEntry catalog resource := by
    funext candidate
    unfold bindsEntry
    rw [hversion]
  unfold bindIdentities
  rw [hbinds]
  exact (hperm.filter _).map _

omit hversion in
/-- The matrix, context and output checks read the catalog by identity only. -/
theorem compatibility_of_perm (demand : Bool) :
    ({ inputs with catalog } : GateInputs).compatibility entry demand =
      inputs.compatibility entry demand := by
  unfold compatibility requestOutputContext
  simp only [ModelCatalog.lookup?_eq_of_perm hperm]

theorem effortFailure_of_perm : ({ inputs with catalog } : GateInputs).effortFailure entry =
    inputs.effortFailure entry := by
  funext identity
  have hdemand : ({ inputs with catalog } : GateInputs).effortDemanded entry identity =
      inputs.effortDemanded entry identity := by
    unfold effortDemanded
    dsimp only
    rw [ModelCatalog.lookup?_eq_of_perm hperm, hversion]
  unfold effortFailure
  rw [compatibility_of_perm hperm, hdemand]

variable (entry) in
theorem usableIdentities_perm : (inputs.usableIdentities entry).Perm
    (({ inputs with catalog } : GateInputs).usableIdentities entry) :=
  (bindIdentities_perm hperm hversion entry.identity).filter _

variable (entry) in
theorem servedIdentities_perm : (inputs.servedIdentities entry).Perm
    (({ inputs with catalog } : GateInputs).servedIdentities entry) := by
  have husable := usableIdentities_perm entry hperm hversion
  have hchecks : ({ inputs with catalog } : GateInputs).checksEffort entry =
      inputs.checksEffort entry := by
    unfold checksEffort
    rw [(husable.symm).any_eq]
  unfold servedIdentities
  rw [hchecks, effortFailure_of_perm hperm hversion]
  split
  · exact husable.filter _
  · exact husable

/-- All failures of the effort loop are one: it runs only after the base check has passed, so each
    of them comes from the reasoning demand. -/
theorem firstEffortFailure_of_perm
    (hbase : (inputs.compatibility entry inputs.configuredReasoningRequired).codes = []) :
    ({ inputs with catalog } : GateInputs).firstEffortFailure entry =
      inputs.firstEffortFailure entry := by
  have hvalue : ∀ identity, (inputs.effortFailure entry identity).codes ≠ [] →
      inputs.effortFailure entry identity = inputs.compatibility entry true := by
    intro identity hne
    unfold effortFailure at hne ⊢
    cases hc : inputs.configuredReasoningRequired with
    | true => rfl
    | false =>
      cases hd : inputs.effortDemanded entry identity with
      | true => rfl
      | false =>
        rw [hc, hd, Bool.or_false] at hne
        rw [hc] at hbase
        exact absurd hbase hne
  unfold firstEffortFailure
  rw [effortFailure_of_perm hperm hversion]
  have husable := (usableIdentities_perm entry hperm hversion).map
    (inputs.effortFailure entry)
  rw [find?_eq_of_perm husable.symm]
  intro a ha b hb hpa hpb
  obtain ⟨i, -, rfl⟩ := List.mem_map.mp ha
  obtain ⟨j, -, rfl⟩ := List.mem_map.mp hb
  rw [hvalue i (of_decide_eq_true hpa), hvalue j (of_decide_eq_true hpb)]

/-- **Order independence.** Permuting the catalog permutes the retained identities and leaves the
    failure as it is. -/
theorem runStages_of_perm :
    (inputs.runStages entry).1.Perm (({ inputs with catalog } : GateInputs).runStages entry).1 ∧
      (inputs.runStages entry).2 = (({ inputs with catalog } : GateInputs).runStages entry).2 := by
  have hbind := bindIdentities_perm hperm hversion entry.identity
  have husable := usableIdentities_perm entry hperm hversion
  have hserved := servedIdentities_perm entry hperm hversion
  have hnil : ∀ {xs ys : List ModelIdentity}, xs.Perm ys → (xs = [] ↔ ys = []) := by
    intro xs ys h
    rw [← List.length_eq_zero_iff, h.length_eq, List.length_eq_zero_iff]
  have hauth : ({ inputs with catalog } : GateInputs).authorizationCodes entry =
      inputs.authorizationCodes entry := rfl
  have havail : ({ inputs with catalog } : GateInputs).availabilityCodes entry =
      inputs.availabilityCodes entry := rfl
  unfold runStages
  simp only [hauth, havail, compatibility_of_perm hperm, ← hnil hbind, ← hnil husable,
    ← hnil hserved]
  split_ifs with hb ha hu hv hc hs
  · exact ⟨List.Perm.refl _, rfl⟩
  · exact ⟨hbind, rfl⟩
  · exact ⟨hbind, rfl⟩
  · exact ⟨husable, rfl⟩
  · exact ⟨husable, rfl⟩
  · rw [firstEffortFailure_of_perm hperm hversion (not_not.mp hc)]
    exact ⟨husable, rfl⟩
  · exact ⟨hserved, rfl⟩

end Permutation

end GateInputs

end ScarcityRouter
