import ScarcityRouter.Routing.Totality

namespace ScarcityRouter

open ScarcityRouter.Lib

/-!
# Order independence of a route

What a route decision does not depend on.

* `RouteInputs.reorder` — the inputs with their catalog and capacity snapshots replaced;
  `Reordering` says that only the order changed.
* `SameGate` — reordering a catalog permutes the identities a gate retains, and nothing else.
* `routeCore_reorder` — **the decision forgets the order** of the catalog entries and the capacity
  snapshots.
* `RouteInputs.Reorders`, `routeRequest_reordered` — the same for every collection a constructor
  takes, with the receipt of an MI admission next to it.
-/

/-! ### Gates -/

/-- Two gates of one resource that differ in the order of the retained identities only. -/
structure SameGate (g g' : ResourceGate) : Prop where
  resource : g.toGatedResource = g'.toGatedResource
  failure : g.failure = g'.failure
  identities : g.boundIdentities.Perm g'.boundIdentities

/-- Permuting the catalog keeps every gate. -/
theorem sameGate_of_perm (inputs : GateInputs) {catalog : ModelCatalog}
    (hperm : inputs.catalog.entries.Perm catalog.entries)
    (hversion : inputs.catalog.catalogVersion = catalog.catalogVersion)
    (entry : ResourceRegistryEntry) :
    SameGate (evaluateResource inputs entry) (evaluateResource { inputs with catalog } entry) := by
  obtain ⟨hidentities, hfailure⟩ :=
    @GateInputs.runStages_of_perm inputs (expireContext entry inputs.evaluatedAt) catalog hperm
      hversion
  exact ⟨rfl, hfailure, hidentities⟩

/-- Gates of one registry, alike resource by resource. -/
abbrev SameGates : List ResourceGate → List ResourceGate → Prop := List.Forall₂ SameGate

theorem SameGate.qualified_eq {g g' : ResourceGate} (h : SameGate g g') :
    g.qualified = g'.qualified := by
  unfold ResourceGate.qualified
  rw [h.failure]

theorem SameGate.entry_eq {g g' : ResourceGate} (h : SameGate g g') : g.entry = g'.entry :=
  congrArg GatedResource.entry h.resource

/-- Sorting the distinct identities of a list forgets their order. -/
theorem identitySet_eq_of_perm {xs ys : List ModelIdentity} (h : xs.Perm ys) :
    identitySet xs = identitySet ys :=
  sortBy_eq_of_perm h.dedup fun _ _ _ _ hkey => identityKey_injective hkey

section Gates

variable {gates gates' : List ResourceGate}

/-- The same resources qualify for every model. -/
theorem qualifiedFor_same (h : SameGates gates gates') :
    qualifiedFor gates = qualifiedFor gates' := by
  funext identity
  unfold qualifiedFor
  induction h with
  | nil => rfl
  | @cons g g' rest rest' hgate _ ih =>
    have hkeeps : (g.qualified && decide (identity ∈ g.boundIdentities)) =
        (g'.qualified && decide (identity ∈ g'.boundIdentities)) := by
      rw [hgate.qualified_eq, decide_eq_decide.mpr hgate.identities.mem_iff]
    rw [List.filter_cons, List.filter_cons, hkeeps]
    split
    · rw [List.map_cons, List.map_cons, ih, hgate.resource]
    · exact ih

/-- The same models are served by some resource. -/
theorem qualifiedIdentities_same (h : SameGates gates gates') :
    qualifiedIdentities gates = qualifiedIdentities gates' := by
  apply identitySet_eq_of_perm
  induction h with
  | nil => exact .refl _
  | @cons g g' rest rest' hgate _ ih =>
    rw [List.filter_cons, List.filter_cons, hgate.qualified_eq]
    split
    · rw [List.flatMap_cons, List.flatMap_cons]
      exact hgate.identities.append ih
    · exact ih

/-- The pinned resource has the same gate. -/
theorem pinnedGate?_same (h : SameGates gates gates') (request : RequestBinding) :
    Option.Rel SameGate (pinnedGate? gates request) (pinnedGate? gates' request) := by
  unfold pinnedGate?
  cases request.pinnedTarget with
  | none => exact .none
  | some pin =>
    rw [Option.bind_some, Option.bind_some]
    induction h with
    | nil => exact .none
    | @cons g g' rest rest' hgate _ ih =>
      rw [List.find?_cons, List.find?_cons, hgate.entry_eq]
      split
      · exact .some hgate
      · exact ih

/-- The failures of the gates are the same. -/
theorem targetExclusions_same (h : SameGates gates gates') (extra : List TargetExclusion) :
    targetExclusions gates extra = targetExclusions gates' extra := by
  have hrecords :
      gates.filterMap RouteInputs.gateRecord? = gates'.filterMap RouteInputs.gateRecord? := by
    induction h with
    | nil => rfl
    | @cons g g' rest rest' hgate _ ih =>
      have hrecord : RouteInputs.gateRecord? g = RouteInputs.gateRecord? g' := by
        unfold RouteInputs.gateRecord?
        rw [hgate.failure, hgate.entry_eq]
      rw [List.filterMap_cons, List.filterMap_cons, hrecord, ih]
  unfold targetExclusions
  show (do
    let failed ← (gates.filterMap RouteInputs.gateRecord?).mapM TargetExclusion.make
    return sortBy (fun x : TargetExclusion => x.key) (failed ++ extra)) = _
  rw [hrecords]
  rfl

/-- The gates have seen the same promotions. -/
theorem expiredPromotionSources_same (h : SameGates gates gates') (evaluatedAt : Instant) :
    expiredPromotionSources gates evaluatedAt = expiredPromotionSources gates' evaluatedAt := by
  have hflat : gates.flatMap (fun gate => expiredPromotions gate.entry evaluatedAt) =
      gates'.flatMap fun gate => expiredPromotions gate.entry evaluatedAt := by
    induction h with
    | nil => rfl
    | cons hgate _ ih => rw [List.flatMap_cons, List.flatMap_cons, ih, hgate.entry_eq]
  unfold expiredPromotionSources
  rw [hflat]

/-- A pinned target leaves the same identity. -/
theorem pinTarget_same (h : SameGates gates gates') (request : RequestBinding) :
    pinTarget gates request = pinTarget gates' request := by
  have hpinned := pinnedGate?_same h request
  unfold pinTarget
  generalize pinnedGate? gates request = found at hpinned ⊢
  generalize pinnedGate? gates' request = found' at hpinned ⊢
  cases request.pinnedTarget with
  | none =>
    dsimp only
    rw [qualifiedIdentities_same h]
  | some pin =>
    cases hpinned with
    | none => rfl
    | some hgate =>
      dsimp only
      rw [hgate.qualified_eq, List.filter_eq, List.filter_eq, hgate.identities.count_eq]

end Gates

/-! ### Reordered inputs -/

/-- The inputs over another catalog and other snapshots. -/
def RouteInputs.reorder (i : RouteInputs) (catalog : ModelCatalog)
    (snapshots : List CapacitySnapshot) : RouteInputs :=
  { i with
    catalog
    capacitySnapshots := snapshots }

/-- The catalog and the snapshots are those of the inputs in another order. -/
structure Reordering (i : RouteInputs) (catalog : ModelCatalog)
    (snapshots : List CapacitySnapshot) : Prop where
  entries : i.catalog.entries.Perm catalog.entries
  version : i.catalog.catalogVersion = catalog.catalogVersion
  updated : i.catalog.updatedOn = catalog.updatedOn
  capacity : i.capacitySnapshots.Perm snapshots

section Inputs

variable {i : RouteInputs} {catalog : ModelCatalog} {snapshots : List CapacitySnapshot}

theorem Reordering.isRuntime_eq (h : Reordering i catalog snapshots) :
    (i.reorder catalog snapshots).isRuntime = i.isRuntime := by
  unfold RouteInputs.isRuntime
  rw [h.version]
  rfl

/-- A reordered catalog exercises the same configured efforts. -/
theorem Reordering.configuredReasoning_eq (h : Reordering i catalog snapshots)
    (resource : ResourceIdentity) :
    (i.reorder catalog snapshots).configuredReasoning resource = i.configuredReasoning resource := by
  unfold RouteInputs.configuredReasoning
  rw [h.isRuntime_eq]
  show i.candidateIdentities.any _ = i.candidateIdentities.any _
  congr 1
  funext candidates
  exact h.entries.symm.any_eq

/-- **Every resource has the same gate.** -/
theorem Reordering.routeGates_same (h : Reordering i catalog snapshots)
    (requirement : TaskRequirement) :
    SameGates (i.routeGates requirement) ((i.reorder catalog snapshots).routeGates requirement) := by
  rw [RouteInputs.routeGates_eq_map, RouteInputs.routeGates_eq_map]
  refine List.forall₂_map_left_iff.mpr (List.forall₂_map_right_iff.mpr ?_)
  refine List.forall₂_same.mpr fun entry _ => ?_
  have hinputs : (i.reorder catalog snapshots).routeGateInputs requirement entry.identity =
      { i.routeGateInputs requirement entry.identity with catalog } := by
    unfold RouteInputs.routeGateInputs
    rw [h.configuredReasoning_eq]
    unfold RouteInputs.gateInputs RouteInputs.gateReports
    rw [h.isRuntime_eq]
    rfl
  unfold RouteInputs.routeGate
  rw [hinputs]
  exact sameGate_of_perm _ h.entries h.version entry

/-- The explicit pins leave the same identities. -/
theorem Reordering.pinning_eq (h : Reordering i catalog snapshots) (requirement : TaskRequirement) :
    (i.reorder catalog snapshots).pinning requirement = i.pinning requirement := by
  have hunknown : explicitModelUnknown (i.reorder catalog snapshots) = explicitModelUnknown i := by
    unfold explicitModelUnknown
    show i.request.explicitModel.any _ = i.request.explicitModel.any _
    congr 1
    funext ref
    exact congrArg not h.entries.symm.any_eq
  unfold RouteInputs.pinning
  show pinModel _ (pinTarget _ i.request) = _
  rw [← pinTarget_same (h.routeGates_same requirement)]
  unfold pinModel
  rw [hunknown]
  rfl

/-- **The narrowed views are the same catalog.** -/
theorem Reordering.narrowedCatalog_eq (h : Reordering i catalog snapshots)
    {routable routable' : List ModelIdentity} (hroutable : ∀ m, m ∈ routable ↔ m ∈ routable')
    (serving : ModelIdentity → List GatedResource) :
    narrowedCatalog (i.reorder catalog snapshots) routable serving =
      narrowedCatalog i routable' serving := by
  have hview : viewEntry (i.reorder catalog snapshots) serving = viewEntry i serving := by
    funext entry
    unfold viewEntry
    rw [h.isRuntime_eq]
    rfl
  have hin : inView (i.reorder catalog snapshots) routable = inView i routable' := by
    funext entry
    unfold inView
    rw [decide_eq_decide.mpr (hroutable entry.identity)]
    rfl
  have hentries : (narrowedCatalog (i.reorder catalog snapshots) routable serving).entries =
      (narrowedCatalog i routable' serving).entries := by
    have hperm : ((catalog.entries.filter (inView i routable')).map (viewEntry i serving)).Perm
        ((i.catalog.entries.filter (inView i routable')).map (viewEntry i serving)) :=
      (h.entries.symm.filter _).map _
    show sortBy _ ((catalog.entries.filter (inView (i.reorder catalog snapshots) routable)).map
      (viewEntry (i.reorder catalog snapshots) serving)) = _
    rw [hview, hin]
    refine sortBy_eq_of_perm hperm fun a ha b hb hkey => ?_
    obtain ⟨a', ha', rfl⟩ := List.mem_map.mp ha
    obtain ⟨b', hb', rfl⟩ := List.mem_map.mp hb
    have hident := identityKey_injective hkey
    rw [viewEntry_identity, viewEntry_identity] at hident
    rw [catalog.entry_ext (List.mem_of_mem_filter ha') (List.mem_of_mem_filter hb') hident]
  unfold narrowedCatalog at hentries ⊢
  dsimp only at hentries ⊢
  simp only [ModelCatalog.mk.injEq]
  exact ⟨h.version.symm, h.updated.symm, hentries⟩

/-- The catalog lookup is the same. -/
theorem Reordering.lookup?_eq (h : Reordering i catalog snapshots) (identity : ModelIdentity) :
    (i.reorder catalog snapshots).catalog.lookup? identity = i.catalog.lookup? identity :=
  (ModelCatalog.lookup?_eq_of_perm h.entries identity).symm

/-- The same identities are left over. -/
theorem Reordering.unroutableIdentities_eq (h : Reordering i catalog snapshots)
    (routable : List ModelIdentity) :
    unroutableIdentities (i.reorder catalog snapshots) routable = unroutableIdentities i routable :=
  identitySet_eq_of_perm ((h.entries.symm.map _).filter _)

end Inputs

/-! ### Reordered decisions -/

section Route

variable [RouteHost] {r s : RouteRequest} {catalog : ModelCatalog}
  {snapshots : List CapacitySnapshot}

/-- One gate of one runtime model has the same outcome. -/
theorem Reordering.evaluateTarget_eq {i one : RouteInputs} (h : Reordering one catalog snapshots)
    (catalog' : ModelCatalog) (requirement : TaskRequirement) (identity : ModelIdentity)
    (resource : GatedResource) :
    evaluateTarget (i.reorder catalog' snapshots) (one.reorder catalog snapshots) requirement
      identity resource = evaluateTarget i one requirement identity resource := by
  unfold evaluateTarget
  have hroutable : ∀ m, m ∈ [identity] ↔ m ∈ [identity] := fun _ => Iff.rfl
  rw [h.narrowedCatalog_eq hroutable]
  rfl

/-- **One runtime model has the same outcome.** -/
theorem Reordering.evaluateModel_eq_ok (h : Reordering r.toRouteInputs catalog snapshots)
    (hs : s.toRouteInputs = r.reorder catalog snapshots) {requirement : TaskRequirement}
    {gates gates' : List ResourceGate} (hgates : SameGates gates gates') {identity : ModelIdentity}
    {outcome : ModelOutcome} (hruntime : r.isRuntime = true)
    (hok : evaluateModel r requirement gates identity = .ok outcome) :
    evaluateModel s requirement gates' identity = .ok outcome := by
  have hlookup : s.catalog.lookup? identity = r.catalog.lookup? identity := by
    rw [hs]
    exact h.lookup?_eq identity
  unfold evaluateModel at hok ⊢
  rw [hlookup]
  cases hentry : r.catalog.lookup? identity with
  | none =>
    rw [hentry] at hok
    cases hok
  | some entry =>
    rw [hentry] at hok
    obtain ⟨one, hone, hok⟩ := bind_eq_ok.mp hok
    obtain ⟨outcomes, houtcomes, hsummary⟩ := bind_eq_ok.mp hok
    -- The one-entry request differs from the reordered one in the snapshots only.
    have hversion : (singletonCatalog entry).catalogVersion = r.catalog.catalogVersion :=
      (Option.isNone_iff_eq_none.mp hruntime).symm
    have hcandidates := (r.make_withCatalog_returns_iff hversion).mp ⟨one, hone⟩
    have hvalid := r.valid.withCatalog (singletonCatalog entry) hcandidates hversion
    obtain rfl : ⟨_, hvalid⟩ = one :=
      Except.ok.inj ((RouteRequest.make_of_valid hvalid).symm.trans hone)
    have hvalid' :
        ({ s.toRouteInputs with catalog := singletonCatalog entry } : RouteInputs).Valid := by
      refine s.valid.withCatalog (singletonCatalog entry) ?_ ?_
      · rw [hs]
        exact hcandidates
      · rw [hs]
        exact hversion.trans h.version
    have hinputs : ({ s.toRouteInputs with catalog := singletonCatalog entry } : RouteInputs) =
        ({ r.toRouteInputs with catalog := singletonCatalog entry } : RouteInputs).reorder
          (singletonCatalog entry) snapshots := by
      rw [hs]
      rfl
    have hone : Reordering { r.toRouteInputs with catalog := singletonCatalog entry }
        (singletonCatalog entry) snapshots := ⟨.refl _, rfl, rfl, h.capacity⟩
    have htargets : ∀ resource, evaluateTarget s.toRouteInputs
        { s.toRouteInputs with catalog := singletonCatalog entry } requirement identity resource =
        evaluateTarget r.toRouteInputs { r.toRouteInputs with catalog := singletonCatalog entry }
          requirement identity resource := by
      intro resource
      rw [hinputs, hs]
      exact hone.evaluateTarget_eq _ _ _ _
    refine bind_eq_ok.mpr ⟨_, RouteRequest.make_of_valid hvalid', bind_eq_ok.mpr
      ⟨outcomes, ?_, hsummary⟩⟩
    rw [← qualifiedFor_same hgates, funext htargets]
    exact houtcomes

/-- **The ranking is the same.** -/
theorem Reordering.rank_eq_ok (h : Reordering r.toRouteInputs catalog snapshots)
    (hs : s.toRouteInputs = r.reorder catalog snapshots) {requirement : TaskRequirement}
    {gates gates' : List ResourceGate} (hgates : SameGates gates gates')
    {routable : List ModelIdentity} {ranking : Ranking}
    (hok : rank r requirement gates routable = .ok ranking) :
    rank s requirement gates' routable = .ok ranking := by
  have hmode : s.isRuntime = r.isRuntime := by
    rw [hs]
    exact h.isRuntime_eq
  unfold rank at hok ⊢
  rw [hmode]
  cases hruntime : r.isRuntime with
  | true =>
    rw [hruntime, if_pos rfl] at hok
    rw [if_pos rfl]
    obtain ⟨outcomes, houtcomes, hok⟩ := bind_eq_ok.mp hok
    refine bind_eq_ok.mpr ⟨outcomes, ?_, ?_⟩
    · rw [mapM_eq_ok] at houtcomes ⊢
      exact houtcomes.imp fun _ _ => h.evaluateModel_eq_ok hs hgates hruntime
    · rw [hs]
      exact hok
  | false =>
    rw [hruntime, if_neg Bool.false_ne_true] at hok
    rw [if_neg Bool.false_ne_true]
    obtain ⟨selection, hselection, hok⟩ := bind_eq_ok.mp hok
    refine bind_eq_ok.mpr ⟨selection, ?_, ?_⟩
    · rw [hs, ← qualifiedFor_same hgates, h.narrowedCatalog_eq fun _ => Iff.rfl]
      unfold runSelection at hselection ⊢
      exact selectModel_eq_of_perm (.refl _) rfl rfl h.capacity (.refl _) (.refl _) hselection
    · rw [← qualifiedFor_same hgates]
      exact hok

omit [RouteHost] in
/-- The targets of a selected model are the same. -/
theorem Reordering.chooseTargets_eq {i : RouteInputs} (h : Reordering i catalog snapshots)
    {pinned pinned' : Option ResourceGate} (hpinned : Option.Rel SameGate pinned pinned')
    (identity : ModelIdentity) (resources : List GatedResource) :
    chooseTargets (i.reorder catalog snapshots) pinned' identity resources =
      chooseTargets i pinned identity resources := by
  have heffort : targetEffort (i.reorder catalog snapshots) identity = targetEffort i identity := by
    funext resource
    unfold targetEffort
    rw [h.isRuntime_eq, h.narrowedCatalog_eq fun _ => Iff.rfl]
  unfold chooseTargets
  rw [heffort]
  cases hpinned with
  | none => rfl
  | some hgate =>
    dsimp only
    rw [hgate.entry_eq]
    rfl

/-- The decision of one ranking is the same. -/
theorem Reordering.assembleDecision_eq {i : RouteInputs} (h : Reordering i catalog snapshots)
    {gates gates' : List ResourceGate} (hgates : SameGates gates gates') (pinning : Pinning)
    (ranking : Ranking) : assembleDecision (i.reorder catalog snapshots) gates' pinning ranking =
      assembleDecision i gates pinning ranking := by
  have hcontent : ∀ exclusions, decisionContent (i.reorder catalog snapshots) gates'
      pinning.routable ranking.selection exclusions =
        decisionContent i gates pinning.routable ranking.selection exclusions := by
    intro exclusions
    have hversion : schemaVersionOf (i.reorder catalog snapshots).catalog.catalogVersion =
        schemaVersionOf i.catalog.catalogVersion := congrArg schemaVersionOf h.version.symm
    have hexpired : expiredPromotionSources gates' (i.reorder catalog snapshots).evaluatedAt =
        expiredPromotionSources gates i.evaluatedAt := (expiredPromotionSources_same hgates _).symm
    unfold decisionContent
    rw [hversion, hexpired, h.unroutableIdentities_eq]
    rfl
  have hpinned : chooseTargets (i.reorder catalog snapshots)
      (pinnedGate? gates' (i.reorder catalog snapshots).request) =
        chooseTargets i (pinnedGate? gates i.request) := by
    funext identity resources
    exact h.chooseTargets_eq (pinnedGate?_same hgates i.request) identity resources
  unfold assembleDecision
  rw [← targetExclusions_same hgates]
  refine congrArg (targetExclusions gates ranking.exclusions >>= ·) (funext fun exclusions => ?_)
  dsimp only
  rw [hcontent]
  cases ranking.selection.selected with
  | none => rfl
  | some selected =>
    dsimp only
    rw [hpinned]

/-- **The decision is the same.** -/
theorem routeCore_reorder (h : Reordering r.toRouteInputs catalog snapshots)
    (hs : s.toRouteInputs = r.reorder catalog snapshots) {d : RouteDecision}
    (hok : routeCore r = .ok d) : routeCore s = .ok d := by
  obtain ⟨requirement, hrequirement, hok⟩ := bind_eq_ok.mp hok
  obtain ⟨ranking, hranking, hok⟩ := bind_eq_ok.mp hok
  have hgates := h.routeGates_same requirement
  have hgates' : SameGates (r.routeGates requirement) (s.routeGates requirement) := by
    rw [hs]
    exact hgates
  have hpinning : s.pinning requirement = r.pinning requirement := by
    rw [hs]
    exact h.pinning_eq requirement
  refine bind_eq_ok.mpr ⟨requirement, ?_, bind_eq_ok.mpr ⟨ranking, ?_, ?_⟩⟩
  · rw [hs]
    exact hrequirement
  · show rank s requirement _ (s.pinning requirement).routable = _
    rw [hpinning]
    exact h.rank_eq_ok hs hgates' hranking
  · show assembleDecision s.toRouteInputs _ (s.pinning requirement) ranking = _
    rw [hpinning, hs]
    rw [hs] at hgates'
    rw [h.assembleDecision_eq hgates']
    exact hok

/-! ### Reordered MI evaluations -/

omit [RouteHost] in
/-- The serialized catalog forgets the order. -/
theorem ModelCatalog.canonical_eq_of_perm {c c' : ModelCatalog} (h : c.entries.Perm c'.entries)
    (hversion : c.catalogVersion = c'.catalogVersion) (hupdated : c.updatedOn = c'.updatedOn) :
    c'.canonical = c.canonical := by
  have hsorted := (ModelCatalog.sorted_eq_of_perm h).symm
  unfold ModelCatalog.canonical
  simp only [ModelCatalog.mk.injEq]
  exact ⟨hversion.symm, hupdated.symm, hsorted⟩

omit [RouteHost] in
/-- The local catalog of a reordered request is the local catalog in another order. -/
theorem Reordering.miLocalCatalog_eq_ok (h : Reordering r.toRouteInputs catalog snapshots)
    (hs : s.toRouteInputs = r.reorder catalog snapshots) {local_ : ModelCatalog}
    (hok : miLocalCatalog r = .ok local_) :
    ∃ local', miLocalCatalog s = .ok local' ∧ local_.entries.Perm local'.entries ∧
      local_.catalogVersion = local'.catalogVersion ∧ local_.updatedOn = local'.updatedOn := by
  have hmode : s.isRuntime = r.isRuntime := by
    rw [hs]
    exact h.isRuntime_eq
  unfold miLocalCatalog at hok ⊢
  rw [hmode]
  cases hruntime : r.isRuntime with
  | true =>
    rw [hruntime, if_pos rfl] at hok
    rw [if_pos rfl]
    obtain ⟨requirement, hrequirement, hok⟩ := bind_eq_ok.mp hok
    obtain rfl := Except.ok.inj hok
    refine ⟨_, bind_eq_ok.mpr ⟨requirement, ?_, rfl⟩, ?_⟩
    · rw [hs]
      exact hrequirement
    · -- The gates before MI are those of the reordered request.
      have hinputs : (r.reorder catalog snapshots).gateInputs requirement =
          { r.gateInputs requirement with catalog } := by
        unfold RouteInputs.gateInputs RouteInputs.gateReports
        rw [h.isRuntime_eq]
        rfl
      have hgates : SameGates
          (r.registrySnapshot.entries.map (evaluateResource (r.gateInputs requirement)))
          (r.registrySnapshot.entries.map
            (evaluateResource ((r.reorder catalog snapshots).gateInputs requirement))) := by
        rw [hinputs]
        refine List.forall₂_map_left_iff.mpr (List.forall₂_map_right_iff.mpr ?_)
        exact List.forall₂_same.mpr fun entry _ => sameGate_of_perm _ h.entries h.version entry
      have hsame : narrowedCatalog s.toRouteInputs (s.catalog.entries.map (·.identity))
          (qualifiedFor (s.registrySnapshot.entries.map
            (evaluateResource (s.gateInputs requirement)))) =
          narrowedCatalog r.toRouteInputs (r.catalog.entries.map (·.identity))
            (qualifiedFor (r.registrySnapshot.entries.map
              (evaluateResource (r.gateInputs requirement)))) := by
        rw [hs, qualifiedFor_same hgates]
        exact h.narrowedCatalog_eq (fun m => (h.entries.map _).mem_iff.symm) _
      rw [hsame]
      exact ⟨.refl _, rfl, rfl⟩
  | false =>
    rw [hruntime, if_neg Bool.false_ne_true] at hok
    rw [if_neg Bool.false_ne_true]
    obtain rfl := Except.ok.inj hok
    refine ⟨_, rfl, ?_⟩
    rw [hs]
    exact ⟨h.entries, h.version, h.updated⟩

/-- The context as a request with other snapshots records it. -/
def MIContext.recording (context : MIContext) (snapshots : List CapacitySnapshot) : MIContext :=
  { context with inputs := { context.inputs with capacitySnapshots := snapshots } }

/-- The receipt as a request with other snapshots records it. -/
def MIUse.recording {δ : Type} (receipt : MIUse δ) (snapshots : List CapacitySnapshot) : MIUse δ :=
  { receipt with context := receipt.context.recording snapshots }

/-- **MI preparation is the same**, but for the order of the snapshots its context records. -/
theorem Reordering.miInputs_eq_ok (h : Reordering r.toRouteInputs catalog snapshots)
    (hs : s.toRouteInputs = r.reorder catalog snapshots) {mi : MIAdmission}
    {pin : Option PinnedTarget} {prepared : RouteRequest × MIContext}
    (hok : miInputs r mi pin = .ok prepared) :
    ∃ catalog' prepared', miInputs s mi pin = .ok prepared' ∧
      Reordering prepared.1.toRouteInputs catalog' snapshots ∧
      prepared'.1.toRouteInputs = prepared.1.reorder catalog' snapshots ∧
      prepared'.2 = prepared.2.recording snapshots := by
  obtain ⟨local_, hlocal, hok⟩ := bind_eq_ok.mp hok
  obtain ⟨⟨evaluated, blocked⟩, hprepare, hok⟩ := bind_eq_ok.mp hok
  obtain ⟨admitted, hadmitted, hok⟩ := bind_eq_ok.mp hok
  obtain ⟨effective, hmake, hok⟩ := bind_eq_ok.mp hok
  obtain rfl := Except.ok.inj hok
  obtain ⟨local', hlocal', hentries, hversion, hupdated⟩ := h.miLocalCatalog_eq_ok hs hlocal
  obtain ⟨evaluated', hprepare', hentries', hversion', hupdated'⟩ :=
    mi.prepare_of_perm hentries hversion hupdated hprepare
  obtain ⟨hvalid, -⟩ := prepared_valid hlocal hprepare admitted
  obtain rfl := Except.ok.inj ((RouteRequest.make_of_valid hvalid).symm.trans hmake)
  have hprepare'' : mi.prepare local' s.evaluatedAt = .ok (evaluated', blocked) := by
    rw [hs]
    exact hprepare'
  obtain ⟨hvalid', -⟩ := prepared_valid hlocal' hprepare'' admitted
  refine ⟨evaluated', _, bind_eq_ok.mpr ⟨local', hlocal', bind_eq_ok.mpr ⟨_, hprepare'',
    bind_eq_ok.mpr ⟨admitted, hadmitted, bind_eq_ok.mpr
      ⟨_, RouteRequest.make_of_valid hvalid', rfl⟩⟩⟩⟩,
    ⟨hentries', hversion', hupdated', h.capacity⟩, ?_, ?_⟩
  · show ({ s.toRouteInputs with
      catalog := evaluated'
      miAdmission := none
      miBlocked := s.miBlocked ∪ blocked
      miChannels := s.miChannels ++ admitted } : RouteInputs) = _
    rw [hs]
    rfl
  · show MIContext.mk { s.toRouteInputs with catalog := s.catalog.canonical } pin
      evaluated'.canonical (s.miBlocked ∪ blocked) = _
    have hcatalog : s.catalog.canonical = r.catalog.canonical := by
      rw [hs]
      exact ModelCatalog.canonical_eq_of_perm h.entries h.version h.updated
    rw [hcatalog, ModelCatalog.canonical_eq_of_perm hentries' hversion' hupdated', hs]
    rfl

/-- What two decisions of one request in different orders share: everything but the order in which
    the receipt of an MI admission records the snapshots. -/
structure SameDecision (snapshots : List CapacitySnapshot) (d d' : RouteDecision) : Prop where
  content : d'.toRouteContent = d.toRouteContent
  decision_id : d'.decisionId = d.decisionId
  receipt : d'.miUse = d.miUse.map (·.recording snapshots)

/-- A decision without an MI admission carries no receipt. -/
theorem routeCore_miUse {d : RouteDecision} (h : routeCore r = .ok d) : d.miUse = none := by
  obtain ⟨requirement, -, h⟩ := bind_eq_ok.mp h
  obtain ⟨ranking, -, h⟩ := bind_eq_ok.mp h
  obtain ⟨exclusions, -, h⟩ := bind_eq_ok.mp h
  dsimp only at h
  split at h
  · obtain ⟨-, rfl⟩ := RouteDecision.make_eq_ok.mp h
    rfl
  · obtain ⟨targets, -, h⟩ := bind_eq_ok.mp h
    obtain ⟨-, rfl⟩ := RouteDecision.make_eq_ok.mp h
    rfl

/-- **The decision of a reordered request** is the decision, next to its own receipt. -/
theorem routeRequest_reorder (h : Reordering r.toRouteInputs catalog snapshots)
    (hs : s.toRouteInputs = r.reorder catalog snapshots) {d : RouteDecision}
    (hok : routeRequest r = .ok d) :
    ∃ d', routeRequest s = .ok d' ∧ SameDecision snapshots d d' := by
  have hmi : s.miAdmission = r.miAdmission := by
    rw [hs]
    rfl
  cases hadmission : r.miAdmission with
  | none =>
    rw [routeRequest_of_none hadmission] at hok
    rw [routeRequest_of_none (hmi.trans hadmission)]
    refine ⟨d, routeCore_reorder h hs hok, rfl, rfl, ?_⟩
    rw [routeCore_miUse hok]
    rfl
  | some mi =>
    rw [routeRequest_of_some hadmission] at hok
    rw [routeRequest_of_some (hmi.trans hadmission)]
    obtain ⟨prepared, hprepared, hok⟩ := bind_eq_ok.mp hok
    obtain ⟨core, hcore, hok⟩ := bind_eq_ok.mp hok
    obtain rfl := Except.ok.inj hok
    obtain ⟨catalog', prepared', hprepared', hreordering, hinputs, hcontext⟩ :=
      h.miInputs_eq_ok hs hprepared
    refine ⟨_, bind_eq_ok.mpr ⟨prepared', hprepared', bind_eq_ok.mpr
      ⟨core, routeCore_reorder hreordering hinputs hcore, rfl⟩⟩, rfl, rfl, ?_⟩
    have hinstant : s.evaluatedAt = r.evaluatedAt := by
      rw [hs]
      rfl
    unfold routeReceipt
    rw [hcontext, hinstant]
    rfl

end Route

/-! ### Reordered constructors -/

/-- Two constructor arguments that list the same collections. -/
structure RouteInputs.Reorders (i j : RouteInputs) : Prop where
  inputs_eq : j =
    { i with
      catalog := j.catalog
      policy := j.policy
      capacitySnapshots := j.capacitySnapshots
      eligibilityReports := j.eligibilityReports
      compatibilityCells := j.compatibilityCells }
  entries : i.catalog.entries.Perm j.catalog.entries
  version : i.catalog.catalogVersion = j.catalog.catalogVersion
  updated : i.catalog.updatedOn = j.catalog.updatedOn
  policy : i.policy.Reorders j.policy
  capacity : i.capacitySnapshots.Perm j.capacitySnapshots
  reports : i.eligibilityReports.Perm j.eligibilityReports
  cells : i.compatibilityCells.Perm j.compatibilityCells

namespace RouteInputs.Reorders

variable {i j : RouteInputs}

theorem symm (h : i.Reorders j) : j.Reorders i where
  inputs_eq := by
    rw [h.inputs_eq]
  entries := h.entries.symm
  version := h.version.symm
  updated := h.updated.symm
  policy := h.policy.symm
  capacity := h.capacity.symm
  reports := h.reports.symm
  cells := h.cells.symm

/-- The arguments differ from the stored form in the catalog, the snapshots and what construction
    sorts. -/
theorem canonical_eq (h : i.Reorders j) (hreports : (i.eligibilityReports.map (·.provider)).Nodup)
    (hcells : (i.compatibilityCells.map (·.key)).Nodup) :
    j.canonical = i.canonical.reorder j.catalog j.capacitySnapshots := by
  have hsortedReports : sortBy (·.provider) j.eligibilityReports =
      sortBy (·.provider) i.eligibilityReports :=
    (sortBy_eq_of_perm h.reports fun _ ha _ hb => List.inj_on_of_nodup_map hreports ha hb).symm
  have hsortedCells : sortBy (·.key) j.compatibilityCells = sortBy (·.key) i.compatibilityCells :=
    (sortBy_eq_of_perm h.cells fun _ ha _ hb => List.inj_on_of_nodup_map hcells ha hb).symm
  unfold RouteInputs.canonical RouteInputs.reorder
  rw [hsortedReports, hsortedCells, h.inputs_eq, h.policy.eq]

/-- The checks of construction do not depend on the order. -/
theorem checks_eq_ok (h : i.Reorders j) (hok : i.checks = .ok ()) : j.checks = .ok () := by
  obtain ⟨hcandidates, hstates, hreports, hcells, halias, hafter⟩ := i.checks_eq_ok.mp hok
  have hshared := h.inputs_eq
  refine j.checks_eq_ok.mpr ⟨?_, ?_, (h.reports.map _).nodup_iff.mp hreports,
    (h.cells.map _).nodup_iff.mp hcells, ?_, ?_⟩
  · intro candidates hmem
    rw [hshared] at hmem
    obtain ⟨hnodup, hknown⟩ := hcandidates candidates hmem
    exact ⟨hnodup, fun identity hidentity => (h.entries.map _).mem_iff.mp (hknown hidentity)⟩
  · intro hruntime
    have hmode : i.isRuntime = true := by
      unfold RouteInputs.isRuntime at hruntime ⊢
      rwa [h.version]
    rw [hshared]
    exact hstates hmode
  · rw [hshared]
    exact halias
  · rw [hshared]
    exact hafter

/-- **A reordered construction stores the reordered inputs.** -/
theorem make_eq_ok (h : i.Reorders j) {r : RouteRequest} (hr : RouteRequest.make i = .ok r) :
    ∃ s, RouteRequest.make j = .ok s ∧
      s.toRouteInputs = r.reorder j.catalog j.capacitySnapshots ∧
      Reordering r.toRouteInputs j.catalog j.capacitySnapshots := by
  have hstored := RouteRequest.make_eq_ok.mp hr
  unfold RouteInputs.postInit at hstored
  obtain ⟨_, hchecks, hstored⟩ := bind_eq_ok.mp hstored
  obtain ⟨-, -, hreports, hcells, -⟩ := i.checks_eq_ok.mp hchecks
  have hcanonical := h.canonical_eq hreports hcells
  have hexplicit : j.taskRequirement = i.taskRequirement := by
    rw [h.inputs_eq]
  have hmerge : j.normalizeBinding = i.normalizeBinding := by
    rw [h.inputs_eq]
    rfl
  have hpost : j.postInit = .ok (r.reorder j.catalog j.capacitySnapshots) := by
    unfold RouteInputs.postInit
    refine bind_eq_ok.mpr ⟨(), h.checks_eq_ok hchecks, ?_⟩
    rw [hexplicit, hmerge, hcanonical]
    cases htask : i.taskRequirement with
    | none =>
      rw [htask] at hstored
      rw [← Except.ok.inj hstored]
      rfl
    | some explicit =>
      rw [htask] at hstored
      obtain ⟨request, hrequest, hstored⟩ := bind_eq_ok.mp hstored
      rw [← Except.ok.inj hstored]
      exact bind_eq_ok.mpr ⟨request, hrequest, rfl⟩
  have hkept : r.catalog = i.catalog ∧ r.capacitySnapshots = i.capacitySnapshots := by
    cases htask : i.taskRequirement with
    | none =>
      rw [htask] at hstored
      rw [← Except.ok.inj hstored]
      exact ⟨rfl, rfl⟩
    | some explicit =>
      rw [htask] at hstored
      obtain ⟨request, -, hstored⟩ := bind_eq_ok.mp hstored
      rw [← Except.ok.inj hstored]
      exact ⟨rfl, rfl⟩
  refine ⟨⟨_, j.valid_of_postInit hpost⟩, RouteRequest.make_eq_ok.mpr hpost, rfl, ?_⟩
  refine ⟨?_, ?_, ?_, ?_⟩
  · rw [hkept.1]
    exact h.entries
  · rw [hkept.1]
    exact h.version
  · rw [hkept.1]
    exact h.updated
  · rw [hkept.2]
    exact h.capacity

end RouteInputs.Reorders

section Reordered

variable [RouteHost]

/-- **Order independence of a route.**  Catalog entries, compatibility cells, eligibility reports,
    capacity snapshots and policy rules in another order construct a request with the same
    decision, up to the order in which the receipt of an MI admission records the snapshots. -/
theorem routeRequest_reordered (i j : RouteInputs) (h : i.Reorders j) (r : RouteRequest)
    (hr : RouteRequest.make i = .ok r) :
    ∃ s, RouteRequest.make j = .ok s ∧ (Returns (routeRequest r) ↔ Returns (routeRequest s)) ∧
      ∀ d d', routeRequest r = .ok d → routeRequest s = .ok d' →
        SameDecision j.capacitySnapshots d d' := by
  obtain ⟨s, hs, hinputs, hreordering⟩ := h.make_eq_ok hr
  obtain ⟨r', hr', hinputs', hreordering'⟩ := h.symm.make_eq_ok hs
  obtain rfl := Except.ok.inj (hr.symm.trans hr')
  refine ⟨s, hs, ⟨?_, ?_⟩, ?_⟩
  · rintro ⟨d, hd⟩
    obtain ⟨d', hd', -⟩ := routeRequest_reorder hreordering hinputs hd
    exact ⟨d', hd'⟩
  · rintro ⟨d, hd⟩
    obtain ⟨d', hd', -⟩ := routeRequest_reorder hreordering' hinputs' hd
    exact ⟨d', hd'⟩
  · intro d d' hd hd'
    obtain ⟨d'', hd'', hsame⟩ := routeRequest_reorder hreordering hinputs hd
    obtain rfl := Except.ok.inj (hd'.symm.trans hd'')
    exact hsame

/-- An MI admission without a cut. -/
def cutlessAdmission : MIAdmission where
  cut := none
  bindings := []
  expected := ""
  evaluatedAt := 0

/-- A request under it, with the snapshots of two providers in a given order. -/
def snapshotInputs (first second : SafeId) : RouteInputs where
  catalog := ⟨none, none, [], List.nodup_nil, Eq.refl false⟩
  profiles := ⟨[], noProfiles_sorted⟩
  registrySnapshot := { revision := 1, generatedAt := 0, entries := [] }
  policy := { resourcePolicy := mondayPolicy }
  evaluatedAt := 0
  capacitySnapshots := [plainSnapshot first, plainSnapshot second]
  miAdmission := some cutlessAdmission

omit [RouteHost] in
/-- The two orders list the same collections. -/
theorem snapshotInputs_reorders (first second : SafeId) :
    (snapshotInputs first second).Reorders (snapshotInputs second first) where
  inputs_eq := rfl
  entries := .refl _
  version := rfl
  updated := rfl
  policy := by
    refine ⟨⟨mondayListing [mondayBlackout (.lit "first"), mondayBlackout (.lit "second")],
      mondayListing [mondayBlackout (.lit "first"), mondayBlackout (.lit "second")],
      ⟨rfl, rfl, rfl, .refl _, .refl _, .refl _⟩, rfl, rfl⟩, rfl, rfl⟩
  capacity := .swap _ _ _
  reports := .refl _
  cells := .refl _

omit [RouteHost] in
theorem snapshotInputs_valid (first second : SafeId) : (snapshotInputs first second).Valid :=
  ⟨(fun _ h => nomatch h), fun _ => rfl, List.Pairwise.nil, List.Pairwise.nil, nofun, le_rfl,
    (fun _ h => nomatch h)⟩

/-- The constructed request. -/
def snapshotRequest (first second : SafeId) : RouteRequest :=
  ⟨snapshotInputs first second, snapshotInputs_valid first second⟩

omit [RouteHost] in
/-- Both orders construct a request. -/
theorem routeRequest_reordered_snapshotRequest :
    ∃ s, RouteRequest.make (snapshotInputs (.lit "nova") (.lit "acme")) = .ok s ∧
      (Returns (@routeRequest utcHost (snapshotRequest (.lit "acme") (.lit "nova"))) ↔
        Returns (@routeRequest utcHost s)) := by
  obtain ⟨s, hs, hreturns, -⟩ := @routeRequest_reordered utcHost _ _
    (snapshotInputs_reorders (.lit "acme") (.lit "nova"))
    (snapshotRequest (.lit "acme") (.lit "nova")) (RouteRequest.make_of_valid _)
  exact ⟨s, hs, hreturns⟩

/-- The providers of the snapshots a receipt records. -/
def recordedProviders (d : RouteDecision) : Option (List SafeId) :=
  d.miUse.map fun receipt => receipt.context.inputs.capacitySnapshots.map (·.provider)

omit [RouteHost] in
/-- The receipt records the snapshots in the order of the request. -/
theorem not_routeRequest_reordered_snapshotRequest : ¬ ∀ [RouteHost] (i j : RouteInputs),
    i.Reorders j → ∀ r s, RouteRequest.make i = .ok r → RouteRequest.make j = .ok s →
      routeRequest r = routeRequest s := by
  intro h
  let _ := utcHost
  have hsame := h _ _ (snapshotInputs_reorders (.lit "acme") (.lit "nova"))
    (snapshotRequest (.lit "acme") (.lit "nova")) (snapshotRequest (.lit "nova") (.lit "acme"))
    (RouteRequest.make_of_valid _) (RouteRequest.make_of_valid _)
  have hfirst : (routeRequest (snapshotRequest (.lit "acme") (.lit "nova"))).toOption.bind
      recordedProviders = some [.lit "acme", .lit "nova"] := by decide +kernel
  have hsecond : (routeRequest (snapshotRequest (.lit "nova") (.lit "acme"))).toOption.bind
      recordedProviders = some [.lit "nova", .lit "acme"] := by decide +kernel
  rw [hsame, hsecond] at hfirst
  exact absurd hfirst (by decide +kernel)

end Reordered

end ScarcityRouter
