import ScarcityRouter.Routing.Authority
import ScarcityRouter.Routing.EvaluatedCatalog

namespace ScarcityRouter

open ScarcityRouter.Lib

/-!
# The public route document

`public_route_document` of `routing_core.py`: a decision projected through the effective
authorization of its request.

* `RouteInputs.visibleEntries`, `visibleIdentities`, `visibleRuleIds` — what a client may see.
* `publicRouteDocument` — the document.
* `evaluations_routable` — every evaluation a decision reports is of a routable model.
* `publicRouteDocument_confidential` — **the document of a decision names only authorized
  resources and the models they bind.**
-/

/-! ### What a client sees -/

namespace RouteInputs

variable (i : RouteInputs)

/-- The registered resources that pass the effective authorization. -/
def visibleEntries : List ResourceRegistryEntry :=
  i.registrySnapshot.entries.filter fun entry =>
    authorizationFailureCodes entry i.effective i.executionAssurances i.evaluatedAt = []

/-- `visible_ids`. -/
def visibleIds : List SafeId := i.visibleEntries.map (·.identity.resourceId)

/-- The identities that visible resources bind. -/
def visibleIdentities : List ModelIdentity :=
  i.visibleEntries.flatMap fun entry => bindIdentities entry.identity i.catalog

/-- `visible_rule_ids`: the rules that target a visible identity. -/
def visibleRuleIds (rules : List WeeklyRule) : List SafeId :=
  (rules.filter fun rule => i.visibleIdentities.any rule.target.targets).map (·.ruleId)

end RouteInputs

/-! ### The document -/

/-- The exclusion of a resource the client may not see: a marker, the stage and the codes. -/
def restrictedExclusion (stage : RouteStage) (reasonCodes : List TargetReason) :
    ExclusionRecord where
  resourceId := .lit "restricted"
  stage := stage
  reasonCodes := reasonCodes

/-- One exclusion of the document. -/
def publicExclusion (i : RouteInputs) (exclusion : TargetExclusion) : ExclusionRecord :=
  if exclusion.resourceId ∈ i.visibleIds then exclusion.toExclusionRecord
  else restrictedExclusion exclusion.stage exclusion.reasonCodes

/-- The selection of the document.  Its expiry lists are members of the document only when those of
    the decision are: a list that filtering empties stays. -/
structure PublicSelection extends SelectionDecision where
  showsHappyHours : Bool
  showsBlackouts : Bool

/-- The selection with its preference order and its expiry lists filtered. -/
def publicSelection (i : RouteInputs) (selection : SelectionDecision) : PublicSelection where
  toSelectionDecision :=
    { selection with
      preferenceOrder := selection.preferenceOrder.filter (· ∈ i.visibleIdentities)
      expiredHappyHourRules := selection.expiredHappyHourRules.filter
        (· ∈ i.visibleRuleIds i.policy.resourcePolicy.happyHours)
      expiredBlackoutRules := selection.expiredBlackoutRules.filter
        (· ∈ i.visibleRuleIds i.policy.resourcePolicy.blackouts) }
  showsHappyHours := selection.expiredHappyHourRules ≠ []
  showsBlackouts := selection.expiredBlackoutRules ≠ []

/-- The public document of a decision. -/
structure PublicRouteDocument where
  schemaVersion : ℕ
  status : RouteStatus
  selection : PublicSelection
  registryRevision : ℕ
  registryGeneratedAt : Timestamp
  target : Option RouteTarget
  targetAlternatives : List RouteTarget
  unroutableIdentities : List ModelIdentity
  targetExclusions : List ExclusionRecord
  expiredPromotions : List SafeId
  pinned : Bool
  reasonCodes : List RouteReason
  decisionId : SafeId

/-- `public_route_document`. -/
def publicRouteDocument (decision : RouteDecision) (i : RouteInputs) : PublicRouteDocument where
  schemaVersion := decision.schemaVersion
  status := decision.status
  selection := publicSelection i decision.selection
  registryRevision := decision.registryRevision
  registryGeneratedAt := decision.registryGeneratedAt
  target := decision.target
  targetAlternatives := decision.targetAlternatives
  unroutableIdentities := decision.unroutableIdentities.filter (· ∈ i.visibleIdentities)
  targetExclusions := decision.targetExclusions.map (publicExclusion i)
  expiredPromotions := sortedSet (i.visibleEntries.flatMap (expiredPromotions · i.evaluatedAt))
  pinned := decision.pinned
  reasonCodes := decision.reasonCodes
  decisionId := decision.decisionId

/-! ### Visible resources and identities -/

namespace RouteInputs

variable (i : RouteInputs)

/-- A registered resource that every policy layer grants. -/
structure Authorized (entry : ResourceRegistryEntry) : Prop where
  registered : entry ∈ i.registrySnapshot.entries
  granted : GrantedBy i.adminConstraints i.clientAuthorization i.routingProfile
    i.executionAssurances i.evaluatedAt entry

/-- Some authorized resource binds the identity. -/
def Discloses (identity : ModelIdentity) : Prop :=
  ∃ entry, i.Authorized entry ∧ identity ∈ bindIdentities entry.identity i.catalog

variable {i}

/-- **The visible resources are the authorized ones.** -/
theorem mem_visibleEntries {entry : ResourceRegistryEntry} :
    entry ∈ i.visibleEntries ↔ i.Authorized entry := by
  unfold visibleEntries effective
  rw [List.mem_filter, decide_eq_true_eq, authorizationFailureCodes_eq_nil]
  constructor
  · rintro ⟨hregistered, hgranted⟩
    exact ⟨hregistered, hgranted⟩
  · intro h
    exact ⟨h.registered, h.granted⟩

theorem mem_visibleIds {resourceId : SafeId} : resourceId ∈ i.visibleIds ↔
    ∃ entry, i.Authorized entry ∧ entry.identity.resourceId = resourceId := by
  simp only [visibleIds, List.mem_map, mem_visibleEntries]

theorem mem_visibleIdentities {identity : ModelIdentity} :
    identity ∈ i.visibleIdentities ↔ i.Discloses identity := by
  simp only [visibleIdentities, List.mem_flatMap, mem_visibleEntries, Discloses]

/-- A rule is shown for an identity it targets. -/
theorem mem_visibleRuleIds {rules : List WeeklyRule} {ruleId : SafeId} :
    ruleId ∈ i.visibleRuleIds rules ↔ ∃ rule ∈ rules, rule.ruleId = ruleId ∧
      ∃ identity, i.Discloses identity ∧ rule.target.targets identity = true := by
  simp only [visibleRuleIds, List.mem_map, List.mem_filter, List.any_eq_true,
    mem_visibleIdentities]
  constructor
  · rintro ⟨rule, ⟨hrule, hshown⟩, hid⟩
    exact ⟨rule, hrule, hid, hshown⟩
  · rintro ⟨rule, hrule, hid, hshown⟩
    exact ⟨rule, ⟨hrule, hshown⟩, hid⟩

end RouteInputs

/-! ### Evaluations of a decision -/

/-- Every evaluation a selection reports. -/
def SelectionDecision.evaluations (d : SelectionDecision) : List CandidateEvaluation :=
  d.selected.toList ++ d.alternatives ++ d.excluded ++ d.closestCandidates ++
    d.recoverableCandidates

section Evaluations

variable [Platform]

/-- An assembled decision reports only the evaluations it is assembled from. -/
theorem evaluations_assembledDecision {catalog : ModelCatalog} {requirement : TaskRequirement}
    {policy : SelectorPolicy} {evaluatedAt : Instant} {evaluations : List CandidateEvaluation}
    {profileId : Option SafeId} {profilePolicyVersion : Option ℕ+} :
    (assembledDecision catalog requirement policy evaluatedAt evaluations profileId
      profilePolicyVersion).evaluations ⊆ evaluations := by
  intro e he
  have hranked : ∀ e ∈ rankedEvaluations catalog policy evaluations, e ∈ evaluations :=
    fun e he => (mem_rankedEvaluations.mp he).1
  have hexcluded : ∀ e ∈ excludedEvaluations evaluations, e ∈ evaluations :=
    fun e he => (mem_excludedEvaluations.mp he).1
  unfold SelectionDecision.evaluations assembledDecision at he
  simp only [List.mem_append, Option.mem_toList] at he
  rcases he with (((he | he) | he) | he) | he
  · exact hranked e (List.mem_of_mem_head? he)
  · exact hranked e (List.mem_of_mem_tail he)
  · exact hexcluded e he
  · split at he
    · cases he
    · exact hexcluded e (List.mem_of_mem_filter (List.mem_of_mem_take he))
  · exact hexcluded e (List.mem_of_mem_filter he)

omit [Platform] in
/-- The construction checks keep the evaluations. -/
theorem evaluations_postInit {d d' : SelectionDecision} (h : d.postInit = .ok d') :
    d'.evaluations = d.evaluations := by
  unfold SelectionDecision.postInit at h
  iterate 11 obtain ⟨_, _, h⟩ := bind_eq_ok.mp h
  obtain rfl := Except.ok.inj h
  rfl

/-- A decision reports only identities of its catalog. -/
theorem assembleEvaluations_identities {catalog : ModelCatalog} {requirement : TaskRequirement}
    {policy : SelectorPolicy} {evaluatedAt : Instant} {evaluations : List CandidateEvaluation}
    {profileId : Option SafeId} {profilePolicyVersion : Option ℕ+} {d : SelectionDecision}
    (h : assembleEvaluations catalog requirement policy evaluatedAt evaluations profileId
      profilePolicyVersion = .ok d) :
    ∀ e ∈ d.evaluations, e.identity ∈ catalog.entries.map (·.identity) := by
  intro e he
  obtain ⟨⟨hidentities, -⟩, h⟩ := check_bind_eq_ok.mp h
  rw [evaluations_postInit h] at he
  rw [← List.mem_toFinset, hidentities, List.mem_toFinset]
  exact List.mem_map_of_mem (evaluations_assembledDecision he)

end Evaluations

section Document

variable [RouteHost]

/-- The evaluations of a versioned ranking are of routable models. -/
private theorem rankVersioned_routable {r : RouteRequest} {requirement : TaskRequirement}
    {gates : List ResourceGate} {routable : List ModelIdentity} {ranking : Ranking}
    (h : rankVersioned r requirement gates routable = .ok ranking) :
    ∀ e ∈ ranking.selection.evaluations, e.identity ∈ routable := by
  intro e he
  obtain ⟨selection, hselection, h⟩ := bind_eq_ok.mp h
  obtain rfl := Except.ok.inj h
  obtain ⟨demands, evaluations, hevaluations, hassembled⟩ := selectModel_eq_ok.mp hselection
  have hmatches := matchesCatalog_of_catalogEvaluations hevaluations
  have hmem : e.identity ∈ (narrowedCatalog r.toRouteInputs routable
      (qualifiedFor gates)).entries.map (·.identity) := by
    dsimp only at he
    rw [hassembled] at he
    exact hmatches.mem_iff.mp (List.mem_map_of_mem (evaluations_assembledDecision he))
  obtain ⟨entry, -, hview, hident⟩ := mem_narrowedCatalog_identities.mp hmem
  simp only [inView, Bool.and_eq_true, decide_eq_true_eq] at hview
  exact hident ▸ hview.1

/-- The evaluations of a runtime ranking are of routable models. -/
private theorem rankRuntime_routable_evaluations {r : RouteRequest}
    (hruntime : r.isRuntime = true) {requirement : TaskRequirement} {ranking : Ranking}
    (h : rankRuntime r requirement (r.routeGates requirement) (r.pinning requirement).routable =
      .ok ranking) :
    ∀ e ∈ ranking.selection.evaluations, e.identity ∈ (r.pinning requirement).routable := by
  intro e he
  obtain ⟨outcomes, houtcomes, h⟩ := bind_eq_ok.mp h
  dsimp only at h
  obtain ⟨narrowed, hnarrowed, h⟩ := bind_eq_ok.mp h
  obtain ⟨selection, hselection, h⟩ := bind_eq_ok.mp h
  obtain rfl := Except.ok.inj h
  have hmem := assembleEvaluations_identities hselection e he
  -- The narrowed catalog holds the entries that stand for the ranked models.
  rw [ModelCatalog.entries_of_make hnarrowed] at hmem
  obtain ⟨entry, hentry, hident⟩ := List.mem_map.mp hmem
  obtain ⟨p, hp, rfl⟩ := List.mem_map.mp hentry
  obtain ⟨outcome, houtcome, hchosen⟩ := List.mem_filterMap.mp hp
  obtain ⟨identity, hidentity, hmodel⟩ := exists_of_mem_mapM houtcomes houtcome
  have hroutable := mem_sortBy.mp hidentity
  have hsound := (evaluateModel_returns_iff hruntime requirement
    (RouteInputs.healthy_of_qualifiedFor identity)
    (RouteInputs.mem_routable_iff.mp hroutable).known).2 outcome hmodel
  rw [← hident, (hsound.chosen_identity p hchosen).1]
  exact hroutable

/-- **Every evaluation a decision reports is of a routable model.** -/
theorem evaluations_routable {r : RouteRequest} {d : RouteDecision} (h : routeCore r = .ok d) :
    ∃ requirement, r.resolveRequirement = .ok requirement ∧
      ∀ e ∈ d.selection.evaluations, r.Routable requirement e.identity := by
  obtain ⟨requirement, ranking, hrequirement, hranking, -, hdecision⟩ := routeCore_spec h
  refine ⟨requirement, hrequirement, fun e he => RouteInputs.mem_routable_iff.mp ?_⟩
  rw [hdecision.selection_eq] at he
  unfold rank at hranking
  cases hruntime : r.isRuntime with
  | true =>
    rw [hruntime, if_pos rfl] at hranking
    exact rankRuntime_routable_evaluations hruntime hranking e he
  | false =>
    rw [hruntime, if_neg Bool.false_ne_true] at hranking
    exact rankVersioned_routable hranking e he

/-! ### Bindings of the evaluated catalog -/

omit [RouteHost] in
/-- Narrowing keeps the sources of the binding evidence. -/
theorem viewEntry_bindingResources (i : RouteInputs)
    (serving : ModelIdentity → List GatedResource) (entry : ModelCatalogEntry) :
    (viewEntry i serving entry).capacityBindingResources = entry.capacityBindingResources := by
  have heffort : ∀ matching (e : ModelCatalogEntry),
      (narrowEffort matching e).capacityBindingResources = e.capacityBindingResources := by
    intro matching e
    unfold narrowEffort
    split
    · split <;> rfl
    · rfl
  have hbindings : ∀ matching (e : ModelCatalogEntry),
      (narrowBindings matching e).capacityBindingResources = e.capacityBindingResources := by
    intro matching e
    unfold narrowBindings
    split
    · rfl
    · split <;> rfl
  unfold viewEntry narrowEntry
  split
  · rw [hbindings, heffort]
    rfl
  · rfl

/-- Preparation keeps the sources of the binding evidence. -/
theorem MIAdmission.prepareEntry_bindingResources (mi : MIAdmission) (cut : FrozenCut)
    (at_ : Instant) (entry : ModelCatalogEntry) :
    (mi.prepareEntry cut at_ entry).capacityBindingResources = entry.capacityBindingResources := by
  have hexplain : (mi.explainEntry cut at_ entry).capacityBindingResources =
      entry.capacityBindingResources := by
    unfold explainEntry
    split <;> rfl
  have htighten : ∀ meaning amount previous (e : ModelCatalogEntry),
      (tightenLimit meaning amount previous e).capacityBindingResources =
        e.capacityBindingResources := by
    intro meaning amount previous e
    cases meaning <;> rfl
  unfold prepareEntry
  dsimp only
  split_ifs
  · split
    · exact hexplain
    · split
      · exact hexplain
      · exact (htighten _ _ _ _).trans hexplain
  · exact hexplain
  · exact hexplain

/-- Every entry of `c` stands for one of `c'` that the same resources bind. -/
def RefinesBindings (c c' : ModelCatalog) : Prop :=
  c.catalogVersion = c'.catalogVersion ∧ ∀ entry ∈ c.entries, ∃ original ∈ c'.entries,
    entry.identity = original.identity ∧
      entry.capacityBindingResources = original.capacityBindingResources

omit [RouteHost] in
/-- The identities a resource binds are bound in the refined catalog. -/
theorem RefinesBindings.bound {c c' : ModelCatalog} (h : RefinesBindings c c')
    {resource : ResourceIdentity} {identity : ModelIdentity}
    (hbound : identity ∈ bindIdentities resource c) : identity ∈ bindIdentities resource c' := by
  obtain ⟨entry, hentry, hbinds, rfl⟩ := mem_bindIdentities.mp hbound
  obtain ⟨original, horiginal, hident, hresources⟩ := h.2 entry hentry
  refine mem_bindIdentities.mpr ⟨original, horiginal, ?_, hident.symm⟩
  -- A binding reads the version, the identity and the evidence sources only.
  unfold bindsEntry ModelCatalogEntry.evidencedOn at hbinds ⊢
  rwa [← h.1, ← hident, ← hresources]

/-- **The evaluated catalog binds nothing new.** -/
theorem evaluatedRequest_refines {r e : RouteRequest} (h : evaluatedRequest r = .ok e) :
    RefinesBindings e.catalog r.catalog := by
  refine ⟨(evaluatedRequest_spec h).version_eq, evaluatedCatalog_induction
    (fun entry original => entry.identity = original.identity ∧
      entry.capacityBindingResources = original.capacityBindingResources)
    (fun _ => ⟨rfl, rfl⟩) (fun hab hbc => ⟨hab.1.trans hbc.1, hab.2.trans hbc.2⟩) ?_ ?_ h⟩
  · intro i serving entry
    exact ⟨viewEntry_identity _ _ _, viewEntry_bindingResources _ _ _⟩
  · intro mi cut at_ entry
    exact ⟨mi.prepareEntry_identity _ _ _, mi.prepareEntry_bindingResources _ _ _⟩

/-! ### Confidentiality -/

/-- What the public document of a request may name: authorized resources, or the marker, and the
    models that authorized resources bind. -/
structure Confidential (i : RouteInputs) (document : PublicRouteDocument) : Prop where
  target_resource : ∀ target, target ∈ document.target ∨ target ∈ document.targetAlternatives →
    ∃ entry, i.Authorized entry ∧ entry.identity = target.resource ∧
      target.model ∈ bindIdentities entry.identity i.catalog
  exclusion_resource : ∀ x ∈ document.targetExclusions,
    (∃ entry, i.Authorized entry ∧ entry.identity.resourceId = x.resourceId) ∨
      x = restrictedExclusion x.stage x.reasonCodes
  unroutable : ∀ identity ∈ document.unroutableIdentities, i.Discloses identity
  preferred : ∀ identity ∈ document.selection.preferenceOrder, i.Discloses identity
  evaluated : ∀ e ∈ document.selection.evaluations, i.Discloses e.identity
  happy_hours : ∀ ruleId ∈ document.selection.expiredHappyHourRules,
    ∃ rule ∈ i.policy.resourcePolicy.happyHours, rule.ruleId = ruleId ∧
      ∃ identity, i.Discloses identity ∧ rule.target.targets identity = true
  blackouts : ∀ ruleId ∈ document.selection.expiredBlackoutRules,
    ∃ rule ∈ i.policy.resourcePolicy.blackouts, rule.ruleId = ruleId ∧
      ∃ identity, i.Discloses identity ∧ rule.target.targets identity = true
  promotions : ∀ source ∈ document.expiredPromotions, ∃ entry, i.Authorized entry ∧
    source ∈ expiredPromotions entry i.evaluatedAt

/-- A serving resource of the evaluated request is authorized by the request itself, and binds the
    model it serves. -/
theorem authorized_of_serves {r e : RouteRequest} (h : evaluatedRequest r = .ok e)
    {requirement : TaskRequirement} {entry : ResourceRegistryEntry} {identity : ModelIdentity}
    (hserves : e.Serves requirement entry identity) :
    r.Authorized entry ∧ identity ∈ bindIdentities entry.identity r.catalog := by
  have hinputs := (evaluatedRequest_spec h).inputs_eq
  have hregistered := hserves.registered
  have hgranted := granted_of_authorizationCodes hserves.passes.authorized
  rw [hinputs] at hregistered hgranted
  exact ⟨⟨hregistered, hgranted⟩, (evaluatedRequest_refines h).bound hserves.bound⟩

/-- **The public document of a decision is confidential**: whatever it names is an authorized
    resource, or bound by one. -/
theorem publicRouteDocument_confidential (r : RouteRequest) (d : RouteDecision)
    (h : routeRequest r = .ok d) :
    Confidential r.toRouteInputs (publicRouteDocument d r.toRouteInputs) := by
  obtain ⟨e, core, he, hcore, hcontent, -⟩ := routeRequest_eq_ok h
  constructor
  · intro target htarget
    have hoffers : core.Offers target := by
      rw [← hcontent]
      exact htarget
    obtain ⟨requirement, -, entry, hoffer⟩ := offer_spec hcore hoffers
    obtain ⟨hauthorized, hbound⟩ := authorized_of_serves he hoffer.serves
    exact ⟨entry, hauthorized, hoffer.resource_eq.symm, hbound⟩
  · intro x hx
    obtain ⟨exclusion, -, rfl⟩ := List.mem_map.mp hx
    unfold publicExclusion
    split
    · rename_i hvisible
      exact .inl (RouteInputs.mem_visibleIds.mp hvisible)
    · exact .inr rfl
  · intro identity hidentity
    exact RouteInputs.mem_visibleIdentities.mp (of_decide_eq_true (List.mem_filter.mp hidentity).2)
  · intro identity hidentity
    exact RouteInputs.mem_visibleIdentities.mp (of_decide_eq_true (List.mem_filter.mp hidentity).2)
  · intro evaluation hevaluation
    -- The projection keeps the evaluations, so they are of routable models.
    change evaluation ∈ d.selection.evaluations at hevaluation
    rw [hcontent] at hevaluation
    obtain ⟨requirement, -, hroutable⟩ := evaluations_routable hcore
    obtain ⟨entry, hserves, -⟩ := hroutable evaluation hevaluation
    exact ⟨entry, authorized_of_serves he hserves⟩
  · intro ruleId hruleId
    exact RouteInputs.mem_visibleRuleIds.mp (of_decide_eq_true (List.mem_filter.mp hruleId).2)
  · intro ruleId hruleId
    exact RouteInputs.mem_visibleRuleIds.mp (of_decide_eq_true (List.mem_filter.mp hruleId).2)
  · intro source hsource
    obtain ⟨entry, hentry, hexpired⟩ := List.mem_flatMap.mp (mem_sortedSet.mp hsource)
    exact ⟨entry, RouteInputs.mem_visibleEntries.mp hentry, hexpired⟩

omit [RouteHost] in
/-- The document of the sole candidate's decision. -/
theorem publicRouteDocument_confidential_soleCandidateRequest : ∃ d,
    @routeRequest utcHost soleCandidateRequest = .ok d ∧
      Confidential soleCandidateRequest.toRouteInputs
        (publicRouteDocument d soleCandidateRequest.toRouteInputs) := by
  let _ := utcHost
  obtain ⟨d, target, hd, -⟩ := exists_of_toOption (x := routeRequest soleCandidateRequest)
    (f := (·.target)) (by decide +kernel)
  exact ⟨d, hd, publicRouteDocument_confidential soleCandidateRequest d hd⟩

end Document

end ScarcityRouter
