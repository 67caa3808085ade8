import ScarcityRouter.Routing.AdmitSpec

namespace ScarcityRouter

open ScarcityRouter.Lib

/-!
# When routing and admission return

* `Evaluable` — the evaluated request: it resolves, its ranking returns and its failures are
  representable.
* `decides_iff` — **both decisions exist, with one exclusion for each failed resource, exactly for
  evaluable requests**.
* `runtimeCandidates_iff` — **a runtime request with a candidate set is decided within the set
  exactly when no routable model has a foreign candidate**.
-/

/-! ### A small deployment -/

/-- A host in UTC without an evidence package, whose digests are all alike. -/
@[reducible] def utcHost : RouteHost where
  utcOffset := fun _ _ => 0
  verdict := fun _ _ _ _ => ⟨"unsupported", none⟩
  decisionId := fun _ => .lit "0000000000000000000000000000000000000000000000000000000000000000"

/-- Two variants of one model. -/
def atlasBase : ModelIdentity := ⟨.lit "acme", .lit "atlas", .lit "base"⟩

def atlasPro : ModelIdentity := ⟨.lit "acme", .lit "atlas", .lit "pro"⟩

/-- Their catalog entry, evidenced on one resource. -/
def atlasEntry (identity : ModelIdentity) : ModelCatalogEntry where
  identity := identity
  displayName := "Atlas"
  name_nonempty := atlas_named
  capacityBindingResources := some [.lit "acme-http"]
  bindings_valid := by
    intro _ h
    cases h
  resource_bindings_valid := by
    intro _ h
    cases h

/-- A runtime inventory of both. -/
def atlasInventory : ModelCatalog where
  catalogVersion := none
  updatedOn := none
  entries := [atlasEntry atlasBase, atlasEntry atlasPro]
  unique := by decide +kernel

/-- A fresh and healthy resource that serves both. -/
def acmeHttp : ResourceRegistryEntry where
  identity :=
    { resourceId := .lit "acme-http"
      channel := .serverDirectHttp
      provider := .lit "acme"
      model := .lit "atlas"
      entitlement := .localUngated }
  freshnessTtlSeconds := 300
  observation := some { observedAt := 0, health := { status := .ok } }
  freshness := .fresh

/-- A request over the inventory and the one resource. -/
def acmeInputs : RouteInputs where
  catalog := atlasInventory
  profiles := ⟨[], noProfiles_sorted⟩
  registrySnapshot := { revision := 1, generatedAt := 0, entries := [acmeHttp] }
  policy := { resourcePolicy := ⟨1, .degraded, .ignore, [], [], [], noReservations_sorted,
    noWindows_sorted, noWindows_sorted, noRules_unique⟩ }
  evaluatedAt := 0

theorem acmeInputs_valid : acmeInputs.Valid :=
  ⟨(fun _ h => nomatch h), fun _ => rfl, List.Pairwise.nil, List.Pairwise.nil, nofun, le_rfl,
    (fun _ h => nomatch h)⟩

section Totality

variable [RouteHost]

/-! ### Evaluable requests -/

/-- The request has an evaluated form whose requirement resolves, whose ranking returns and whose
    gate failures are representable. -/
def Evaluable (r : RouteRequest) : Prop :=
  ∃ e, evaluatedRequest r = .ok e ∧ ∃ requirement, e.resolveRequirement = .ok requirement ∧
    Rankable e.toRouteInputs requirement ∧ e.Representable

theorem routeRequest_returns_iff_evaluable (r : RouteRequest) :
    Returns (routeRequest r) ↔ Evaluable r := by
  rw [routeRequest_returns_iff]
  exact exists_congr fun e => and_congr_right fun _ => routeCore_returns_iff e

/-- Admission returns on every pin of an evaluable request. -/
theorem admitPinnedTarget_returns_of_evaluable {r : RouteRequest} (h : Evaluable r)
    (pin : PinnedTarget) : Returns (admitPinnedTarget r pin) := by
  obtain ⟨e, he, requirement, hrequirement, -, hrepresentable⟩ := h
  have hpin : PinRepresentable e.toRouteInputs pin := fun _ entry hentry _ =>
    hrepresentable entry hentry
  obtain ⟨core, hcore⟩ := (admitCore_returns_iff e pin).mpr ⟨⟨requirement, hrequirement⟩, hpin⟩
  obtain ⟨d, hd, -⟩ := admitPinnedTarget_of_core he hcore
  exact ⟨d, hd⟩

/-- The decision of a request carries exactly one exclusion of each failed resource, with the first
    failing stage and all of its codes. -/
def ExcludesFailures (r : RouteRequest) (d : RouteDecision) : Prop :=
  ∀ e, evaluatedRequest r = .ok e → ∀ requirement, e.resolveRequirement = .ok requirement →
    ∀ entry ∈ e.registrySnapshot.entries, (e.routeGate requirement entry).failure ≠ none →
      ∃ x, d.targetExclusions.filter (·.resourceId = entry.identity.resourceId) = [x] ∧
        some (x.stage, x.reasonCodes) = firstFailure
          ((e.routeGateInputs requirement entry.identity).gateStages
            (expireContext entry e.evaluatedAt))

theorem excludesFailures {r : RouteRequest} {d : RouteDecision} (h : routeRequest r = .ok d) :
    ExcludesFailures r d := by
  intro e he requirement hrequirement entry hentry hfailed
  obtain ⟨e', core, he', hcore, hcontent, -⟩ := routeRequest_eq_ok h
  obtain rfl := Except.ok.inj (he.symm.trans he')
  obtain ⟨requirement', ranking, hrequirement', -, hranked, hdecision⟩ := routeCore_spec hcore
  obtain rfl := Except.ok.inj (hrequirement.symm.trans hrequirement')
  obtain ⟨failure, hfailure⟩ := Option.ne_none_iff_exists'.mp hfailed
  obtain ⟨x, hx, hrecord⟩ := RouteInputs.targetExclusions_of_failure hdecision.exclusions_eq
    hranked.exclusion_qualified hentry hfailure
  have hstages : some (failure.stage, failure.reasonCodes) = firstFailure
      ((e.routeGateInputs requirement entry.identity).gateStages
        (expireContext entry e.evaluatedAt)) := by
    rw [← GateInputs.runStages_firstFailure]
    exact (congrArg (Option.map fun f : GateFailure => (f.stage, f.reasonCodes)) hfailure).symm
  refine ⟨x, ?_, ?_⟩
  · rwa [hcontent]
  · rw [hrecord]
    exact hstages

/-- What routing and admission of one request owe: a decision each, and in the route's decision one
    exclusion for each failed resource. -/
structure Decides (r : RouteRequest) : Prop where
  routes : Returns (routeRequest r)
  admits : ∀ pin, Returns (admitPinnedTarget r pin)
  excludes : ∀ d, routeRequest r = .ok d → ExcludesFailures r d

/-- **A request is decided exactly when it is evaluable.** -/
theorem decides_iff (r : RouteRequest) : Decides r ↔ Evaluable r := by
  constructor
  · intro h
    exact (routeRequest_returns_iff_evaluable r).mp h.routes
  · intro h
    exact ⟨(routeRequest_returns_iff_evaluable r).mpr h, admitPinnedTarget_returns_of_evaluable h,
      fun d hd => excludesFailures hd⟩

/-- The administrator allows neither the provider nor the channel of the resource. -/
def forbiddenRequest : RouteRequest where
  toRouteInputs := { acmeInputs with
    adminConstraints :=
      { allowedProviders := some [.lit "other"], allowedChannels := some [.workerBridged] } }
  valid := { acmeInputs_valid with }

omit [RouteHost] in
/-- The failed resource has no exclusion: its two codes come out unsorted. -/
theorem not_decides_forbiddenRequest : ¬ ∀ [RouteHost] (r : RouteRequest), Decides r := by
  intro h
  let _ := utcHost
  obtain ⟨e, he, requirement, -, -, hrepresentable⟩ :=
    (routeRequest_returns_iff_evaluable _).mp (h forbiddenRequest).routes
  obtain rfl : forbiddenRequest = e := Except.ok.inj he
  have hordered := hrepresentable acmeHttp (by decide +kernel) (by decide +kernel)
  exact absurd (hordered.provider_alone (by decide +kernel)).1 (by decide +kernel)

/-! ### Runtime candidates -/

/-- Every identity the decision selects or lists as an alternative is a candidate. -/
structure WithinCandidates (candidates : List ModelIdentity) (d : RouteDecision) : Prop where
  targets : ∀ target, d.Offers target → target.model ∈ candidates
  evaluations : ∀ s, s ∈ d.selection.selected ∨ s ∈ d.selection.alternatives →
    s.identity ∈ candidates

theorem withinCandidates {r : RouteRequest} {candidates : List ModelIdentity}
    (hcandidates : r.candidateIdentities = some candidates) {d : RouteDecision}
    (h : routeRequest r = .ok d) : WithinCandidates candidates d := by
  obtain ⟨e, core, he, hcore, hcontent, -⟩ := routeRequest_eq_ok h
  have hsame : e.candidateIdentities = some candidates := by
    rw [(evaluatedRequest_spec he).inputs_eq]
    exact hcandidates
  constructor
  · intro target hoffer
    rw [hcontent] at hoffer
    obtain ⟨requirement, -, entry, hentry⟩ := offer_spec hcore hoffer
    exact hentry.endorsed.candidate candidates hsame
  · intro s hs
    rw [hcontent] at hs
    obtain ⟨requirement, ranking, -, -, hranked, hdecision⟩ := routeCore_spec hcore
    rw [hdecision.selection_eq] at hs
    exact (hranked.ranked_candidate s hs).2 candidates hsame

/-- The request has an evaluated form whose requirement resolves, whose gate failures are
    representable, and none of whose routable models has a foreign candidate. -/
def CandidatesEvaluable (r : RouteRequest) (candidates : List ModelIdentity) : Prop :=
  ∃ e, evaluatedRequest r = .ok e ∧ ∃ requirement, e.resolveRequirement = .ok requirement ∧
    e.Representable ∧ ∀ identity, e.Routable requirement identity → candidates ⊆ [identity]

/-- For a runtime inventory, being evaluable is a condition on the candidates. -/
theorem evaluable_iff_candidates {r : RouteRequest} {candidates : List ModelIdentity}
    (hruntime : r.isRuntime = true) (hcandidates : r.candidateIdentities = some candidates) :
    Evaluable r ↔ CandidatesEvaluable r candidates := by
  refine exists_congr fun e => and_congr_right fun he => exists_congr fun requirement =>
    and_congr_right fun _ => ?_
  have hspec := evaluatedRequest_spec he
  have hsame : e.candidateIdentities = some candidates := by
    rw [hspec.inputs_eq]
    exact hcandidates
  have hmode : e.isRuntime = true := hspec.isRuntime_eq.trans hruntime
  rw [and_comm]
  refine and_congr_right fun _ => ⟨fun h identity hroutable => ?_, fun h => ⟨?_, ?_, ?_⟩⟩
  · exact h.candidates hmode identity hroutable candidates hsame
  · intro _ identity hroutable candidates' hmem
    obtain rfl : candidates = candidates' := Option.some.inj (hsame.symm.trans hmem)
    exact h identity hroutable
  · exact fun hversioned => absurd (hmode.symm.trans hversioned) (by simp)
  · exact fun hversioned => absurd (hmode.symm.trans hversioned) (by simp)

/-- **A runtime request with a candidate set is decided within the set** exactly when no routable
    model has a foreign candidate. -/
theorem runtimeCandidates_iff {r : RouteRequest} {candidates : List ModelIdentity}
    (hruntime : r.isRuntime = true) (hcandidates : r.candidateIdentities = some candidates) :
    (Returns (routeRequest r) ∧ ∀ d, routeRequest r = .ok d → WithinCandidates candidates d) ↔
      CandidatesEvaluable r candidates := by
  rw [← evaluable_iff_candidates hruntime hcandidates, ← routeRequest_returns_iff_evaluable]
  exact and_iff_left fun d h => withinCandidates hcandidates h

/-- The only model of its catalog is the only candidate. -/
def soleCandidateRequest : RouteRequest where
  toRouteInputs := { acmeInputs with
    catalog := singletonCatalog (atlasEntry atlasBase)
    candidateIdentities := some [atlasBase] }
  valid :=
    { acmeInputs_valid with
      candidates_calibrated := by
        rintro _ ⟨⟩
        decide +kernel }

omit [RouteHost] in
theorem soleCandidateRequest_representable : soleCandidateRequest.Representable := by
  intro entry hentry _
  obtain rfl : entry = acmeHttp := List.mem_singleton.mp hentry
  exact strictlySorted_authorizationFailureCodes.mp (by decide +kernel)

omit [RouteHost] in
/-- A sole candidate has no foreign one. -/
theorem runtimeCandidates_soleCandidateRequest :
    Returns (@routeRequest utcHost soleCandidateRequest) ∧
      ∀ d, @routeRequest utcHost soleCandidateRequest = .ok d → WithinCandidates [atlasBase] d := by
  refine (@runtimeCandidates_iff utcHost soleCandidateRequest [atlasBase] rfl rfl).mpr
    ⟨soleCandidateRequest, rfl, _, rfl, soleCandidateRequest_representable, ?_⟩
  intro identity hroutable
  obtain ⟨entry, hentry, rfl⟩ := hroutable.known
  obtain rfl : entry = atlasEntry atlasBase := List.mem_singleton.mp hentry
  exact List.Subset.refl _

/-- Both variants are candidates, and both are served. -/
def twoCandidatesRequest : RouteRequest where
  toRouteInputs := { acmeInputs with candidateIdentities := some [atlasBase, atlasPro] }
  valid :=
    { acmeInputs_valid with
      candidates_calibrated := by
        rintro _ ⟨⟩
        decide +kernel }

omit [RouteHost] in
/-- Each variant is validated again as the only entry of its catalog. -/
theorem not_runtimeCandidates_twoCandidatesRequest : ¬ ∀ [RouteHost] (r : RouteRequest)
    (candidates : List ModelIdentity), r.isRuntime = true →
      r.candidateIdentities = some candidates →
      Returns (routeRequest r) ∧ ∀ d, routeRequest r = .ok d → WithinCandidates candidates d := by
  intro h
  let _ := utcHost
  obtain ⟨hreturns, -⟩ := h twoCandidatesRequest [atlasBase, atlasPro] rfl rfl
  obtain ⟨e, he, requirement, hrequirement, hrankable, -⟩ :=
    (routeRequest_returns_iff_evaluable _).mp hreturns
  obtain rfl : twoCandidatesRequest = e := Except.ok.inj he
  obtain rfl : (⟨.l0, {}, {}⟩ : TaskRequirement) = requirement := Except.ok.inj hrequirement
  have hroutable : twoCandidatesRequest.Routable ⟨.l0, {}, {}⟩ atlasBase :=
    ⟨acmeHttp, ⟨by decide +kernel, by decide +kernel, by decide +kernel⟩,
      (fun _ h => nomatch h), by decide +kernel⟩
  exact absurd (hrankable.candidates rfl atlasBase hroutable [atlasBase, atlasPro] rfl)
    (by decide +kernel)

end Totality

end ScarcityRouter
