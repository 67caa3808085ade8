import ScarcityRouter.Routing.Totality

namespace ScarcityRouter

open ScarcityRouter.Lib

/-!
# What an offered target is backed by

* `offers_granted` — **every offered or approved target is granted by all policy layers.**
* `GateSound`, `offers_gateSound` — **every offered target is recorded fresh, healthy, adapted and
  compatible**, under the requirement the request merges.
-/

/-! ### Granted resources -/

/-- A resource that passes the authorization stage is granted by every layer. -/
theorem granted_of_authorizationCodes {i : RouteInputs} {entry : ResourceRegistryEntry}
    (h : authorizationFailureCodes (expireContext entry i.evaluatedAt) i.effective
      i.executionAssurances i.evaluatedAt = []) :
    GrantedBy i.adminConstraints i.clientAuthorization i.routingProfile i.executionAssurances
      i.evaluatedAt entry := by
  rw [authorizationFailureCodes_expireContext] at h
  exact authorizationFailureCodes_eq_nil.mp h

/-! ### Sound gates -/

/-- What the availability and compatibility stages establish of a resource at the instant of the
    request. -/
structure GateSound (i : RouteInputs) (requirement : TaskRequirement)
    (entry : ResourceRegistryEntry) : Prop where
  recorded_fresh : entry.freshness = .fresh
  healthy : ∃ observation ∈ entry.observation, observation.health.status = .ok
  adapter : ∀ ids ∈ i.availableAdapterResourceIds, entry.identity.resourceId ∈ ids
  features : ∀ feature ∈ requiredFeatures i.request (i.configuredReasoning entry.identity),
    ∃ cell ∈ lookupCell i.compatibilityCells entry.identity feature, cell.value.serves = true
  context : ∀ minimum ∈ requirement.hardConstraints.minimumInputContextTokens,
    ∃ limit ∈ entry.capabilities.contextLimitTokens, minimum ≤ limit ∧
      ∀ evidence ∈ entry.capabilities.contextEvidence, evidence.covers i.evaluatedAt = true
  output : routeOutputCode entry.capabilities
    (requestOutputContext i.request entry.identity i.catalog).1 i.request.maximumOutputTokens
    (requestOutputContext i.request entry.identity i.catalog).2 = none
  floor : routeOutputCode entry.capabilities
    (requestOutputContext i.request entry.identity i.catalog).1
    requirement.hardConstraints.minimumOutputTokens
    (requestOutputContext i.request entry.identity i.catalog).2 false = none
  continuation : i.request.requiresToolCalls = true → entry.identity.channel = .workerBridged →
    ∃ ids ∈ i.continuationCapableResourceIds, entry.identity.resourceId ∈ ids

/-- Withdrawing a context attestation leaves the output rule alone. -/
theorem routeOutputCode_expireContext (entry : ResourceRegistryEntry) (at_ : Instant)
    (hard requested : Option ℕ+) (variantResolved enforce : Bool) :
    routeOutputCode (expireContext entry at_).capabilities hard requested variantResolved enforce =
      routeOutputCode entry.capabilities hard requested variantResolved enforce := by
  unfold expireContext
  split <;> rfl

/-- A context limit that survives the check is the entry's own, with its attestation unexpired. -/
theorem contextLimit_of_expireContext {entry : ResourceRegistryEntry} {at_ : Instant} {limit : ℕ+}
    (h : limit ∈ (expireContext entry at_).capabilities.contextLimitTokens) :
    limit ∈ entry.capabilities.contextLimitTokens ∧
      ∀ evidence ∈ entry.capabilities.contextEvidence, evidence.covers at_ = true := by
  unfold expireContext at h
  split at h
  · cases h
  · rename_i hcovered
    refine ⟨h, fun evidence hevidence => ?_⟩
    by_contra hexpired
    refine hcovered ?_
    rw [Option.mem_def.mp hevidence, Option.any_some]
    simpa using hexpired

/-- **A serving resource is soundly backed.** -/
theorem RouteInputs.Serves.gateSound {i : RouteInputs} {requirement : TaskRequirement}
    {entry : ResourceRegistryEntry} {identity : ModelIdentity}
    (h : i.Serves requirement entry identity) : GateSound i requirement entry := by
  have havailable := h.available
  have hcompatible := GateInputs.compatibility_codes_eq_nil.mp h.passes.compatible
  have hfresh : entry.freshness = .fresh := by
    have := havailable.fresh
    rwa [expireContext_freshness] at this
  refine ⟨hfresh, ?_, ?_, ?_, ?_, ?_, ?_, ?_⟩
  · have hobserved : entry.observation ≠ none := by
      rw [ne_eq, entry.observed, hfresh]
      decide
    obtain ⟨observation, hobservation⟩ := Option.ne_none_iff_exists'.mp hobserved
    refine ⟨observation, hobservation, havailable.healthy observation ?_⟩
    rw [expireContext_observation]
    exact hobservation
  · have hadapter := havailable.adapter
    rwa [expireContext_identity] at hadapter
  · have hfeatures := hcompatible.features
    rwa [expireContext_identity] at hfeatures
  · intro minimum hminimum
    obtain ⟨limit, hlimit, hle⟩ := hcompatible.context minimum hminimum
    obtain ⟨hown, hcovers⟩ := contextLimit_of_expireContext hlimit
    exact ⟨limit, hown, hle, hcovers⟩
  · have houtput := hcompatible.output
    rwa [routeOutputCode_expireContext, expireContext_identity] at houtput
  · have hfloor := hcompatible.floor
    rwa [routeOutputCode_expireContext, expireContext_identity] at hfloor
  · have hcontinuation := havailable.continuation
    rwa [expireContext_identity] at hcontinuation

section Authority

variable [RouteHost]

/-- The route's decision offers the target, or admission of some pin approves it. -/
inductive Permits (r : RouteRequest) (target : RouteTarget) : Prop where
  | route (d : RouteDecision) (h : routeRequest r = .ok d) (hoffer : d.Offers target)
  | admission (pin : PinnedTarget) (d : AdmissionDecision) (h : admitPinnedTarget r pin = .ok d)
      (happroved : d.approved = true) (htarget : d.target = some target)

/-- **Every offered or approved target is granted by all policy layers.** -/
theorem offers_granted (r : RouteRequest) (target : RouteTarget) (h : Permits r target) :
    ∃ entry ∈ r.registrySnapshot.entries, entry.identity = target.resource ∧
      GrantedBy r.adminConstraints r.clientAuthorization r.routingProfile r.executionAssurances
        r.evaluatedAt entry := by
  have hgranted : ∀ e, evaluatedRequest r = .ok e → ∀ entry ∈ e.registrySnapshot.entries,
      authorizationFailureCodes (expireContext entry e.evaluatedAt) e.effective
        e.executionAssurances e.evaluatedAt = [] →
      entry ∈ r.registrySnapshot.entries ∧ GrantedBy r.adminConstraints r.clientAuthorization
        r.routingProfile r.executionAssurances r.evaluatedAt entry := by
    intro e he entry hentry hcodes
    have hresult := granted_of_authorizationCodes hcodes
    rw [(evaluatedRequest_spec he).inputs_eq] at hentry hresult
    exact ⟨hentry, hresult⟩
  cases h with
  | route d h hoffer =>
    obtain ⟨e, core, he, hcore, hcontent, -⟩ := routeRequest_eq_ok h
    rw [hcontent] at hoffer
    obtain ⟨requirement, -, entry, hoffered⟩ := offer_spec hcore hoffer
    obtain ⟨hentry, hresult⟩ := hgranted e he entry hoffered.serves.registered
      hoffered.serves.passes.authorized
    exact ⟨entry, hentry, hoffered.resource_eq.symm, hresult⟩
  | admission pin d h happroved htarget =>
    obtain ⟨e, core, he, hcore, hcontent⟩ := admitPinnedTarget_eq_ok h
    rw [hcontent] at happroved htarget
    obtain ⟨requirement, -, entry, candidate, hadmissible, htarget'⟩ :=
      (admitCore_approves_iff hcore).mp happroved
    obtain ⟨hentry, hresult⟩ := hgranted e he entry hadmissible.registered
      (GateInputs.runStages_eq_none_iff.mp hadmissible.qualified).1.authorized
    refine ⟨entry, hentry, ?_, hresult⟩
    obtain rfl := Option.some.inj (htarget.symm.trans htarget')
    exact (expireContext_identity _ _).symm

omit [RouteHost] in
/-- The sole candidate is selected, on a granted resource. -/
theorem offers_granted_soleCandidateRequest :
    ∃ target : RouteTarget, ∃ entry ∈ soleCandidateRequest.registrySnapshot.entries,
      entry.identity = target.resource ∧ GrantedBy soleCandidateRequest.adminConstraints
        soleCandidateRequest.clientAuthorization soleCandidateRequest.routingProfile
        soleCandidateRequest.executionAssurances soleCandidateRequest.evaluatedAt entry := by
  let _ := utcHost
  obtain ⟨d, target, hd, htarget⟩ := exists_of_toOption (x := routeRequest soleCandidateRequest)
    (f := (·.target)) (by decide +kernel)
  exact ⟨target, offers_granted soleCandidateRequest target (.route d hd (.inl htarget))⟩

/-- **Every offered target is soundly backed**, as its snapshot recorded it. -/
theorem offers_gateSound (r : RouteRequest) (d : RouteDecision) (h : routeRequest r = .ok d)
    (target : RouteTarget) (hoffer : d.Offers target) :
    ∃ e requirement, evaluatedRequest r = .ok e ∧ e.resolveRequirement = .ok requirement ∧
      ∃ entry ∈ r.registrySnapshot.entries, entry.identity = target.resource ∧
        GateSound e.toRouteInputs requirement entry := by
  obtain ⟨e, core, he, hcore, hcontent, -⟩ := routeRequest_eq_ok h
  rw [hcontent] at hoffer
  obtain ⟨requirement, hrequirement, entry, hoffered⟩ := offer_spec hcore hoffer
  refine ⟨e, requirement, he, hrequirement, entry, ?_, hoffered.resource_eq.symm,
    hoffered.serves.gateSound⟩
  have hentry := hoffered.serves.registered
  rwa [(evaluatedRequest_spec he).inputs_eq] at hentry

omit [RouteHost] in
/-- The sole candidate is selected, on a soundly backed resource. -/
theorem offers_gateSound_soleCandidateRequest :
    ∃ target : RouteTarget, ∃ e requirement, @evaluatedRequest utcHost soleCandidateRequest = .ok e ∧
      e.resolveRequirement = .ok requirement ∧
      ∃ entry ∈ soleCandidateRequest.registrySnapshot.entries,
        entry.identity = target.resource ∧ GateSound e.toRouteInputs requirement entry := by
  let _ := utcHost
  obtain ⟨d, target, hd, htarget⟩ := exists_of_toOption (x := routeRequest soleCandidateRequest)
    (f := (·.target)) (by decide +kernel)
  exact ⟨target, offers_gateSound soleCandidateRequest d hd target (.inl htarget)⟩

/-- The sole candidate, evaluated a day after its snapshot. -/
def nextDayRequest : RouteRequest where
  toRouteInputs := { soleCandidateRequest.toRouteInputs with evaluatedAt := dayLength }
  valid := { soleCandidateRequest.valid with after_snapshot := by decide +kernel }

omit [RouteHost] in
/-- The observation is stale by then, and the target is selected all the same. -/
theorem not_fresh_nextDayRequest : ¬ ∀ [RouteHost] (r : RouteRequest) (d : RouteDecision),
    routeRequest r = .ok d → ∀ target, d.Offers target →
      ∃ entry ∈ r.registrySnapshot.entries, entry.identity = target.resource ∧
        entry.freshnessAt (canonicalInstant r.evaluatedAt) = some .fresh := by
  intro h
  let _ := utcHost
  obtain ⟨d, target, hd, htarget⟩ := exists_of_toOption (x := routeRequest nextDayRequest)
    (f := (·.target)) (by decide +kernel)
  obtain ⟨entry, hentry, -, hfresh⟩ := h nextDayRequest d hd target (.inl htarget)
  obtain rfl : entry = acmeHttp := List.mem_singleton.mp hentry
  exact absurd hfresh (by decide +kernel)

end Authority

end ScarcityRouter
