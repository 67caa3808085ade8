import ScarcityRouter.Routing.Authority
import ScarcityRouter.Routing.EvaluatedCatalog

namespace ScarcityRouter

open ScarcityRouter.Lib

/-!
# Recommendation and admission agree

* `admitGate_of_serves` — a resource that serves a model in routing qualifies for it in exact
  admission.
* `recommended_admitted` — **every recommended target is admitted** as itself.
* `pinnedVersioned_iff` — a versioned pin that is selected is admitted exactly when its effort is
  the catalog's.
* `pinnedRuntime_iff` — a runtime pin is selected exactly when it is admitted, unless another
  resource's failures cannot be represented.
-/

/-! ### The output rule with a resolved variant -/

/-- Resolving the variant keeps the output rule satisfied when its hard output allows the request:
    what was enforceable stays so. -/
theorem routeOutputCode_resolve {capabilities : ExecutionCapabilities}
    {hard requested : Option ℕ+} {enforce : Bool}
    (h : routeOutputCode capabilities none requested false enforce = none)
    (hhard : ∀ limit ∈ hard, ∀ amount ∈ requested, amount ≤ limit) :
    routeOutputCode capabilities hard requested true enforce = none := by
  cases requested with
  | none => rfl
  | some amount =>
    cases hlimit : capabilities.outputLimitTokens with
    | none => simp [routeOutputCode, knownOutputs, hlimit] at h
    | some ceiling =>
      cases hard with
      | none =>
        simp only [routeOutputCode, knownOutputs, hlimit, Bool.false_eq_true, if_false, if_true,
          Option.toList_none, Option.any_none, Bool.and_false] at h ⊢
        exact h
      | some limit =>
        have hle : amount ≤ limit := hhard limit rfl amount rfl
        have hmin : ([limit] ++ [ceiling]).min? = some (min limit ceiling) := rfl
        have hceiling : ([] ++ [ceiling] : List ℕ+).min? = some ceiling := rfl
        simp only [routeOutputCode, knownOutputs, hlimit, Bool.false_eq_true, if_false, if_true,
          Option.toList_some, hmin, hceiling, Bool.false_and] at h ⊢
        split_ifs at h with hlt hcontrol
        · have hge : ¬ min limit ceiling < amount := by
            rw [min_lt_iff]
            exact not_or.mpr ⟨not_lt.mpr hle, hlt⟩
          rw [if_neg hge, if_neg hcontrol]

/-- The merged requirement demands the requested output. -/
theorem minimumOutputTokens_of_resolve {i : RouteInputs} {requirement : TaskRequirement}
    (h : i.resolveRequirement = .ok requirement) :
    ∀ amount ∈ i.request.maximumOutputTokens,
      amount ∈ requirement.hardConstraints.minimumOutputTokens := by
  intro amount hamount
  obtain ⟨base, -, htighten⟩ := bind_eq_ok.mp h
  rw [(tightenRequirement_hard htighten).2.1]
  change amount ∈ Option.or i.request.maximumOutputTokens _
  rw [Option.mem_def.mp hamount]
  rfl

/-- The merged requirement demands the minimum context of the request. -/
theorem minimumInputContextTokens_of_resolve {i : RouteInputs} {requirement : TaskRequirement}
    (h : i.resolveRequirement = .ok requirement) :
    ∀ amount ∈ i.request.minimumInputContextTokens,
      amount ∈ requirement.hardConstraints.minimumInputContextTokens := by
  intro amount hamount
  obtain ⟨base, -, htighten⟩ := bind_eq_ok.mp h
  rw [(tightenRequirement_hard htighten).1]
  change amount ∈ Option.or i.request.minimumInputContextTokens _
  rw [Option.mem_def.mp hamount]
  rfl

/-! ### The gate of exact admission -/

section Gate

variable {i : RouteInputs} {requirement : TaskRequirement} {entry : ResourceRegistryEntry}
  {identity : ModelIdentity} {pin : PinnedTarget}

/-- The hard output of the model allows what the requirement demands. -/
def OutputSuffices (i : RouteInputs) (requirement : TaskRequirement) (identity : ModelIdentity) :
    Prop :=
  ∀ limit ∈ (i.catalog.lookup? identity).bind (·.hardProperties.outputTokens),
    ∀ minimum ∈ requirement.hardConstraints.minimumOutputTokens, minimum ≤ limit

/-- The variant a routed request resolves for a serving resource is the model's own. -/
theorem effectiveVariant_of_named
    (hbound : identity ∈ bindIdentities entry.identity i.catalog)
    (hnamed : RouteInputs.Named i.request entry.identity.resourceId identity) :
    ∀ variant ∈ effectiveVariant i.request entry.identity, variant = identity.variant := by
  intro variant hvariant
  have hexplicit := hnamed.explicit
  unfold matchesExplicit at hexplicit
  rw [Bool.and_eq_true] at hexplicit
  unfold effectiveVariant at hvariant
  split at hvariant
  · rename_i v hv
    have hown := hexplicit.2
    rw [hv, Option.all_some, decide_eq_true_eq] at hown
    exact (Option.some.inj hvariant).symm.trans hown
  · split at hvariant
    · rename_i named hnamedPin
      rw [← (hnamed.pin named hnamedPin).2]
      exact (Option.some.inj hvariant).symm
    · split at hvariant
      · exact (of_mem_bindIdentities hbound).2.2.2 variant hvariant
      · cases hvariant

/-- Exact admission resolves the variant of the pin. -/
theorem requestOutputContext_admission
    (hbound : identity ∈ bindIdentities entry.identity i.catalog) (hmodel : pin.model = identity) :
    requestOutputContext (admissionBinding i.request pin) entry.identity i.catalog =
      ((i.catalog.lookup? identity).bind (·.hardProperties.outputTokens), true) := by
  obtain ⟨-, hprovider, hname, -⟩ := of_mem_bindIdentities hbound
  have hself : (⟨entry.identity.provider, entry.identity.model, pin.model.variant⟩ :
      ModelIdentity) = identity := by
    rw [hmodel, ← hprovider, ← hname]
  unfold requestOutputContext effectiveVariant admissionBinding
  dsimp only
  rw [hself]

/-- An output rule satisfied in routing is satisfied in exact admission. -/
theorem output_admission (hbound : identity ∈ bindIdentities entry.identity i.catalog)
    (hnamed : RouteInputs.Named i.request entry.identity.resourceId identity)
    (hmodel : pin.model = identity) {capabilities : ExecutionCapabilities} {requested : Option ℕ+}
    {enforce : Bool}
    (hhard : ∀ limit ∈ (i.catalog.lookup? identity).bind (·.hardProperties.outputTokens),
      ∀ amount ∈ requested, amount ≤ limit)
    (h : routeOutputCode capabilities
      (requestOutputContext i.request entry.identity i.catalog).1 requested
      (requestOutputContext i.request entry.identity i.catalog).2 enforce = none) :
    routeOutputCode capabilities
      (requestOutputContext (admissionBinding i.request pin) entry.identity i.catalog).1 requested
      (requestOutputContext (admissionBinding i.request pin) entry.identity i.catalog).2 enforce =
      none := by
  rw [requestOutputContext_admission hbound hmodel]
  cases hvariant : effectiveVariant i.request entry.identity with
  | none =>
    have hcontext : requestOutputContext i.request entry.identity i.catalog = (none, false) := by
      unfold requestOutputContext
      rw [hvariant]
    rw [hcontext] at h
    exact routeOutputCode_resolve h hhard
  | some variant =>
    obtain rfl := effectiveVariant_of_named hbound hnamed variant hvariant
    obtain ⟨-, hprovider, hname, -⟩ := of_mem_bindIdentities hbound
    have hself : (⟨entry.identity.provider, entry.identity.model, identity.variant⟩ :
        ModelIdentity) = identity := by
      rw [← hprovider, ← hname]
    have hcontext : requestOutputContext i.request entry.identity i.catalog =
        ((i.catalog.lookup? identity).bind (·.hardProperties.outputTokens), true) := by
      unfold requestOutputContext
      rw [hvariant]
      dsimp only
      rw [hself]
    rwa [hcontext] at h

/-- A feature required without a reasoning demand is required with it. -/
theorem requiredFeatures_mono {request : RequestBinding} {feature : CompatFeature} {demand : Bool}
    (h : feature ∈ requiredFeatures request false) : feature ∈ requiredFeatures request demand := by
  unfold requiredFeatures at h ⊢
  simp only [List.mem_map, List.mem_filter, Bool.and_false, Bool.or_false, Bool.or_eq_true] at h ⊢
  obtain ⟨p, ⟨hp, hflag⟩, rfl⟩ := h
  exact ⟨p, ⟨hp, .inl hflag⟩, rfl⟩

/-- **What is compatible in routing is compatible in exact admission**, under a weaker reasoning
    demand. -/
theorem compatible_admission (hrequirement : i.resolveRequirement = .ok requirement)
    (hbound : identity ∈ bindIdentities entry.identity i.catalog)
    (hnamed : RouteInputs.Named i.request entry.identity.resourceId identity)
    (hmodel : pin.model = identity) (houtput : OutputSuffices i requirement identity)
    {demand demand' : Bool} (hdemand : demand' = true → demand = true)
    (h : (i.routeGateInputs requirement entry.identity).Compatible
      (expireContext entry i.evaluatedAt) demand) :
    (i.admitGateInputs requirement pin entry.identity).Compatible
      (expireContext entry i.evaluatedAt) demand' := by
  have hroute := h.output
  have hfloor := h.floor
  rw [expireContext_identity] at hroute hfloor
  refine ⟨fun feature hfeature => h.features feature ?_, h.context, ?_, ?_⟩
  · have hsame : feature ∈ requiredFeatures i.request demand' := hfeature
    change feature ∈ requiredFeatures i.request demand
    cases demand' with
    | true => rwa [hdemand rfl]
    | false => exact requiredFeatures_mono hsame
  · rw [expireContext_identity]
    refine output_admission hbound hnamed hmodel (fun limit hlimit amount hamount => ?_) hroute
    exact houtput limit hlimit amount (minimumOutputTokens_of_resolve hrequirement amount hamount)
  · rw [expireContext_identity]
    exact output_admission hbound hnamed hmodel houtput hfloor

/-- **A resource that serves a model in routing qualifies for it in exact admission.** -/
theorem admitGate_of_serves (hrequirement : i.resolveRequirement = .ok requirement)
    (h : i.Serves requirement entry identity)
    (hnamed : RouteInputs.Named i.request entry.identity.resourceId identity)
    (hmodel : pin.model = identity) (houtput : OutputSuffices i requirement identity) :
    (i.admitGate requirement pin entry).failure = none ∧
      identity ∈ (i.admitGate requirement pin entry).boundIdentities := by
  have hcompatible : ∀ demand demand' : Bool, (demand' = true → demand = true) →
      ((i.routeGateInputs requirement entry.identity).compatibility
        (expireContext entry i.evaluatedAt) demand).codes = [] →
      ((i.admitGateInputs requirement pin entry.identity).compatibility
        (expireContext entry i.evaluatedAt) demand').codes = [] := by
    intro demand demand' hdemand hcodes
    rw [GateInputs.compatibility_codes_eq_nil] at hcodes ⊢
    exact compatible_admission hrequirement h.bound hnamed hmodel houtput hdemand hcodes
  have hpasses := h.passes
  have hbase := hcompatible _ false nofun hpasses.compatible
  have hpassesAdmit : (i.admitGateInputs requirement pin entry.identity).Passes
      (expireContext entry i.evaluatedAt) := ⟨hpasses.authorized, hpasses.available, hbase⟩
  have hserved : identity ∈ (i.admitGateInputs requirement pin entry.identity).servedIdentities
      (expireContext entry i.evaluatedAt) := by
    obtain ⟨hbound, hblocked, heffort⟩ :=
      (GateInputs.mem_servedIdentities_iff hpasses.compatible).mp h.served
    refine (GateInputs.mem_servedIdentities_iff hbase).mpr ⟨hbound, hblocked, fun hdemand => ?_⟩
    -- An effort that exact admission demands comes from an MI association, which routing demands.
    refine hcompatible true _ (fun _ => rfl) (heffort ?_)
    unfold GateInputs.effortDemanded at hdemand ⊢
    rw [Option.any_eq_true] at hdemand ⊢
    obtain ⟨candidate, hentry, hdemand⟩ := hdemand
    rw [Bool.and_eq_true, Bool.or_eq_true] at hdemand
    refine ⟨candidate, hentry, ?_⟩
    rw [Bool.and_eq_true, Bool.or_eq_true]
    exact ⟨hdemand.1, .inr (hdemand.2.resolve_left Bool.false_ne_true)⟩
  have hqualified : (i.admitGate requirement pin entry).failure = none :=
    GateInputs.runStages_eq_none_iff.mpr ⟨hpassesAdmit, List.ne_nil_of_mem hserved⟩
  refine ⟨hqualified, ?_⟩
  have hretained : (i.admitGate requirement pin entry).boundIdentities =
      (i.admitGateInputs requirement pin entry.identity).servedIdentities
        (expireContext entry i.evaluatedAt) := GateInputs.runStages_fst_of_none hqualified
  rwa [hretained]

end Gate

/-! ### The entry of exact admission -/

section Closure

variable [RouteHost]

/-- What the model-level evidence of a resource says about the entry narrowed to it. -/
structure EndorsedEntry (i : RouteInputs) (requirement : TaskRequirement) (identity : ModelIdentity)
    (resource : GatedResource) (candidate : ModelCatalogEntry) : Prop where
  view : (narrowedCatalog i [identity] fun _ => [resource]).entries = [candidate]
  hard : evaluateHardConstraints requirement.hardConstraints candidate = []
  capability :
    evaluateCapabilitySufficiency requirement.capabilityMinima candidate.capabilities = []
  output : OutputSuffices i requirement identity
  versioned : i.isRuntime = false → candidate ∈ i.catalog.entries
  runtime : i.isRuntime = true → honoursEffort (pinnedEffort i.request) candidate = true ∧
    ∃ snapshots, resourceSnapshots resource.entry candidate = .ok snapshots ∧
    ∃ evaluated, runSelection i (narrowedCatalog i [identity] fun _ => [resource]) requirement
      (some snapshots) = .ok evaluated ∧ evaluated.selected ≠ none

/-- **An endorsed model has its entry on the resource.** -/
theorem Endorsed.entry {i : RouteInputs} {requirement : TaskRequirement} {identity : ModelIdentity}
    {resource : GatedResource} (h : Endorsed i requirement identity resource)
    (hknown : ∃ entry ∈ i.catalog.entries, entry.identity = identity) :
    ∃ candidate, EndorsedEntry i requirement identity resource candidate := by
  obtain ⟨original, horiginal, hident⟩ := hknown
  have hentry : i.catalog.lookup? identity = some original :=
    ModelCatalog.lookup?_eq_some.mpr ⟨horiginal, hident⟩
  have hcandidate : i.candidateIdentities.all (identity ∈ ·) = true := by
    rw [Option.all_eq_true]
    exact fun candidates hmem => decide_eq_true (h.candidate candidates hmem)
  have hview := narrowedCatalog_one (fun _ => [resource]) hentry
  rw [if_pos hcandidate] at hview
  have houtput : ∀ {candidate : ModelCatalogEntry},
      viewEntry i (fun _ => [resource]) original = candidate →
      evaluateHardConstraints requirement.hardConstraints candidate = [] →
      OutputSuffices i requirement identity := by
    rintro _ rfl hhard limit hlimit minimum hminimum
    rw [hentry, Option.bind_some] at hlimit
    obtain ⟨output, houtput, hle⟩ :=
      (allowances_of_evaluateHardConstraints hhard).2 minimum hminimum
    obtain ⟨least, hleast, hle'⟩ := (viewEntry_tightens i _ original).output limit hlimit
    rw [Option.some.inj (houtput.symm.trans hleast)] at hle
    exact hle.trans hle'
  cases hruntime : i.isRuntime with
  | false =>
    obtain ⟨entry, hmem, hsame, hhard, hcapability⟩ := h.versioned hruntime
    obtain rfl := i.catalog.entry_ext hmem horiginal (hsame.trans hident.symm)
    have hself : viewEntry i (fun _ => [resource]) entry = entry := by
      unfold viewEntry
      rw [hruntime]
      rfl
    rw [hself] at hview
    exact ⟨entry, hview, hhard, hcapability, houtput hself hhard, fun _ => horiginal,
      fun hr => absurd (hruntime.symm.trans hr) (by simp)⟩
  | true =>
    obtain ⟨-, candidate, hentries, heffort, snapshots, hsnapshots, evaluated, hevaluated, hne⟩ :=
      h.runtime hruntime
    have hself : viewEntry i (fun _ => [resource]) original = candidate :=
      (List.cons.inj (hview.symm.trans hentries)).1
    obtain ⟨s, hs⟩ := Option.ne_none_iff_exists'.mp hne
    obtain ⟨heligible, source, hsource, hspec⟩ := exists_entry_of_selected hevaluated (.inl hs)
    rw [hentries, List.mem_singleton] at hsource
    subst hsource
    exact ⟨source, hentries, hspec.eligible_hard heligible, hspec.eligible_capability heligible,
      houtput hself (hspec.eligible_hard heligible),
      fun hv => absurd (hruntime.symm.trans hv) (by simp),
      fun _ => ⟨heffort, snapshots, hsnapshots, evaluated, hevaluated, hne⟩⟩

/-- **An offer is admissible** under any pin of its resource and model that respects the request and
    the entry's effort. -/
theorem OfferOf.admissible {i : RouteInputs} {requirement : TaskRequirement}
    {entry : ResourceRegistryEntry} {target : RouteTarget} (h : OfferOf i requirement entry target)
    (hrequirement : i.resolveRequirement = .ok requirement) (pin : PinnedTarget)
    (hresource : pin.resourceId = entry.identity.resourceId) (hmodel : pin.model = target.model)
    {candidate : ModelCatalogEntry}
    (hcandidate : EndorsedEntry i requirement target.model
      (i.routeGate requirement entry).toGatedResource candidate)
    (heffort : honoursEffort pin.reasoningEffort candidate = true) :
    Admissible i requirement pin entry candidate := by
  obtain ⟨hqualified, hretained⟩ := admitGate_of_serves hrequirement h.serves h.named hmodel
    hcandidate.output
  have hrespects : respectsRequest i.request pin = true := by
    have hexplicit := h.named.explicit
    unfold matchesExplicit at hexplicit
    unfold respectsRequest
    rw [Bool.and_assoc, Bool.and_eq_true, hmodel]
    refine ⟨?_, hexplicit⟩
    rw [Option.all_eq_true]
    intro requested hrequested
    obtain ⟨hid, hsame⟩ := h.named.pin requested hrequested
    rw [Bool.and_eq_true, decide_eq_true_eq, decide_eq_true_eq]
    exact ⟨hid.trans hresource.symm, hsame⟩
  refine ⟨hrespects, h.serves.registered, hresource.symm, hqualified, ?_, ?_, heffort,
    hcandidate.hard, hcandidate.capability, fun hruntime => ?_⟩
  · rwa [hmodel]
  · rw [hmodel]
    exact hcandidate.view
  · rw [hmodel]
    exact (hcandidate.runtime hruntime).2

/-! ### Recommend, then admit -/

/-- Admission approves the pin, as exactly the target. -/
def AdmitsAs (r : RouteRequest) (pin : PinnedTarget) (target : RouteTarget) : Prop :=
  ∃ d, admitPinnedTarget r pin = .ok d ∧ d.approved = true ∧ ∃ approved ∈ d.target,
    approved.resource = target.resource ∧ approved.model = target.model ∧
    approved.evidencedReasoningEffort = target.evidencedReasoningEffort

/-- An admissible pin of the evaluated request is approved. -/
theorem admitted_of_admissible {r e : RouteRequest} (he : evaluatedRequest r = .ok e)
    {requirement : TaskRequirement} (hrequirement : e.resolveRequirement = .ok requirement)
    {pin : PinnedTarget} {entry : ResourceRegistryEntry} {candidate : ModelCatalogEntry}
    (h : Admissible e.toRouteInputs requirement pin entry candidate) :
    ∃ d, admitPinnedTarget r pin = .ok d ∧ d.approved = true ∧
      d.target = some (admittedTarget e.toRouteInputs requirement pin entry candidate) := by
  obtain ⟨core, hcore, happroved, htarget⟩ := (admitCore_spec hrequirement pin).1 entry candidate h
  obtain ⟨d, hd, hcontent⟩ := admitPinnedTarget_of_core he hcore
  refine ⟨d, hd, ?_, ?_⟩
  · rw [hcontent]
    exact happroved
  · rw [hcontent]
    exact htarget

/-- **Admission is exact**: a pin is approved for a target exactly when, in the evaluated form of the
    request, one entry of the registry and one of the catalog make it admissible, and the target is
    theirs. -/
theorem admission_exact (r : RouteRequest) (pin : PinnedTarget) (target : RouteTarget) :
    (∃ d, admitPinnedTarget r pin = .ok d ∧ d.approved = true ∧ d.target = some target) ↔
      ∃ e requirement, evaluatedRequest r = .ok e ∧ e.resolveRequirement = .ok requirement ∧
        ∃ entry candidate, Admissible e.toRouteInputs requirement pin entry candidate ∧
          target = admittedTarget e.toRouteInputs requirement pin entry candidate := by
  constructor
  · rintro ⟨d, hd, happroved, htarget⟩
    obtain ⟨e, core, he, hcore, hcontent⟩ := admitPinnedTarget_eq_ok hd
    rw [hcontent] at happroved htarget
    obtain ⟨requirement, hrequirement, entry, candidate, hadmissible, hadmitted⟩ :=
      (admitCore_approves_iff hcore).mp happroved
    exact ⟨e, requirement, he, hrequirement, entry, candidate, hadmissible,
      Option.some.inj (htarget.symm.trans hadmitted)⟩
  · rintro ⟨e, requirement, he, hrequirement, entry, candidate, hadmissible, rfl⟩
    exact admitted_of_admissible he hrequirement hadmissible

/-- The effort of a target is the effort of the entry narrowed to its resource. -/
theorem EndorsedEntry.effort_eq {i : RouteInputs} {requirement : TaskRequirement}
    {identity : ModelIdentity} {resource : GatedResource} {candidate : ModelCatalogEntry}
    (h : EndorsedEntry i requirement identity resource candidate) :
    targetEffort i identity resource =
      if i.isRuntime then candidate.reasoningEffort.map ReasoningEffort.text else none := by
  unfold targetEffort
  rw [h.view]
  rfl

/-- A recommended target is admissible under its own pin, with its own effort. -/
theorem admissible_of_offers {r : RouteRequest} {d : RouteDecision} (h : routeRequest r = .ok d)
    {target : RouteTarget} (hoffer : d.Offers target) (decisionId : Option SafeId) :
    ∃ e, evaluatedRequest r = .ok e ∧ ∃ requirement, e.resolveRequirement = .ok requirement ∧
      ∃ entry candidate, Admissible e.toRouteInputs requirement
          (PinnedTarget.fromRouteTarget target decisionId) entry candidate ∧
        entry.identity = target.resource ∧ target.evidencedReasoningEffort =
          if e.isRuntime then candidate.reasoningEffort.map ReasoningEffort.text else none := by
  obtain ⟨e, core, he, hcore, hcontent, -⟩ := routeRequest_eq_ok h
  rw [hcontent] at hoffer
  obtain ⟨requirement, hrequirement, entry, hoffered⟩ := offer_spec hcore hoffer
  obtain ⟨candidate, hcandidate⟩ := hoffered.endorsed.entry
    (of_mem_bindIdentities hoffered.serves.bound).1
  have htarget : target.evidencedReasoningEffort =
      if e.isRuntime then candidate.reasoningEffort.map ReasoningEffort.text else none := by
    rw [hoffered.target_eq, ← hcandidate.effort_eq]
    rfl
  have heffort : honoursEffort target.evidencedReasoningEffort candidate = true := by
    unfold honoursEffort
    rw [htarget, Option.all_eq_true]
    intro effort hmem
    split at hmem
    · exact decide_eq_true hmem
    · cases hmem
  exact ⟨e, he, requirement, hrequirement, entry, candidate,
    hoffered.admissible hrequirement (.fromRouteTarget target decisionId)
      (by rw [← hoffered.resource_eq]; rfl) rfl hcandidate heffort,
    hoffered.resource_eq.symm, htarget⟩

/-- What is offered or approved is admissible under some pin of its resource and model. -/
theorem Permits.admissible {r : RouteRequest} {target : RouteTarget} (h : Permits r target) :
    ∃ e, evaluatedRequest r = .ok e ∧ ∃ requirement, e.resolveRequirement = .ok requirement ∧
      ∃ pin entry candidate, Admissible e.toRouteInputs requirement pin entry candidate ∧
        pin.model = target.model ∧ entry.identity = target.resource := by
  cases h with
  | route d h hoffer =>
    obtain ⟨e, he, requirement, hrequirement, entry, candidate, hadmissible, hresource, -⟩ :=
      admissible_of_offers h hoffer none
    exact ⟨e, he, requirement, hrequirement, _, entry, candidate, hadmissible, rfl, hresource⟩
  | admission pin d h happroved htarget =>
    obtain ⟨e, core, he, hcore, hcontent⟩ := admitPinnedTarget_eq_ok h
    rw [hcontent] at happroved htarget
    obtain ⟨requirement, hrequirement, entry, candidate, hadmissible, htarget'⟩ :=
      (admitCore_approves_iff hcore).mp happroved
    obtain rfl := Option.some.inj (htarget.symm.trans htarget')
    exact ⟨e, he, requirement, hrequirement, pin, entry, candidate, hadmissible, rfl,
      (expireContext_identity _ _).symm⟩

/-- **Every recommended target is admitted** as itself: what a request selects or lists as an
    alternative, admission approves, with the same resource, model and effort. -/
theorem recommended_admitted (r : RouteRequest) (d : RouteDecision) (h : routeRequest r = .ok d)
    (target : RouteTarget) (hoffer : d.Offers target) (decisionId : Option SafeId) :
    AdmitsAs r (PinnedTarget.fromRouteTarget target decisionId) target := by
  obtain ⟨e, he, requirement, hrequirement, entry, candidate, hadmissible, hresource, htarget⟩ :=
    admissible_of_offers h hoffer decisionId
  obtain ⟨a, ha, happroved, hadmitted⟩ := admitted_of_admissible he hrequirement hadmissible
  refine ⟨a, ha, happroved, _, hadmitted, ?_, rfl, htarget.symm⟩
  rw [← hresource]
  exact expireContext_identity _ _

omit [RouteHost] in
/-- The sole candidate is recommended, then admitted. -/
theorem recommended_admitted_soleCandidateRequest : ∃ target : RouteTarget,
    @AdmitsAs utcHost soleCandidateRequest (PinnedTarget.fromRouteTarget target none) target := by
  let _ := utcHost
  obtain ⟨d, target, hd, htarget⟩ := exists_of_toOption (x := routeRequest soleCandidateRequest)
    (f := (·.target)) (by decide +kernel)
  exact ⟨target, recommended_admitted soleCandidateRequest d hd target (.inl htarget) none⟩

/-! ### Versioned pins -/

/-- The catalog configures the model with every effort the pin names. -/
def ConfiguredAs (catalog : ModelCatalog) (identity : ModelIdentity) (pin : PinnedTarget) : Prop :=
  ∀ effort ∈ pin.reasoningEffort, ∃ entry ∈ catalog.entries, entry.identity = identity ∧
    entry.reasoningEffort.map ReasoningEffort.text = some effort

omit [RouteHost] in
/-- Preparation configures the same efforts. -/
theorem Evaluates.configuredAs_iff {r e : RouteRequest} (h : Evaluates r e)
    (hversioned : r.isRuntime = false) {identity : ModelIdentity} {pin : PinnedTarget} :
    ConfiguredAs e.catalog identity pin ↔ ConfiguredAs r.catalog identity pin := by
  have hpairs : ∀ catalog : ModelCatalog, ConfiguredAs catalog identity pin ↔
      ∀ effort ∈ pin.reasoningEffort, ∃ p ∈ catalog.entries.map
        (fun entry => (entry.identity, entry.reasoningEffort)),
        p.1 = identity ∧ p.2.map ReasoningEffort.text = some effort := by
    intro catalog
    unfold ConfiguredAs
    refine forall₂_congr fun effort _ => ⟨?_, ?_⟩
    · rintro ⟨entry, hentry, h⟩
      exact ⟨_, List.mem_map_of_mem hentry, h⟩
    · rintro ⟨_, hmem, h⟩
      obtain ⟨entry, hentry, rfl⟩ := List.mem_map.mp hmem
      exact ⟨entry, hentry, h⟩
  rw [hpairs, hpairs, h.versioned_entries hversioned]

omit [RouteHost] in
/-- An entry of the catalog honours a pin exactly when the catalog is configured so. -/
theorem honoursEffort_iff_configuredAs {catalog : ModelCatalog} {candidate : ModelCatalogEntry}
    (hcandidate : candidate ∈ catalog.entries) {pin : PinnedTarget} :
    honoursEffort pin.reasoningEffort candidate = true ↔
      ConfiguredAs catalog candidate.identity pin := by
  unfold honoursEffort ConfiguredAs
  rw [Option.all_eq_true]
  refine forall₂_congr fun effort _ => ?_
  rw [decide_eq_true_eq]
  constructor
  · exact fun h => ⟨candidate, hcandidate, rfl, h⟩
  · rintro ⟨entry, hentry, hident, h⟩
    rwa [← catalog.entry_ext hentry hcandidate hident]

/-- The selected target of a pinned request is the pinned one. -/
theorem OfferOf.pinned {i : RouteInputs} {requirement : TaskRequirement}
    {entry : ResourceRegistryEntry} {target : RouteTarget} (h : OfferOf i requirement entry target)
    {pin : PinnedTarget} (hpin : i.request.pinnedTarget = some pin) :
    target.resource.resourceId = pin.resourceId ∧ target.model = pin.model := by
  obtain ⟨hid, hmodel⟩ := h.named.pin pin hpin
  rw [h.resource_eq]
  exact ⟨hid.symm, hmodel.symm⟩

/-- Admission approves the pin, as the same resource and model. -/
def AdmitsTarget (r : RouteRequest) (pin : PinnedTarget) (target : RouteTarget) : Prop :=
  ∃ d, admitPinnedTarget r pin = .ok d ∧ d.approved = true ∧ ∃ approved ∈ d.target,
    approved.resource = target.resource ∧ approved.model = target.model

/-- Admission of a versioned pin checks its effort against the catalog. -/
theorem configuredAs_of_admitted {r : RouteRequest} (hversioned : r.isRuntime = false)
    {pin : PinnedTarget} {target : RouteTarget} (h : AdmitsTarget r pin target) :
    ConfiguredAs r.catalog pin.model pin := by
  obtain ⟨d, hd, happroved, -⟩ := h
  obtain ⟨e, core, he, hcore, hcontent⟩ := admitPinnedTarget_eq_ok hd
  rw [hcontent] at happroved
  obtain ⟨requirement, -, entry, candidate, hadmissible, -⟩ :=
    (admitCore_approves_iff hcore).mp happroved
  have hspec := evaluatedRequest_spec he
  have hmode : e.isRuntime = false := hspec.isRuntime_eq.trans hversioned
  have hmem : candidate ∈ (narrowedCatalog e.toRouteInputs [pin.model] fun _ =>
      [(e.admitGate requirement pin entry).toGatedResource]).entries :=
    hadmissible.view ▸ List.mem_singleton_self _
  have hcandidate : candidate ∈ e.catalog.entries := by
    obtain ⟨original, horiginal, rfl⟩ := List.mem_map.mp (mem_sortBy.mp hmem)
    unfold viewEntry
    rw [hmode]
    exact List.mem_of_mem_filter horiginal
  rw [← hspec.configuredAs_iff hversioned, ← identity_of_mem_view hmem]
  exact (honoursEffort_iff_configuredAs hcandidate).mp hadmissible.effort

/-- **A selected versioned pin is admitted, with its effort honoured, exactly when the catalog
    configures the pinned model with the pinned effort.**  Routing a versioned catalog does not
    compare the efforts. -/
theorem pinnedVersioned_iff (r : RouteRequest) (hversioned : r.isRuntime = false)
    (pin : PinnedTarget) (hpin : r.request.pinnedTarget = some pin) (d : RouteDecision)
    (h : routeRequest r = .ok d) (target : RouteTarget) (htarget : d.target = some target) :
    (AdmitsTarget r pin target ∧ ConfiguredAs r.catalog target.model pin ↔
      ConfiguredAs r.catalog pin.model pin) ∧
    (AdmitsTarget r pin target ↔ ConfiguredAs r.catalog pin.model pin) := by
  obtain ⟨e, core, he, hcore, hcontent, -⟩ := routeRequest_eq_ok h
  have hspec := evaluatedRequest_spec he
  have hmode : e.isRuntime = false := hspec.isRuntime_eq.trans hversioned
  have hpin' : e.request.pinnedTarget = some pin := by
    rw [hspec.inputs_eq]
    exact hpin
  rw [hcontent] at htarget
  obtain ⟨requirement, hrequirement, entry, hoffered⟩ := offer_spec hcore (.inl htarget)
  obtain ⟨hresource, hmodel⟩ := hoffered.pinned hpin'
  have hadmitted_iff : AdmitsTarget r pin target ↔ ConfiguredAs r.catalog pin.model pin := by
    refine ⟨configuredAs_of_admitted hversioned, fun hconfigured => ?_⟩
    obtain ⟨candidate, hcandidate⟩ := hoffered.endorsed.entry
      (of_mem_bindIdentities hoffered.serves.bound).1
    have hident : candidate.identity = pin.model := by
      rw [← hmodel]
      exact identity_of_mem_view (hcandidate.view ▸ List.mem_singleton_self _)
    have heffort : honoursEffort pin.reasoningEffort candidate = true := by
      rw [honoursEffort_iff_configuredAs (hcandidate.versioned hmode), hident,
        hspec.configuredAs_iff hversioned]
      exact hconfigured
    rw [hoffered.resource_eq] at hresource
    have hadmissible :=
      hoffered.admissible hrequirement pin hresource.symm hmodel.symm hcandidate heffort
    obtain ⟨a, ha, happroved, hadmitted⟩ := admitted_of_admissible he hrequirement hadmissible
    refine ⟨a, ha, happroved, _, hadmitted, ?_, hmodel.symm⟩
    rw [hoffered.resource_eq]
    exact expireContext_identity _ _
  rw [hmodel]
  exact ⟨⟨fun h => h.2, fun hconfigured => ⟨hadmitted_iff.mpr hconfigured, hconfigured⟩⟩,
    hadmitted_iff⟩

/-- A versioned catalog of one model without a configured effort. -/
def atlasCatalog : ModelCatalog where
  catalogVersion := some 1
  updatedOn := some "2026-01-01"
  entries := [atlasEntry atlasBase]
  unique := by decide +kernel

/-- A pin of it, with an effort or without. -/
def atlasPin (effort : Option SafeId) : PinnedTarget where
  resourceId := .lit "acme-http"
  model := atlasBase
  reasoningEffort := effort

/-- The pinned request over the versioned catalog. -/
def pinnedCatalogRequest (effort : Option SafeId) : RouteRequest where
  toRouteInputs := { acmeInputs with
    catalog := atlasCatalog
    request := { pinnedTarget := some (atlasPin effort) } }
  valid :=
    { acmeInputs_valid with
      candidates_calibrated := fun _ h => nomatch h
      runtime_states := fun _ => rfl
      alias_profile := nofun
      binding_merged := fun _ h => nomatch h }

omit [RouteHost] in
/-- A pin without an effort is selected and admitted. -/
theorem pinnedVersioned_pinnedCatalogRequest : ∃ target : RouteTarget,
    @AdmitsTarget utcHost (pinnedCatalogRequest none) (atlasPin none) target := by
  let _ := utcHost
  obtain ⟨d, target, hd, htarget⟩ := exists_of_toOption
    (x := routeRequest (pinnedCatalogRequest none)) (f := (·.target)) (by decide +kernel)
  exact ⟨target, (pinnedVersioned_iff (pinnedCatalogRequest none) rfl (atlasPin none) rfl d hd target
    htarget).2.mpr fun _ h => nomatch h⟩

omit [RouteHost] in
/-- A pinned effort the catalog does not configure is selected all the same. -/
theorem not_pinnedVersioned_pinnedCatalogRequest : ¬ ∀ [RouteHost] (r : RouteRequest)
    (pin : PinnedTarget), r.isRuntime = false → r.request.pinnedTarget = some pin →
      ∀ d, routeRequest r = .ok d → ∀ target, d.target = some target →
        AdmitsTarget r pin target ∧ ConfiguredAs r.catalog target.model pin := by
  intro h
  let _ := utcHost
  obtain ⟨d, target, hd, htarget⟩ := exists_of_toOption
    (x := routeRequest (pinnedCatalogRequest (some (.lit "high")))) (f := (·.target))
    (by decide +kernel)
  obtain ⟨-, hconfigured⟩ := h (pinnedCatalogRequest (some (.lit "high")))
    (atlasPin (some (.lit "high"))) rfl rfl d hd target htarget
  obtain ⟨entry, hentry, -, heffort⟩ := hconfigured (.lit "high") rfl
  obtain rfl : entry = atlasEntry atlasBase := List.mem_singleton.mp hentry
  cases heffort

/-! ### Runtime pins -/

/-- The request selects a target. -/
def Selects (r : RouteRequest) : Prop := ∃ d, routeRequest r = .ok d ∧ d.target ≠ none

/-- Admission approves the pin. -/
def Approves (r : RouteRequest) (pin : PinnedTarget) : Prop :=
  ∃ d, admitPinnedTarget r pin = .ok d ∧ d.approved = true

/-- The pin is admissible for the evaluated request. -/
def PinAdmissible (r : RouteRequest) (pin : PinnedTarget) : Prop :=
  ∃ e, evaluatedRequest r = .ok e ∧ ∃ requirement, e.resolveRequirement = .ok requirement ∧
    ∃ entry candidate, Admissible e.toRouteInputs requirement pin entry candidate

theorem approves_iff_pinAdmissible {r : RouteRequest} {pin : PinnedTarget} :
    Approves r pin ↔ PinAdmissible r pin := by
  constructor
  · rintro ⟨d, hd, happroved⟩
    obtain ⟨e, core, he, hcore, hcontent⟩ := admitPinnedTarget_eq_ok hd
    rw [hcontent] at happroved
    obtain ⟨requirement, hrequirement, entry, candidate, hadmissible, -⟩ :=
      (admitCore_approves_iff hcore).mp happroved
    exact ⟨e, he, requirement, hrequirement, entry, candidate, hadmissible⟩
  · rintro ⟨e, he, requirement, hrequirement, entry, candidate, hadmissible⟩
    obtain ⟨d, hd, happroved, -⟩ := admitted_of_admissible he hrequirement hadmissible
    exact ⟨d, hd, happroved⟩

/-- The request is a pin of one resource and model, over a runtime inventory, without candidates
    and without the catalog-effort demand. -/
structure PlainPin (i : RouteInputs) (pin : PinnedTarget) : Prop where
  runtime : i.isRuntime = true
  pinned : i.request.pinnedTarget = some pin
  candidates : i.candidateIdentities = none
  effort : i.requireCatalogEffort = false

omit [RouteHost] in
theorem PlainPin.evaluated {r e : RouteRequest} {pin : PinnedTarget}
    (h : PlainPin r.toRouteInputs pin) (he : Evaluates r e) : PlainPin e.toRouteInputs pin := by
  refine ⟨he.isRuntime_eq.trans h.runtime, ?_, ?_, ?_⟩
  all_goals rw [he.inputs_eq]
  · exact h.pinned
  · exact h.candidates
  · exact h.effort

omit [RouteHost] in
/-- The variant a plain pin resolves is the pinned one. -/
theorem PlainPin.effectiveVariant_eq {i : RouteInputs} {pin : PinnedTarget} (h : PlainPin i pin)
    (hrespects : respectsRequest i.request pin = true) (resource : ResourceIdentity) :
    effectiveVariant i.request resource = some pin.model.variant := by
  unfold respectsRequest at hrespects
  rw [Bool.and_eq_true] at hrespects
  unfold effectiveVariant
  split
  · rename_i variant hvariant
    have hown := hrespects.2
    rw [hvariant, Option.all_some, decide_eq_true_eq] at hown
    rw [hown]
  · rw [h.pinned]

omit [RouteHost] in
/-- **Routing and exact admission evaluate the same gate** for a plain pin. -/
theorem PlainPin.gate_eq {i : RouteInputs} {pin : PinnedTarget} (h : PlainPin i pin)
    (requirement : TaskRequirement) (hrespects : respectsRequest i.request pin = true)
    (entry : ResourceRegistryEntry) :
    i.admitGate requirement pin entry = i.routeGate requirement entry := by
  have hreasoning : i.configuredReasoning entry.identity = false := by
    unfold RouteInputs.configuredReasoning
    rw [h.candidates]
    rfl
  have hinputs : i.admitGateInputs requirement pin entry.identity =
      { i.routeGateInputs requirement entry.identity with
        request := admissionBinding i.request pin } := by
    unfold RouteInputs.admitGateInputs RouteInputs.routeGateInputs
    rw [hreasoning, h.effort]
    rfl
  have hcontext : ∀ resource, requestOutputContext (admissionBinding i.request pin) resource
      (i.routeGateInputs requirement entry.identity).catalog = requestOutputContext
        (i.routeGateInputs requirement entry.identity).request resource
        (i.routeGateInputs requirement entry.identity).catalog := by
    intro resource
    unfold requestOutputContext
    rw [show (i.routeGateInputs requirement entry.identity).request = i.request from rfl,
      h.effectiveVariant_eq hrespects]
    rfl
  unfold RouteInputs.admitGate RouteInputs.routeGate
  rw [hinputs]
  refine GateInputs.evaluateResource_of_request rfl ?_
  funext demand
  unfold GateInputs.compatibility
  dsimp only
  rw [hcontext]
  rfl

/-- An admissible plain pin is accepted on its resource. -/
theorem PlainPin.accepts {i : RouteInputs} {requirement : TaskRequirement} {pin : PinnedTarget}
    (h : PlainPin i pin) {entry : ResourceRegistryEntry} {candidate : ModelCatalogEntry}
    (hadmissible : Admissible i requirement pin entry candidate) :
    i.Routable requirement pin.model ∧
      (i.routeGate requirement entry).toGatedResource ∈
        qualifiedFor (i.routeGates requirement) pin.model ∧
      Accepts i requirement pin.model (i.routeGate requirement entry).toGatedResource := by
  have hgate := h.gate_eq requirement hadmissible.respects entry
  have hserves : i.Serves requirement entry pin.model :=
    ⟨hadmissible.registered, hgate ▸ hadmissible.qualified, hgate ▸ hadmissible.retained⟩
  have hexplicit : matchesExplicit i.request pin.model = true := by
    have hrespects := hadmissible.respects
    unfold respectsRequest at hrespects
    rw [Bool.and_assoc, Bool.and_eq_true] at hrespects
    exact hrespects.2
  refine ⟨⟨entry, hserves, fun pin' hpin' => ?_, hexplicit⟩,
    RouteInputs.mem_qualifiedFor.mpr ⟨entry, hserves, rfl⟩, ?_, candidate, ?_, ?_, ?_⟩
  · obtain rfl : pin = pin' := Option.some.inj (h.pinned.symm.trans hpin')
    exact ⟨hadmissible.resource_id.symm, rfl⟩
  · unfold matchesPin
    rw [h.pinned, Option.all_some, RouteInputs.routeGate_entry, expireContext_identity]
    exact decide_eq_true hadmissible.resource_id
  · rw [← hgate]
    exact hadmissible.view
  · unfold pinnedEffort
    rw [h.pinned]
    exact hadmissible.effort
  · rw [← hgate]
    exact hadmissible.selected h.runtime

/-- **A plain pin is selected exactly when it is admissible** and every failure is representable. -/
theorem PlainPin.selects_iff {r : RouteRequest} {pin : PinnedTarget}
    (h : PlainPin r.toRouteInputs pin) : Selects r ↔
      PinAdmissible r pin ∧ ∀ e, evaluatedRequest r = .ok e → e.Representable := by
  constructor
  · rintro ⟨d, hd, hsome⟩
    obtain ⟨e, core, he, hcore, hcontent, -⟩ := routeRequest_eq_ok hd
    have hplain := h.evaluated (evaluatedRequest_spec he)
    rw [hcontent] at hsome
    obtain ⟨target, htarget⟩ := Option.ne_none_iff_exists'.mp hsome
    obtain ⟨requirement, hrequirement, entry, hoffered⟩ := offer_spec hcore (.inl htarget)
    obtain ⟨candidate, hcandidate⟩ := hoffered.endorsed.entry
      (of_mem_bindIdentities hoffered.serves.bound).1
    obtain ⟨hresource, hmodel⟩ := hoffered.pinned hplain.pinned
    rw [hoffered.resource_eq] at hresource
    have heffort := (hcandidate.runtime hplain.runtime).1
    unfold pinnedEffort at heffort
    rw [hplain.pinned] at heffort
    refine ⟨⟨e, he, requirement, hrequirement, entry, candidate,
      hoffered.admissible hrequirement pin hresource.symm hmodel.symm hcandidate heffort⟩, ?_⟩
    intro e' he'
    obtain rfl := Except.ok.inj (he.symm.trans he')
    obtain ⟨-, -, -, hrepresentable⟩ := (routeCore_returns_iff e).mp ⟨core, hcore⟩
    exact hrepresentable
  · rintro ⟨⟨e, he, requirement, hrequirement, entry, candidate, hadmissible⟩, hrepresentable⟩
    have hplain := h.evaluated (evaluatedRequest_spec he)
    have hversioned : e.isRuntime ≠ false := by
      rw [hplain.runtime]
      decide
    have hrankable : Rankable e.toRouteInputs requirement := by
      refine ⟨fun _ identity _ candidates hcandidates => ?_, fun hv => absurd hv hversioned,
        fun hv => absurd hv hversioned⟩
      rw [hplain.candidates] at hcandidates
      cases hcandidates
    obtain ⟨core, hcore⟩ := (routeCore_returns_iff e).mpr
      ⟨requirement, hrequirement, hrankable, hrepresentable e he⟩
    obtain ⟨requirement', ranking, hrequirement', hranking, -, hdecision⟩ := routeCore_spec hcore
    obtain rfl := Except.ok.inj (hrequirement.symm.trans hrequirement')
    unfold rank at hranking
    rw [if_pos hplain.runtime] at hranking
    obtain ⟨hroutable, hqualified, haccepts⟩ := hplain.accepts hadmissible
    have hselected : core.target ≠ none := hdecision.target_iff.mpr
      (((rankRuntime_routable requirement hplain.runtime).2 ranking hranking).selected_iff.mpr
        ⟨pin.model, RouteInputs.mem_routable_iff.mpr hroutable, _, hqualified, haccepts⟩)
    obtain ⟨d, hd, hcontent⟩ := routeRequest_of_core he hcore
    refine ⟨d, hd, ?_⟩
    rwa [hcontent]

/-- What the decision of a pinned request says: the target is the pinned one, alone. -/
def SelectsPinned (r : RouteRequest) (pin : PinnedTarget) : Prop :=
  ∀ d, routeRequest r = .ok d → ∀ target ∈ d.target,
    target.resource.resourceId = pin.resourceId ∧ target.model = pin.model ∧
    d.targetAlternatives = []

theorem selectsPinned {r : RouteRequest} {pin : PinnedTarget}
    (hpin : r.request.pinnedTarget = some pin) : SelectsPinned r pin := by
  intro d hd target htarget
  obtain ⟨e, core, he, hcore, hcontent, -⟩ := routeRequest_eq_ok hd
  have hpin' : e.request.pinnedTarget = some pin := by
    rw [(evaluatedRequest_spec he).inputs_eq]
    exact hpin
  rw [hcontent] at htarget ⊢
  obtain ⟨requirement, -, entry, hoffered⟩ := offer_spec hcore (.inl htarget)
  obtain ⟨_, _, -, -, -, hdecision⟩ := routeCore_spec hcore
  obtain ⟨hresource, hmodel⟩ := hoffered.pinned hpin'
  exact ⟨hresource, hmodel, hdecision.pinned_alone (by rw [hpin']; exact Option.some_ne_none _)⟩

/-- **A plain pin is selected exactly when it is admitted**, as itself and alone, exactly when no
    other failure of the registry stops the route of an admissible pin. -/
theorem pinnedRuntime_iff (r : RouteRequest) (pin : PinnedTarget)
    (h : PlainPin r.toRouteInputs pin) :
    ((Selects r ↔ Approves r pin) ∧ SelectsPinned r pin) ↔
      (PinAdmissible r pin → ∀ e, evaluatedRequest r = .ok e → e.Representable) := by
  rw [and_iff_left (selectsPinned h.pinned), h.selects_iff, approves_iff_pinAdmissible]
  exact and_iff_left_iff_imp

/-- The pin of a plain request. -/
def atlasPinRequest : RouteRequest where
  toRouteInputs := { acmeInputs with request := { pinnedTarget := some (atlasPin none) } }
  valid :=
    { acmeInputs_valid with
      alias_profile := nofun
      binding_merged := fun _ h => nomatch h }

omit [RouteHost] in
/-- The only resource is the pinned one, and it has no failures. -/
theorem pinnedRuntime_atlasPinRequest :
    (@Selects utcHost atlasPinRequest ↔ @Approves utcHost atlasPinRequest (atlasPin none)) ∧
      @SelectsPinned utcHost atlasPinRequest (atlasPin none) := by
  refine (@pinnedRuntime_iff utcHost atlasPinRequest (atlasPin none)
    ⟨rfl, rfl, rfl, rfl⟩).mpr fun _ e he => ?_
  obtain rfl : atlasPinRequest = e := Except.ok.inj he
  intro entry hentry _
  obtain rfl : entry = acmeHttp := List.mem_singleton.mp hentry
  exact strictlySorted_authorizationFailureCodes.mp (by decide +kernel)

/-- A resource of another provider and channel. -/
def novaWorker : ResourceRegistryEntry where
  identity :=
    { resourceId := .lit "nova-worker"
      channel := .workerBridged
      provider := .lit "nova"
      model := .lit "atlas"
      entitlement := .localUngated }
  freshnessTtlSeconds := 300
  observation := some { observedAt := 0, health := { status := .ok } }
  freshness := .fresh
  observed := acmeHttp.observed

/-- The administrator allows the pinned resource, and neither the provider nor the channel of the
    other one. -/
def allowedPinRequest : RouteRequest where
  toRouteInputs := { acmeInputs with
    catalog :=
      { atlasInventory with
        entries := [atlasEntry atlasBase,
          atlasEntry ⟨.lit "nova", .lit "atlas", unconfiguredVariant⟩]
        unique := by decide +kernel }
    registrySnapshot := { revision := 1, generatedAt := 0, entries := [acmeHttp, novaWorker] }
    adminConstraints :=
      { allowedProviders := some [.lit "acme"], allowedChannels := some [.serverDirectHttp] }
    request := { pinnedTarget := some (atlasPin none) } }
  valid :=
    { acmeInputs_valid with
      candidates_calibrated := fun _ h => nomatch h
      runtime_states := fun _ => rfl
      alias_profile := nofun
      after_snapshot := le_rfl
      binding_merged := fun _ h => nomatch h }

omit [RouteHost] in
/-- The pin is admitted and the route raises on the other resource. -/
theorem not_pinnedRuntime_allowedPinRequest : ¬ ∀ [RouteHost] (r : RouteRequest)
    (pin : PinnedTarget), PlainPin r.toRouteInputs pin →
      (Selects r ↔ Approves r pin) ∧ SelectsPinned r pin := by
  intro h
  let _ := utcHost
  obtain ⟨a, approved, ha, happroved⟩ := exists_of_toOption
    (x := admitPinnedTarget allowedPinRequest (atlasPin none))
    (f := fun d => if d.approved then some d else none) (by decide +kernel)
  obtain ⟨d, hd, -⟩ := (h allowedPinRequest (atlasPin none) ⟨rfl, rfl, rfl, rfl⟩).1.mpr
    ⟨a, ha, (Option.ite_none_right_eq_some.mp happroved).1⟩
  obtain ⟨e, he, requirement, -, -, hrepresentable⟩ :=
    (routeRequest_returns_iff_evaluable _).mp ⟨d, hd⟩
  obtain rfl : allowedPinRequest = e := Except.ok.inj he
  have hordered := hrepresentable novaWorker (by decide +kernel) (by decide +kernel)
  exact absurd (hordered.provider_alone (by decide +kernel)).1 (by decide +kernel)

end Closure

end ScarcityRouter
