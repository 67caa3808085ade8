import ScarcityRouter.Gateway.Errors
import ScarcityRouter.Gateway.OutputLimits
import ScarcityRouter.Routing.Closure

namespace ScarcityRouter

open ScarcityRouter.Lib

/-!
# Enforcement after admission

`_enforce_request_limits` and `_enforce_effective_limits` of `gateway_coordinator.py`: the limits of
the request before routing, and those of the selected route after it.

* `enforceRequestLimits`, `enforceEffectiveLimits` — the two checks.
* `Permits.fits` — a routed or admitted request fits every limit of its route.
* `enforceEffectiveLimits_iff` — when enforcement agrees with routing.
-/

/-! ### The checks -/

/-- The two amounts of `RequestCapabilities` that a bound request carries. -/
structure TokenDemand where
  estimatedInputTokens : Option ℕ+ := none
  requestedOutputTokens : Option ℕ+ := none

/-- `_enforce_request_limits`. -/
def enforceRequestLimits (limits : TokenLimits) (caps : TokenDemand) : Except GatewayError Unit := do
  check (¬ caps.estimatedInputTokens.any (limits.maxInputContextTokens < ·))
    (.invalidRequest "the request exceeds the maximum input context"
      (some "context_length_exceeded"))
  check (¬ caps.requestedOutputTokens.any (limits.maxOutputTokens < ·))
    (.invalidRequest "the requested output exceeds the maximum output limit"
      (some "output_limit_exceeded") (some "max_completion_tokens"))

/-- `_target_capabilities`: the entry of the selected target, from the snapshot of its admission. -/
def targetCapabilities (snapshot : RegistrySnapshot) (target : RouteTarget) :
    Option ResourceRegistryEntry :=
  snapshot.entries.find? (·.identity = target.resource)

/-- The rejection of an output cap. -/
def limitRejection : OutputCode → GatewayError
  | .insufficient => .invalidRequest
      "the requested output exceeds the effective output limit of the selected route"
      (some "output_limit_exceeded") (some "max_completion_tokens")
  | .unknown => .invalidRequest ("the selected route has no evidenced output capability to " ++
      "satisfy the request's output requirement")
      (some "output_limit_unknown") (some "max_completion_tokens")
  | .unenforceable => .invalidRequest ("the selected execution channel cannot enforce an output " ++
      "limit; a limit below the model's proven maximum is rejected instead of being silently " ++
      "ignored") (some "output_limit_unenforceable") (some "max_completion_tokens")

/-- `_enforce_effective_limits`: whether the output cap was normalized away. -/
def enforceEffectiveLimits (catalog : ModelCatalog) (limits : TokenLimits)
    (snapshot : RegistrySnapshot) (target : RouteTarget) (caps : TokenDemand) :
    Except GatewayError Bool := do
  let channel : ExecutionCapabilities :=
    (targetCapabilities snapshot target).elim {} (·.capabilities)
  let (hardContext, hardOutput) := variantHardLimits catalog target.model
  let effectiveContext := effectiveCeiling [hardContext, channel.contextLimitTokens]
    limits.maxInputContextTokens
  check (¬ caps.estimatedInputTokens.any fun estimated => effectiveContext.any (· < estimated))
    (.invalidRequest "the request exceeds the effective input context of the selected route"
      (some "context_length_exceeded"))
  match caps.requestedOutputTokens with
  | none => return false
  | some requested =>
    match routeOutputCode channel hardOutput (some requested) true with
    | some code => .error (limitRejection code)
    | none =>
      return channel.outputLimitControl = some false && hardOutput.any (· ≤ requested)

/-- The output cap that is dispatched. -/
def forwardedOutputTokens (caps : TokenDemand) (normalized : Bool) : Option ℕ+ :=
  if normalized then none else caps.requestedOutputTokens

/-! ### What routing leaves to enforce -/

/-- The target's part of the catalog and the registry. -/
structure TargetFacts (r : RouteRequest) (target : RouteTarget) (entry : ResourceRegistryEntry)
    (configured : ModelCatalogEntry) : Prop where
  registered : entry ∈ r.registrySnapshot.entries
  resource : entry.identity = target.resource
  calibrated : configured ∈ r.catalog.entries
  model : configured.identity = target.model

/-- The amounts of a request fit every known limit of its route. -/
structure FitsRoute (request : RequestBinding) (entry : ResourceRegistryEntry)
    (configured : ModelCatalogEntry) : Prop where
  hard_context : ∀ amount ∈ request.minimumInputContextTokens,
    ∀ limit ∈ configured.hardProperties.inputContextTokens, amount ≤ limit
  channel_context : ∀ amount ∈ request.minimumInputContextTokens,
    ∀ limit ∈ entry.capabilities.contextLimitTokens, amount ≤ limit
  output : ∀ amount ∈ request.maximumOutputTokens,
    FitsCeilings entry.capabilities configured.hardProperties.outputTokens true amount

section Enforcement

variable [RouteHost]

/-- The compatibility stage of an admissible pin, over the entry as it is registered. -/
theorem Admissible.compatible {i : RouteInputs} {requirement : TaskRequirement} {pin : PinnedTarget}
    {entry : ResourceRegistryEntry} {candidate : ModelCatalogEntry}
    (h : Admissible i requirement pin entry candidate) :
    (∀ minimum ∈ requirement.hardConstraints.minimumInputContextTokens,
      ∃ limit ∈ entry.capabilities.contextLimitTokens, minimum ≤ limit) ∧
    routeOutputCode entry.capabilities
      ((i.catalog.lookup? pin.model).bind (·.hardProperties.outputTokens))
      i.request.maximumOutputTokens true = none := by
  have hidentities : (i.admitGate requirement pin entry).boundIdentities =
      (i.admitGateInputs requirement pin entry.identity).servedIdentities
        (expireContext entry i.evaluatedAt) := GateInputs.runStages_fst_of_none h.qualified
  have hserved := h.retained
  rw [hidentities] at hserved
  have hbound := GateInputs.usableIdentities_subset_bound
    (GateInputs.servedIdentities_subset_usable hserved)
  rw [expireContext_identity] at hbound
  have hcompatible := GateInputs.compatibility_codes_eq_nil.mp
    (GateInputs.runStages_eq_none_iff.mp h.qualified).1.compatible
  constructor
  · intro minimum hminimum
    obtain ⟨limit, hlimit, hle⟩ := hcompatible.context minimum hminimum
    exact ⟨limit, (contextLimit_of_expireContext hlimit).1, hle⟩
  · have houtput := hcompatible.output
    rw [routeOutputCode_expireContext, expireContext_identity] at houtput
    have hcontext := requestOutputContext_admission (i := i) hbound rfl
    change routeOutputCode _ (requestOutputContext (admissionBinding i.request pin) _ i.catalog).1 _
      (requestOutputContext (admissionBinding i.request pin) _ i.catalog).2 = none at houtput
    rwa [hcontext] at houtput

/-- **A routed or admitted request fits every limit of its route**, and without an MI admission the
    output rule accepts it there. -/
theorem Permits.fits {r : RouteRequest} {target : RouteTarget} (h : Permits r target) :
    ∃ entry configured, TargetFacts r target entry configured ∧
      FitsRoute r.request entry configured ∧
      (r.miAdmission = none → routeOutputCode entry.capabilities
        configured.hardProperties.outputTokens r.request.maximumOutputTokens true = none) := by
  obtain ⟨e, he, requirement, hrequirement, pin, entry, candidate, hadmissible, hmodel, hresource⟩ :=
    h.admissible
  obtain ⟨hchannelContext, houtputCode⟩ := hadmissible.compatible
  obtain ⟨hhardContext, hhardOutput⟩ := allowances_of_evaluateHardConstraints hadmissible.hard
  have hview : candidate ∈ (narrowedCatalog e.toRouteInputs [pin.model] fun _ =>
      [(e.admitGate requirement pin entry).toGatedResource]).entries := by
    rw [hadmissible.view]
    exact List.mem_singleton_self _
  -- The evaluated entry and the one narrowed to the resource only tighten the configured limits.
  obtain ⟨evaluated, hevaluated, hnarrowed⟩ := tightens_of_mem_narrowedCatalog hview
  obtain ⟨configured, hconfigured, hprepared⟩ := evaluatedCatalog_tightens he evaluated hevaluated
  have htightens := hnarrowed.trans hprepared
  have hidentity : configured.identity = target.model := by
    rw [← htightens.identity, ← hmodel]
    exact identity_of_mem_view hview
  have hinputs := (evaluatedRequest_spec he).inputs_eq
  have hrequest : e.request = r.request := by rw [hinputs]
  have hsnapshot : e.registrySnapshot = r.registrySnapshot := by rw [hinputs]
  have hcontext := minimumInputContextTokens_of_resolve hrequirement
  have houtput := minimumOutputTokens_of_resolve hrequirement
  rw [hrequest] at hcontext houtput houtputCode
  refine ⟨entry, configured, ⟨hsnapshot ▸ hadmissible.registered, hresource, hconfigured, hidentity⟩,
    ⟨?_, ?_, ?_⟩, ?_⟩
  · intro amount hamount limit hlimit
    obtain ⟨known, hknown, hle⟩ := hhardContext amount (hcontext amount hamount)
    obtain ⟨least, hleast, hle'⟩ := htightens.context limit hlimit
    rw [Option.some.inj (hknown.symm.trans hleast)] at hle
    exact hle.trans hle'
  · intro amount hamount limit hlimit
    obtain ⟨known, hknown, hle⟩ := hchannelContext amount (hcontext amount hamount)
    rwa [Option.some.inj (hlimit.symm.trans hknown)]
  · intro amount hamount ceiling hceiling
    rcases mem_knownOutputs.mp hceiling with ⟨-, hhard⟩ | hchannel
    · obtain ⟨known, hknown, hle⟩ := hhardOutput amount (houtput amount hamount)
      obtain ⟨least, hleast, hle'⟩ := htightens.output ceiling hhard
      rw [Option.some.inj (hknown.symm.trans hleast)] at hle
      exact hle.trans hle'
    · rw [hamount] at houtputCode
      exact (routeOutputCode_eq_none.mp houtputCode).2.1 ceiling
        (mem_knownOutputs.mpr (.inr hchannel))
  · intro hnone
    rw [evaluatedRequest_of_none hnone] at he
    obtain rfl := Except.ok.inj he
    have hlookup : r.catalog.lookup? pin.model = some configured :=
      ModelCatalog.lookup?_eq_some.mpr ⟨hconfigured, hidentity.trans hmodel.symm⟩
    rwa [hlookup] at houtputCode

/-! ### Agreement -/

/-- The facts that enforcement reads evidence the output cap: some ceiling is known before any MI
    admission, and on a channel without output control the cap covers the configured maximum. -/
structure EvidencesCap (entry : ResourceRegistryEntry) (configured : ModelCatalogEntry)
    (requested : ℕ+) : Prop where
  known : configured.hardProperties.outputTokens.isSome ∨
    entry.capabilities.outputLimitTokens.isSome
  unbinding : entry.capabilities.outputLimitControl = some false →
    ∃ maximum ∈ configured.hardProperties.outputTokens, maximum ≤ requested

/-- Enforcement accepts the request, and changes the dispatched output cap exactly on a channel
    without output control, for a cap that covers the configured maximum. -/
def AgreesWithRouting (r : RouteRequest) (limits : TokenLimits) (target : RouteTarget)
    (caps : TokenDemand) (entry : ResourceRegistryEntry) (configured : ModelCatalogEntry) : Prop :=
  ∃ normalized, enforceEffectiveLimits r.catalog limits r.registrySnapshot target caps =
      .ok normalized ∧
    (forwardedOutputTokens caps normalized ≠ caps.requestedOutputTokens ↔
      entry.capabilities.outputLimitControl = some false ∧
        ∃ requested ∈ caps.requestedOutputTokens,
          ∃ maximum ∈ configured.hardProperties.outputTokens, maximum ≤ requested)

/-- The amounts are those of the routed request, and passed the check before routing. -/
structure Demands (limits : TokenLimits) (request : RequestBinding) (caps : TokenDemand) : Prop where
  within : enforceRequestLimits limits caps = .ok ()
  estimated : ∀ amount ∈ caps.estimatedInputTokens,
    ∃ minimum ∈ request.minimumInputContextTokens, amount ≤ minimum
  requested : caps.requestedOutputTokens = request.maximumOutputTokens

omit [RouteHost] in
/-- What the check before routing leaves. -/
theorem enforceRequestLimits_eq_ok {limits : TokenLimits} {caps : TokenDemand} :
    enforceRequestLimits limits caps = .ok () ↔
      (∀ amount ∈ caps.estimatedInputTokens, amount ≤ limits.maxInputContextTokens) ∧
      ∀ amount ∈ caps.requestedOutputTokens, amount ≤ limits.maxOutputTokens := by
  unfold enforceRequestLimits
  rw [check_bind_eq_ok, check_eq_ok]
  cases caps.estimatedInputTokens <;> cases caps.requestedOutputTokens <;> simp

omit [RouteHost] in
/-- The facts of the target are what enforcement looks up. -/
theorem TargetFacts.lookups {r : RouteRequest} {target : RouteTarget}
    {entry : ResourceRegistryEntry} {configured : ModelCatalogEntry}
    (h : TargetFacts r target entry configured) :
    targetCapabilities r.registrySnapshot target = some entry ∧
      variantHardLimits r.catalog target.model =
        (configured.hardProperties.inputContextTokens, configured.hardProperties.outputTokens) := by
  constructor
  · apply find?_eq_some_of_unique h.registered (decide_eq_true h.resource)
    intro other hother hsame
    have hidentity : other.identity = entry.identity := (of_decide_eq_true hsame).trans h.resource.symm
    exact r.registrySnapshot.entry_ext hother h.registered (congrArg (·.resourceId) hidentity)
  · have hlookup : r.catalog.lookup? target.model = some configured :=
      ModelCatalog.lookup?_eq_some.mpr ⟨h.calibrated, h.model⟩
    unfold variantHardLimits
    rw [hlookup]

omit [RouteHost] in
/-- Enforcement of a request that fits its route is the output rule alone. -/
theorem enforceEffectiveLimits_of_fits {r : RouteRequest} {target : RouteTarget}
    {entry : ResourceRegistryEntry} {configured : ModelCatalogEntry}
    (hfacts : TargetFacts r target entry configured) (hfits : FitsRoute r.request entry configured)
    {limits : TokenLimits} {caps : TokenDemand} (hdemands : Demands limits r.request caps) :
    enforceEffectiveLimits r.catalog limits r.registrySnapshot target caps =
      match caps.requestedOutputTokens with
      | none => .ok false
      | some requested =>
        match routeOutputCode entry.capabilities configured.hardProperties.outputTokens
            (some requested) true with
        | some code => .error (limitRejection code)
        | none => .ok (entry.capabilities.outputLimitControl = some false &&
            configured.hardProperties.outputTokens.any (· ≤ requested)) := by
  obtain ⟨hentry, hlimits⟩ := hfacts.lookups
  unfold enforceEffectiveLimits
  rw [hentry, hlimits]
  dsimp only [Option.elim_some]
  rw [check_pos ?_]
  · rfl
  · intro hexceeds
    obtain ⟨amount, hamount, hceiling⟩ := (Option.any_eq_true _ _).mp hexceeds
    obtain ⟨ceiling, hmem, hlt⟩ := (Option.any_eq_true _ _).mp hceiling
    obtain ⟨minimum, hminimum, hle⟩ := hdemands.estimated amount hamount
    have hwithin := (enforceRequestLimits_eq_ok.mp hdemands.within).1 amount hamount
    have hfit : amount ≤ ceiling := by
      apply le_effectiveCeiling hmem _ hwithin
      intro known hknown
      rcases List.mem_pair.mp hknown with h | h
      · exact hle.trans (hfits.hard_context minimum hminimum known h.symm)
      · exact hle.trans (hfits.channel_context minimum hminimum known h.symm)
    exact absurd (of_decide_eq_true hlt) (not_lt.mpr hfit)

omit [RouteHost] in
/-- For a cap that fits its route, the output rule is what the route's facts evidence. -/
theorem routeOutputCode_eq_none_iff_evidences {entry : ResourceRegistryEntry}
    {configured : ModelCatalogEntry} {requested : ℕ+}
    (hfits : FitsCeilings entry.capabilities configured.hardProperties.outputTokens true
      requested) :
    routeOutputCode entry.capabilities configured.hardProperties.outputTokens (some requested)
      true = none ↔ EvidencesCap entry configured requested := by
  rw [routeOutputCode_eq_none, Ne, knownOutputs_eq_nil]
  constructor
  · rintro ⟨hknown, -, hunbinding⟩
    refine ⟨?_, fun hcontrol => (hunbinding hcontrol).2⟩
    by_contra hnone
    rw [not_or, Option.not_isSome_iff_eq_none, Option.not_isSome_iff_eq_none] at hnone
    exact hknown ⟨fun _ => hnone.1, hnone.2⟩
  · intro h
    refine ⟨fun hnil => ?_, hfits, fun hcontrol => ⟨rfl, h.unbinding hcontrol⟩⟩
    have hknown := h.known
    rw [hnil.1 rfl, hnil.2] at hknown
    rcases hknown with hsome | hsome <;> cases hsome

/-- **When enforcement agrees with routing**: for a routed or admitted request exactly when the
    facts before any MI admission evidence its output cap; without an MI admission always. -/
theorem enforceEffectiveLimits_iff (r : RouteRequest) (target : RouteTarget) (h : Permits r target)
    (limits : TokenLimits) (caps : TokenDemand) (hdemands : Demands limits r.request caps) :
    ∃ entry configured, TargetFacts r target entry configured ∧
      (AgreesWithRouting r limits target caps entry configured ↔
        ∀ requested ∈ caps.requestedOutputTokens, EvidencesCap entry configured requested) ∧
      (r.miAdmission = none →
        ∀ requested ∈ caps.requestedOutputTokens, EvidencesCap entry configured requested) := by
  obtain ⟨entry, configured, hfacts, hfits, hnative⟩ := h.fits
  refine ⟨entry, configured, hfacts, ?_, ?_⟩
  · unfold AgreesWithRouting
    rw [enforceEffectiveLimits_of_fits hfacts hfits hdemands]
    cases hrequested : caps.requestedOutputTokens with
    | none =>
      refine iff_of_true ⟨false, rfl, ?_⟩ (fun _ h => nomatch h)
      simp [forwardedOutputTokens, hrequested]
    | some requested =>
      have hoffer := hfits.output requested (hdemands.requested ▸ hrequested)
      have hrule := routeOutputCode_eq_none_iff_evidences hoffer
      dsimp only
      cases hcode : routeOutputCode entry.capabilities configured.hardProperties.outputTokens
          (some requested) true with
      | some code =>
        refine iff_of_false ?_ fun hevidences => ?_
        · rintro ⟨normalized, herror, -⟩
          cases herror
        · rw [hrule.mpr (hevidences requested rfl)] at hcode
          cases hcode
      | none =>
        refine iff_of_true ⟨_, rfl, ?_⟩ ?_
        · simp [forwardedOutputTokens, hrequested, Option.any_eq_true]
        · rintro _ ⟨⟩
          exact hrule.mp hcode
  · intro hnone requested hrequested
    have hamount : r.request.maximumOutputTokens = some requested :=
      hdemands.requested ▸ hrequested
    have hcode := hnative hnone
    rw [hamount] at hcode
    exact (routeOutputCode_eq_none_iff_evidences (hfits.output requested hamount)).mp hcode

/-! ### A capped request on a channel without output control -/

/-- The versioned catalog of one model, with a hard maximum of 2000 output tokens. -/
def twoThousandCatalog : ModelCatalog where
  catalogVersion := some 1
  updatedOn := some "2026-01-01"
  entries := [{
    identity := atlasBase
    displayName := "Atlas"
    name_nonempty := atlas_named
    hardProperties := { outputTokens := some 2000 } }]
  unique := by decide +kernel

/-- The request for a number of output tokens, with an MI admission or without. -/
def cappedRequest (miAdmission : Option MIAdmission) (requested : ℕ+) : RouteRequest where
  toRouteInputs := { acmeInputs with
    catalog := twoThousandCatalog
    registrySnapshot :=
      { revision := 1
        generatedAt := 0
        entries := [{ acmeHttp with capabilities := { outputLimitControl := some false } }] }
    request := { pinnedTarget := some (atlasPin none), maximumOutputTokens := some requested }
    miAdmission := miAdmission }
  valid :=
    { acmeInputs_valid with
      candidates_calibrated := fun _ h => nomatch h
      runtime_states := fun _ => rfl
      alias_profile := nofun
      binding_merged := fun _ h => nomatch h }

/-- The admission of a publication about the model. -/
def allowanceAdmission : MIAdmission where
  cut := some ⟨"", "reviewed"⟩
  bindings := [⟨atlasBase, some "server_direct_http", "subject"⟩]
  expected := "reviewed"
  evaluatedAt := 0

/-- A host whose evidence package admits an output allowance of 1000 tokens. -/
@[reducible] def allowanceHost : RouteHost :=
  { utcHost with verdict := fun _ _ _ _ => ⟨"admitted", some (.outputAllowance, 1000)⟩ }

omit [RouteHost] in
/-- The amounts of that request. -/
theorem cappedRequest_demands (miAdmission : Option MIAdmission) {requested : ℕ+}
    (h : requested ≤ 131072) :
    Demands {} (cappedRequest miAdmission requested).request
      { requestedOutputTokens := some requested } where
  within := by
    refine enforceRequestLimits_eq_ok.mpr ⟨(fun _ h => nomatch h), ?_⟩
    rintro _ ⟨⟩
    exact h
  estimated := fun _ h => nomatch h
  requested := rfl

omit [RouteHost] in
/-- Without an MI admission the cap of 2000 tokens is selected, and dropped by enforcement. -/
theorem enforceEffectiveLimits_cappedRequest : ∃ target entry configured,
    AgreesWithRouting (cappedRequest none 2000) {} target { requestedOutputTokens := some 2000 }
      entry configured := by
  let _ := utcHost
  obtain ⟨d, target, hd, htarget⟩ := exists_of_toOption
    (x := routeRequest (cappedRequest none 2000)) (f := (·.target)) (by decide +kernel)
  obtain ⟨entry, configured, -, hagrees, hnative⟩ := enforceEffectiveLimits_iff
    (cappedRequest none 2000) target (.route d hd (.inl htarget)) {} _
    (cappedRequest_demands none (by decide))
  exact ⟨target, entry, configured, hagrees.mpr (hnative rfl)⟩

omit [RouteHost] in
/-- Under the admitted allowance a cap of 1000 tokens is selected as covering the model's maximum,
    and rejected as below it. -/
theorem not_enforces_cappedRequest : ¬ ∀ [RouteHost] (r : RouteRequest) (target : RouteTarget),
    Permits r target → ∀ limits caps, Demands limits r.request caps →
      ∃ entry configured, TargetFacts r target entry configured ∧
        AgreesWithRouting r limits target caps entry configured := by
  intro h
  let _ := allowanceHost
  obtain ⟨d, target, hd, htarget⟩ := exists_of_toOption
    (x := routeRequest (cappedRequest (some allowanceAdmission) 1000)) (f := (·.target))
    (by decide +kernel)
  have hpermits : Permits (cappedRequest (some allowanceAdmission) 1000) target :=
    .route d hd (.inl htarget)
  obtain ⟨entry, configured, hfacts, normalized, hok, -⟩ := h _ target hpermits {} _
    (cappedRequest_demands (some allowanceAdmission) (by decide))
  obtain ⟨entry', configured', hfacts', hfits, -⟩ := hpermits.fits
  rw [enforceEffectiveLimits_of_fits hfacts' hfits
    (cappedRequest_demands (some allowanceAdmission) (by decide))] at hok
  -- The raw catalog has a maximum of 2000, which the cap does not reach.
  have hentry := List.mem_singleton.mp hfacts'.registered
  have hconfigured := List.mem_singleton.mp hfacts'.calibrated
  rw [hentry, hconfigured] at hok
  cases normalized <;> exact absurd hok (by decide +kernel)

end Enforcement

end ScarcityRouter
