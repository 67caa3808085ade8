import ScarcityRouter.Gateway.OutputLimits
import ScarcityRouter.Registry.Reads

namespace ScarcityRouter

open ScarcityRouter.Lib

/-!
# Exposed logical models

`exposed_logical_models` of `gateway_coordinator.py`: which logical models a client sees, and the
limits advertised for them.

* `RouteEffectiveLimits`, `LogicalModelInfo` — the published records.
* `servedConfigurations`, `routeEffectiveLimits` — one route, by its weakest configuration.
* `logicalModelInfo`, `exposedLogicalModels` — the headline, by the strongest route.
* `exposedLogicalModels_carries` — which output caps up to the headline a route carries.
-/

/-! ### The published records -/

/-- `RouteEffectiveLimits`. -/
structure RouteEffectiveLimits where
  resourceId : SafeId
  effectiveContextLimitTokens : Option ℕ+
  effectiveOutputLimitTokens : Option ℕ+
  deriving DecidableEq

/-- `LogicalModelInfo`. -/
structure LogicalModelInfo where
  model : SafeId
  provider : SafeId
  reasoningEfforts : List SafeId
  effectiveContextLimitTokens : Option ℕ+
  maxOutputTokens : Option ℕ+
  routes : List RouteEffectiveLimits
  deriving DecidableEq

/-! ### One route -/

/-- The configurations of a logical model that one of its routes serves: both `continue`s of the
    loop over them. -/
def servedConfigurations (catalog : ModelCatalog) (modelEntries : List ModelCatalogEntry)
    (route : ResourceRegistryEntry) : List ModelCatalogEntry :=
  modelEntries.filter fun entry =>
    route.identity.variant.all (· = entry.identity.variant) &&
    (catalog.catalogVersion.isSome || route.identity.variant.isSome ||
      entry.identity.variant = unconfiguredVariant ||
      entry.evidencedOn route.identity.resourceId)

/-- The channel's context limit is known, and its evidence covers the instant of the read. -/
def contextEvidenced (capabilities : ExecutionCapabilities) (generatedAt : Timestamp) : Bool :=
  capabilities.contextLimitTokens.isSome &&
  capabilities.contextEvidence.all fun evidence =>
    generatedAt < evidence.validUntil && evidence.verifiedAt ≤ generatedAt

/-- `route_context` of one configuration; a runtime inventory needs the channel's own evidence. -/
def configurationContext (catalog : ModelCatalog) (limits : TokenLimits) (generatedAt : Timestamp)
    (route : ResourceRegistryEntry) (entry : ModelCatalogEntry) : Option ℕ+ :=
  if catalog.catalogVersion.isNone && !contextEvidenced route.capabilities generatedAt then none
  else effectiveCeiling
    [entry.hardProperties.inputContextTokens, route.capabilities.contextLimitTokens]
    limits.maxInputContextTokens

/-- `route_output` of one configuration. -/
def configurationOutput (catalog : ModelCatalog) (limits : TokenLimits)
    (route : ResourceRegistryEntry) (entry : ModelCatalogEntry) : Option ℕ+ :=
  if catalog.catalogVersion.isNone && route.capabilities.outputLimitTokens.isNone then none
  else effectiveCeiling
    [entry.hardProperties.outputTokens, route.capabilities.outputLimitTokens]
    limits.maxOutputTokens

/-- The minimum of values that are all known. -/
def weakest (values : List (Option ℕ+)) : Option ℕ+ :=
  if values.all Option.isSome then values.reduceOption.min? else none

/-- The maximum of the values that are known. -/
def strongest (values : List (Option ℕ+)) : Option ℕ+ :=
  values.reduceOption.max?

/-- The limits of one route: those of the weakest configuration it serves. -/
def routeEffectiveLimits (catalog : ModelCatalog) (limits : TokenLimits) (generatedAt : Timestamp)
    (modelEntries : List ModelCatalogEntry) (route : ResourceRegistryEntry) :
    RouteEffectiveLimits :=
  let served := servedConfigurations catalog modelEntries route
  { resourceId := route.identity.resourceId
    effectiveContextLimitTokens :=
      weakest (served.map (configurationContext catalog limits generatedAt route))
    effectiveOutputLimitTokens := weakest (served.map (configurationOutput catalog limits route)) }

/-! ### The logical models -/

/-- The resource passes the client's permission filter. -/
def ResourceRegistryEntry.visibleTo (route : ResourceRegistryEntry)
    (permittedResourceIds : Option (Finset SafeId)) : Bool :=
  permittedResourceIds.all (route.identity.resourceId ∈ ·)

/-- The resource is registered for the model. -/
def ResourceRegistryEntry.boundTo (route : ResourceRegistryEntry) (provider model : SafeId) :
    Bool :=
  route.identity.provider = provider && route.identity.model = model

/-- The efforts of one logical model: an effort counts where a route carries it, in a runtime
    inventory only on its own evidence. -/
def exposedEfforts (catalog : ModelCatalog) (modelEntries : List ModelCatalogEntry)
    (routes : List ResourceRegistryEntry) : List SafeId :=
  sortedSet ((modelEntries.filter fun entry => routes.any fun route =>
    route.identity.variant.all (· = entry.identity.variant) &&
    (catalog.catalogVersion.isSome ||
      (route.identity.variant.isSome && entry.evidencedOn route.identity.resourceId))).filterMap
    fun entry => entry.reasoningEffort.map ReasoningEffort.text)

/-- The record of one logical model over the visible registry entries. -/
def logicalModelInfo (catalog : ModelCatalog) (limits : TokenLimits) (generatedAt : Timestamp)
    (visible : List ResourceRegistryEntry) (provider model : SafeId) : LogicalModelInfo :=
  let modelEntries := catalog.entries.filter fun entry =>
    entry.identity.model = model && entry.identity.provider = provider
  let entries := visible.filter (·.boundTo provider model)
  let routes := (sortBy (·.identity.resourceId) entries).map
    (routeEffectiveLimits catalog limits generatedAt modelEntries)
  { model := model
    provider := provider
    reasoningEfforts := exposedEfforts catalog modelEntries entries
    effectiveContextLimitTokens := strongest (routes.map (·.effectiveContextLimitTokens))
    maxOutputTokens := strongest (routes.map (·.effectiveOutputLimitTokens))
    routes := routes }

/-- `exposed_logical_models`: a model that two providers carry is not advertised, and a registry
    that cannot be read exposes nothing. -/
def exposedLogicalModels (catalog : ModelCatalog) (registry : ResourceRegistry) (now : Timestamp)
    (limits : TokenLimits) (permittedResourceIds : Option (Finset SafeId) := none) :
    List LogicalModelInfo :=
  match registry.registrySnapshot now with
  | .error _ => []
  | .ok read =>
    let snapshot := read.toSnapshot
    let visible := snapshot.entries.filter (·.visibleTo permittedResourceIds)
    let bound := (catalog.entries.map (·.identity)).filter fun identity =>
      visible.any (·.boundTo identity.provider identity.model)
    (sortedSet (bound.map (·.model))).filterMap fun model =>
      match sortedSet ((bound.filter (·.model = model)).map (·.provider)) with
      | [provider] =>
        some (logicalModelInfo catalog limits snapshot.generatedAt visible provider model)
      | _ => none

/-! ### What is published -/

theorem weakest_eq_some {values : List (Option ℕ+)} {value : ℕ+} (h : weakest values = some value) :
    values ≠ [] ∧ ∀ v ∈ values, ∃ known, v = some known ∧ value ≤ known := by
  unfold weakest at h
  split at h
  · rename_i hall
    have hmem := List.min?_mem h
    refine ⟨?_, fun v hv => ?_⟩
    · rintro rfl
      cases hmem
    · obtain ⟨known, rfl⟩ := Option.isSome_iff_exists.mp (List.all_eq_true.mp hall v hv)
      refine ⟨known, rfl, ?_⟩
      exact (List.le_min?_iff h).mp le_rfl known (List.reduceOption_mem_iff.mpr hv)
  · cases h

theorem strongest_eq_some {values : List (Option ℕ+)} {value : ℕ+}
    (h : strongest values = some value) : some value ∈ values :=
  List.reduceOption_mem_iff.mp (List.max?_mem h)

section

variable {catalog : ModelCatalog} {limits : TokenLimits} {generatedAt : Timestamp}
  {visible : List ResourceRegistryEntry} {route : ResourceRegistryEntry} {provider model : SafeId}

/-- The loop's conditions are those of `_bind_identities`. -/
theorem mem_servedConfigurations (hroute : route.boundTo provider model = true)
    {entry : ModelCatalogEntry} :
    entry ∈ servedConfigurations catalog (catalog.entries.filter fun entry =>
      entry.identity.model = model && entry.identity.provider = provider) route ↔
    entry ∈ catalog.entries ∧ bindsEntry catalog route.identity entry = true := by
  unfold ResourceRegistryEntry.boundTo at hroute
  obtain ⟨hprovider, hmodel⟩ := by simpa using hroute
  unfold servedConfigurations bindsEntry
  subst hprovider hmodel
  simp only [List.mem_filter, Bool.and_eq_true, decide_eq_true_eq]
  tauto

/-- **A published output limit** is within the ceilings of every configuration that its route
    serves, and the route serves one. -/
theorem effectiveOutput_eq_some (hroute : route.boundTo provider model = true) {maximum : ℕ+}
    (h : (routeEffectiveLimits catalog limits generatedAt (catalog.entries.filter fun entry =>
      entry.identity.model = model && entry.identity.provider = provider)
        route).effectiveOutputLimitTokens = some maximum) :
    (∃ entry ∈ catalog.entries, bindsEntry catalog route.identity entry = true) ∧
    ∀ entry ∈ catalog.entries, bindsEntry catalog route.identity entry = true →
      (entry.hardProperties.outputTokens.isSome ∨ route.capabilities.outputLimitTokens.isSome) ∧
      (∀ known ∈ entry.hardProperties.outputTokens, maximum ≤ known) ∧
      (∀ known ∈ route.capabilities.outputLimitTokens, maximum ≤ known) := by
  obtain ⟨hne, hall⟩ := weakest_eq_some h
  constructor
  · obtain ⟨value, hvalue⟩ := List.exists_mem_of_ne_nil _ hne
    obtain ⟨entry, hentry, -⟩ := List.mem_map.mp hvalue
    exact ⟨entry, (mem_servedConfigurations hroute).mp hentry⟩
  · intro entry hentry hbinds
    have hserved := (mem_servedConfigurations hroute).mpr ⟨hentry, hbinds⟩
    obtain ⟨known, hknown, hle⟩ := hall _ (List.mem_map_of_mem hserved)
    unfold configurationOutput at hknown
    split at hknown
    · cases hknown
    · obtain ⟨⟨evidence, hevidence⟩, hbelow, -⟩ := effectiveCeiling_eq_some hknown
      refine ⟨?_, fun hard hhard => ?_, fun channel hchannel => ?_⟩
      · rcases List.mem_pair.mp hevidence with h | h
        · exact .inl (h ▸ rfl)
        · exact .inr (h ▸ rfl)
      · exact hle.trans (hbelow hard (by simp [← Option.mem_def.mp hhard]))
      · exact hle.trans (hbelow channel (by simp [← Option.mem_def.mp hchannel]))

/-- A record is published of a readable registry, by the function above. -/
theorem mem_exposedLogicalModels {registry : ResourceRegistry} {now : Timestamp}
    {permittedResourceIds : Option (Finset SafeId)} {info : LogicalModelInfo}
    (h : info ∈ exposedLogicalModels catalog registry now limits permittedResourceIds) :
    ∃ read, registry.registrySnapshot now = .ok read ∧ ∃ provider model, info =
      logicalModelInfo catalog limits read.toSnapshot.generatedAt
        (read.toSnapshot.entries.filter (·.visibleTo permittedResourceIds)) provider model := by
  unfold exposedLogicalModels at h
  split at h
  · cases h
  · rename_i read hread
    refine ⟨read, hread, ?_⟩
    obtain ⟨model, -, hmodel⟩ := List.mem_filterMap.mp h
    split at hmodel
    · rename_i provider _
      exact ⟨provider, model, (Option.some.inj hmodel).symm⟩
    · cases hmodel

end

/-- The route is shown to the client under the logical model. -/
structure Exposes (info : LogicalModelInfo) (permittedResourceIds : Option (Finset SafeId))
    (route : ResourceRegistryEntry) : Prop where
  visible : route.visibleTo permittedResourceIds = true
  bound : route.boundTo info.provider info.model = true

/-- The route's part of the record that advertises the limit. -/
def Advertises (info : LogicalModelInfo) (route : ResourceRegistryEntry) (maximum : ℕ+) : Prop :=
  ∃ limits ∈ info.routes, limits.resourceId = route.identity.resourceId ∧
    limits.effectiveOutputLimitTokens = some maximum

/-! ### Which output caps a route carries -/

/-- The output rule as `_compatibility_failure` applies it to one route. -/
def requestOutputCode (catalog : ModelCatalog) (request : RequestBinding)
    (route : ResourceRegistryEntry) : Option OutputCode :=
  let output := requestOutputContext request route.identity catalog
  routeOutputCode route.capabilities output.1 request.maximumOutputTokens output.2

/-- The route can execute the configuration. -/
def ServesVariant (catalog : ModelCatalog) (route : ResourceRegistryEntry) (variant : SafeId) :
    Prop :=
  ∃ entry ∈ catalog.entries, bindsEntry catalog route.identity entry = true ∧
    entry.identity.variant = variant

/-- A request for the logical model that the route can execute: where the request was narrowed to
    one configuration, the route serves it. -/
structure NamesOn (catalog : ModelCatalog) (info : LogicalModelInfo)
    (route : ResourceRegistryEntry) (request : RequestBinding) : Prop where
  named : request.explicitModel = some ⟨info.provider, info.model⟩
  unpinned : request.pinnedTarget = none
  serves : ∀ variant, request.explicitVariant = some variant → ServesVariant catalog route variant

/-- When a route carries an output cap that is within its advertised limit. -/
structure CarriesCap (catalog : ModelCatalog) (request : RequestBinding)
    (route : ResourceRegistryEntry) (requested : ℕ+) : Prop where
  /-- Before the configuration is determined, only the channel's own ceiling is evidence. -/
  evidenced : effectiveVariant request route.identity = none →
    route.capabilities.outputLimitTokens.isSome = true
  /-- A channel without output control carries only a cap that does not bind: one that covers the
      known maximum of the determined configuration. -/
  enforceable : route.capabilities.outputLimitControl = some false →
    ∃ entry ∈ catalog.entries, bindsEntry catalog route.identity entry = true ∧
      effectiveVariant request route.identity = some entry.identity.variant ∧
      ∃ maximum ∈ entry.hardProperties.outputTokens, maximum ≤ requested

section

variable {catalog : ModelCatalog} {info : LogicalModelInfo} {route : ResourceRegistryEntry}
  {request : RequestBinding} {requested : ℕ+}

/-- An entry that the route binds carries the route's model. -/
theorem identity_of_bindsEntry {entry : ModelCatalogEntry}
    (h : bindsEntry catalog route.identity entry = true) :
    entry.identity = ⟨route.identity.provider, route.identity.model, entry.identity.variant⟩ ∧
      ∀ variant ∈ route.identity.variant, variant = entry.identity.variant := by
  unfold bindsEntry at h
  simp only [Bool.and_eq_true, decide_eq_true_eq, Option.all_eq_true] at h
  obtain ⟨⟨⟨hprovider, hmodel⟩, hvariant⟩, -⟩ := h
  rw [← hprovider, ← hmodel]
  exact ⟨rfl, hvariant⟩

/-- The configuration that the request determines on the route is one it serves. -/
theorem serves_of_effectiveVariant (hnames : NamesOn catalog info route request)
    (hroute : route.boundTo info.provider info.model = true)
    (hserves : ∃ entry ∈ catalog.entries, bindsEntry catalog route.identity entry = true)
    {variant : SafeId} (h : effectiveVariant request route.identity = some variant) :
    ServesVariant catalog route variant := by
  unfold effectiveVariant at h
  split at h
  · rename_i explicit hexplicit
    cases h
    exact hnames.serves _ hexplicit
  · -- Without a narrowed configuration, only a qualified route determines one: its own.
    unfold ResourceRegistryEntry.boundTo at hroute
    obtain ⟨hprovider, hmodel⟩ := by simpa using hroute
    rw [hnames.unpinned, hnames.named, ← hprovider, ← hmodel] at h
    simp only [if_true] at h
    obtain ⟨entry, hentry, hbinds⟩ := hserves
    exact ⟨entry, hentry, hbinds, ((identity_of_bindsEntry hbinds).2 variant h).symm⟩

/-- The output context of a determined configuration is its own calibration. -/
theorem requestOutputContext_eq {entry : ModelCatalogEntry} (hentry : entry ∈ catalog.entries)
    (hbinds : bindsEntry catalog route.identity entry = true)
    (h : effectiveVariant request route.identity = some entry.identity.variant) :
    requestOutputContext request route.identity catalog =
      (entry.hardProperties.outputTokens, true) := by
  have hlookup : catalog.lookup?
      ⟨route.identity.provider, route.identity.model, entry.identity.variant⟩ = some entry :=
    ModelCatalog.lookup?_eq_some.mpr ⟨hentry, (identity_of_bindsEntry hbinds).1⟩
  unfold requestOutputContext
  rw [h]
  show ((catalog.lookup? _).bind _, true) = _
  rw [hlookup]
  rfl

/-- **The rule on a route within its advertised limit.** -/
theorem requestOutputCode_within {maximum : ℕ+}
    (hroute : route.boundTo info.provider info.model = true)
    (hnames : NamesOn catalog info route request)
    (hrequested : request.maximumOutputTokens = some requested) (hle : requested ≤ maximum)
    (hserves : ∃ entry ∈ catalog.entries, bindsEntry catalog route.identity entry = true)
    (hwithin : ∀ entry ∈ catalog.entries, bindsEntry catalog route.identity entry = true →
      (entry.hardProperties.outputTokens.isSome ∨ route.capabilities.outputLimitTokens.isSome) ∧
      (∀ known ∈ entry.hardProperties.outputTokens, maximum ≤ known) ∧
      (∀ known ∈ route.capabilities.outputLimitTokens, maximum ≤ known)) :
    (requestOutputCode catalog request route = none ↔
      CarriesCap catalog request route requested) ∧
    requestOutputCode catalog request route ≠ some .insufficient := by
  have hchannel : ∀ known ∈ route.capabilities.outputLimitTokens, requested ≤ known := by
    obtain ⟨entry, hentry, hbinds⟩ := hserves
    intro known hknown
    exact hle.trans ((hwithin entry hentry hbinds).2.2 known hknown)
  unfold requestOutputCode
  dsimp only
  rw [hrequested]
  cases heffective : effectiveVariant request route.identity with
  | none =>
    have hcontext : requestOutputContext request route.identity catalog = (none, false) := by
      unfold requestOutputContext
      rw [heffective]
    rw [hcontext]
    have hfits : FitsCeilings route.capabilities none false requested := by
      intro ceiling hceiling
      rcases mem_knownOutputs.mp hceiling with ⟨hfalse, -⟩ | hknown
      · cases hfalse
      · exact hchannel ceiling hknown
    refine ⟨?_, routeOutputCode_ne_insufficient hfits⟩
    rw [routeOutputCode_eq_none, Ne, knownOutputs_eq_nil]
    constructor
    · rintro ⟨hknown, -, hunbinding⟩
      refine ⟨fun _ => ?_, fun hcontrol => ?_⟩
      · by_contra hnone
        exact hknown ⟨fun _ => rfl, Option.not_isSome_iff_eq_none.mp hnone⟩
      · cases (hunbinding hcontrol).1
    · intro hcarries
      refine ⟨fun hnil => ?_, hfits, fun hcontrol => ?_⟩
      · have hsome := hcarries.evidenced heffective
        rw [hnil.2] at hsome
        cases hsome
      · obtain ⟨entry, -, -, hvariant, -⟩ := hcarries.enforceable hcontrol
        rw [heffective] at hvariant
        cases hvariant
  | some variant =>
    obtain ⟨entry, hentry, hbinds, rfl⟩ :=
      serves_of_effectiveVariant hnames hroute hserves heffective
    rw [requestOutputContext_eq hentry hbinds heffective]
    obtain ⟨hevidenced, hhard, -⟩ := hwithin entry hentry hbinds
    have hfits : FitsCeilings route.capabilities entry.hardProperties.outputTokens true
        requested := by
      intro ceiling hceiling
      rcases mem_knownOutputs.mp hceiling with ⟨-, hknown⟩ | hknown
      · exact hle.trans (hhard ceiling hknown)
      · exact hchannel ceiling hknown
    refine ⟨?_, routeOutputCode_ne_insufficient hfits⟩
    rw [routeOutputCode_eq_none, Ne, knownOutputs_eq_nil]
    constructor
    · rintro ⟨-, -, hunbinding⟩
      refine ⟨fun hnone => ?_, fun hcontrol => ?_⟩
      · rw [heffective] at hnone
        cases hnone
      · exact ⟨entry, hentry, hbinds, heffective, (hunbinding hcontrol).2⟩
    · intro hcarries
      refine ⟨fun hnil => ?_, hfits, fun hcontrol => ⟨rfl, ?_⟩⟩
      · have hhardNone : entry.hardProperties.outputTokens = none := hnil.1 rfl
        rw [hhardNone, hnil.2] at hevidenced
        rcases hevidenced with hsome | hsome <;> cases hsome
      · obtain ⟨other, hother, hbound, hvariant, hmaximum⟩ := hcarries.enforceable hcontrol
        -- The determined configuration is the only one of its identity.
        have hsame : other = entry := by
          apply catalog.entry_ext hother hentry
          rw [(identity_of_bindsEntry hbound).1, (identity_of_bindsEntry hbinds).1,
            ← Option.some.inj (heffective.symm.trans hvariant)]
        rw [← hsame]
        exact hmaximum

end

/-- **Advertised limits, route by route**: a published maximum is the limit of a visible route of
    the model, and of the output caps up to it that route carries exactly those its channel can
    enforce, or that cover the known maximum of the configuration; none is ever too large. -/
theorem exposedLogicalModels_carries {catalog : ModelCatalog} {registry : ResourceRegistry}
    {now : Timestamp} {limits : TokenLimits} {permittedResourceIds : Option (Finset SafeId)}
    {info : LogicalModelInfo} {maximum : ℕ+}
    (hinfo : info ∈ exposedLogicalModels catalog registry now limits permittedResourceIds)
    (hmaximum : info.maxOutputTokens = some maximum) :
    ∃ read, registry.registrySnapshot now = .ok read ∧
      ∃ route ∈ read.toSnapshot.entries, Exposes info permittedResourceIds route ∧
        Advertises info route maximum ∧ (∃ variant, ServesVariant catalog route variant) ∧
        ∀ request requested, NamesOn catalog info route request →
          request.maximumOutputTokens = some requested → requested ≤ maximum →
          (requestOutputCode catalog request route = none ↔
            CarriesCap catalog request route requested) ∧
          requestOutputCode catalog request route ≠ some .insufficient := by
  obtain ⟨read, hread, provider, model, rfl⟩ := mem_exposedLogicalModels hinfo
  refine ⟨read, hread, ?_⟩
  obtain ⟨published, hpublished, hvalue⟩ := List.mem_map.mp (strongest_eq_some hmaximum)
  obtain ⟨route, hroute, rfl⟩ := List.mem_map.mp hpublished
  obtain ⟨hvisible, hbound⟩ := List.mem_filter.mp (mem_sortBy.mp hroute)
  obtain ⟨hmem, hpermitted⟩ := List.mem_filter.mp hvisible
  obtain ⟨hserves, hwithin⟩ := effectiveOutput_eq_some hbound hvalue
  refine ⟨route, hmem, ⟨hpermitted, hbound⟩, ⟨_, hpublished, rfl, hvalue⟩, ?_, ?_⟩
  · obtain ⟨entry, hentry, hbinds⟩ := hserves
    exact ⟨_, entry, hentry, hbinds, rfl⟩
  · intro request requested hnames hrequested hle
    exact requestOutputCode_within hbound hnames hrequested hle hserves hwithin

/-! ### Two listings of one model -/

/-- The calibrated catalog of one configuration, with a hard maximum of 1000 output tokens. -/
def thousandCatalog : ModelCatalog where
  catalogVersion := some 1
  updatedOn := some "2026-01-01"
  entries := [{
    identity := ⟨.lit "acme", .lit "atlas", .lit "base"⟩
    displayName := "Atlas"
    name_nonempty := atlas_named
    hardProperties := { outputTokens := some 1000 } }]
  unique := by decide

/-- The registry of its only route, over a channel with the given output control. -/
def thousandRegistry (outputLimitControl : Option Bool) : ResourceRegistry where
  registrations := [⟨atlasIdentity, 60, none, { outputLimitControl := outputLimitControl }, none⟩]
  distinct := List.nodup_singleton _

/-- The record published of them. -/
def thousandInfo : LogicalModelInfo where
  model := .lit "atlas"
  provider := .lit "acme"
  reasoningEfforts := []
  effectiveContextLimitTokens := none
  maxOutputTokens := some 1000
  routes := [⟨.lit "acme-http", none, some 1000⟩]

/-- The only route of that registry has its channel's facts. -/
theorem capabilities_of_thousandRegistry {outputLimitControl : Option Bool} {read : RegistryRead}
    (hread : (thousandRegistry outputLimitControl).registrySnapshot 0 = .ok read)
    {route : ResourceRegistryEntry} (hroute : route ∈ read.toSnapshot.entries) :
    route.identity = atlasIdentity ∧
      route.capabilities = { outputLimitControl := outputLimitControl } := by
  obtain ⟨entry, hentry, rfl⟩ := List.mem_map.mp hroute
  obtain ⟨registration, hregistration, hstep⟩ :=
    exists_of_mem_mapM (ResourceRegistry.mapM_readEntry_of_registrySnapshot hread) hentry
  obtain ⟨rfl, -⟩ := ResourceRegistry.readEntry_eq_ok hstep
  have honly := List.mem_singleton.mp (mem_sortBy.mp hregistration)
  exact ⟨congrArg (·.identity) honly, congrArg (·.capabilities) honly⟩

/-- A hard maximum that the output context states is one of the catalog. -/
theorem exists_of_requestOutputContext {catalog : ModelCatalog} {request : RequestBinding}
    {resource : ResourceIdentity} {maximum : ℕ+}
    (h : maximum ∈ (requestOutputContext request resource catalog).1) :
    ∃ entry ∈ catalog.entries, maximum ∈ entry.hardProperties.outputTokens := by
  unfold requestOutputContext at h
  split at h
  · cases h
  · obtain ⟨entry, hlookup, hmaximum⟩ := Option.bind_eq_some_iff.mp (Option.mem_def.mp h)
    exact ⟨entry, (ModelCatalog.lookup?_eq_some.mp hlookup).1, hmaximum⟩

/-- On a channel with output control the route carries a cap of a single token for a request that
    names the configuration. -/
theorem exposedLogicalModels_carries_controlled : ∃ route request,
    request.maximumOutputTokens = some 1 ∧
      requestOutputCode thousandCatalog request route = none := by
  obtain ⟨read, hread, route, hroute, -, -, ⟨variant, entry, hentry, hbinds, rfl⟩, hrule⟩ :=
    exposedLogicalModels_carries (show thousandInfo ∈ exposedLogicalModels thousandCatalog
      (thousandRegistry (some true)) 0 {} by decide +kernel) rfl
  refine ⟨route, {
    maximumOutputTokens := some 1
    explicitModel := some ⟨.lit "acme", .lit "atlas"⟩
    explicitVariant := some entry.identity.variant
    exclusive := by simp }, rfl, ?_⟩
  refine (hrule _ 1 ⟨rfl, rfl, ?_⟩ rfl (by decide)).1.mpr ⟨?_, ?_⟩
  · rintro _ ⟨⟩
    exact ⟨entry, hentry, hbinds, rfl⟩
  · intro hnone
    cases hnone
  · intro hcontrol
    rw [(capabilities_of_thousandRegistry hread hroute).2] at hcontrol
    cases hcontrol

/-- A channel without output control advertises the hard maximum of 1000 tokens, and carries no
    request for a single one. -/
theorem exposedLogicalModels_not_executable :
    thousandInfo ∈ exposedLogicalModels thousandCatalog (thousandRegistry (some false)) 0 {} ∧
    thousandInfo.maxOutputTokens = some 1000 ∧
    ∀ read, (thousandRegistry (some false)).registrySnapshot 0 = .ok read →
      ∀ route ∈ read.toSnapshot.entries, ∀ request : RequestBinding,
        request.maximumOutputTokens = some 1 →
          requestOutputCode thousandCatalog request route ≠ none := by
  refine ⟨by decide +kernel, rfl, fun read hread route hroute request hrequested hcode => ?_⟩
  unfold requestOutputCode at hcode
  dsimp only at hcode
  rw [hrequested, routeOutputCode_eq_none, (capabilities_of_thousandRegistry hread hroute).2] at hcode
  obtain ⟨-, maximum, hmaximum, hle⟩ := hcode.2.2 rfl
  obtain ⟨entry, hentry, hhard⟩ := exists_of_requestOutputContext hmaximum
  obtain rfl := List.mem_singleton.mp hentry
  obtain rfl := Option.some.inj (Option.mem_def.mp hhard)
  exact absurd hle (by decide)

end ScarcityRouter
