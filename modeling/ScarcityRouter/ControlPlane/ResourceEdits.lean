import ScarcityRouter.ControlPlane.ConfigRoundTrip

namespace ScarcityRouter

open ScarcityRouter.Lib

/-!
# Edits of configured resources

`control_api.py`: the edits that rebuild a resource field by field, over every field of the
configuration.

* `withEnabled`, `withEndpoint`, `registrationCopy` — the copies.
* `setResourceEnabled`, `removeProvider` — the configurations that the services compute, before
  they are saved.
* `registrationCopy_eq` — the copy of a registration loses nothing.
* `edits_preserve_iff` — **the edits change what they name alone, exactly on resources without a
  local adapter.**
-/

namespace ConfigDocument

/-! ### Copies -/

/-- What a service of the administrator raises while it computes a configuration. -/
inductive EditRaised where
  | notFound (message : String)
  | raised (error : Raised)

variable [Readings]

/-- The copy of a cost by its constructor. -/
def costCopy : Option ResourceCost → Except Raised (Option ResourceCost)
  | none => .ok none
  | some cost => some <$> capacityError (ResourceCost.make cost.observationClass
      cost.inputMicroUsdPerMtoken cost.outputMicroUsdPerMtoken)

/-- `_registration_copy`. -/
def registrationCopy (registration : ResourceRegistration) : Except Raised ResourceRegistration := do
  let identity : ResourceIdentity :=
    { resourceId := registration.identity.resourceId
      channel := registration.identity.channel
      provider := registration.identity.provider
      model := registration.identity.model
      entitlement := registration.identity.entitlement
      variant := registration.identity.variant
      quotaPoolIds := registration.identity.quotaPoolIds
      pools_sorted := registration.identity.pools_sorted }
  -- The capabilities are copied through their dictionary.
  let capabilities ← capabilitiesFromDict (.object registration.capabilities.1.toDict)
  let cost ← costCopy registration.cost
  .ok ⟨identity, registration.freshnessTtlSeconds, registration.pollIntervalSeconds, capabilities,
    cost⟩

/-- `_with_enabled`.  The local adapter is not passed on, so that it takes its default. -/
def withEnabled (resource : ResourceConfig) (enabled : Bool) : Except Raised ResourceConfig := do
  let registration ← registrationCopy resource.registration
  .ok { registration, enabled, endpointId := resource.endpointId, workerId := resource.workerId,
        localAdapterId := none }

/-- `_with_endpoint`.  The local adapter is not passed on either. -/
def withEndpoint (resource : ResourceConfig) (endpointId : Option Text) :
    Except Raised ResourceConfig := do
  let registration ← registrationCopy resource.registration
  .ok { registration, enabled := resource.enabled, endpointId, workerId := resource.workerId,
        localAdapterId := none }

/-! ### Services -/

/-- `resource_by_id(resource_id) is not None`. -/
def ConfigurationFields.hasResource (f : ConfigurationFields) (resourceId : Text) : Bool :=
  f.resources.any fun resource => resource.resourceId.toText = resourceId

/-- `provider_by_id(provider_id) is not None`. -/
def ConfigurationFields.hasProvider (f : ConfigurationFields) (providerId : Text) : Bool :=
  f.providers.any fun provider => provider.1.providerId = providerId

/-- `_updated`: the constructor of a configuration with the given fields replaced. -/
def updated (f : ConfigurationFields) : Except EditRaised ServerConfiguration :=
  (valueError (construct ConfigurationFields.postInit f)).mapError .raised

/-- The configuration that `service_set_resource_enabled` saves. -/
def setResourceEnabled (config : ServerConfiguration) (resourceId : Text) (enabled : Bool) :
    Except EditRaised ServerConfiguration := do
  check (config.1.hasResource resourceId = true) (.notFound "unknown resource")
  let resources ← (config.1.resources.mapM fun resource =>
    if resource.resourceId.toText ≠ resourceId then .ok resource
    else withEnabled resource enabled).mapError .raised
  updated { config.1 with resources }

/-- The configuration that `service_remove_provider` saves. -/
def removeProvider (config : ServerConfiguration) (providerId : Text) :
    Except EditRaised ServerConfiguration := do
  check (config.1.hasProvider providerId = true) (.notFound "unknown provider")
  let resources ← (config.1.resources.mapM fun resource =>
    if resource.endpointId = some providerId then withEndpoint resource none
    else .ok resource).mapError .raised
  updated { config.1 with
    providers := config.1.providers.filter fun provider => provider.1.providerId ≠ providerId
    resources }

/-! ### What the copies keep -/

/-- **The copy of a registration is the registration**: every fact of it is carried over. -/
theorem registrationCopy_eq (registration : ResourceRegistration) :
    registrationCopy registration = .ok registration := by
  have hcost : costCopy registration.cost = .ok registration.cost := by
    unfold costCopy
    split
    · rename_i hnone
      rw [hnone]
    · rename_i cost hsome
      rw [ResourceCost.make, dif_pos cost.priced, capacityError_ok, hsome]
      rfl
  unfold registrationCopy
  rw [capabilitiesFromDict_toDict, ok_bind, hcost, ok_bind]

theorem withEnabled_eq (resource : ResourceConfig) (enabled : Bool) :
    withEnabled resource enabled = .ok { resource with enabled, localAdapterId := none } := by
  unfold withEnabled
  rw [registrationCopy_eq, ok_bind]

theorem withEndpoint_eq (resource : ResourceConfig) (endpointId : Option Text) :
    withEndpoint resource endpointId = .ok { resource with endpointId, localAdapterId := none } := by
  unfold withEndpoint
  rw [registrationCopy_eq, ok_bind]

/-- The configuration with the resources under a condition rewritten. -/
def ConfigurationFields.editResources (f : ConfigurationFields) (p : ResourceConfig → Bool)
    (g : ResourceConfig → ResourceConfig) : ConfigurationFields :=
  { f with resources := f.resources.map fun resource => if p resource then g resource else resource }

/-- A loop that copies some resources rewrites those. -/
theorem mapM_edit {p : ResourceConfig → Prop} [DecidablePred p]
    {copy : ResourceConfig → Except Raised ResourceConfig} {g : ResourceConfig → ResourceConfig}
    (hcopy : ∀ resource, copy resource = .ok (g resource)) (resources : List ResourceConfig) :
    resources.mapM (fun resource => if p resource then copy resource else .ok resource) =
      .ok (resources.map fun resource => if p resource then g resource else resource) := by
  refine mapM_eq_ok_map fun resource _ => ?_
  split_ifs
  · exact hcopy resource
  · rfl

/-- A configuration is constructed from fields that its constructor accepts. -/
theorem updated_of {f : ConfigurationFields} (h : f.postInit = .ok ()) :
    updated f = .ok ⟨f, h⟩ :=
  congrArg (fun x => (valueError x).mapError EditRaised.raised)
    (construct_val (⟨f, h⟩ : ServerConfiguration))

/-- An edit that keeps the ids and names no new endpoint keeps a configuration valid. -/
theorem ConfigurationFields.postInit_editResources {f : ConfigurationFields}
    (providers : List ProviderEndpointConfig) (p : ResourceConfig → Bool)
    (g : ResourceConfig → ResourceConfig) (h : f.postInit = .ok ())
    (hproviders : (providers.map (·.1.providerId)).Nodup)
    (hid : ∀ resource, (g resource).resourceId = resource.resourceId)
    (hendpoint : ∀ resource ∈ f.resources, ∀ t,
      (if p resource then g resource else resource).endpointId = some t →
        t ∈ providers.map (·.1.providerId)) :
    ({ f.editResources p g with providers } : ConfigurationFields).postInit = .ok () := by
  rw [postInit_eq_ok] at h ⊢
  obtain ⟨-, hresources, hsources, hderived, -, hkeys⟩ := h
  have hids : ∀ resource : ResourceConfig,
      (if p resource then g resource else resource).resourceId = resource.resourceId := by
    intro resource
    split_ifs
    · exact hid resource
    · rfl
  have hkept : (f.resources.map fun r => if p r then g r else r).map (·.resourceId) =
      f.resources.map (·.resourceId) := by
    rw [List.map_map]
    exact List.map_congr_left fun resource _ => hids resource
  refine ⟨hproviders, hkept.symm ▸ hresources, hsources, ?_, ?_, hkeys⟩
  · rintro _ hmem
    obtain ⟨resource, hresource, rfl⟩ := List.mem_map.mp hmem
    rw [hids]
    exact hderived resource hresource
  · rintro _ hmem t ht
    obtain ⟨resource, hresource, rfl⟩ := List.mem_map.mp hmem
    exact hendpoint resource hresource t ht

/-- Resources with one id are one. -/
theorem resource_eq_of_id (c : ServerConfiguration) {resource other : ResourceConfig}
    (hresource : resource ∈ c.1.resources) (hother : other ∈ c.1.resources)
    (h : other.resourceId.toText = resource.resourceId.toText) : other = resource :=
  List.inj_on_of_nodup_map (ConfigurationFields.postInit_eq_ok.mp c.2).2.1 hother hresource
    (SafeId.toText_injective h)

/-! ### What the services compute -/

/-- A resource is under the given id. -/
def ResourceConfig.isNamed (resourceId : Text) (resource : ResourceConfig) : Bool :=
  resource.resourceId.toText = resourceId

/-- A resource is attached to the given endpoint. -/
def ResourceConfig.isAttached (providerId : Text) (resource : ResourceConfig) : Bool :=
  resource.endpointId = some providerId

/-- **What enabling and disabling do**: the flag is set, and the local adapter is lost. -/
theorem setResourceEnabled_eq (c : ServerConfiguration) {resource : ResourceConfig}
    (hresource : resource ∈ c.1.resources) (enabled : Bool) :
    ∃ c', setResourceEnabled c resource.resourceId.toText enabled = .ok c' ∧
      c'.1 = c.1.editResources (ResourceConfig.isNamed resource.resourceId.toText)
        fun r => { r with enabled, localAdapterId := none } := by
  obtain ⟨hproviders, -, -, -, hendpoints, -⟩ := ConfigurationFields.postInit_eq_ok.mp c.2
  have hvalid := ConfigurationFields.postInit_editResources c.1.providers
    (ResourceConfig.isNamed resource.resourceId.toText)
    (fun r => { r with enabled, localAdapterId := none }) c.2 hproviders (fun _ => rfl)
    (by
      intro r hr t ht
      split_ifs at ht
      · exact hendpoints r hr t ht
      · exact hendpoints r hr t ht)
  have hloop : (c.1.resources.mapM fun r =>
      if r.resourceId.toText ≠ resource.resourceId.toText then .ok r else withEnabled r enabled) =
      .ok (c.1.editResources (ResourceConfig.isNamed resource.resourceId.toText)
        fun r => { r with enabled, localAdapterId := none }).resources := by
    refine mapM_eq_ok_map fun r _ => ?_
    rw [ite_not, ResourceConfig.isNamed]
    by_cases hid : r.resourceId.toText = resource.resourceId.toText
    · rw [if_pos hid, if_pos (decide_eq_true hid), withEnabled_eq]
    · rw [if_neg hid, if_neg (by simpa using hid)]
  have hfound : c.1.hasResource resource.resourceId.toText = true :=
    List.any_eq_true.mpr ⟨resource, hresource, decide_eq_true rfl⟩
  refine ⟨⟨_, hvalid⟩, ?_, rfl⟩
  unfold setResourceEnabled
  rw [check_pos hfound, ok_bind, hloop]
  exact updated_of hvalid

/-- **What the removal of a provider does**: its resources are detached, and lose their local
    adapters. -/
theorem removeProvider_eq (c : ServerConfiguration) {provider : ProviderEndpointConfig}
    (hprovider : provider ∈ c.1.providers) :
    ∃ c', removeProvider c provider.1.providerId = .ok c' ∧
      c'.1 = { c.1.editResources (ResourceConfig.isAttached provider.1.providerId)
          fun r => { r with endpointId := none, localAdapterId := none } with
        providers := c.1.providers.filter fun p => p.1.providerId ≠ provider.1.providerId } := by
  obtain ⟨hproviders, -, -, -, hendpoints, -⟩ := ConfigurationFields.postInit_eq_ok.mp c.2
  have hvalid := ConfigurationFields.postInit_editResources
    (c.1.providers.filter fun p => p.1.providerId ≠ provider.1.providerId)
    (ResourceConfig.isAttached provider.1.providerId)
    (fun r => { r with endpointId := none, localAdapterId := none }) c.2
    (hproviders.sublist (List.filter_sublist.map _)) (fun _ => rfl)
    (by
      intro r hr t ht
      split_ifs at ht with hattached
      -- A resource that stays attached is attached to another endpoint.
      obtain ⟨p, hp, rfl⟩ := List.mem_map.mp (hendpoints r hr t ht)
      refine List.mem_map.mpr ⟨p, List.mem_filter.mpr ⟨hp, decide_eq_true fun hsame => ?_⟩, rfl⟩
      rw [hsame] at ht
      exact hattached (decide_eq_true ht))
  have hloop := mapM_edit (p := fun r => r.endpointId = some provider.1.providerId)
    (fun r => withEndpoint_eq r none) c.1.resources
  have hfound : c.1.hasProvider provider.1.providerId = true :=
    List.any_eq_true.mpr ⟨provider, hprovider, decide_eq_true rfl⟩
  refine ⟨⟨_, hvalid⟩, ?_, rfl⟩
  unfold removeProvider
  rw [check_pos hfound, ok_bind, hloop]
  have hedit : (c.1.resources.map fun r => if r.endpointId = some provider.1.providerId then
      { r with endpointId := none, localAdapterId := none } else r) =
      (c.1.editResources (ResourceConfig.isAttached provider.1.providerId)
        fun r => { r with endpointId := none, localAdapterId := none }).resources := by
    refine List.map_congr_left fun r _ => ?_
    unfold ResourceConfig.isAttached
    by_cases hattached : r.endpointId = some provider.1.providerId
    · rw [if_pos hattached, if_pos (decide_eq_true hattached)]
    · rw [if_neg hattached, if_neg (by simpa using hattached)]
  show updated _ = _
  rw [hedit]
  exact updated_of hvalid

/-- Two edits of the same resources agree when they agree on each. -/
theorem editResources_inj {f : ConfigurationFields} {p : ResourceConfig → Bool}
    {g g' : ResourceConfig → ResourceConfig} :
    f.editResources p g = f.editResources p g' ↔
      ∀ resource ∈ f.resources, p resource = true → g resource = g' resource := by
  have hlists : f.editResources p g = f.editResources p g' ↔
      (f.resources.map fun r => if p r then g r else r) =
        f.resources.map fun r => if p r then g' r else r := by
    constructor
    · intro h
      exact congrArg ConfigurationFields.resources h
    · intro h
      unfold ConfigurationFields.editResources
      rw [h]
  rw [hlists, List.map_inj_left]
  refine forall₂_congr fun r _ => ?_
  by_cases hp : p r = true <;> simp [hp]

/-- An edit after another of the same resources is one edit. -/
theorem editResources_editResources {f : ConfigurationFields} {p : ResourceConfig → Bool}
    {g g' : ResourceConfig → ResourceConfig} (hp : ∀ resource, p (g resource) = p resource) :
    (f.editResources p g).editResources p g' = f.editResources p (g' ∘ g) := by
  unfold ConfigurationFields.editResources
  dsimp only
  rw [List.map_map]
  congr 1
  refine List.map_congr_left fun r _ => ?_
  by_cases h : p r = true
  · simp [h, hp]
  · simp [h]

/-- An edit that leaves every resource as it is. -/
theorem editResources_id {f : ConfigurationFields} {p : ResourceConfig → Bool} :
    f.editResources p id = f := by
  unfold ConfigurationFields.editResources
  simp

/-! ### What the edits preserve -/

/-- The switch of a resource is the only change. -/
def SwitchesOnly (c : ServerConfiguration) (resource : ResourceConfig) (enabled : Bool) : Prop :=
  ∃ c', setResourceEnabled c resource.resourceId.toText enabled = .ok c' ∧
    c'.1 = c.1.editResources (ResourceConfig.isNamed resource.resourceId.toText)
      fun r => { r with enabled }

/-- Disabling a resource and enabling it again gives the configuration back. -/
def SwitchesBack (c : ServerConfiguration) (resource : ResourceConfig) : Prop :=
  ∃ off on, setResourceEnabled c resource.resourceId.toText false = .ok off ∧
    setResourceEnabled off resource.resourceId.toText true = .ok on ∧ on.1 = c.1

/-- The endpoint of the resources attached to a removed provider is the only change to them. -/
def DetachesOnly (c : ServerConfiguration) (provider : ProviderEndpointConfig) : Prop :=
  ∃ c', removeProvider c provider.1.providerId = .ok c' ∧
    c'.1 = { c.1.editResources (ResourceConfig.isAttached provider.1.providerId)
        fun r => { r with endpointId := none } with
      providers := c.1.providers.filter fun p => p.1.providerId ≠ provider.1.providerId }

theorem switchesOnly_iff (c : ServerConfiguration) {resource : ResourceConfig}
    (hresource : resource ∈ c.1.resources) (enabled : Bool) :
    SwitchesOnly c resource enabled ↔ resource.localAdapterId = none := by
  obtain ⟨c', hrun, hfields⟩ := setResourceEnabled_eq c hresource enabled
  have hedits : SwitchesOnly c resource enabled ↔ ∀ r ∈ c.1.resources,
      ResourceConfig.isNamed resource.resourceId.toText r = true →
        { r with enabled, localAdapterId := none } = { r with enabled } := by
    rw [← editResources_inj, ← hfields]
    constructor
    · rintro ⟨c'', hrun', hfields'⟩
      rw [hrun] at hrun'
      obtain rfl := Except.ok.inj hrun'
      exact hfields'
    · intro h
      exact ⟨c', hrun, h⟩
  rw [hedits]
  constructor
  · intro h
    exact (congrArg ResourceConfig.localAdapterId (h resource hresource (decide_eq_true rfl))).symm
  · intro h r hr hnamed
    obtain rfl := resource_eq_of_id c hresource hr (of_decide_eq_true hnamed)
    rw [h]

theorem switchesBack_iff (c : ServerConfiguration) {resource : ResourceConfig}
    (hresource : resource ∈ c.1.resources) (henabled : resource.enabled = true) :
    SwitchesBack c resource ↔ resource.localAdapterId = none := by
  obtain ⟨off, hoff, hoffFields⟩ := setResourceEnabled_eq c hresource false
  -- The disabled resource is still there, under its id.
  have hthere : { resource with enabled := false, localAdapterId := none } ∈ off.1.resources := by
    rw [hoffFields]
    exact List.mem_map.mpr ⟨resource, hresource, if_pos (decide_eq_true rfl)⟩
  obtain ⟨on, hon, honFields⟩ := setResourceEnabled_eq off hthere true
  have hboth : on.1 = c.1.editResources (ResourceConfig.isNamed resource.resourceId.toText)
      fun r => { r with enabled := true, localAdapterId := none } := by
    rw [honFields, hoffFields]
    exact editResources_editResources fun _ => rfl
  have hedits : SwitchesBack c resource ↔ ∀ r ∈ c.1.resources,
      ResourceConfig.isNamed resource.resourceId.toText r = true →
        { r with enabled := true, localAdapterId := none } = r := by
    have hid := @editResources_inj _ c.1 (ResourceConfig.isNamed resource.resourceId.toText)
      (fun r => { r with enabled := true, localAdapterId := none }) id
    rw [editResources_id, ← hboth] at hid
    constructor
    · rintro ⟨off', on', hoff', hon', hsame⟩
      rw [hoff] at hoff'
      obtain rfl := Except.ok.inj hoff'
      rw [show setResourceEnabled off resource.resourceId.toText true = .ok on from hon] at hon'
      obtain rfl := Except.ok.inj hon'
      exact hid.mp hsame
    · intro h
      exact ⟨off, on, hoff, hon, hid.mpr h⟩
  rw [hedits]
  constructor
  · intro h
    exact (congrArg ResourceConfig.localAdapterId (h resource hresource (decide_eq_true rfl))).symm
  · intro h r hr hnamed
    obtain rfl := resource_eq_of_id c hresource hr (of_decide_eq_true hnamed)
    rw [← henabled, ← h]

theorem detachesOnly_iff (c : ServerConfiguration) {provider : ProviderEndpointConfig}
    (hprovider : provider ∈ c.1.providers) :
    DetachesOnly c provider ↔ ∀ resource ∈ c.1.resources,
      resource.endpointId = some provider.1.providerId → resource.localAdapterId = none := by
  obtain ⟨c', hrun, hfields⟩ := removeProvider_eq c hprovider
  have hedits : DetachesOnly c provider ↔ ∀ r ∈ c.1.resources,
      ResourceConfig.isAttached provider.1.providerId r = true →
        { r with endpointId := none, localAdapterId := none } = { r with endpointId := none } := by
    rw [← editResources_inj]
    constructor
    · rintro ⟨c'', hrun', hfields'⟩
      rw [hrun] at hrun'
      obtain rfl := Except.ok.inj hrun'
      rw [hfields] at hfields'
      have hlists := congrArg ConfigurationFields.resources hfields'
      exact congrArg (fun resources => { c.1 with resources }) hlists
    · intro h
      exact ⟨c', hrun, by rw [hfields, h]⟩
  rw [hedits]
  refine forall₂_congr fun r hr => ?_
  unfold ResourceConfig.isAttached
  rw [decide_eq_true_eq]
  refine imp_congr_right fun _ => ⟨fun h => ?_, fun h => ?_⟩
  · exact (congrArg ResourceConfig.localAdapterId h).symm
  · rw [h]

/-- **The edits preserve what they do not name, exactly on resources without a local adapter**:
    enabling and disabling, disabling and enabling again, and detaching from a removed provider. -/
theorem edits_preserve_iff (c : ServerConfiguration) :
    (∀ resource ∈ c.1.resources, ∀ enabled,
      SwitchesOnly c resource enabled ↔ resource.localAdapterId = none) ∧
    (∀ resource ∈ c.1.resources, resource.enabled = true →
      (SwitchesBack c resource ↔ resource.localAdapterId = none)) ∧
    ∀ provider ∈ c.1.providers, DetachesOnly c provider ↔ ∀ resource ∈ c.1.resources,
      resource.endpointId = some provider.1.providerId → resource.localAdapterId = none :=
  ⟨fun _ hresource enabled => switchesOnly_iff c hresource enabled,
    fun _ hresource henabled => switchesBack_iff c hresource henabled,
    fun _ hprovider => detachesOnly_iff c hprovider⟩

/-- A resource of a worker, dispatched to its local adapter `ollama`. -/
def bridgedResource : ResourceConfig where
  registration :=
    { identity :=
        { resourceId := .lit "home-llama"
          channel := .workerBridged
          provider := .lit "ollama"
          model := .lit "llama"
          entitlement := .localUngated }
      freshnessTtlSeconds := ⟨60, one_le_literal _⟩
      pollIntervalSeconds := none
      capabilities := .empty
      cost := none }
  enabled := true
  endpointId := none
  workerId := some (Text.ofString "home")
  localAdapterId := some (Text.ofString "ollama")

omit [Readings] in
/-- Disabling a resource loses the adapter that it is dispatched to. -/
theorem disable_loses_adapter : ¬ ∀ (_ : Readings) (c : ServerConfiguration),
    ∀ resource ∈ c.1.resources, ∀ enabled, SwitchesOnly c resource enabled := by
  intro h
  let _ : Readings := ⟨fun _ => none, id, fun _ => none, fun _ => none⟩
  have hderived : ∀ r ∈ [bridgedResource], isSourceResourceId r.resourceId = false := by
    decide +kernel
  have hendpoints : ∀ r ∈ [bridgedResource], ∀ t ∈ r.endpointId, t ∈ ([] : List Text) := by
    intro r hr t ht
    rw [List.mem_singleton.mp hr] at ht
    cases ht
  have hvalid : ({ resources := [bridgedResource] } : ConfigurationFields).postInit = .ok () :=
    ConfigurationFields.postInit_eq_ok.mpr ⟨List.nodup_nil, List.nodup_singleton _,
      List.nodup_nil, hderived, hendpoints, nofun, nofun⟩
  have hnone := (switchesOnly_iff ⟨_, hvalid⟩ List.mem_cons_self false).mp
    (h inferInstance ⟨_, hvalid⟩ bridgedResource List.mem_cons_self false)
  cases hnone

end ConfigDocument

end ScarcityRouter
