import ScarcityRouter.ControlPlane.Configuration
import ScarcityRouter.Lib.Effects

namespace ScarcityRouter

open ScarcityRouter.Lib
open ScarcityRouter.Lib.Stateful

/-!
# The control plane

The state that `ControlPlane` of `control_api.py` holds in memory and in its store, and
`_rebuild_application`, which composes the application from it.

* `ControlPlane` — the state; the application and the adapters are objects, with a number each.
* `RebuildSurroundings` — what the functions that a rebuild calls give it at its call: each may
  raise.
* `ControlPlane.rebuildApplication` — the rebuild.
* `Rebuilds`, `rebuildApplication_spec` — **what a rebuild leaves, wherever it fails.**

The publication to observers, which every writer of the state goes through, reads this state and
writes none of it.
-/

/-! ### Exceptions -/

/-- What the functions of the control plane raise. -/
inductive PlaneException where
  /-- `ControlHTTPError`. -/
  | http (status : ℕ) (code : String) (message : Fault)
  /-- `ServerConfigError`. -/
  | serverConfig (message : Fault)
  /-- `ServerStoreError`. -/
  | serverStore (message : String)
  /-- Another `ValueError`, such as a `CompositionError`. -/
  | value (message : Fault)
  /-- `CapacityValidationError` of the registry. -/
  | capacity (error : RegistryError)
  /-- An exception that is no `ValueError`: an I/O error, an error of the database. -/
  | other

namespace PlaneException

/-- `ControlHTTPError.invalid_request`. -/
def invalidRequest (message : Fault) : PlaneException := .http 400 "invalid_request" message

/-- `ControlHTTPError.not_found`. -/
def notFound (message : Fault) : PlaneException := .http 404 "not_found" message

/-- `ControlHTTPError.conflict`. -/
def conflict (message : Fault) : PlaneException := .http 409 "conflict" message

/-- The handler of the services around a save: another `ValueError` than that of a configuration or
    of the store becomes a refused request. -/
def refuseValue : PlaneException → PlaneException
  | .value message => .invalidRequest message
  | e => e

end PlaneException

/-! ### The state -/

/-- An object that the process constructs, with its number: what is constructed again is another
    object, also where its content is the same. -/
structure Constructed (α : Type) where
  number : ℕ
  content : α

/-- `GatewayApplication`, with what it is constructed of; `A` stands for its `AdapterRegistry`. -/
structure GatewayApplication (A : Type) where
  catalog : ModelCatalog
  profiles : TaskProfileCatalog
  policy : SelectorPolicy
  registry : ResourceRegistry
  compatibilityCells : List CompatibilityCell
  adminConstraints : AdministratorConstraints
  aliases : IdDict ClientRoutingProfile
  adapters : Constructed A
  limits : GatewayLimits
  clientKeyDirectory : IdDict String
  clientAuthorizations : IdDict ClientAuthorization

/-- A row of `client_keys`. -/
structure ClientKeyRow where
  clientId : SafeId
  keyHash : String
  label : Text
  observer : Bool
  revoked : Bool := false
  deriving DecidableEq

/-- `get_provider_secret`. -/
abbrev ProviderSecrets : Type := SafeId → Option Text

/-- The tables of the server store that an administrator writes: the document of the configuration,
    the credentials of the providers, and the keys of the clients. -/
structure ServerTables where
  document : Option ServerConfiguration := none
  providerSecrets : ProviderSecrets := fun _ => none
  clientKeys : Table ClientKeyRow.clientId := {}

/-- `active_client_key_hashes`, of the inference clients. -/
def activeClientKeyHashes (clientKeys : Table ClientKeyRow.clientId) : IdDict String where
  rows := sortBy Prod.fst
    ((clientKeys.rows.filter fun row => !row.revoked && !row.observer).map
      fun row => (row.clientId, row.keyHash))
  distinct := by
    rw [((sortBy_perm _ _).map _).nodup_iff, List.map_map]
    exact clientKeys.distinct.sublist (List.filter_sublist.map _)

/-- The retained observations, by resource id. -/
abbrev Observations : Type :=
  Table (fun observation : ResourceObservation => observation.identity.resourceId)

/-- The state of `ControlPlane`.  `constructed` counts the objects it has constructed. -/
structure ControlPlane (A : Type) where
  config : ServerConfiguration
  auditRetention : AuditRetention
  sourceRegistry : SourceRegistry
  observations : Observations
  adapters : Constructed A
  application : Constructed (GatewayApplication A)
  applicationGeneration : ℕ
  tables : ServerTables
  constructed : ℕ
  adapters_lt : adapters.number < constructed
  application_lt : application.number < constructed

variable {A : Type}

namespace ControlPlane

/-- `self._source_registry.sync_configuration(self._config.sources)`. -/
def syncSources (plane : ControlPlane A) : ControlPlane A :=
  { plane with
    sourceRegistry := plane.sourceRegistry.syncConfiguration plane.config.sources
      plane.config.sources_distinct }

/-- A derived resource that is no longer derived. -/
def underived (derived : List ResourceRegistration) (o : ResourceObservation) : Bool :=
  isSourceResourceId o.identity.resourceId &&
    !derived.any (·.identity.resourceId == o.identity.resourceId)

/-- Forget the observations of the derived resources that are no longer derived. -/
def forgetUnderived (derived : List ResourceRegistration) (plane : ControlPlane A) :
    ControlPlane A :=
  { plane with observations := plane.observations.delete (underived derived) }

/-- `self._adapters = …`, of a new object. -/
def bindAdapters (adapters : A) (plane : ControlPlane A) : ControlPlane A :=
  { plane with
    adapters := ⟨plane.constructed, adapters⟩
    constructed := plane.constructed + 1
    adapters_lt := Nat.lt_succ_self _
    application_lt := Nat.lt_succ_of_lt plane.application_lt }

/-- `self._application = …`, of a new object. -/
def install (application : GatewayApplication A) (plane : ControlPlane A) : ControlPlane A :=
  { plane with
    application := ⟨plane.constructed, application⟩
    constructed := plane.constructed + 1
    adapters_lt := Nat.lt_succ_of_lt plane.adapters_lt
    application_lt := Nat.lt_succ_self _ }

/-- `self._application_generation += 1`. -/
def nextGeneration (plane : ControlPlane A) : ControlPlane A :=
  { plane with applicationGeneration := plane.applicationGeneration + 1 }

/-! ### The rebuild -/

/-- `routing_artifacts`: what `load_configured_artifacts` reads. -/
structure ConfiguredArtifacts where
  catalog : ModelCatalog
  profiles : TaskProfileCatalog

/-- What the functions that a rebuild calls give it: they read files, tables and clocks, so that
    the same call may give something else at another time. -/
structure RebuildSurroundings (A : Type) where
  loadConfiguredArtifacts : Except PlaneException ConfiguredArtifacts
  derivedCatalogEntries : SourceRegistry → ModelCatalog → Except PlaneException ModelCatalog
  addConfiguredResources : ModelCatalog → List ResourceRegistration →
    Except PlaneException ModelCatalog
  /-- What the clock of the registry reads when an observation is applied again. -/
  registryClock : SafeId → Timestamp
  /-- The statement of `active_client_key_hashes`. -/
  readClientKeys : Except PlaneException Unit
  resolveDefaultSelectorPolicy : Except PlaneException (Option SelectorPolicy)
  buildAdapterRegistry : ServerConfiguration → ProviderSecrets → SourceRegistry →
    Except PlaneException A
  buildCompatibilityCells : ServerConfiguration → ProviderSecrets → Option SourceRegistry →
    Except PlaneException (List CompatibilityCell)
  /-- The checks of the constructors of the application and of its alias table. -/
  checkApplication : GatewayApplication A → Except PlaneException Unit

/-- Register one resource, and apply what was observed of it. -/
def registerObserved (clock : SafeId → Timestamp) (observations : Observations)
    (registry : ResourceRegistry) (registration : ResourceRegistration) :
    Except PlaneException ResourceRegistry :=
  match registry.register registration with
  | (.error e, _) => .error (.capacity e)
  | (.ok (), registry) =>
    match observations.row? registration.identity.resourceId with
    | none => .ok registry
    | some observation =>
      match registry.applySnapshot (clock registration.identity.resourceId) observation with
      | (.error e, _) => .error (.capacity e)
      | (.ok (), registry) => .ok registry

/-- The derived registrations of the sources, as the rebuild calls for them. -/
def derivedRegistrations (plane : ControlPlane A) :
    Except PlaneException (List ResourceRegistration) :=
  plane.sourceRegistry.derivedRegistrations.mapError .value

/-- `neutral_selector_policy`. -/
def neutralSelectorPolicy : SelectorPolicy where
  resourcePolicy :=
    { policyVersion := 1
      unknownCapacityMode := .degraded
      replenishmentMode := .advisory
      reservations := []
      blackouts := [] }

/-- What the rebuild derives from the configuration and the sources before it writes the
    observations: the catalog, and the derived registrations. -/
def derive (x : RebuildSurroundings A) (artifacts : ConfiguredArtifacts) (plane : ControlPlane A) :
    Except PlaneException (ModelCatalog × List ResourceRegistration) := do
  let catalog ← x.derivedCatalogEntries plane.sourceRegistry artifacts.catalog
  let catalog ← x.addConfiguredResources catalog plane.config.enabledRegistrations
  let derived ← plane.derivedRegistrations
  return (catalog, derived)

/-- What the rebuild assembles before it binds the adapters. -/
structure Assembly (A : Type) where
  registry : ResourceRegistry
  directory : IdDict String
  policy : SelectorPolicy
  adapters : A

/-- The registry, the keys, the policy and the adapters of a rebuild. -/
def assemble (x : RebuildSurroundings A) (derived : List ResourceRegistration)
    (plane : ControlPlane A) : Except PlaneException (Assembly A) := do
  let registry ← (plane.config.enabledRegistrations ++ derived).foldlM
    (registerObserved x.registryClock plane.observations) {}
  x.readClientKeys
  let directory := activeClientKeyHashes plane.tables.clientKeys
  let policy ← x.resolveDefaultSelectorPolicy
  let adapters ←
    x.buildAdapterRegistry plane.config plane.tables.providerSecrets plane.sourceRegistry
  return { registry, directory, policy := policy.getD neutralSelectorPolicy, adapters }

/-- The application of a rebuild. -/
def compose (x : RebuildSurroundings A) (profiles : TaskProfileCatalog) (catalog : ModelCatalog)
    (assembly : Assembly A) (plane : ControlPlane A) :
    Except PlaneException (GatewayApplication A) := do
  let compatibilityCells ←
    x.buildCompatibilityCells plane.config plane.tables.providerSecrets (some plane.sourceRegistry)
  let application : GatewayApplication A :=
    { catalog
      profiles
      policy := assembly.policy
      registry := assembly.registry
      compatibilityCells
      adminConstraints := plane.config.adminConstraints
      aliases := plane.config.aliases
      adapters := plane.adapters
      limits := plane.config.limits
      clientKeyDirectory := assembly.directory
      clientAuthorizations := plane.config.clientAuthorizations }
  x.checkApplication application
  return application

/-- `_rebuild_application`. -/
def rebuildApplication (x : RebuildSurroundings A) :
    Stateful PlaneException (ControlPlane A) Unit := do
  let artifacts ← raise x.loadConfiguredArtifacts
  modify syncSources
  let plane ← get
  let (catalog, derived) ← raise (plane.derive x artifacts)
  modify (forgetUnderived derived)
  let plane ← get
  let assembly ← raise (plane.assemble x derived)
  modify (bindAdapters assembly.adapters)
  let plane ← get
  let application ← raise (plane.compose x artifacts.profiles catalog assembly)
  modify (install application)
  modify nextGeneration

/-! ### What a rebuild leaves -/

variable {x : RebuildSurroundings A} {plane : ControlPlane A}

/-- How a rebuild ends: where it fails, and the state it then leaves. -/
inductive Rebuilds (x : RebuildSurroundings A) (plane : ControlPlane A) :
    Except PlaneException Unit → ControlPlane A → Prop
  | unread {e : PlaneException} (hload : x.loadConfiguredArtifacts = .error e) :
      Rebuilds x plane (.error e) plane
  | underived {artifacts : ConfiguredArtifacts} {e : PlaneException}
      (hload : x.loadConfiguredArtifacts = .ok artifacts)
      (hderive : plane.syncSources.derive x artifacts = .error e) :
      Rebuilds x plane (.error e) plane.syncSources
  | unassembled {artifacts : ConfiguredArtifacts} {catalog : ModelCatalog}
      {derived : List ResourceRegistration} {e : PlaneException}
      (hload : x.loadConfiguredArtifacts = .ok artifacts)
      (hderive : plane.syncSources.derive x artifacts = .ok (catalog, derived))
      (hassemble : (plane.syncSources.forgetUnderived derived).assemble x derived = .error e) :
      Rebuilds x plane (.error e) (plane.syncSources.forgetUnderived derived)
  | uncomposed {artifacts : ConfiguredArtifacts} {catalog : ModelCatalog}
      {derived : List ResourceRegistration} {assembly : Assembly A} {e : PlaneException}
      (hload : x.loadConfiguredArtifacts = .ok artifacts)
      (hderive : plane.syncSources.derive x artifacts = .ok (catalog, derived))
      (hassemble : (plane.syncSources.forgetUnderived derived).assemble x derived = .ok assembly)
      (hcompose : ((plane.syncSources.forgetUnderived derived).bindAdapters
        assembly.adapters).compose x artifacts.profiles catalog assembly = .error e) :
      Rebuilds x plane (.error e)
        ((plane.syncSources.forgetUnderived derived).bindAdapters assembly.adapters)
  | rebuilt {artifacts : ConfiguredArtifacts} {catalog : ModelCatalog}
      {derived : List ResourceRegistration} {assembly : Assembly A}
      {application : GatewayApplication A}
      (hload : x.loadConfiguredArtifacts = .ok artifacts)
      (hderive : plane.syncSources.derive x artifacts = .ok (catalog, derived))
      (hassemble : (plane.syncSources.forgetUnderived derived).assemble x derived = .ok assembly)
      (hcompose : ((plane.syncSources.forgetUnderived derived).bindAdapters
        assembly.adapters).compose x artifacts.profiles catalog assembly = .ok application) :
      Rebuilds x plane (.ok ()) (((plane.syncSources.forgetUnderived derived).bindAdapters
        assembly.adapters).install application).nextGeneration

variable (x) (plane) in
/-- **What a rebuild leaves, wherever it fails.** -/
theorem rebuildApplication_spec : Rebuilds x plane ((rebuildApplication x).result plane).1
    ((rebuildApplication x).result plane).2 := by
  apply Leaves.result
  unfold rebuildApplication
  simp only [leaves_bind, leaves_raise, leaves_modify, leaves_get]
  refine ⟨fun artifacts hload => ⟨fun result hderive => ?_, fun e hderive =>
    .underived hload hderive⟩, fun e hload => .unread hload⟩
  obtain ⟨catalog, derived⟩ := result
  refine ⟨fun assembly hassemble => ⟨fun application hcompose => ?_, fun e hcompose =>
    .uncomposed hload hderive hassemble hcompose⟩, fun e hassemble =>
      .unassembled hload hderive hassemble⟩
  exact .rebuilt hload hderive hassemble hcompose

/-- A rebuild ends in the one way it ends. -/
theorem Rebuilds.result_eq {outcome : Except PlaneException Unit} {after : ControlPlane A}
    (h : Rebuilds x plane outcome after) :
    (rebuildApplication x).result plane = (outcome, after) := by
  unfold rebuildApplication
  cases h with
  | unread hload => simp only [result_bind, result_raise, hload]
  | underived hload hderive =>
    simp only [result_bind, result_raise, result_modify, result_get, hload, hderive]
  | unassembled hload hderive hassemble =>
    simp only [result_bind, result_raise, result_modify, result_get, hload, hderive, hassemble]
  | uncomposed hload hderive hassemble hcompose =>
    simp only [result_bind, result_raise, result_modify, result_get, hload, hderive, hassemble,
      hcompose]
  | rebuilt hload hderive hassemble hcompose =>
    simp only [result_bind, result_raise, result_modify, result_get, hload, hderive, hassemble,
      hcompose]

/-- The application is the one that is built from the configuration, the sources, the observations
    and the credentials of the state. -/
structure ComposedFrom (x : RebuildSurroundings A) (plane : ControlPlane A) : Prop where
  artifacts : ∃ artifacts derived, x.loadConfiguredArtifacts = .ok artifacts ∧
    plane.application.content.profiles = artifacts.profiles ∧
    plane.derive x artifacts = .ok (plane.application.content.catalog, derived) ∧
    (plane.config.enabledRegistrations ++ derived).foldlM
      (registerObserved x.registryClock plane.observations) {} =
        .ok plane.application.content.registry
  policy : ∃ policy, x.resolveDefaultSelectorPolicy = .ok policy ∧
    plane.application.content.policy = policy.getD neutralSelectorPolicy
  cells : x.buildCompatibilityCells plane.config plane.tables.providerSecrets
    (some plane.sourceRegistry) = .ok plane.application.content.compatibilityCells
  adapters : plane.application.content.adapters = plane.adapters ∧
    x.buildAdapterRegistry plane.config plane.tables.providerSecrets plane.sourceRegistry =
      .ok plane.adapters.content
  clientKeyDirectory : plane.application.content.clientKeyDirectory =
    activeClientKeyHashes plane.tables.clientKeys
  adminConstraints : plane.application.content.adminConstraints = plane.config.adminConstraints
  aliases : plane.application.content.aliases = plane.config.aliases
  limits : plane.application.content.limits = plane.config.limits
  clientAuthorizations :
    plane.application.content.clientAuthorizations = plane.config.clientAuthorizations

/-- **A rebuild that returns has built its application from the state it leaves.** -/
theorem Rebuilds.composedFrom {after : ControlPlane A} (h : Rebuilds x plane (.ok ()) after) :
    ComposedFrom x after := by
  cases h with
  | @rebuilt artifacts catalog derived assembly application hload hderive hassemble hcompose =>
    obtain ⟨registry, hregistry, hassemble⟩ := bind_eq_ok.mp hassemble
    obtain ⟨_, _, hassemble⟩ := bind_eq_ok.mp hassemble
    obtain ⟨policy, hpolicy, hassemble⟩ := bind_eq_ok.mp hassemble
    obtain ⟨adapters, hadapters, hassemble⟩ := bind_eq_ok.mp hassemble
    obtain rfl := Except.ok.inj hassemble
    obtain ⟨cells, hcells, hcompose⟩ := bind_eq_ok.mp hcompose
    obtain ⟨_, _, hcompose⟩ := bind_eq_ok.mp hcompose
    obtain rfl := Except.ok.inj hcompose
    exact
      { artifacts := ⟨artifacts, derived, hload, rfl, hderive, hregistry⟩
        policy := ⟨policy, hpolicy, rfl⟩
        cells := hcells
        adapters := ⟨rfl, hadapters⟩
        clientKeyDirectory := rfl
        adminConstraints := rfl
        aliases := rfl
        limits := rfl
        clientAuthorizations := rfl }

/-- What a rebuild keeps, wherever it fails. -/
theorem Rebuilds.kept {outcome : Except PlaneException Unit} {after : ControlPlane A}
    (h : Rebuilds x plane outcome after) :
    after.config = plane.config ∧ after.tables = plane.tables := by
  cases h <;> exact ⟨rfl, rfl⟩

/-! ### A first run -/

/-- Artifacts that name no model. -/
def emptyArtifacts : ConfiguredArtifacts where
  catalog :=
    { catalogVersion := none
      updatedOn := none
      entries := []
      unique := List.nodup_nil }
  profiles := ⟨[], noProfiles_sorted⟩

/-- Surroundings in which nothing fails. -/
def quietSurroundings : RebuildSurroundings Unit where
  loadConfiguredArtifacts := .ok emptyArtifacts
  derivedCatalogEntries _ catalog := .ok catalog
  addConfiguredResources catalog _ := .ok catalog
  registryClock _ := 0
  readClientKeys := .ok ()
  resolveDefaultSelectorPolicy := .ok none
  buildAdapterRegistry _ _ _ := .ok ()
  buildCompatibilityCells _ _ _ := .ok []
  checkApplication _ := .ok ()

/-- The control plane of a first run, with the neutral configuration. -/
def firstRun : ControlPlane Unit where
  config := {}
  auditRetention := {}
  sourceRegistry := {}
  observations := {}
  adapters := ⟨0, ()⟩
  application := ⟨1,
    { catalog := emptyArtifacts.catalog
      profiles := emptyArtifacts.profiles
      policy := neutralSelectorPolicy
      registry := {}
      compatibilityCells := []
      adminConstraints := {}
      aliases := {}
      adapters := ⟨0, ()⟩
      limits := {}
      clientKeyDirectory := {}
      clientAuthorizations := {} }⟩
  applicationGeneration := 1
  tables := {}
  constructed := 2
  adapters_lt := by decide
  application_lt := by decide

end ControlPlane

end ScarcityRouter
