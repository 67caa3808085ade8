import ScarcityRouter.Gateway.Concurrency
import ScarcityRouter.Gateway.OutputLimits
import ScarcityRouter.Registry.Sources

namespace ScarcityRouter

open ScarcityRouter.Lib

/-!
# The server configuration

`server_config.py`: the one document of everything an administrator configures.

* `ConfigurationFields` — the fields of a configuration, before its constructor checks them.
* `ServerConfiguration` — a configuration, with the checks of its constructor as fields.
* `ConfigurationFields.make` — the constructor, and `make_eq_ok` — **what it accepts.**

The documents that are read and written here are represented by the configurations that they are
the documents of.
-/

/-! ### The parts -/

instance {maxLen : ℕ} : DecidableEq (LimitedText maxLen) := inferInstanceAs (DecidableEq (Subtype _))

/-- `ProviderEndpointConfig`: an endpoint, whose credential is never part of it. -/
structure ProviderEndpointConfig where
  providerId : SafeId
  adapterId : SafeId
  baseUrl : Text
  label : LimitedText 200 := ⟨[], by decide⟩
  deriving DecidableEq

/-- `ResourceConfig`: the registration of a resource, and the bindings of its channel. -/
structure ResourceConfig where
  registration : ResourceRegistration
  enabled : Bool := true
  endpointId : Option SafeId := none
  workerId : Option SafeId := none
  localAdapterId : Option SafeId := none
  deriving DecidableEq

/-- `resource.registration.identity.resource_id`. -/
def ResourceConfig.resourceId (resource : ResourceConfig) : SafeId :=
  resource.registration.identity.resourceId

deriving instance DecidableEq for TokenLimits

theorem concurrency_le : (2 : ℕ+) ≤ 4 := by decide

/-- `GatewayLimits`. -/
structure GatewayLimits extends TokenLimits, ConcurrencyLimits where
  maxRequestBodyBytes : ℕ+ := 16777216
  executionTimeLimitSeconds : ℕ+ := 1200
  maxConcurrentExecutions := 4
  maxConcurrentExecutionsPerClient := 2
  per_client_le : maxConcurrentExecutionsPerClient ≤ maxConcurrentExecutions := by
    first | exact concurrency_le | decide
  deriving DecidableEq

/-- `AuditRetention`. -/
structure AuditRetention where
  maxRecords : ℕ+ := 10000
  maxAgeSeconds : ℕ+ := 2592000
  deriving DecidableEq

/-- A dictionary by identifiers, in insertion order. -/
abbrev IdDict (α : Type) : Type := Table (Prod.fst : SafeId × α → SafeId)

/-! ### Configurations -/

/-- What the constructor of a configuration is given. -/
structure ConfigurationFields where
  providers : List ProviderEndpointConfig := []
  resources : List ResourceConfig := []
  sources : List SourceConfig := []
  aliases : IdDict ClientRoutingProfile := {}
  clientAuthorizations : IdDict ClientAuthorization := {}
  adminConstraints : AdministratorConstraints := {}
  limits : GatewayLimits := {}
  auditRetention : AuditRetention := {}
  pairingCodeTtlSeconds : ℕ+ := 900
  sessionTtlSeconds : ℕ+ := 28800
  deriving DecidableEq

/-- The references of the resources to endpoints are to endpoints there are. -/
def ConfigurationFields.EndpointsKnown (f : ConfigurationFields) : Prop :=
  ∀ resource ∈ f.resources, ∀ endpointId ∈ resource.endpointId,
    endpointId ∈ f.providers.map (·.providerId)

instance (f : ConfigurationFields) : Decidable f.EndpointsKnown := by
  unfold ConfigurationFields.EndpointsKnown
  infer_instance

/-- No resource is configured under the id of a derived one. -/
def ConfigurationFields.NoneDerived (f : ConfigurationFields) : Prop :=
  ∀ resource ∈ f.resources, isSourceResourceId resource.resourceId = false

instance (f : ConfigurationFields) : Decidable f.NoneDerived := by
  unfold ConfigurationFields.NoneDerived
  infer_instance

/-- `ServerConfiguration`. -/
structure ServerConfiguration extends ConfigurationFields where
  providers_distinct : (providers.map (·.providerId)).Nodup := by
    first | exact List.nodup_nil | decide
  resources_distinct : (resources.map (·.resourceId)).Nodup := by decide
  sources_distinct : (sources.map (·.sourceId)).Nodup := by decide
  none_derived : toConfigurationFields.NoneDerived := by decide
  endpoints_known : toConfigurationFields.EndpointsKnown := by decide
  deriving DecidableEq

/-- A configuration is its fields. -/
theorem ServerConfiguration.ext_fields {c c' : ServerConfiguration}
    (h : c.toConfigurationFields = c'.toConfigurationFields) : c = c' := by
  obtain ⟨f, _, _, _, _, _⟩ := c
  obtain ⟨f', _, _, _, _, _⟩ := c'
  obtain rfl : f = f' := h
  rfl

/-- A provider is configured under an id. -/
def ConfigurationFields.known (f : ConfigurationFields) (providerId : SafeId) : Bool :=
  f.providers.any (·.providerId == providerId)

/-- The id of the first resource of a kind, as an error names it. -/
def ConfigurationFields.firstWith (f : ConfigurationFields) (p : ResourceConfig → Bool) : Json :=
  (f.resources.find? p).elim .null fun resource => .string resource.resourceId.toText

/-- The constructor of a configuration. -/
def ConfigurationFields.make (f : ConfigurationFields) : Except Fault ServerConfiguration :=
  if hproviders : (f.providers.map (·.providerId)).Nodup then
    if hresources : (f.resources.map (·.resourceId)).Nodup then
      if hsources : (f.sources.map (·.sourceId)).Nodup then
        if hderived : f.NoneDerived then
          if hendpoints : f.EndpointsKnown then
            .ok { f with
              providers_distinct := hproviders
              resources_distinct := hresources
              sources_distinct := hsources
              none_derived := hderived
              endpoints_known := hendpoints }
          else .error (.refused "resource references unknown endpoint"
            (f.firstWith fun resource => resource.endpointId.any (!f.known ·)))
        else .error (.refused "'<source_id>:<slug>' ids are derived from execution sources and must never be configured by hand (D-053)"
          (f.firstWith fun resource => isSourceResourceId resource.resourceId))
      else .error (.stated "duplicate source_id in configuration")
    else .error (.stated "duplicate resource_id in configuration")
  else .error (.stated "duplicate provider_id in configuration")

/-- **The constructor accepts the fields of a configuration**, and no others. -/
theorem ConfigurationFields.make_eq_ok {f : ConfigurationFields} {c : ServerConfiguration} :
    f.make = .ok c ↔ c.toConfigurationFields = f := by
  unfold make
  constructor
  · intro h
    split_ifs at h
    rw [← Except.ok.inj h]
  · rintro rfl
    rw [dif_pos c.providers_distinct, dif_pos c.resources_distinct, dif_pos c.sources_distinct,
      dif_pos c.none_derived, dif_pos c.endpoints_known]

namespace ConfigurationFields

variable (f : ConfigurationFields)

/-- `provider_by_id`. -/
def providerById (providerId : SafeId) : Option ProviderEndpointConfig :=
  f.providers.find? (·.providerId == providerId)

/-- `resource_by_id`. -/
def resourceById (resourceId : SafeId) : Option ResourceConfig :=
  f.resources.find? (·.resourceId == resourceId)

/-- `source_by_id`. -/
def sourceById (sourceId : SafeId) : Option SourceConfig :=
  f.sources.find? (·.sourceId == sourceId)

/-- `enabled_registrations`. -/
def enabledRegistrations : List ResourceRegistration :=
  (f.resources.filter (·.enabled)).map (·.registration)

end ConfigurationFields

end ScarcityRouter
