import ScarcityRouter.ControlPlane.ConfigRecords

namespace ScarcityRouter

open ScarcityRouter.Lib

/-!
# The configuration document

`server_config.py`: the one document that a restart runs from.

* `ConfigDocument.ServerConfiguration` — every field, with what the constructor checks.
* `ServerConfiguration.toDocument` — the document of a configuration.
* `fromDocument` — its reader.
-/

namespace ConfigDocument

/-! ### Configurations -/

/-- A dictionary by texts, in insertion order. -/
abbrev TextDict (α : Type) : Type := Table (Prod.fst : Text × α → Text)

/-- The fields of `ServerConfiguration`. -/
structure ConfigurationFields [Readings] where
  providers : List ProviderEndpointConfig := []
  resources : List ResourceConfig := []
  sources : List SourceConfig := []
  aliases : TextDict ClientRoutingProfile := {}
  clientAuthorizations : TextDict ClientAuthorization := {}
  adminConstraints : AdministratorConstraints := ⟨{}⟩
  limits : GatewayLimits := {}
  auditRetention : AuditRetention := {}
  pairingCodeTtlSeconds : AtLeast 1 := ⟨900, by decide⟩
  sessionTtlSeconds : AtLeast 1 := ⟨28800, by decide⟩

section Constructor

variable [Readings]

/-- `resource.registration.identity.resource_id`. -/
def ResourceConfig.resourceId (resource : ResourceConfig) : SafeId :=
  resource.registration.identity.resourceId

/-- `{provider.provider_id for provider in self.providers}`. -/
def ConfigurationFields.providerIds (f : ConfigurationFields) : List Text :=
  f.providers.map (·.1.providerId)

/-- `ServerConfiguration.__post_init__`. -/
def ConfigurationFields.postInit (f : ConfigurationFields) : Except Fault Unit := do
  check f.providerIds.Nodup (.stated "duplicate provider_id in configuration")
  check (f.resources.map (·.resourceId)).Nodup (.stated "duplicate resource_id in configuration")
  check (f.sources.map (·.1.sourceId)).Nodup (.stated "duplicate source_id in configuration")
  f.resources.forM fun resource =>
    check (isSourceResourceId resource.resourceId = false)
      (.refused "'<source_id>:<slug>' ids are derived from execution sources and must never be configured by hand (D-053)"
        resource.resourceId.json)
  f.resources.forM fun resource =>
    check (∀ endpointId ∈ resource.endpointId, endpointId ∈ f.providerIds)
      (.refused "resource references unknown endpoint" resource.resourceId.json)
  f.aliases.rows.forM fun row => checkSafeId row.1 "server_config.alias"
  f.clientAuthorizations.rows.forM fun row =>
    checkSafeId row.1 "server_config.client_authorization"

end Constructor

/-- `ServerConfiguration`. -/
abbrev ServerConfiguration [Readings] : Type := Checked ConfigurationFields.postInit

/-! ### The document -/

/-- A list of dictionaries that is left out when it is empty. -/
def recordList {α : Type} (toDict : α → Record) (items : List α) : Option Json :=
  nonemptyList (items.map fun item => .object (toDict item))

/-- A dictionary of dictionaries that is left out when it is empty. -/
def recordDict {α : Type} (toDict : α → Record) (dict : TextDict α) : Option Json :=
  nonemptyRecord (dict.rows.map fun row => (row.1, .object (toDict row.2)))

/-- A value that is left out when it is the default. -/
def unlessDefault {α : Type} [DecidableEq α] (default value : α) (write : α → Json) : Option Json :=
  if value = default then none else some (write value)

/-- `ServerConfiguration.to_document`. -/
def ConfigurationFields.toDocument [Readings] (f : ConfigurationFields) : Record :=
  [member "schema_version" (.int 2)] ++
    optionalMember "providers" (recordList (·.1.toDict) f.providers) ++
    optionalMember "resources" (recordList (·.toDict) f.resources) ++
    optionalMember "sources" (recordList (·.1.toDict) f.sources) ++
    optionalMember "aliases" (recordDict ClientRoutingProfile.toDict f.aliases) ++
    optionalMember "client_authorizations"
      (recordDict ClientAuthorization.toDict f.clientAuthorizations) ++
    optionalMember "admin_constraints" (nonemptyRecord f.adminConstraints.toDict) ++
    optionalMember "limits" (unlessDefault {} f.limits fun limits => .object limits.toDict) ++
    optionalMember "audit_retention"
      (unlessDefault {} f.auditRetention fun retention => .object retention.toDict) ++
    optionalMember "pairing_code_ttl_seconds"
      (unlessDefault ⟨900, by decide⟩ f.pairingCodeTtlSeconds fun n => .int n.1) ++
    optionalMember "session_ttl_seconds"
      (unlessDefault ⟨28800, by decide⟩ f.sessionTtlSeconds fun n => .int n.1)

/-- The optional keys of a configuration document. -/
def documentKeys : List String :=
  ["providers", "resources", "sources", "aliases", "client_authorizations", "admin_constraints",
    "limits", "audit_retention", "pairing_code_ttl_seconds", "session_ttl_seconds"]

/-! ### The reader -/

/-- `v_int` without a bound. -/
def vAnyInt (value : Json) (field : String) : Except Fault ℤ :=
  match value with
  | .int n => .ok n
  | value => .error (.expectedInt field value)

/-- `_object_list`. -/
def objectList (dd : Record) (key : String) : Except Raised (List Json) :=
  match dd.get? key with
  | none => .ok []
  | some (.list items) => .ok items
  | some _ => .error (.value (.stated ("server_configuration." ++ key ++ " must be an array")))

/-- The values that `or` passes over. -/
def isFalsy : Json → Bool
  | .null | .bool false | .string [] | .list [] | .object [] => true
  | .int n => n == 0
  | .float (.finite x) => x.significand == 0
  | _ => false

/-- `v_str_object_mapping(dd.get(key) or {}, …)`. -/
def mappingItem (dd : Record) (key : String) : Except Raised Record :=
  match dd.get? key with
  | none => .ok []
  | some value =>
    if isFalsy value then .ok []
    else valueError (vStrObjectMapping value ("server_configuration." ++ key))

/-- One round of the loop over the members of a mapping: the key, then the value, then the
    assignment. -/
def readEntry {α : Type} (field : String) (read : Json → Except ConfigRaised α) (dict : TextDict α)
    (entry : Text × Json) : Except ConfigRaised (TextDict α) := do
  let key ← reading (valueError (vSafeId (.string entry.1) field))
  let value ← read entry.2
  .ok (dict.put (key.toText, value))

/-- An optional integer of the document. -/
def ttlItem (dd : Record) (key : String) (default : AtLeast 1) : Except Raised (AtLeast 1) :=
  itemOr dd key default fun value => valueError (vInt value ("server_configuration." ++ key) 1)

variable [Readings]

/-- The three lists of the document. -/
def listsOf (dd : Record) :
    Except Raised (List ProviderEndpointConfig × List ResourceConfig × List SourceConfig) := do
  let version ← valueError
    (vAnyInt (← dd.item "schema_version") "server_configuration.schema_version")
  check (version = 1 ∨ version = 2)
    (.value (.refused "server_configuration.schema_version is not supported" (.int version)))
  let providers ← (← objectList dd "providers").mapM providerFromDict
  let resources ← (← objectList dd "resources").mapM resourceConfigFromDict
  let sources ← (← objectList dd "sources").mapM sourceFromDict
  check (version < 2 → sources = [])
    (.value (.stated "server_configuration.sources requires schema_version 2"))
  .ok (providers, resources, sources)

/-- The two dictionaries of the document. -/
def dictsOf (dd : Record) :
    Except ConfigRaised (TextDict ClientRoutingProfile × TextDict ClientAuthorization) := do
  let aliases ← (← reading (mappingItem dd "aliases")).foldlM
    (readEntry "server_configuration.alias" clientRoutingProfileFromDict) {}
  let authorizations ← (← reading (mappingItem dd "client_authorizations")).foldlM
    (readEntry "server_configuration.client_id" clientAuthorizationFromDict) {}
  .ok (aliases, authorizations)

/-- `read(dd["admin_constraints"])`, or no constraints. -/
def constraintsOf (dd : Record) : Except ConfigRaised AdministratorConstraints :=
  match dd.get? "admin_constraints" with
  | none => .ok ⟨{}⟩
  | some value => adminConstraintsFromDict value

/-- `ServerConfiguration.from_document`. -/
def fromDocument (document : Json) : Except ConfigRaised ServerConfiguration := do
  let dd ← reading (valueError
    (exactShape document ["schema_version"] documentKeys "server_configuration"))
  let (providers, resources, sources) ← reading (listsOf dd)
  let (aliases, authorizations) ← dictsOf dd
  let adminConstraints ← constraintsOf dd
  let limits ← reading (itemOr dd "limits" {} gatewayLimitsFromDict)
  let auditRetention ← reading (itemOr dd "audit_retention" {} auditRetentionFromDict)
  let pairing ← reading (ttlItem dd "pairing_code_ttl_seconds" ⟨900, by decide⟩)
  let session ← reading (ttlItem dd "session_ttl_seconds" ⟨28800, by decide⟩)
  reading (valueError (construct ConfigurationFields.postInit
    ⟨providers, resources, sources, aliases, authorizations, adminConstraints, limits,
      auditRetention, pairing, session⟩))

end ConfigDocument

end ScarcityRouter
