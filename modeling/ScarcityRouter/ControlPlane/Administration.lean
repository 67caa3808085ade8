import ScarcityRouter.ControlPlane.Saves
import ScarcityRouter.Worker.IdentityStore

namespace ScarcityRouter

open ScarcityRouter.Lib
open ScarcityRouter.Lib.Stateful

/-!
# Administrator operations

`service_add_provider`, `service_remove_provider` and `service_issue_client_key` of
`control_api.py`: each writes two or three stores, one after the other.

* `ControlPlane.serviceAddProvider`, `ControlPlane.serviceRemoveProvider`,
  `ControlPlane.serviceIssueClientKey` — the operations.
* `saveConfig_cases` — **the three ways a save ends**, as far as the stores are concerned.
* `StoresKept` — the secrets, the keys, the grants and the configuration are as they were.
* `admin_operations_atomic` — **when an operation that raises keeps the stores.**
-/

variable {A : Type}

namespace ControlPlane

/-! ### What the operations are given -/

/-- What the functions that an administrator operation calls give it. -/
structure AdminSurroundings (A : Type) extends SaveSurroundings A where
  /-- `_validate_endpoint_origin`. -/
  validateEndpointOrigin : Text → Except Fault Unit
  /-- `ClientAuthorization.from_dict`, whose exceptions become refused requests. -/
  clientAuthorizationFromDict : Json → Except PlaneException ClientAuthorization
  /-- The statements on the secrets and on the keys: each is a transaction of its own. -/
  setProviderSecret : Except PlaneException Unit
  deleteProviderSecret : Except PlaneException Unit
  listClientKeys : Except PlaneException Unit
  addClientKey : Except PlaneException Unit
  /-- `client-` and four random bytes. -/
  randomClientId : SafeId
  /-- The hash of `new_client_key`. -/
  newKeyHash : String

/-- `ProviderEndpointConfig.from_dict`. -/
def providerFromDict (validateEndpointOrigin : Text → Except Fault Unit) (document : Record) :
    Except Fault ProviderEndpointConfig := do
  let dd ← exactKeys document ["provider_id", "adapter_id", "base_url"] ["label"]
    "provider_endpoint"
  let providerId ← vStr ((dd.get? "provider_id").getD .null) "provider.provider_id"
  let adapterId ← vStr ((dd.get? "adapter_id").getD .null) "provider.adapter_id"
  let baseUrl ← vStr ((dd.get? "base_url").getD .null) "provider.base_url"
  let label ← (dd.get? "label").elim (.ok []) (vStr · "provider.label")
  let providerId ← vSafeId (.string providerId) "provider.provider_id"
  let adapterId ← vSafeId (.string adapterId) "provider.adapter_id"
  validateEndpointOrigin baseUrl
  if hlabel : label.length ≤ 200 then
    return { providerId, adapterId, baseUrl, label := ⟨label, hlabel⟩ }
  else .error (.stated "provider.label exceeds 200 characters")

/-- The members of a document that are those of a provider. -/
def providerMembers (document : Record) : Record :=
  document.filter fun member =>
    ["provider_id", "adapter_id", "base_url", "label"].any fun key => member.1 = Text.ofString key

/-- The secret of a document: a string that is neither empty nor too long. -/
def checkSecret (document : Record) : Except PlaneException (Option Text) :=
  match document.present "secret" with
  | none => .ok none
  | some (.string secret) =>
    if secret = [] then .error (.invalidRequest (.stated "secret must be a non-empty string"))
    else if 4096 < secret.length then .error (.invalidRequest (.stated "secret is too long"))
    else .ok (some secret)
  | some _ => .error (.invalidRequest (.stated "secret must be a non-empty string"))

/-- The checks of `service_add_provider`, before it writes. -/
def addProviderArguments (x : AdminSurroundings A) (document : Record)
    (config : ServerConfiguration) :
    Except PlaneException (ProviderEndpointConfig × Option Text) := do
  let provider ← (providerFromDict x.validateEndpointOrigin (providerMembers document)).mapError
    .invalidRequest
  match config.providerById provider.providerId with
  | some _ => .error (.conflict (.refused "already exists" (.string provider.providerId.toText)))
  | none =>
    let secret ← checkSecret document
    return (provider, secret)

/-- What a client key is issued for. -/
structure KeyArguments where
  clientId : SafeId
  label : Text
  observer : Bool
  grant : Option ClientAuthorization

/-- The label of a document: stripped, not empty, and not too long. -/
def checkLabel (document : Record) : Except PlaneException Text :=
  match document.present "label" with
  | some (.string label) =>
    if strip label = [] then .error (.invalidRequest (.stated "label is required"))
    else if 200 < (strip label).length then .error (.invalidRequest (.stated "label is too long"))
    else .ok (strip label)
  | _ => .error (.invalidRequest (.stated "label is required"))

/-- The role of a document. -/
def checkRole (document : Record) : Except PlaneException Bool :=
  match (document.get? "role").getD (.string (Text.ofString "inference")) with
  | .string role =>
    if role = Text.ofString "inference" then .ok false
    else if role = Text.ofString "observer" then .ok true
    else .error (.invalidRequest (.stated "role must be inference or observer"))
  | _ => .error (.invalidRequest (.stated "role must be inference or observer"))

/-- The client id of a document, or a new one. -/
def checkClientId (x : AdminSurroundings A) (document : Record) : Except PlaneException SafeId :=
  match document.present "client_id" with
  | none => .ok x.randomClientId
  | some (.string clientId) =>
    (vSafeId (.string clientId) "client_id").mapError fun _ =>
      .invalidRequest (.stated "unsafe client_id")
  | some _ => .error (.invalidRequest (.stated "client_id must be a string"))

/-- The checks of `service_issue_client_key`, before it writes. -/
def issueArguments (x : AdminSurroundings A) (document : Record)
    (clientKeys : Table ClientKeyRow.clientId) : Except PlaneException KeyArguments := do
  let observer ← checkRole document
  check (¬ (observer ∧ (document.present "authorization").isSome))
    (.invalidRequest (.stated "observer keys cannot have inference authorization"))
  let label ← checkLabel document
  let clientId ← checkClientId x document
  x.listClientKeys
  check (clientKeys.row? clientId).isNone
    (.conflict (.refused "already exists" (.string clientId.toText)))
  match document.present "authorization" with
  | none => return { clientId, label, observer, grant := none }
  | some authorization =>
    let grant ← x.clientAuthorizationFromDict authorization
    return { clientId, label, observer, grant := some grant }

/-! ### The operations -/

/-- `self._save_config(self._updated(…))`. -/
def saveUpdated (x : SaveSurroundings A) (f : ConfigurationFields) :
    Stateful PlaneException (ControlPlane A) Unit := do
  let config ← raise (f.make.mapError .serverConfig)
  saveConfig x config

/-- `set_provider_secret`. -/
def setSecret (providerId : SafeId) (secret : Text) (plane : ControlPlane A) : ControlPlane A :=
  { plane with tables := { plane.tables with
      providerSecrets := Function.update plane.tables.providerSecrets providerId (some secret) } }

/-- `delete_provider_secret`. -/
def deleteSecret (providerId : SafeId) (plane : ControlPlane A) : ControlPlane A :=
  { plane with tables := { plane.tables with
      providerSecrets := Function.update plane.tables.providerSecrets providerId none } }

/-- `add_client_key`, once its row is known to be a new one. -/
def insertKey (row : ClientKeyRow) (plane : ControlPlane A) : ControlPlane A :=
  { plane with tables := { plane.tables with clientKeys := plane.tables.clientKeys.put row } }

/-- The configuration with one provider more. -/
def withProvider (config : ServerConfiguration) (provider : ProviderEndpointConfig) :
    ConfigurationFields :=
  { config.toConfigurationFields with providers := config.providers ++ [provider] }

/-- `service_add_provider`. -/
def serviceAddProvider (x : AdminSurroundings A) (document : Record) :
    Stateful PlaneException (ControlPlane A) SafeId := do
  let plane ← get
  let (provider, secret) ← raise (addProviderArguments x document plane.config)
  match secret with
  | none => pure ()
  | some secret =>
    raise x.setProviderSecret
    modify (setSecret provider.providerId secret)
  tryCatch (saveUpdated x.toSaveSurroundings (withProvider plane.config provider))
    fun e => throw e.refuseValue
  return provider.providerId

/-- `_with_endpoint`: the copy has no local adapter. -/
def withEndpoint (resource : ResourceConfig) (endpointId : Option SafeId) : ResourceConfig :=
  { registration := resource.registration
    enabled := resource.enabled
    endpointId
    workerId := resource.workerId }

/-- The configuration without a provider, whose resources are unbound. -/
def withoutProvider (config : ServerConfiguration) (providerId : SafeId) : ConfigurationFields :=
  { config.toConfigurationFields with
    providers := config.providers.filter (·.providerId ≠ providerId)
    resources := config.resources.map fun resource =>
      if resource.endpointId = some providerId then withEndpoint resource none else resource }

/-- `service_remove_provider`. -/
def serviceRemoveProvider (x : AdminSurroundings A) (providerId : SafeId) :
    Stateful PlaneException (ControlPlane A) Unit := do
  let plane ← get
  match plane.config.providerById providerId with
  | none => throw (.notFound (.stated "unknown provider"))
  | some _ =>
    raise x.deleteProviderSecret
    modify (deleteSecret providerId)
    saveUpdated x.toSaveSurroundings (withoutProvider plane.config providerId)

/-- The configuration with a grant. -/
def withGrant (config : ServerConfiguration) (clientId : SafeId) (grant : ClientAuthorization) :
    ConfigurationFields :=
  { config.toConfigurationFields with
    clientAuthorizations := config.clientAuthorizations.put (clientId, grant) }

/-- The row of a key. -/
def keyRow (x : AdminSurroundings A) (key : KeyArguments) : ClientKeyRow where
  clientId := key.clientId
  keyHash := x.newKeyHash
  label := key.label
  observer := key.observer

/-- The part of `service_issue_client_key` that saves the grant, if there is one. -/
def saveGrant (x : AdminSurroundings A) (plane : ControlPlane A) (key : KeyArguments) :
    Stateful PlaneException (ControlPlane A) Unit :=
  match key.grant with
  | none => pure ()
  | some grant => saveUpdated x.toSaveSurroundings (withGrant plane.config key.clientId grant)

/-- `service_issue_client_key`. -/
def serviceIssueClientKey (x : AdminSurroundings A) (document : Record) :
    Stateful PlaneException (ControlPlane A) SafeId := do
  let plane ← get
  let key ← raise (issueArguments x document plane.tables.clientKeys)
  saveGrant x plane key
  raise x.addClientKey
  modify (insertKey (keyRow x key))
  rebuildApplication x.toRebuildSurroundings
  return key.clientId

/-! ### What a save does to the stores -/

section Stores

variable {x : SaveSurroundings A} {config : ServerConfiguration} {plane s : ControlPlane A}

/-- A save fails in its checks. -/
def SaveRejected (x : SaveSurroundings A) (config : ServerConfiguration) (plane : ControlPlane A) :
    Prop :=
  ∃ e, x.check config plane.tables.providerSecrets = .error e

/-- A save passes its checks, and neither the rebuild nor the write of the document fails. -/
def SaveReturns (x : SaveSurroundings A) (config : ServerConfiguration) (plane : ControlPlane A) :
    Prop :=
  x.check config plane.tables.providerSecrets = .ok () ∧
    (∃ rebuilt, Rebuilds x.toRebuildSurroundings (plane.adopt config) (.ok ()) rebuilt) ∧
    x.saveConfigurationDocument = .ok ()

/-- The three ways a save ends, as far as the stores are concerned. -/
inductive SaveEnds (x : SaveSurroundings A) (config : ServerConfiguration)
    (plane : ControlPlane A) : Except PlaneException Unit × ControlPlane A → Prop
  | rejected {e : PlaneException} (hrejected : SaveRejected x config plane) :
      SaveEnds x config plane (.error e, plane)
  | disturbed {e : PlaneException} {after : ControlPlane A}
      (hchecked : ¬ SaveRejected x config plane) (hfailed : ¬ SaveReturns x config plane)
      (hconfig : after.config = config) (htables : after.tables = plane.tables) :
      SaveEnds x config plane (.error e, after)
  | returned {after : ControlPlane A} (hreturns : SaveReturns x config plane)
      (hconfig : after.config = config)
      (htables : after.tables = { plane.tables with document := some config }) :
      SaveEnds x config plane (.ok (), after)

/-- A save that passes its checks is not rejected. -/
theorem not_saveRejected (h : x.check config plane.tables.providerSecrets = .ok ()) :
    ¬ SaveRejected x config plane := by
  rintro ⟨e, he⟩
  rw [h] at he
  cases he

variable (x) (config) (plane) in
/-- **The three ways a save ends.** -/
theorem saveConfig_cases : SaveEnds x config plane ((saveConfig x config).result plane) := by
  have hspec := saveConfig_spec x config plane
  generalize (saveConfig x config).result plane = ended at hspec ⊢
  obtain ⟨outcome, after⟩ := ended
  dsimp only at hspec
  cases hspec with
  | rejected hcheck => exact .rejected ⟨_, hcheck⟩
  | unbuilt hcheck hrebuild =>
    refine .disturbed (not_saveRejected hcheck) ?_ hrebuild.kept.1 hrebuild.kept.2
    rintro ⟨-, ⟨rebuilt, hrebuilt⟩, -⟩
    cases (Prod.mk.inj (hrebuild.result_eq.symm.trans hrebuilt.result_eq)).1
  | unwritten hcheck hrebuild hwrite =>
    refine .disturbed (not_saveRejected hcheck) ?_ hrebuild.kept.1 hrebuild.kept.2
    rintro ⟨-, -, hwritten⟩
    rw [hwrite] at hwritten
    cases hwritten
  | @saved rebuilt hcheck hrebuild hwrite =>
    obtain ⟨hconfig, htables⟩ := hrebuild.kept
    refine .returned ⟨hcheck, ⟨_, hrebuild⟩, hwrite⟩ hconfig ?_
    show { rebuilt.tables with document := some rebuilt.config } = _
    rw [hconfig, htables]
    rfl

/-- The secrets, the keys, the grants and the configuration, in memory and on disk, are as they
    were. -/
structure StoresKept (plane after : ControlPlane A) : Prop where
  config : after.config = plane.config
  tables : after.tables = plane.tables

/-- An operation that raises keeps the stores. -/
def RaisesCleanly {α : Type} (plane : ControlPlane A)
    (ended : Except PlaneException α × ControlPlane A) : Prop :=
  ∀ e, ended.1 = .error e → StoresKept plane ended.2

/-- **When a save that is part of an operation keeps the stores as the operation found them.** -/
theorem raisesCleanly_saveConfig :
    RaisesCleanly plane ((saveConfig x config).result s) ↔
      SaveReturns x config s ∨ (SaveRejected x config s ∧ StoresKept plane s) ∨
        (¬ SaveRejected x config s ∧ config = plane.config ∧ s.tables = plane.tables) := by
  have hends := saveConfig_cases x config s
  generalize (saveConfig x config).result s = ended at hends ⊢
  cases hends with
  | @rejected e hrejected =>
    have hfailed : ¬ SaveReturns x config s := fun h => not_saveRejected h.1 hrejected
    constructor
    · intro h
      exact .inr (.inl ⟨hrejected, h e rfl⟩)
    · rintro (hreturns | ⟨-, hkept⟩ | ⟨hchecked, -⟩)
      · exact absurd hreturns hfailed
      · exact fun _ _ => hkept
      · exact absurd hrejected hchecked
  | @disturbed e after hchecked hfailed hconfig htables =>
    constructor
    · intro h
      obtain ⟨hsame, hsameTables⟩ := h e rfl
      exact .inr (.inr ⟨hchecked, hconfig.symm.trans hsame, htables.symm.trans hsameTables⟩)
    · rintro (hreturns | ⟨hrejected, -⟩ | ⟨-, hsame, hsameTables⟩)
      · exact absurd hreturns hfailed
      · exact absurd hrejected hchecked
      · exact fun _ _ => ⟨hconfig.trans hsame, htables.trans hsameTables⟩
  | returned hreturns _ _ => exact iff_of_true nofun (.inl hreturns)

end Stores

/-! ### The configurations that are saved -/

section Edits

variable {config : ServerConfiguration} {provider : ProviderEndpointConfig}
  {providerId clientId : SafeId} {grant : ClientAuthorization}

/-- A new provider leaves the configuration well formed. -/
theorem exists_withProvider (h : config.providerById provider.providerId = none) :
    ∃ c : ServerConfiguration, c.toConfigurationFields = withProvider config provider := by
  have hnew : provider.providerId ∉ config.providers.map (·.providerId) := by
    intro hmem
    obtain ⟨other, hother, hid⟩ := List.mem_map.mp hmem
    have hnone := List.find?_eq_none.mp h other hother
    exact hnone (beq_iff_eq.mpr hid)
  refine ⟨{ withProvider config provider with
    providers_distinct := ?_
    resources_distinct := config.resources_distinct
    sources_distinct := config.sources_distinct
    none_derived := config.none_derived
    endpoints_known := ?_ }, rfl⟩
  · show ((config.providers ++ [provider]).map (·.providerId)).Nodup
    rw [List.map_append, List.map_singleton]
    exact config.providers_distinct.append (List.nodup_singleton _)
      (List.disjoint_singleton.mpr hnew)
  · intro resource hresource endpointId hendpoint
    show endpointId ∈ (config.providers ++ [provider]).map (·.providerId)
    rw [List.map_append]
    exact List.mem_append_left _ (config.endpoints_known resource hresource endpointId hendpoint)

/-- The endpoint of a resource of a configuration without a provider is another one. -/
theorem withoutProvider_endpoint {resource : ResourceConfig} {endpointId : SafeId}
    (h : (if resource.endpointId = some providerId then withEndpoint resource none
      else resource).endpointId = some endpointId) :
    resource.endpointId = some endpointId ∧ endpointId ≠ providerId := by
  split_ifs at h with hbound
  · cases h
  · refine ⟨h, ?_⟩
    rintro rfl
    exact hbound h

variable (config) (providerId) in
/-- A configuration without one of its providers is well formed. -/
theorem exists_withoutProvider :
    ∃ c : ServerConfiguration, c.toConfigurationFields = withoutProvider config providerId := by
  have hids : (withoutProvider config providerId).resources.map (·.resourceId) =
      config.resources.map (·.resourceId) := by
    show (config.resources.map fun resource =>
      if resource.endpointId = some providerId then withEndpoint resource none
        else resource).map (·.resourceId) = _
    rw [List.map_map]
    refine List.map_congr_left fun resource _ => ?_
    dsimp only [Function.comp_apply]
    split_ifs <;> rfl
  refine ⟨{ withoutProvider config providerId with
    providers_distinct := config.providers_distinct.sublist (List.filter_sublist.map _)
    resources_distinct := hids ▸ config.resources_distinct
    sources_distinct := config.sources_distinct
    none_derived := ?_
    endpoints_known := ?_ }, rfl⟩
  · intro resource hresource
    have hid : resource.resourceId ∈ config.resources.map (·.resourceId) :=
      hids ▸ List.mem_map_of_mem hresource
    obtain ⟨original, horiginal, heq⟩ := List.mem_map.mp hid
    rw [← heq]
    exact config.none_derived original horiginal
  · intro resource hresource endpointId hendpoint
    obtain ⟨original, horiginal, rfl⟩ := List.mem_map.mp hresource
    obtain ⟨hbound, hne⟩ := withoutProvider_endpoint hendpoint
    obtain ⟨provider, hprovider, rfl⟩ :=
      List.mem_map.mp (config.endpoints_known original horiginal endpointId hbound)
    exact List.mem_map_of_mem (List.mem_filter.mpr ⟨hprovider, by simpa using hne⟩)

variable (config) (clientId) (grant) in
/-- A grant leaves the configuration well formed. -/
theorem exists_withGrant :
    ∃ c : ServerConfiguration, c.toConfigurationFields = withGrant config clientId grant :=
  ⟨{ withGrant config clientId grant with
    providers_distinct := config.providers_distinct
    resources_distinct := config.resources_distinct
    sources_distinct := config.sources_distinct
    none_derived := config.none_derived
    endpoints_known := config.endpoints_known }, rfl⟩

end Edits

variable {x : AdminSurroundings A} {plane : ControlPlane A}

/-- The save of well-formed fields is the save of the configuration they make. -/
theorem saveUpdated_eq {y : SaveSurroundings A} {f : ConfigurationFields} {c : ServerConfiguration}
    (h : c.toConfigurationFields = f) : saveUpdated y f = saveConfig y c := by
  unfold saveUpdated
  rw [ConfigurationFields.make_eq_ok.mpr h]
  rfl

/-! ### Adding a provider -/

/-- The state in which a provider is saved: its secret, if there is one, is stored. -/
def withSecret (providerId : SafeId) (secret : Option Text) (plane : ControlPlane A) :
    ControlPlane A :=
  secret.elim plane (setSecret providerId · plane)

/-- When the addition of a provider keeps the stores if it raises: it is refused before it writes,
    or the provider is added, or the checks of the save fail and there was no secret to store. -/
inductive AddProviderUndisturbed (x : AdminSurroundings A) (document : Record)
    (plane : ControlPlane A) : Prop
  | refused {e : PlaneException} (h : addProviderArguments x document plane.config = .error e)
  | unstored {provider : ProviderEndpointConfig} {secret : Text} {e : PlaneException}
      (h : addProviderArguments x document plane.config = .ok (provider, some secret))
      (hset : x.setProviderSecret = .error e)
  | added {provider : ProviderEndpointConfig} {secret : Option Text} {config : ServerConfiguration}
      (h : addProviderArguments x document plane.config = .ok (provider, secret))
      (hset : secret.isSome → x.setProviderSecret = .ok ())
      (hconfig : config.toConfigurationFields = withProvider plane.config provider)
      (hsave : SaveReturns x.toSaveSurroundings config
        (plane.withSecret provider.providerId secret))
  | rejected {provider : ProviderEndpointConfig} {secret : Option Text}
      {config : ServerConfiguration}
      (h : addProviderArguments x document plane.config = .ok (provider, secret))
      (hset : secret.isSome → x.setProviderSecret = .ok ())
      (hconfig : config.toConfigurationFields = withProvider plane.config provider)
      (hsave : SaveRejected x.toSaveSurroundings config
        (plane.withSecret provider.providerId secret))
      (hsecret : ∀ text, secret = some text →
        plane.tables.providerSecrets provider.providerId = some text)

/-- The handler around the save changes what is raised, and nothing else. -/
theorem raisesCleanly_refuseValue {α : Type} {m : Stateful PlaneException (ControlPlane A) Unit}
    {s : ControlPlane A} {a : α} :
    RaisesCleanly plane ((do
      tryCatch m fun e => throw e.refuseValue
      return a : Stateful PlaneException (ControlPlane A) α).result s) ↔
        RaisesCleanly plane (m.result s) := by
  rw [result_bind, result_tryCatch]
  rcases m.result s with ⟨e | _, after⟩
  · exact ⟨fun h _ _ => h e.refuseValue rfl, fun h _ _ => h e rfl⟩
  · exact iff_of_true nofun nofun

/-- The stores of the state in which a provider is saved are those there were, if its secret was
    stored already. -/
theorem storesKept_withSecret {providerId : SafeId} {secret : Option Text} :
    StoresKept plane (plane.withSecret providerId secret) ↔
      ∀ text, secret = some text → plane.tables.providerSecrets providerId = some text := by
  cases secret with
  | none => exact iff_of_true ⟨rfl, rfl⟩ nofun
  | some text =>
    constructor
    · rintro ⟨-, htables⟩ _ ⟨⟩
      have hsecrets := congrFun (congrArg ServerTables.providerSecrets htables) providerId
      exact hsecrets.symm.trans (Function.update_self _ _ _)
    · intro h
      have hsecrets : Function.update plane.tables.providerSecrets providerId (some text) =
          plane.tables.providerSecrets := by
        rw [← h text rfl, Function.update_eq_self]
      refine ⟨rfl, ?_⟩
      show (⟨_, Function.update plane.tables.providerSecrets providerId (some text), _⟩ :
        ServerTables) = plane.tables
      rw [hsecrets]

/-- A provider is added only under an id that no provider has. -/
theorem addProviderArguments_new {document : Record} {config : ServerConfiguration}
    {provider : ProviderEndpointConfig} {secret : Option Text}
    (h : addProviderArguments x document config = .ok (provider, secret)) :
    config.providerById provider.providerId = none := by
  obtain ⟨parsed, _, h⟩ := bind_eq_ok.mp h
  cases hfound : config.providerById parsed.providerId with
  | some _ =>
    rw [hfound] at h
    cases h
  | none =>
    rw [hfound] at h
    obtain ⟨_, _, h⟩ := bind_eq_ok.mp h
    obtain ⟨rfl, -⟩ := Prod.mk.inj (Except.ok.inj h)
    exact hfound

/-- The condition, for arguments that are accepted and a secret that is stored. -/
theorem addProviderUndisturbed_iff {document : Record} {provider : ProviderEndpointConfig}
    {secret : Option Text} {config : ServerConfiguration}
    (hargs : addProviderArguments x document plane.config = .ok (provider, secret))
    (hset : secret.isSome → x.setProviderSecret = .ok ())
    (hconfig : config.toConfigurationFields = withProvider plane.config provider) :
    AddProviderUndisturbed x document plane ↔
      SaveReturns x.toSaveSurroundings config (plane.withSecret provider.providerId secret) ∨
        (SaveRejected x.toSaveSurroundings config
            (plane.withSecret provider.providerId secret) ∧
          ∀ text, secret = some text →
            plane.tables.providerSecrets provider.providerId = some text) := by
  constructor
  · rintro (h | ⟨h, hset'⟩ | ⟨h, -, hconfig', hsave⟩ | ⟨h, -, hconfig', hsave, hsecret⟩)
    · rw [hargs] at h
      cases h
    · obtain ⟨rfl, rfl⟩ := Prod.mk.inj (Except.ok.inj (hargs.symm.trans h))
      rw [hset rfl] at hset'
      cases hset'
    · obtain ⟨rfl, rfl⟩ := Prod.mk.inj (Except.ok.inj (hargs.symm.trans h))
      obtain rfl := ServerConfiguration.ext_fields (hconfig.trans hconfig'.symm)
      exact .inl hsave
    · obtain ⟨rfl, rfl⟩ := Prod.mk.inj (Except.ok.inj (hargs.symm.trans h))
      obtain rfl := ServerConfiguration.ext_fields (hconfig.trans hconfig'.symm)
      exact .inr ⟨hsave, hsecret⟩
  · rintro (hsave | ⟨hsave, hsecret⟩)
    · exact .added hargs hset hconfig hsave
    · exact .rejected hargs hset hconfig hsave hsecret

/-- **When adding a provider raises cleanly.** -/
theorem raisesCleanly_addProvider {document : Record} :
    RaisesCleanly plane ((serviceAddProvider x document).result plane) ↔
      AddProviderUndisturbed x document plane := by
  unfold serviceAddProvider
  rw [result_bind, result_get]
  dsimp only
  rw [result_bind, result_raise]
  cases hargs : addProviderArguments x document plane.config with
  | error e => exact iff_of_true (fun _ _ => ⟨rfl, rfl⟩) (.refused hargs)
  | ok arguments =>
    obtain ⟨provider, secret⟩ := arguments
    obtain ⟨config, hconfig⟩ := exists_withProvider (addProviderArguments_new hargs)
    have hne : config ≠ plane.config := by
      rintro rfl
      have hproviders := congrArg (·.providers.length) hconfig
      simp [withProvider] at hproviders
    -- What is left once the secret is stored is the save.
    have hsave : RaisesCleanly plane ((do
        tryCatch (saveUpdated x.toSaveSurroundings (withProvider plane.config provider))
          fun e => throw e.refuseValue
        return provider.providerId :
          Stateful PlaneException (ControlPlane A) SafeId).result
            (plane.withSecret provider.providerId secret)) ↔
        SaveReturns x.toSaveSurroundings config (plane.withSecret provider.providerId secret) ∨
          (SaveRejected x.toSaveSurroundings config
              (plane.withSecret provider.providerId secret) ∧
            ∀ text, secret = some text →
              plane.tables.providerSecrets provider.providerId = some text) := by
      rw [raisesCleanly_refuseValue, saveUpdated_eq hconfig, raisesCleanly_saveConfig,
        storesKept_withSecret]
      refine or_congr_right ⟨?_, .inl⟩
      rintro (h | ⟨-, hsame, -⟩)
      · exact h
      · exact absurd hsame hne
    cases secret with
    | none => exact hsave.trans (addProviderUndisturbed_iff hargs nofun hconfig).symm
    | some secret =>
      dsimp only
      rw [result_bind, result_raise]
      cases hset : x.setProviderSecret with
      | error e => exact iff_of_true (fun _ _ => ⟨rfl, rfl⟩) (.unstored hargs hset)
      | ok =>
        exact hsave.trans (addProviderUndisturbed_iff hargs (fun _ => hset) hconfig).symm

/-! ### Removing a provider -/

/-- When the removal of a provider keeps the stores if it raises: it is refused before it writes, or
    the provider is removed, or the checks of the save fail and there was no secret to delete. -/
inductive RemoveProviderUndisturbed (x : AdminSurroundings A) (providerId : SafeId)
    (plane : ControlPlane A) : Prop
  | unknown (h : plane.config.providerById providerId = none)
  | undeleted {e : PlaneException} (hdelete : x.deleteProviderSecret = .error e)
  | removed {config : ServerConfiguration}
      (hconfig : config.toConfigurationFields = withoutProvider plane.config providerId)
      (hsave : SaveReturns x.toSaveSurroundings config (plane.deleteSecret providerId))
  | rejected {config : ServerConfiguration}
      (hconfig : config.toConfigurationFields = withoutProvider plane.config providerId)
      (hsave : SaveRejected x.toSaveSurroundings config (plane.deleteSecret providerId))
      (hsecret : plane.tables.providerSecrets providerId = none)

/-- The stores after the deletion of a secret are those there were, if there was none. -/
theorem storesKept_deleteSecret {providerId : SafeId} :
    StoresKept plane (plane.deleteSecret providerId) ↔
      plane.tables.providerSecrets providerId = none := by
  constructor
  · rintro ⟨-, htables⟩
    have hsecrets := congrFun (congrArg ServerTables.providerSecrets htables) providerId
    exact hsecrets.symm.trans (Function.update_self _ _ _)
  · intro h
    have hsecrets : Function.update plane.tables.providerSecrets providerId none =
        plane.tables.providerSecrets := by
      rw [← h, Function.update_eq_self]
    refine ⟨rfl, ?_⟩
    show (⟨_, Function.update plane.tables.providerSecrets providerId none, _⟩ :
      ServerTables) = plane.tables
    rw [hsecrets]

/-- **When removing a provider raises cleanly.** -/
theorem raisesCleanly_removeProvider {providerId : SafeId} :
    RaisesCleanly plane ((serviceRemoveProvider x providerId).result plane) ↔
      RemoveProviderUndisturbed x providerId plane := by
  unfold serviceRemoveProvider
  rw [result_bind, result_get]
  dsimp only
  cases hprovider : plane.config.providerById providerId with
  | none => exact iff_of_true (fun _ _ => ⟨rfl, rfl⟩) (.unknown hprovider)
  | some provider =>
    dsimp only
    rw [result_bind, result_raise]
    cases hdelete : x.deleteProviderSecret with
    | error e => exact iff_of_true (fun _ _ => ⟨rfl, rfl⟩) (.undeleted hdelete)
    | ok =>
      obtain ⟨config, hconfig⟩ :=
        exists_withoutProvider plane.config providerId
      have hne : config ≠ plane.config := by
        rintro rfl
        -- The provider that was found would have been kept.
        have hproviders : plane.config.providers =
            plane.config.providers.filter (·.providerId ≠ providerId) :=
          congrArg (·.providers) hconfig
        have hmem := List.mem_of_find?_eq_some hprovider
        have hid := List.find?_some hprovider
        rw [hproviders, List.mem_filter] at hmem
        exact of_decide_eq_true hmem.2 (beq_iff_eq.mp hid)
      show RaisesCleanly plane ((saveUpdated x.toSaveSurroundings
        (withoutProvider plane.config providerId)).result (plane.deleteSecret providerId)) ↔ _
      rw [saveUpdated_eq hconfig, raisesCleanly_saveConfig, storesKept_deleteSecret]
      constructor
      · rintro (hsave | ⟨hsave, hsecret⟩ | ⟨-, hsame, -⟩)
        · exact .removed hconfig hsave
        · exact .rejected hconfig hsave hsecret
        · exact absurd hsame hne
      · rintro (h | h | ⟨hconfig', hsave⟩ | ⟨hconfig', hsave, hsecret⟩)
        · rw [hprovider] at h
          cases h
        · rw [hdelete] at h
          cases h
        · obtain rfl := ServerConfiguration.ext_fields (hconfig.trans hconfig'.symm)
          exact .inl hsave
        · obtain rfl := ServerConfiguration.ext_fields (hconfig.trans hconfig'.symm)
          exact .inr (.inl ⟨hsave, hsecret⟩)

/-! ### Issuing a client key -/

/-- When the issue of a key keeps the stores if it raises: it is refused before it writes, or the
    key is issued, or what fails comes before the first store that it changes. -/
inductive IssueUndisturbed (x : AdminSurroundings A) (document : Record) (plane : ControlPlane A) :
    Prop
  | refused {e : PlaneException} (h : issueArguments x document plane.tables.clientKeys = .error e)
  | ungranted {key : KeyArguments} {grant : ClientAuthorization} {config : ServerConfiguration}
      (h : issueArguments x document plane.tables.clientKeys = .ok key)
      (hgrant : key.grant = some grant)
      (hconfig : config.toConfigurationFields = withGrant plane.config key.clientId grant)
      (hsave : SaveRejected x.toSaveSurroundings config plane)
  /-- The grant is the one there is, and the save of it fails. -/
  | unchanged {key : KeyArguments} {grant : ClientAuthorization}
      (h : issueArguments x document plane.tables.clientKeys = .ok key)
      (hgrant : key.grant = some grant)
      (hsame : plane.config.toConfigurationFields = withGrant plane.config key.clientId grant)
      (hfailed : ¬ SaveReturns x.toSaveSurroundings plane.config plane)
  /-- There is no grant to save, and the key is not added. -/
  | unadded {key : KeyArguments} {e : PlaneException}
      (h : issueArguments x document plane.tables.clientKeys = .ok key)
      (hgrant : key.grant = none) (hadd : x.addClientKey = .error e)
  /-- The grant is the one there is, in memory and on disk, and the key is not added. -/
  | rewritten {key : KeyArguments} {grant : ClientAuthorization} {e : PlaneException}
      (h : issueArguments x document plane.tables.clientKeys = .ok key)
      (hgrant : key.grant = some grant)
      (hsame : plane.config.toConfigurationFields = withGrant plane.config key.clientId grant)
      (hdocument : plane.tables.document = some plane.config)
      (hadd : x.addClientKey = .error e)
  | issued {key : KeyArguments} {saved rebuilt : ControlPlane A}
      (h : issueArguments x document plane.tables.clientKeys = .ok key)
      (hsave : (saveGrant x plane key).result plane = (.ok (), saved))
      (hadd : x.addClientKey = .ok ())
      (hrebuild : Rebuilds x.toRebuildSurroundings (saved.insertKey (keyRow x key)) (.ok ())
        rebuilt)

variable {document : Record} {key : KeyArguments}

/-- A key is issued only for a client that has none. -/
theorem issueArguments_new {clientKeys : Table ClientKeyRow.clientId}
    (h : issueArguments x document clientKeys = .ok key) : clientKeys.row? key.clientId = none := by
  obtain ⟨observer, _, h⟩ := bind_eq_ok.mp h
  obtain ⟨-, h⟩ := check_bind_eq_ok.mp h
  obtain ⟨label, _, h⟩ := bind_eq_ok.mp h
  obtain ⟨clientId, _, h⟩ := bind_eq_ok.mp h
  obtain ⟨_, _, h⟩ := bind_eq_ok.mp h
  obtain ⟨hnew, h⟩ := check_bind_eq_ok.mp h
  have hid : key.clientId = clientId := by
    split at h
    · exact congrArg KeyArguments.clientId (Except.ok.inj h).symm
    · obtain ⟨_, _, h⟩ := bind_eq_ok.mp h
      exact congrArg KeyArguments.clientId (Except.ok.inj h).symm
  rw [hid]
  exact Option.isNone_iff_eq_none.mp hnew

/-- A new key is another table of keys. -/
theorem put_ne {clientKeys : Table ClientKeyRow.clientId} {row : ClientKeyRow}
    (h : clientKeys.row? row.clientId = none) : clientKeys.put row ≠ clientKeys := by
  intro hsame
  have hput : (clientKeys.put row).row? row.clientId = some row := by
    rw [Table.row?_put, if_pos rfl]
  rw [hsame, h] at hput
  cases hput

variable (x) (plane) (key) in
/-- What the part that saves the grant comes to: nothing, or the save of a configuration. -/
theorem saveGrant_cases :
    (key.grant = none ∧ (saveGrant x plane key).result plane = (.ok (), plane)) ∨
      ∃ grant config, key.grant = some grant ∧
        config.toConfigurationFields = withGrant plane.config key.clientId grant ∧
        saveGrant x plane key = saveConfig x.toSaveSurroundings config := by
  unfold saveGrant
  cases key.grant with
  | none => exact .inl ⟨rfl, rfl⟩
  | some grant =>
    obtain ⟨config, hconfig⟩ :=
      exists_withGrant plane.config key.clientId grant
    exact .inr ⟨grant, config, rfl, hconfig, saveUpdated_eq hconfig⟩

/-- What is saved with the grant keeps the keys. -/
theorem saveGrant_clientKeys {saved : ControlPlane A}
    (h : (saveGrant x plane key).result plane = (.ok (), saved)) :
    saved.tables.clientKeys = plane.tables.clientKeys := by
  rcases saveGrant_cases x plane key with
    ⟨-, hplain⟩ | ⟨grant, config, -, -, hsave⟩
  · rw [hplain] at h
    rw [← (Prod.mk.inj h).2]
  · have hends := saveConfig_cases x.toSaveSurroundings config plane
    rw [← hsave, h] at hends
    cases hends with
    | returned _ _ htables => rw [htables]

/-- A grant that is saved is saved by a save that returns. -/
theorem saveGrant_returns {saved : ControlPlane A} {grant : ClientAuthorization}
    {config : ServerConfiguration}
    (hsaved : (saveGrant x plane key).result plane = (.ok (), saved))
    (hgrant : key.grant = some grant)
    (hconfig : config.toConfigurationFields = withGrant plane.config key.clientId grant) :
    SaveReturns x.toSaveSurroundings config plane := by
  have hends := saveConfig_cases x.toSaveSurroundings config plane
  have hsave : saveGrant x plane key = saveConfig x.toSaveSurroundings config := by
    unfold saveGrant
    rw [hgrant]
    exact saveUpdated_eq hconfig
  rw [← hsave, hsaved] at hends
  cases hends with
  | returned hreturns _ _ => exact hreturns

/-- What the condition says once the arguments are accepted. -/
theorem issueUndisturbed_of_args (hargs : issueArguments x document plane.tables.clientKeys = .ok key)
    (h : IssueUndisturbed x document plane) :
    (∃ grant config, key.grant = some grant ∧
        config.toConfigurationFields = withGrant plane.config key.clientId grant ∧
        (SaveRejected x.toSaveSurroundings config plane ∨
          (config = plane.config ∧ ¬ SaveReturns x.toSaveSurroundings config plane) ∨
          (config = plane.config ∧ plane.tables.document = some plane.config ∧
            ∃ e, x.addClientKey = .error e))) ∨
      (key.grant = none ∧ ∃ e, x.addClientKey = .error e) ∨
      ∃ saved rebuilt, (saveGrant x plane key).result plane = (.ok (), saved) ∧
        x.addClientKey = .ok () ∧
        Rebuilds x.toRebuildSurroundings (saved.insertKey (keyRow x key)) (.ok ()) rebuilt := by
  cases h with
  | refused h =>
    rw [hargs] at h
    cases h
  | ungranted h hgrant hconfig hsave =>
    obtain rfl := Except.ok.inj (hargs.symm.trans h)
    exact .inl ⟨_, _, hgrant, hconfig, .inl hsave⟩
  | unchanged h hgrant hsame hfailed =>
    obtain rfl := Except.ok.inj (hargs.symm.trans h)
    exact .inl ⟨_, _, hgrant, hsame, .inr (.inl ⟨rfl, hfailed⟩)⟩
  | unadded h hgrant hadd =>
    obtain rfl := Except.ok.inj (hargs.symm.trans h)
    exact .inr (.inl ⟨hgrant, _, hadd⟩)
  | rewritten h hgrant hsame hdocument hadd =>
    obtain rfl := Except.ok.inj (hargs.symm.trans h)
    exact .inl ⟨_, _, hgrant, hsame, .inr (.inr ⟨rfl, hdocument, _, hadd⟩)⟩
  | issued h hsave hadd hrebuild =>
    obtain rfl := Except.ok.inj (hargs.symm.trans h)
    exact .inr (.inr ⟨_, _, hsave, hadd, hrebuild⟩)

/-- When the save of the grant raises, and what it then keeps. -/
theorem storesKept_ungranted {e : PlaneException} {saved : ControlPlane A}
    (hargs : issueArguments x document plane.tables.clientKeys = .ok key)
    (hsaved : (saveGrant x plane key).result plane = (.error e, saved)) :
    StoresKept plane saved ↔ IssueUndisturbed x document plane := by
  rcases saveGrant_cases x plane key with
    ⟨-, hplain⟩ | ⟨grant, config, hgrant, hconfig, hsave⟩
  · rw [hplain] at hsaved
    cases (Prod.mk.inj hsaved).1
  · have hends := saveConfig_cases x.toSaveSurroundings config plane
    rw [← hsave, hsaved] at hends
    cases hends with
    | rejected hrejected =>
      exact iff_of_true ⟨rfl, rfl⟩ (.ungranted hargs hgrant hconfig hrejected)
    | disturbed hchecked hfailed hsavedConfig htables =>
      constructor
      · rintro ⟨hsame, -⟩
        obtain rfl : config = plane.config := hsavedConfig.symm.trans hsame
        exact .unchanged hargs hgrant hconfig hfailed
      · intro h
        have hkept : config = plane.config := by
          rcases issueUndisturbed_of_args hargs h with
            ⟨grant', config', hgrant', hconfig', hcase⟩ | ⟨hnone, -⟩ | ⟨saved', _, hsaved', -⟩
          · obtain rfl := Option.some.inj (hgrant.symm.trans hgrant')
            obtain rfl := ServerConfiguration.ext_fields (hconfig.trans hconfig'.symm)
            rcases hcase with hrejected | ⟨hsame, -⟩ | ⟨hsame, -⟩
            · exact absurd hrejected hchecked
            · exact hsame
            · exact hsame
          · rw [hgrant] at hnone
            cases hnone
          · rw [hsaved] at hsaved'
            cases (Prod.mk.inj hsaved').1
        exact ⟨hsavedConfig.trans hkept, htables⟩

/-- When the key is not added, what is kept. -/
theorem storesKept_unadded {e : PlaneException} {saved : ControlPlane A}
    (hargs : issueArguments x document plane.tables.clientKeys = .ok key)
    (hsaved : (saveGrant x plane key).result plane = (.ok (), saved))
    (hadd : x.addClientKey = .error e) :
    StoresKept plane saved ↔ IssueUndisturbed x document plane := by
  rcases saveGrant_cases x plane key with
    ⟨hgrant, hplain⟩ | ⟨grant, config, hgrant, hconfig, hsave⟩
  · obtain rfl := (Prod.mk.inj (hplain.symm.trans hsaved)).2
    exact iff_of_true ⟨rfl, rfl⟩ (.unadded hargs hgrant hadd)
  · have hends := saveConfig_cases x.toSaveSurroundings config plane
    rw [← hsave, hsaved] at hends
    cases hends with
    | returned hreturns hsavedConfig htables =>
      constructor
      · rintro ⟨hsame, hsameTables⟩
        obtain rfl : config = plane.config := hsavedConfig.symm.trans hsame
        have hdocument : plane.tables.document = some plane.config :=
          congrArg ServerTables.document (hsameTables.symm.trans htables)
        exact .rewritten hargs hgrant hconfig hdocument hadd
      · intro h
        have hkept : config = plane.config ∧ plane.tables.document = some plane.config := by
          rcases issueUndisturbed_of_args hargs h with
            ⟨grant', config', hgrant', hconfig', hcase⟩ | ⟨hnone, -⟩ | ⟨_, _, -, hadd', -⟩
          · obtain rfl := Option.some.inj (hgrant.symm.trans hgrant')
            obtain rfl := ServerConfiguration.ext_fields (hconfig.trans hconfig'.symm)
            rcases hcase with hrejected | ⟨-, hfailed⟩ | ⟨hsame, hdocument, -⟩
            · exact absurd hrejected (not_saveRejected hreturns.1)
            · exact absurd hreturns hfailed
            · exact ⟨hsame, hdocument⟩
          · rw [hgrant] at hnone
            cases hnone
          · rw [hadd] at hadd'
            cases hadd'
        obtain ⟨rfl, hdocument⟩ := hkept
        refine ⟨hsavedConfig, ?_⟩
        rw [htables, ← hdocument]

/-- **When issuing a key raises cleanly.** -/
theorem raisesCleanly_issueClientKey :
    RaisesCleanly plane ((serviceIssueClientKey x document).result plane) ↔
      IssueUndisturbed x document plane := by
  unfold serviceIssueClientKey
  rw [result_bind, result_get]
  dsimp only
  rw [result_bind, result_raise]
  cases hargs : issueArguments x document plane.tables.clientKeys with
  | error e => exact iff_of_true (fun _ _ => ⟨rfl, rfl⟩) (.refused hargs)
  | ok key =>
    dsimp only
    rw [result_bind]
    rcases hgranted : (saveGrant x plane key).result plane with ⟨e | _, saved⟩
    · rw [← storesKept_ungranted hargs hgranted]
      exact ⟨fun h => h e rfl, fun h _ _ => h⟩
    · dsimp only
      rw [result_bind, result_raise]
      cases hadd : x.addClientKey with
      | error e =>
        rw [← storesKept_unadded hargs hgranted hadd]
        exact ⟨fun h => h e rfl, fun h _ _ => h⟩
      | ok =>
        dsimp only
        rw [result_bind, result_modify]
        dsimp only
        rw [result_bind]
        have hspec := rebuildApplication_spec x.toRebuildSurroundings (saved.insertKey (keyRow x key))
        rcases hrebuilt : (rebuildApplication x.toRebuildSurroundings).result
          (saved.insertKey (keyRow x key)) with ⟨e | _, rebuilt⟩ <;> rw [hrebuilt] at hspec
        · -- The key is in the table, so that the stores are not those there were.
          refine iff_of_false (fun h => ?_) fun h => ?_
          · have htables : (saved.insertKey (keyRow x key)).tables = plane.tables :=
              hspec.kept.2.symm.trans (h e rfl).tables
            have hkeys : saved.tables.clientKeys.put (keyRow x key) = saved.tables.clientKeys := by
              conv_rhs => rw [saveGrant_clientKeys hgranted]
              exact congrArg ServerTables.clientKeys htables
            refine put_ne ?_ hkeys
            rw [saveGrant_clientKeys hgranted]
            exact issueArguments_new hargs
          · rcases issueUndisturbed_of_args hargs h with
              ⟨grant, config, hgrant, hconfig, hcase⟩ | ⟨-, _, hadd'⟩ | ⟨_, _, hgranted', -, hok⟩
            · have hreturns := saveGrant_returns hgranted hgrant hconfig
              rcases hcase with hrejected | ⟨-, hfailed⟩ | ⟨-, -, _, hadd'⟩
              · exact not_saveRejected hreturns.1 hrejected
              · exact hfailed hreturns
              · rw [hadd] at hadd'
                cases hadd'
            · rw [hadd] at hadd'
              cases hadd'
            · obtain ⟨-, rfl⟩ := Prod.mk.inj (hgranted.symm.trans hgranted')
              cases (Prod.mk.inj (hrebuilt.symm.trans hok.result_eq)).1
        · exact iff_of_true nofun (.issued hargs hgranted hadd hspec)

/-! ### Atomicity -/

/-- **When the administrator operations keep the stores if they raise.** -/
theorem admin_operations_atomic (x : AdminSurroundings A) (plane : ControlPlane A) :
    (∀ document, RaisesCleanly plane ((serviceAddProvider x document).result plane) ↔
      AddProviderUndisturbed x document plane) ∧
    (∀ providerId, RaisesCleanly plane ((serviceRemoveProvider x providerId).result plane) ↔
      RemoveProviderUndisturbed x providerId plane) ∧
    ∀ document, RaisesCleanly plane ((serviceIssueClientKey x document).result plane) ↔
      IssueUndisturbed x document plane :=
  ⟨fun _ => raisesCleanly_addProvider, fun _ => raisesCleanly_removeProvider,
    fun _ => raisesCleanly_issueClientKey⟩

/-- Surroundings in which the adapter of every provider is unknown. -/
def unknownPreset : AdminSurroundings Unit :=
  { quietSurroundings with
    validateNoRouterLoop := fun _ => .ok ()
    validateExecutionConfiguration := fun config =>
      if config.providers = [] then .ok ()
      else .error (.value (.stated "provider names an adapter which is not an evidence-backed preset"))
    saveConfigurationDocument := .ok ()
    validateEndpointOrigin := fun _ => .ok ()
    clientAuthorizationFromDict := fun _ => .error (.invalidRequest (.stated "authorization"))
    setProviderSecret := .ok ()
    deleteProviderSecret := .ok ()
    listClientKeys := .ok ()
    addClientKey := .ok ()
    randomClientId := .lit "client-0a1b2c3d"
    newKeyHash := "" }

/-- A provider with a secret, and an adapter that there is not. -/
def providerDocument : Record :=
  [member "provider_id" (.string (Text.ofString "acme")),
    member "adapter_id" (.string (Text.ofString "nope")),
    member "base_url" (.string (Text.ofString "https://api.acme.example")),
    member "secret" (.string (Text.ofString "s3cret"))]

/-- A provider that is refused leaves its secret in the store. -/
theorem admin_operations_orphan : ¬ ∀ (A : Type) (x : AdminSurroundings A) (plane : ControlPlane A),
    (∀ document, RaisesCleanly plane ((serviceAddProvider x document).result plane)) ∧
    (∀ providerId, RaisesCleanly plane ((serviceRemoveProvider x providerId).result plane)) ∧
    ∀ document, RaisesCleanly plane ((serviceIssueClientKey x document).result plane) := by
  intro h
  have hclean := (h Unit unknownPreset firstRun).1 providerDocument
  have hended : ∃ e, ((serviceAddProvider unknownPreset providerDocument).result firstRun).1 =
      .error e :=
    ⟨.invalidRequest (.stated "provider names an adapter which is not an evidence-backed preset"),
      by rfl⟩
  obtain ⟨e, he⟩ := hended
  have hsecrets := congrFun (congrArg ServerTables.providerSecrets (hclean e he).tables)
    (.lit "acme")
  have hstored : ((serviceAddProvider unknownPreset providerDocument).result
      firstRun).2.tables.providerSecrets (.lit "acme") = some (Text.ofString "s3cret") := by
    rfl
  rw [hstored] at hsecrets
  cases hsecrets

end ControlPlane

end ScarcityRouter
