import ScarcityRouter.Registry.Sources
import ScarcityRouter.Worker.RoundTrip

namespace ScarcityRouter

open ScarcityRouter.Lib

/-!
# The records of a configuration document

`server_config.py`: the records of a configuration with every field, the dictionaries they are
written as, and the readers of those dictionaries.

* `Readings` — what the standard library reads in a text.
* `Checked`, `construct` — the records that a `__post_init__` accepts, and its call.
* `ProviderEndpointFields`, `ResourceConfig`, `SourceFields`, `GrantFields`, `GatewayLimits`, … —
  the records.
* `providerFromDict`, `resourceConfigFromDict`, `sourceFromDict`, … — their readers.

`ConfigDocument` keeps them apart from the records of the control plane's own model, which have
fewer fields.
-/

namespace ConfigDocument

/-! ### Readings -/

/-- What `urlsplit` finds in a URL. -/
structure UrlParts where
  scheme : Text
  hostname : Option Text
  username : Option Text
  password : Option Text
  query : Text
  fragment : Text

/-- What the standard library reads in a text; `none` stands for a `ValueError`. -/
class Readings where
  urlsplit : Text → Option UrlParts
  lower : Text → Text
  /-- The milliseconds of `datetime.strptime(text, "%Y-%m-%dT%H:%M:%S.%fZ")`. -/
  strptime : Text → Option ℤ
  /-- The milliseconds of `datetime.fromisoformat(text)`. -/
  fromisoformat : Text → Option ℤ

/-! ### Exceptions -/

/-- The exceptions that a reader of the document ends with.  The validation error of the route
    contract is no `ValueError`. -/
inductive ConfigRaised where
  | raised (error : Raised)
  | routeContractValidation (fault : Fault)

/-- A reader that raises none of the route contract's errors. -/
def reading {α : Type} (x : Except Raised α) : Except ConfigRaised α := x.mapError .raised

/-- A validator of the route contract raises its own error. -/
def routeError {α : Type} (x : Except Fault α) : Except ConfigRaised α :=
  x.mapError .routeContractValidation

/-- `except CapacityError as exc: raise ServerConfigError(f"resource_registration: {exc}")`. -/
def exceptCapacityError {α : Type} (x : Except Raised α) : Except Raised α :=
  match x with
  | .error (.capacityValidation fault) => .error (.value fault)
  | x => x

/-- `read(dd[key]) if key in dd else default`. -/
def itemOr {α : Type} (dd : Record) (key : String) (default : α)
    (read : Json → Except Raised α) : Except Raised α :=
  match dd.get? key with
  | none => .ok default
  | some value => read value

/-! ### Constructors -/

/-- The records that a `__post_init__` accepts. -/
def Checked {F : Type} (postInit : F → Except Fault Unit) : Type := { f : F // postInit f = .ok () }

/-- The call of a constructor. -/
def construct {F : Type} (postInit : F → Except Fault Unit) (f : F) :
    Except Fault (Checked postInit) :=
  match h : postInit f with
  | .ok () => .ok ⟨f, h⟩
  | .error fault => .error fault

/-- A record is constructed from its own fields. -/
theorem construct_val {F : Type} {postInit : F → Except Fault Unit} (c : Checked postInit) :
    construct postInit c.1 = .ok c := by
  obtain ⟨f, hf⟩ := c
  unfold construct
  split
  · rfl
  · rename_i fault hfault
    rw [hf] at hfault
    cases hfault

/-- The integers from a bound on. -/
abbrev AtLeast (lo : ℤ) : Type := { n : ℤ // lo ≤ n }

theorem one_le_literal (n : ℕ) [NeZero n] : (1 : ℤ) ≤ OfNat.ofNat n := by
  have hpos := NeZero.pos n
  change (1 : ℤ) ≤ (n : ℤ)
  omega

/-- `v_safe_id` of a text, for its check alone. -/
def checkSafeId (text : Text) (field : String) : Except Fault Unit :=
  (vSafeId (.string text) field).map fun _ => ()

/-- A text as a value that may be null. -/
def nullableText (text : Option Text) : Json := (text.map Json.string).getD .null

/-! ### Endpoints -/

/-- The fields of `ProviderEndpointConfig`. -/
structure ProviderEndpointFields where
  providerId : Text
  adapterId : Text
  baseUrl : Text
  label : Text
  deriving DecidableEq

/-- `_LOOPBACK_HOSTS`. -/
def loopbackHosts : List Text :=
  [Text.ofString "127.0.0.1", Text.ofString "::1", Text.ofString "localhost"]

/-- `_validate_endpoint_origin`. -/
def validateEndpointOrigin [Readings] (baseUrl : Text) (field : String) : Except Fault Unit :=
  match Readings.urlsplit baseUrl with
  | none => .error (.stated (field ++ ": not a valid URL"))
  | some parts => do
    let scheme := Readings.lower parts.scheme
    let hostname := Readings.lower (parts.hostname.getD [])
    check ((scheme = Text.ofString "http" ∨ scheme = Text.ofString "https") ∧ hostname ≠ [])
      (.stated (field ++ ": must be an absolute http(s) URL with a hostname"))
    check (parts.username = none ∧ parts.password = none)
      (.stated (field ++ ": credentials never travel in URLs (D-044)"))
    check (parts.query = [] ∧ parts.fragment = [])
      (.stated (field ++ ": query and fragment are not allowed"))
    check (scheme = Text.ofString "http" → hostname ∈ loopbackHosts)
      (.stated (field ++ ": plain HTTP is permitted only for explicit loopback origins; non-local provider endpoints require https"))

/-- `ProviderEndpointConfig.__post_init__`. -/
def ProviderEndpointFields.postInit [Readings] (f : ProviderEndpointFields) : Except Fault Unit := do
  checkSafeId f.providerId "provider.provider_id"
  checkSafeId f.adapterId "provider.adapter_id"
  validateEndpointOrigin f.baseUrl "provider.base_url"
  check (f.label.length ≤ 200) (.stated "provider.label exceeds 200 characters")

/-- `ProviderEndpointConfig`. -/
abbrev ProviderEndpointConfig [Readings] : Type := Checked ProviderEndpointFields.postInit

/-- `ProviderEndpointConfig.to_dict`. -/
def ProviderEndpointFields.toDict (f : ProviderEndpointFields) : Record :=
  [member "provider_id" (.string f.providerId), member "adapter_id" (.string f.adapterId),
    member "base_url" (.string f.baseUrl)] ++
    optionalMember "label" (if f.label = [] then none else some (.string f.label))

/-- `v_str(dd[key], field)`. -/
def strItem (dd : Record) (key field : String) : Except Raised Text := do
  valueError (vStr (← dd.item key) field)

/-- `ProviderEndpointConfig.from_dict`. -/
def providerFromDict [Readings] (d : Json) : Except Raised ProviderEndpointConfig := do
  let dd ← valueError (exactShape d ["provider_id", "adapter_id", "base_url"] ["label"]
    "provider_endpoint")
  let providerId ← strItem dd "provider_id" "provider.provider_id"
  let adapterId ← strItem dd "adapter_id" "provider.adapter_id"
  let baseUrl ← strItem dd "base_url" "provider.base_url"
  let label ← itemOr dd "label" [] fun value => valueError (vStr value "provider.label")
  valueError (construct ProviderEndpointFields.postInit ⟨providerId, adapterId, baseUrl, label⟩)

/-! ### Runtime versions -/

/-- Where the match of `_VERSION` stands: in one of the three numbers, in the suffix after `-`, or
    in the one after `+`, and whether the token there has begun. -/
inductive VersionState where
  | number (index : ℕ) (begun : Bool)
  | prerelease (begun : Bool)
  | build (begun : Bool)

/-- `[0-9]`. -/
def isAsciiDigit (c : CodePoint) : Bool := codePoint '0' ≤ c && c ≤ codePoint '9'

/-- `[0-9A-Za-z]`. -/
def isAsciiAlphanumeric (c : CodePoint) : Bool :=
  isAsciiDigit c || (codePoint 'A' ≤ c && c ≤ codePoint 'Z') ||
    (codePoint 'a' ≤ c && c ≤ codePoint 'z')

/-- The match reads one character; every token of the pattern ends at the characters that are not
    in it. -/
def VersionState.read : VersionState → CodePoint → Option VersionState
  | .number index begun, c =>
    if isAsciiDigit c then some (.number index true)
    else if !begun then none
    else if index < 2 then if c = codePoint '.' then some (.number (index + 1) false) else none
    else if c = codePoint '-' then some (.prerelease false)
    else if c = codePoint '+' then some (.build false) else none
  | .prerelease begun, c =>
    if isAsciiAlphanumeric c then some (.prerelease true)
    else if !begun then none
    else if c = codePoint '.' ∨ c = codePoint '-' then some (.prerelease false)
    else if c = codePoint '+' then some (.build false) else none
  | .build begun, c =>
    if isAsciiAlphanumeric c then some (.build true)
    else if begun ∧ (c = codePoint '.' ∨ c = codePoint '-') then some (.build false) else none

/-- The match may end here. -/
def VersionState.final : VersionState → Bool
  | .number index begun => index == 2 && begun
  | .prerelease begun => begun
  | .build begun => begun

/-- `_VERSION.fullmatch(value) is not None`. -/
def matchesVersion (t : Text) : Bool :=
  (t.foldlM VersionState.read (.number 0 false)).any VersionState.final

/-- `validate_runtime_version` accepts a text. -/
def validRuntimeVersion (t : Text) : Bool := t.length ≤ 64 && matchesVersion t

/-! ### Resources -/

/-- `OBSERVATION_CLASSES`. -/
def observationClasses : List ObservationClass :=
  [.directObservation, .providerTelemetry, .estimate, .localLimit, .unknown]

end ConfigDocument

def ObservationClass.text : ObservationClass → String
  | .directObservation => "direct_observation"
  | .providerTelemetry => "provider_telemetry"
  | .estimate => "estimate"
  | .localLimit => "local_limit"
  | .unknown => "unknown"

namespace ConfigDocument

/-- `ResourceCost`: at least one amount is known. -/
structure ResourceCost where
  observationClass : ObservationClass
  inputMicroUsdPerMtoken : Option (AtLeast 0)
  outputMicroUsdPerMtoken : Option (AtLeast 0)
  priced : inputMicroUsdPerMtoken.isSome = true ∨ outputMicroUsdPerMtoken.isSome = true
  deriving DecidableEq

/-- `ResourceCost.to_dict`. -/
def ResourceCost.toDict (cost : ResourceCost) : Record :=
  [member "observation_class" (textJson cost.observationClass.text)] ++
    optionalMember "input_micro_usd_per_mtoken"
      (cost.inputMicroUsdPerMtoken.map fun n => .int n.1) ++
    optionalMember "output_micro_usd_per_mtoken"
      (cost.outputMicroUsdPerMtoken.map fun n => .int n.1)

/-- The constructor of a cost. -/
def ResourceCost.make (observationClass : ObservationClass) (input output : Option (AtLeast 0)) :
    Except Fault ResourceCost :=
  if h : input.isSome = true ∨ output.isSome = true then .ok ⟨observationClass, input, output, h⟩
  else .error (.stated "cost: at least one amount must be present; omit the whole cost record when no amount is known")

/-- `ResourceCost.from_dict`. -/
def costFromDict (d : Json) : Except Raised ResourceCost := do
  let dd ← capacityError (vExactShape d ["observation_class"]
    ["input_micro_usd_per_mtoken", "output_micro_usd_per_mtoken"] "cost")
  let observationClass ← capacityError (vEnum observationClasses ObservationClass.text
    (← dd.item "observation_class") "cost.observation_class")
  let input ← dd.optionalItem "input_micro_usd_per_mtoken" fun value =>
    capacityError (vInt value "cost.input_micro_usd_per_mtoken" 0)
  let output ← dd.optionalItem "output_micro_usd_per_mtoken" fun value =>
    capacityError (vInt value "cost.output_micro_usd_per_mtoken" 0)
  capacityError (ResourceCost.make observationClass input output)

/-- The fields of `ExecutionCapabilities`; `none` is unknown. -/
structure CapabilityFields where
  streaming : Option Bool := none
  toolCalls : Option Bool := none
  structuredOutput : Option Bool := none
  reasoningControls : Option Bool := none
  usageReporting : Option Bool := none
  cancellation : Option Bool := none
  contextLimitTokens : Option (AtLeast 1) := none
  outputLimitTokens : Option (AtLeast 1) := none
  outputLimitControl : Option Bool := none
  contextEvidenceRef : Option Text := none
  contextEvidenceValidUntil : Option Text := none
  contextEvidenceVerifiedAt : Option Text := none
  contextEvidenceRuntimeVersion : Option Text := none
  deriving DecidableEq

/-- `_v_ts`. -/
def vTs [Readings] (value : Json) (field : String) : Except Fault Text := do
  let s ← vStr value field
  check (matchesCanonicalTs s = true) (.nonCanonicalTimestamp field s)
  check ((Readings.fromisoformat (s.dropLast ++ Text.ofString "+00:00")).isSome = true)
    (.refused (field ++ ": invalid date/time") (.string s))
  .ok s

/-- `validate_runtime_version` under the error of the capabilities. -/
def vRuntimeVersion (value : Json) : Except Fault Text :=
  match value with
  | .string s =>
    if validRuntimeVersion s then .ok s
    else .error (.stated "capabilities.context_evidence_runtime_version: invalid version")
  | _ => .error (.stated "capabilities.context_evidence_runtime_version: invalid version")

/-- `ExecutionCapabilities.__post_init__`. -/
def CapabilityFields.postInit [Readings] (f : CapabilityFields) : Except Fault Unit :=
  match f.contextEvidenceRef with
  | none =>
    check (f.contextEvidenceValidUntil = none ∧ f.contextEvidenceVerifiedAt = none ∧
      f.contextEvidenceRuntimeVersion = none)
      (.stated "capabilities: context evidence requires a reference")
  | some ref => do
    checkSafeId ref "capabilities.context_evidence_ref"
    let _ ← vRuntimeVersion (nullableText f.contextEvidenceRuntimeVersion)
    let validUntil ← vTs (nullableText f.contextEvidenceValidUntil)
      "capabilities.context_evidence_valid_until"
    let verifiedAt ← vTs (nullableText f.contextEvidenceVerifiedAt)
      "capabilities.context_evidence_verified_at"
    check (verifiedAt < validUntil) (.stated "capabilities: invalid context evidence interval")
    check (f.contextLimitTokens.isSome = true)
      (.stated "capabilities: context evidence requires a context limit")

/-- `ExecutionCapabilities`. -/
abbrev ExecutionCapabilities [Readings] : Type := Checked CapabilityFields.postInit

/-- The evidence of a context limit in the document: the four members go together. -/
def CapabilityFields.evidenceToDict (f : CapabilityFields) : Record :=
  match f.contextEvidenceRef with
  | none => []
  | some ref =>
    [member "context_evidence_ref" (.string ref),
      member "context_evidence_valid_until" (nullableText f.contextEvidenceValidUntil),
      member "context_evidence_verified_at" (nullableText f.contextEvidenceVerifiedAt),
      member "context_evidence_runtime_version" (nullableText f.contextEvidenceRuntimeVersion)]

/-- `ExecutionCapabilities.to_dict`. -/
def CapabilityFields.toDict (f : CapabilityFields) : Record :=
  optionalMember "streaming" (f.streaming.map Json.bool) ++
    optionalMember "tool_calls" (f.toolCalls.map Json.bool) ++
    optionalMember "structured_output" (f.structuredOutput.map Json.bool) ++
    optionalMember "reasoning_controls" (f.reasoningControls.map Json.bool) ++
    optionalMember "usage_reporting" (f.usageReporting.map Json.bool) ++
    optionalMember "cancellation" (f.cancellation.map Json.bool) ++
    optionalMember "context_limit_tokens" (f.contextLimitTokens.map fun n => .int n.1) ++
    optionalMember "output_limit_tokens" (f.outputLimitTokens.map fun n => .int n.1) ++
    optionalMember "output_limit_control" (f.outputLimitControl.map Json.bool) ++
    f.evidenceToDict

/-- The keys of `ExecutionCapabilities`. -/
def capabilityKeys : List String :=
  ["streaming", "tool_calls", "structured_output", "reasoning_controls", "usage_reporting",
    "cancellation", "context_limit_tokens", "output_limit_tokens", "output_limit_control",
    "context_evidence_ref", "context_evidence_valid_until", "context_evidence_verified_at",
    "context_evidence_runtime_version"]

/-- One fact that is true, false or unknown. -/
def factItem (dd : Record) (key : String) : Except Raised (Option Bool) :=
  dd.optionalItem key fun value => capacityError (vBool value ("capabilities." ++ key))

/-- `ExecutionCapabilities.from_dict`. -/
def capabilitiesFromDict [Readings] (d : Json) : Except Raised ExecutionCapabilities := do
  let dd ← capacityError (vExactShape d [] capabilityKeys "capabilities")
  let streaming ← factItem dd "streaming"
  let toolCalls ← factItem dd "tool_calls"
  let structuredOutput ← factItem dd "structured_output"
  let reasoningControls ← factItem dd "reasoning_controls"
  let usageReporting ← factItem dd "usage_reporting"
  let cancellation ← factItem dd "cancellation"
  let contextLimitTokens ← dd.optionalItem "context_limit_tokens" fun value =>
    capacityError (vInt value "capabilities.context_limit_tokens" 1)
  let outputLimitTokens ← dd.optionalItem "output_limit_tokens" fun value =>
    capacityError (vInt value "capabilities.output_limit_tokens" 1)
  let outputLimitControl ← factItem dd "output_limit_control"
  let ref ← dd.optionalItem "context_evidence_ref" fun value =>
    capacityError ((vSafeId value "capabilities.context_evidence_ref").map SafeId.toText)
  let validUntil ← dd.optionalItem "context_evidence_valid_until" fun value =>
    capacityError (vTs value "capabilities.context_evidence_valid_until")
  let verifiedAt ← dd.optionalItem "context_evidence_verified_at" fun value =>
    capacityError (vTs value "capabilities.context_evidence_verified_at")
  let runtimeVersion ← dd.optionalItem "context_evidence_runtime_version" fun value =>
    capacityError (vRuntimeVersion value)
  capacityError (construct CapabilityFields.postInit
    ⟨streaming, toolCalls, structuredOutput, reasoningControls, usageReporting, cancellation,
      contextLimitTokens, outputLimitTokens, outputLimitControl, ref, validUntil, verifiedAt,
      runtimeVersion⟩)

/-- `ResourceRegistration`. -/
structure ResourceRegistration [Readings] where
  identity : ResourceIdentity
  freshnessTtlSeconds : AtLeast 1
  pollIntervalSeconds : Option (AtLeast 1)
  capabilities : ExecutionCapabilities
  cost : Option ResourceCost

/-- `ResourceConfig`, whose constructor checks nothing. -/
structure ResourceConfig [Readings] where
  registration : ResourceRegistration
  enabled : Bool
  endpointId : Option Text
  workerId : Option Text
  localAdapterId : Option Text

/-- A record that is left out when it is empty. -/
def nonemptyRecord (record : Record) : Option Json :=
  if record = [] then none else some (.object record)

/-- The composite document of a registration. -/
def ResourceRegistration.toDict [Readings] (registration : ResourceRegistration) : Record :=
  [member "identity" (.object (resourceToDict registration.identity)),
    member "freshness_ttl_seconds" (.int registration.freshnessTtlSeconds.1)] ++
    optionalMember "poll_interval_seconds"
      (registration.pollIntervalSeconds.map fun n => .int n.1) ++
    optionalMember "capabilities" (nonemptyRecord registration.capabilities.1.toDict) ++
    optionalMember "cost" (registration.cost.map fun cost => .object cost.toDict)

/-- `ResourceConfig.to_dict`. -/
def ResourceConfig.toDict [Readings] (resource : ResourceConfig) : Record :=
  [member "registration" (.object resource.registration.toDict),
    member "enabled" (.bool resource.enabled)] ++
    optionalMember "endpoint_id" (resource.endpointId.map Json.string) ++
    optionalMember "worker_id" (resource.workerId.map Json.string) ++
    optionalMember "local_adapter_id" (resource.localAdapterId.map Json.string)

/-- `SERVER_DIRECT_DEFAULT_POLL_INTERVAL_SECONDS`. -/
def serverDirectDefaultPollIntervalSeconds : AtLeast 1 := ⟨300, by decide⟩

/-- The default polling cadence of a resource: the server observes the resources it reaches itself,
    and a worker reports its own observations. -/
def defaultPoll (identity : ResourceIdentity) : Option (AtLeast 1) :=
  if identity.channel = .serverDirectHttp then some serverDirectDefaultPollIntervalSeconds else none

/-- The capabilities of which nothing is known. -/
def ExecutionCapabilities.empty [Readings] : ExecutionCapabilities :=
  ⟨{}, check_pos ⟨rfl, rfl, rfl⟩ _⟩

/-- The reads of `_registration_from_document` inside its `try`. -/
def registrationOf [Readings] (dd : Record) : Except Raised ResourceRegistration := do
  let identity ← resourceFromDict (← dd.item "identity")
  let freshnessTtlSeconds ← valueError
    (vInt (← dd.item "freshness_ttl_seconds") "resource_registration.freshness_ttl_seconds" 1)
  let pollIntervalSeconds ← itemOr dd "poll_interval_seconds" (defaultPoll identity) fun value =>
    some <$> valueError (vInt value "resource_registration.poll_interval_seconds" 1)
  let capabilities ← itemOr dd "capabilities" .empty capabilitiesFromDict
  let cost ← itemOr dd "cost" none fun value => some <$> costFromDict value
  .ok ⟨identity, freshnessTtlSeconds, pollIntervalSeconds, capabilities, cost⟩

/-- `_registration_from_document`. -/
def registrationFromDocument [Readings] (d : Json) : Except Raised ResourceRegistration := do
  let dd ← valueError (exactShape d ["identity", "freshness_ttl_seconds"]
    ["poll_interval_seconds", "capabilities", "cost"] "resource_registration")
  exceptCapacityError (registrationOf dd)

/-- `v_str_object_mapping`. -/
def vStrObjectMapping (value : Json) (field : String) : Except Fault Record :=
  match value with
  | .object members => .ok members
  | value => .error (.expectedMapping field value)

/-- `v_safe_id(dd[key], field) if key in dd else None`. -/
def safeIdItem (dd : Record) (key field : String) : Except Raised (Option Text) :=
  itemOr dd key none fun value =>
    some <$> valueError ((vSafeId value field).map SafeId.toText)

/-- `ResourceConfig.from_dict`. -/
def resourceConfigFromDict [Readings] (d : Json) : Except Raised ResourceConfig := do
  let dd ← valueError (exactShape d ["registration"]
    ["enabled", "endpoint_id", "worker_id", "local_adapter_id"] "resource_config")
  let document ← valueError
    (vStrObjectMapping (← dd.item "registration") "resource_config.registration")
  let registration ← registrationFromDocument (.object document)
  let endpointId ← safeIdItem dd "endpoint_id" "resource_config.endpoint_id"
  let workerId ← safeIdItem dd "worker_id" "resource_config.worker_id"
  let localAdapterId ← safeIdItem dd "local_adapter_id" "resource_config.local_adapter_id"
  let enabled ← itemOr dd "enabled" true fun value =>
    valueError (vBool value "resource_config.enabled")
  .ok ⟨registration, enabled, endpointId, workerId, localAdapterId⟩

/-! ### Sources -/

/-- The fields of `SourceContextEvidence`. -/
structure SourceContextFields where
  model : Text
  variant : Text
  runtimeVersion : Text
  inputTokens : ℤ
  evidenceRef : Text
  validUntil : Text
  verifiedAt : Text
  deriving DecidableEq

/-- A canonical timestamp, read by `strptime`. -/
def instantOf [Readings] (t : Text) : Option ℤ :=
  if matchesCanonicalTs t = true then Readings.strptime t else none

/-- The validity of an attestation: it ends after it was verified, within 365 days. -/
def validEvidenceInterval [Readings] (validUntil verifiedAt : Text) : Bool :=
  match instantOf validUntil, instantOf verifiedAt with
  | some until_, some verified => verified < until_ && until_ - verified ≤ 365 * 86400000
  | _, _ => false

/-- `SourceContextEvidence.__post_init__`. -/
def SourceContextFields.postInit [Readings] (f : SourceContextFields) : Except Fault Unit := do
  checkSafeId f.model "source_context.model"
  checkSafeId f.variant "source_context.variant"
  check (validRuntimeVersion f.runtimeVersion = true)
    (.stated "source_context.runtime_version: expected a complete observed runtime version")
  checkSafeId f.evidenceRef "source_context.evidence_ref"
  check (Text.ofString "local:" <+: f.evidenceRef)
    (.stated "source_context.evidence_ref: use a non-secret local: evidence handle")
  check (1 ≤ f.inputTokens) (.below "source_context.input_tokens" f.inputTokens 1)
  check (validEvidenceInterval f.validUntil f.verifiedAt = true)
    (.stated "source_context.valid_until: invalid canonical timestamp")

/-- `SourceContextEvidence`. -/
abbrev SourceContextEvidence [Readings] : Type := Checked SourceContextFields.postInit

/-- `SourceContextEvidence.to_dict`. -/
def SourceContextFields.toDict (f : SourceContextFields) : Record :=
  [member "model" (.string f.model), member "variant" (.string f.variant),
    member "runtime_version" (.string f.runtimeVersion), member "input_tokens" (.int f.inputTokens),
    member "evidence_ref" (.string f.evidenceRef), member "valid_until" (.string f.validUntil),
    member "verified_at" (.string f.verifiedAt)]

/-- `SourceContextEvidence.from_dict`. -/
def sourceContextFromDict [Readings] (value : Json) : Except Raised SourceContextEvidence := do
  let data ← valueError (exactShape value ["model", "variant", "runtime_version", "input_tokens",
    "evidence_ref", "valid_until", "verified_at"] [] "source_context")
  let model ← strItem data "model" "source_context.model"
  let variant ← strItem data "variant" "source_context.variant"
  let runtimeVersion ← strItem data "runtime_version" "source_context.runtime_version"
  let inputTokens ← valueError
    (vInt (← data.item "input_tokens") "source_context.input_tokens" 1)
  let evidenceRef ← strItem data "evidence_ref" "source_context.evidence_ref"
  let validUntil ← strItem data "valid_until" "source_context.valid_until"
  let verifiedAt ← strItem data "verified_at" "source_context.verified_at"
  valueError (construct SourceContextFields.postInit
    ⟨model, variant, runtimeVersion, inputTokens.1, evidenceRef, validUntil, verifiedAt⟩)

/-- The fields of `SourceConfig`. -/
structure SourceFields [Readings] where
  sourceId : Text
  kind : Text
  label : Text
  workerId : Text
  entitlement : Text
  quotaPoolId : Option Text
  autoAdopt : Bool
  allowedTracks : List Text
  allowedModels : List Text
  capacityScopeIds : List Text
  contextEvidence : List SourceContextEvidence

/-- `SOURCE_KINDS`. -/
def sourceKinds : List Text :=
  [Text.ofString "codex_subscription", Text.ofString "zcode_subscription"]

/-- The check of one track id, `provider/track`. -/
def checkTrack (trackId : Text) : Except Fault Unit :=
  match trackId.dropWhile (· ≠ codePoint '/') with
  | [] => .error (.refused "source.allowed_tracks: track ids look like 'provider/track'"
      (.string trackId))
  | _ :: track => do
    checkSafeId (trackId.takeWhile (· ≠ codePoint '/')) "source.allowed_tracks.provider"
    checkSafeId track "source.allowed_tracks.track"

/-- `SourceConfig.__post_init__`. -/
def SourceFields.postInit [Readings] (f : SourceFields) : Except Fault Unit := do
  check (f.sourceId.length ≤ sourceIdMaxLength)
    (.stated "source.source_id: longer than 20 characters (derived resource ids must stay safe ids)")
  checkSafeId f.sourceId "source.source_id"
  check (codePoint ':' ∉ f.sourceId)
    (.stated "source.source_id: ':' is not allowed (the derived resource namespace is <source_id>:<slug>)")
  check (f.kind ∈ sourceKinds) (.refused "source.kind: unknown kind" (.string f.kind))
  -- Both kinds are backed by a subscription.
  check (f.entitlement = Text.ofString Entitlement.subscriptionIncluded.text)
    (.stated "source.entitlement: subscription-backed source capacity is subscription_included by the evidenced provider terms")
  check (f.label ≠ [] ∧ f.label.length ≤ 200) (.stated "source.label: required, <= 200 chars")
  checkSafeId f.workerId "source.worker_id"
  check (∃ e ∈ entitlementClasses, f.entitlement = Text.ofString e.text)
    (.refused "source.entitlement: unknown entitlement" (.string f.entitlement))
  f.quotaPoolId.toList.forM (checkSafeId · "source.quota_pool_id")
  f.allowedTracks.forM checkTrack
  check (f.allowedModels.length ≤ 64) (.stated "source.allowed_models: maximum 64 models")
  f.allowedModels.forM (checkSafeId · "source.allowed_models")
  check f.allowedModels.Nodup (.stated "source.allowed_models: duplicate model")
  check (f.capacityScopeIds.length ≤ 64)
    (.stated "source.capacity_scope_ids: maximum 64 scopes")
  f.capacityScopeIds.forM (checkSafeId · "source.capacity_scope_ids")
  check (sortedSet f.capacityScopeIds = f.capacityScopeIds)
    (.stated "source.capacity_scope_ids: scopes must be sorted and unique")
  check (f.contextEvidence.length ≤ 64) (.stated "source.context_evidence: maximum 64 entries")
  check (f.contextEvidence.map fun item => (item.1.model, item.1.variant)).Nodup
    (.stated "source.context_evidence: model variants must be unique")

/-- `SourceConfig`. -/
abbrev SourceConfig [Readings] : Type := Checked SourceFields.postInit

/-- `SourceConfig.to_dict`. -/
def SourceFields.toDict [Readings] (f : SourceFields) : Record :=
  [member "source_id" (.string f.sourceId), member "kind" (.string f.kind),
    member "label" (.string f.label), member "worker_id" (.string f.workerId),
    member "entitlement" (.string f.entitlement), member "auto_adopt" (.bool f.autoAdopt)] ++
    optionalMember "quota_pool_id" (f.quotaPoolId.map Json.string) ++
    optionalMember "allowed_tracks" (nonemptyList (f.allowedTracks.map Json.string)) ++
    optionalMember "allowed_models" (nonemptyList (f.allowedModels.map Json.string)) ++
    optionalMember "capacity_scope_ids" (nonemptyList (f.capacityScopeIds.map Json.string)) ++
    optionalMember "context_evidence"
      (nonemptyList (f.contextEvidence.map fun item => .object item.1.toDict))

/-- `SourceConfig.from_dict` reads an array of texts: none when it is missing or null. -/
def strListItem (dd : Record) (key : String) : Except Raised (List Text) :=
  match dd.present key with
  | none => .ok []
  | some (.list items) => items.mapM fun item => valueError (vStr item ("source." ++ key))
  | some _ => .error (.value (.stated ("source." ++ key ++ " must be an array")))

/-- The attestations of a source: none when the member is missing. -/
def evidenceItem [Readings] (dd : Record) : Except Raised (List SourceContextEvidence) :=
  match dd.get? "context_evidence" with
  | none => .ok []
  | some (.list items) => items.mapM sourceContextFromDict
  | some _ => .error (.value (.stated "source.context_evidence must be an array"))

/-- `SourceConfig.from_dict`. -/
def sourceFromDict [Readings] (d : Json) : Except Raised SourceConfig := do
  let dd ← valueError (exactShape d ["source_id", "kind", "label", "worker_id"]
    ["entitlement", "quota_pool_id", "auto_adopt", "allowed_tracks", "allowed_models",
      "capacity_scope_ids", "context_evidence"] "source")
  let allowed ← strListItem dd "allowed_tracks"
  let models ← strListItem dd "allowed_models"
  let scopes ← strListItem dd "capacity_scope_ids"
  let evidence ← evidenceItem dd
  let sourceId ← strItem dd "source_id" "source.source_id"
  let kind ← strItem dd "kind" "source.kind"
  let label ← strItem dd "label" "source.label"
  let workerId ← strItem dd "worker_id" "source.worker_id"
  let entitlement ← itemOr dd "entitlement"
    (Text.ofString Entitlement.subscriptionIncluded.text) fun value =>
      valueError (vStr value "source.entitlement")
  let quotaPoolId ← itemOr dd "quota_pool_id" none fun value =>
    some <$> valueError (vStr value "source.quota_pool_id")
  let autoAdopt ← itemOr dd "auto_adopt" true fun value =>
    valueError (vBool value "source.auto_adopt")
  valueError (construct SourceFields.postInit
    ⟨sourceId, kind, label, workerId, entitlement, quotaPoolId, autoAdopt, allowed, models, scopes,
      evidence⟩)

/-! ### Grants -/

/-- Sorted identifiers without duplicates, of a closed set where there is one. -/
def SortedIds (allowed : Option (List String)) : Type :=
  { ids : List SafeId // ids.Pairwise (· < ·) ∧ ∀ names ∈ allowed, ∀ id ∈ ids, id.text ∈ names }

instance {allowed : Option (List String)} : DecidableEq (SortedIds allowed) :=
  inferInstanceAs (DecidableEq (Subtype _))

/-- `_v_sorted_safe_ids`. -/
def vSortedSafeIds (allowed : Option (List String)) (items : List Json) (field : String) :
    Except Fault (SortedIds allowed) := do
  let ids ← items.mapM (vSafeId · field)
  if hsorted : ids.Pairwise (· < ·) then
    if hallowed : ∀ names ∈ allowed, ∀ id ∈ ids, id.text ∈ names then
      .ok ⟨ids, hsorted, hallowed⟩
    else .error (.stated (field ++ ": value not in allowed set"))
  else if ids.Nodup then .error (.stated (field ++ ": must be deterministically sorted"))
  else .error (.stated (field ++ ": duplicate values are not permitted"))

/-- `_id_list_field`. -/
def idListField (allowed : Option (List String)) (value : Json) (field : String) :
    Except Fault (SortedIds allowed) :=
  match value with
  | .list items => vSortedSafeIds allowed items field
  | value => .error (.expectedList field value)

/-- The identifiers as a list. -/
def SortedIds.json {allowed : Option (List String)} (ids : SortedIds allowed) : Json :=
  .list (ids.1.map SafeId.json)

/-- `EXECUTION_CHANNELS`. -/
def channelNames : List String := executionChannels.map fun c => c.text.text

/-- `ENTITLEMENT_CLASSES`. -/
def entitlementNames : List String := entitlementClasses.map Entitlement.text

/-- `SpendingLimit`. -/
structure SpendingLimit where
  microUsdPerMtokenMax : AtLeast 0
  deriving DecidableEq

/-- `SpendingLimit.to_dict`. -/
def SpendingLimit.toDict (limit : SpendingLimit) : Record :=
  [member "micro_usd_per_mtoken_max" (.int limit.microUsdPerMtokenMax.1)]

/-- `dd[key]` of the route contract. -/
def routeItem (dd : Record) (key : String) : Except ConfigRaised Json := reading (dd.item key)

/-- `SpendingLimit.from_dict`. -/
def spendingLimitFromDict (d : Json) : Except ConfigRaised SpendingLimit := do
  let dd ← routeError (vExactShape d ["micro_usd_per_mtoken_max"] [] "spending_limit")
  let limit ← routeError (vInt (← routeItem dd "micro_usd_per_mtoken_max")
    "spending_limit.micro_usd_per_mtoken_max" 0)
  .ok ⟨limit⟩

theorem noIds_listed : ([] : List SafeId).Pairwise (· < ·) ∧
    ∀ names ∈ (none : Option (List String)), ∀ id ∈ ([] : List SafeId), id.text ∈ names :=
  ⟨.nil, fun _ h => nomatch h⟩

/-- The fields that `AdministratorConstraints` and `ClientAuthorization` share. -/
structure GrantFields where
  allowedProviders : Option (SortedIds none) := none
  allowedChannels : Option (SortedIds (some channelNames)) := none
  allowedEntitlements : Option (SortedIds (some entitlementNames)) := none
  blockedResourceIds : SortedIds none := ⟨[], noIds_listed⟩
  spendLimit : Option SpendingLimit := none
  deriving DecidableEq

/-- The shared members of `to_dict`. -/
def GrantFields.toDict (f : GrantFields) : Record :=
  optionalMember "allowed_providers" (f.allowedProviders.map SortedIds.json) ++
    optionalMember "allowed_channels" (f.allowedChannels.map SortedIds.json) ++
    optionalMember "allowed_entitlements" (f.allowedEntitlements.map SortedIds.json) ++
    optionalMember "blocked_resource_ids"
      (if f.blockedResourceIds.1 = [] then none else some f.blockedResourceIds.json) ++
    optionalMember "spend_limit" (f.spendLimit.map fun limit => .object limit.toDict)

/-- The keys of the shared fields. -/
def grantKeys : List String :=
  ["allowed_providers", "allowed_channels", "allowed_entitlements", "blocked_resource_ids",
    "spend_limit"]

/-- `default if not _optional_present(dd, key) else read(dd[key])`. -/
def presentOr {α : Type} (dd : Record) (key : String) (default : α)
    (read : Json → Except ConfigRaised α) : Except ConfigRaised α :=
  match dd.present key with
  | none => .ok default
  | some value => read value

/-- The shared fields under the label of the record. -/
def grantFieldsOf (label : String) (dd : Record) : Except ConfigRaised GrantFields := do
  let allowedProviders ← presentOr dd "allowed_providers" none fun value =>
    some <$> routeError (idListField none value (label ++ ".allowed_providers"))
  let allowedChannels ← presentOr dd "allowed_channels" none fun value =>
    some <$> routeError (idListField (some channelNames) value (label ++ ".allowed_channels"))
  let allowedEntitlements ← presentOr dd "allowed_entitlements" none fun value =>
    some <$> routeError
      (idListField (some entitlementNames) value (label ++ ".allowed_entitlements"))
  let blockedResourceIds ← presentOr dd "blocked_resource_ids" ⟨[], noIds_listed⟩ fun value =>
    routeError (idListField none value (label ++ ".blocked_resource_ids"))
  let spendLimit ← presentOr dd "spend_limit" none fun value => some <$> spendingLimitFromDict value
  .ok ⟨allowedProviders, allowedChannels, allowedEntitlements, blockedResourceIds, spendLimit⟩

/-- `AdministratorConstraints`. -/
structure AdministratorConstraints extends GrantFields
  deriving DecidableEq

/-- `AdministratorConstraints.from_dict`. -/
def adminConstraintsFromDict (d : Json) : Except ConfigRaised AdministratorConstraints := do
  let dd ← routeError (vExactShape d [] grantKeys "administrator_constraints")
  let fields ← grantFieldsOf "administrator_constraints" dd
  .ok ⟨fields⟩

/-- `ClientAuthorization`. -/
structure ClientAuthorization extends GrantFields where
  inferenceOnly : Bool := false
  strictNoPayg : Bool := false
  deriving DecidableEq

/-- A flag that is left out when it is not set. -/
def flag (set : Bool) : Option Json := if set then some (.bool true) else none

/-- `ClientAuthorization.to_dict`. -/
def ClientAuthorization.toDict (grant : ClientAuthorization) : Record :=
  grant.toGrantFields.toDict ++ optionalMember "inference_only" (flag grant.inferenceOnly) ++
    optionalMember "strict_no_payg" (flag grant.strictNoPayg)

/-- `_v_bool(dd.get(key, False), …)`. -/
def flagItem (dd : Record) (key : String) : Except ConfigRaised Bool :=
  routeError (vBool ((dd.get? key).getD (.bool false)) ("client_authorization." ++ key))

/-- `ClientAuthorization.from_dict`. -/
def clientAuthorizationFromDict (d : Json) : Except ConfigRaised ClientAuthorization := do
  let dd ← routeError (vExactShape d [] (grantKeys ++ ["inference_only", "strict_no_payg"])
    "client_authorization")
  let fields ← grantFieldsOf "client_authorization" dd
  let inferenceOnly ← flagItem dd "inference_only"
  let strictNoPayg ← flagItem dd "strict_no_payg"
  .ok ⟨fields, inferenceOnly, strictNoPayg⟩

/-- `ClientRoutingProfile`. -/
structure ClientRoutingProfile where
  profileId : SafeId
  allowedProviders : Option (SortedIds none)
  deriving DecidableEq

/-- `ClientRoutingProfile.to_dict`. -/
def ClientRoutingProfile.toDict (profile : ClientRoutingProfile) : Record :=
  [member "profile_id" profile.profileId.json] ++
    optionalMember "allowed_providers" (profile.allowedProviders.map SortedIds.json)

/-- `ClientRoutingProfile.from_dict`. -/
def clientRoutingProfileFromDict (d : Json) : Except ConfigRaised ClientRoutingProfile := do
  let dd ← routeError (vExactShape d ["profile_id"] ["allowed_providers"] "client_routing_profile")
  let profileId ← routeError
    (vSafeId (← routeItem dd "profile_id") "client_routing_profile.profile_id")
  let allowedProviders ← presentOr dd "allowed_providers" none fun value =>
    some <$> routeError (idListField none value "client_routing_profile.allowed_providers")
  .ok ⟨profileId, allowedProviders⟩

/-! ### Limits -/

/-- `GatewayLimits`. -/
structure GatewayLimits where
  maxRequestBodyBytes : AtLeast 1 := ⟨16777216, one_le_literal _⟩
  maxInputContextTokens : AtLeast 1 := ⟨2097152, one_le_literal _⟩
  maxOutputTokens : AtLeast 1 := ⟨131072, one_le_literal _⟩
  maxConcurrentExecutions : AtLeast 1 := ⟨4, one_le_literal _⟩
  maxConcurrentExecutionsPerClient : AtLeast 1 := ⟨2, one_le_literal _⟩
  executionTimeLimitSeconds : AtLeast 1 := ⟨1200, one_le_literal _⟩
  per_client_le : maxConcurrentExecutionsPerClient.1 ≤ maxConcurrentExecutions.1 := by decide
  deriving DecidableEq

/-- `_LIMIT_FIELDS`. -/
def limitFields : List String :=
  ["max_request_body_bytes", "max_input_context_tokens", "max_output_tokens",
    "max_concurrent_executions", "max_concurrent_executions_per_client",
    "execution_time_limit_seconds"]

/-- `GatewayLimits.to_dict`. -/
def GatewayLimits.toDict (limits : GatewayLimits) : Record :=
  [member "max_request_body_bytes" (.int limits.maxRequestBodyBytes.1),
    member "max_input_context_tokens" (.int limits.maxInputContextTokens.1),
    member "max_output_tokens" (.int limits.maxOutputTokens.1),
    member "max_concurrent_executions" (.int limits.maxConcurrentExecutions.1),
    member "max_concurrent_executions_per_client" (.int limits.maxConcurrentExecutionsPerClient.1),
    member "execution_time_limit_seconds" (.int limits.executionTimeLimitSeconds.1)]

/-- One limit, or its default. -/
def limitItem (dd : Record) (key : String) (default : AtLeast 1) : Except Raised (AtLeast 1) :=
  itemOr dd key default fun value => valueError (vInt value ("gateway_limits." ++ key) 1)

/-- `GatewayLimits.from_dict`. -/
def gatewayLimitsFromDict (d : Json) : Except Raised GatewayLimits := do
  let dd ← valueError (exactShape d [] limitFields "gateway_limits")
  let bodyBytes ← limitItem dd "max_request_body_bytes" ⟨16777216, one_le_literal _⟩
  let inputTokens ← limitItem dd "max_input_context_tokens" ⟨2097152, one_le_literal _⟩
  let outputTokens ← limitItem dd "max_output_tokens" ⟨131072, one_le_literal _⟩
  let concurrent ← limitItem dd "max_concurrent_executions" ⟨4, one_le_literal _⟩
  let perClient ← limitItem dd "max_concurrent_executions_per_client" ⟨2, one_le_literal _⟩
  let seconds ← limitItem dd "execution_time_limit_seconds" ⟨1200, one_le_literal _⟩
  if h : perClient.1 ≤ concurrent.1 then
    .ok ⟨bodyBytes, inputTokens, outputTokens, concurrent, perClient, seconds, h⟩
  else .error (.value (.stated "gateway_limits: per-client concurrency exceeds the global limit"))

/-- `AuditRetention`. -/
structure AuditRetention where
  maxRecords : AtLeast 1 := ⟨10000, by decide⟩
  maxAgeSeconds : AtLeast 1 := ⟨2592000, by decide⟩
  deriving DecidableEq

/-- `AuditRetention.to_dict`. -/
def AuditRetention.toDict (retention : AuditRetention) : Record :=
  [member "max_records" (.int retention.maxRecords.1),
    member "max_age_seconds" (.int retention.maxAgeSeconds.1)]

/-- `AuditRetention.from_dict`. -/
def auditRetentionFromDict (d : Json) : Except Raised AuditRetention := do
  let dd ← valueError (exactShape d ["max_records", "max_age_seconds"] [] "audit_retention")
  let maxRecords ← valueError (vInt (← dd.item "max_records") "audit_retention.max_records" 1)
  let maxAgeSeconds ← valueError
    (vInt (← dd.item "max_age_seconds") "audit_retention.max_age_seconds" 1)
  .ok ⟨maxRecords, maxAgeSeconds⟩

end ConfigDocument

end ScarcityRouter
