import ScarcityRouter.Gateway.Validation
import ScarcityRouter.Lib.Table
import ScarcityRouter.Registry.Store

namespace ScarcityRouter

open ScarcityRouter.Lib

/-!
# Execution sources

`model_inventory.py` and `execution_sources.py`: what a worker discovers on its sources, and the
resources the server derives from it.

* `ModelInventoryReport`, `SourceConfig` — the discovery document and the administrator's grant,
  with the checks of their constructors as fields.
* `sourceResourceId` — the id of a derived resource.
* `SourceState.decide` — `SourceRegistry._decide`: adoption, and the retirement of what is no longer
  listed.
* `SourceRegistry.applyInventory`, `SourceRegistry.derivedRegistrations` — the registry of all
  sources.

A call that raises may leave a registry that was changed in part: its one caller works on a copy and
drops it, so that a call here is given as its result or as what it raises.  Presentation facts of an
inventory and of a source are read by no modelled function and are left out.
-/

/-! ### Inventories -/

/-- `SOURCE_KINDS`. -/
inductive SourceKind where
  | codexSubscription | zcodeSubscription
  deriving DecidableEq

/-- `_SOURCE_KIND_PROVIDER`. -/
def SourceKind.provider : SourceKind → SafeId
  | codexSubscription => .lit "openai"
  | zcodeSubscription => .lit "zai"

/-- `_ADAPTER_PREFIX_BY_KIND`. -/
def SourceKind.adapterPrefix : SourceKind → String
  | codexSubscription => "codex"
  | zcodeSubscription => "zcode"

/-- `SOURCE_AUTH_STATES`. -/
inductive SourceAuthState where
  | authenticated | authRequired | unverified | unavailable
  deriving DecidableEq

/-- `SLUG_MAX_LENGTH`. -/
def slugMaxLength : ℕ := 35

/-- `SOURCE_ID_MAX_LENGTH`. -/
def sourceIdMaxLength : ℕ := 20

/-- One physical model that the runtime of a source advertises, with the efforts it reports. -/
structure DiscoveredModel where
  slug : SafeId
  reasoningEfforts : List SafeId
  slug_le : slug.text.length ≤ slugMaxLength := by decide +kernel
  efforts_le : reasoningEfforts.length ≤ 8 := by decide
  efforts_distinct : reasoningEfforts.Nodup := by decide +kernel
  deriving DecidableEq

/-- One source's discovery at one instant; its constructor sorts the models. -/
structure SourceInventory where
  sourceId : SafeId
  adapterId : SafeId
  kind : SourceKind
  authState : SourceAuthState
  runtimeVersion : String
  models : List DiscoveredModel
  runtimeVersionExact : Bool := false
  models_le : models.length ≤ 64 := by decide
  sorted : models.Pairwise (·.slug < ·.slug) := by decide +kernel
  deriving DecidableEq

/-- The discovery document of one worker; its constructor sorts the sources. -/
structure ModelInventoryReport where
  workerId : SafeId
  sources : List SourceInventory
  sources_le : sources.length ≤ 8 := by decide
  sorted : sources.Pairwise (·.sourceId < ·.sourceId) := by decide +kernel
  adapters_distinct : (sources.map (·.adapterId)).Nodup := by decide +kernel

/-- The slugs that an inventory lists. -/
def SourceInventory.slugs (inventory : SourceInventory) : List SafeId :=
  inventory.models.map (·.slug)

/-! ### Resource ids -/

/-- `source_resource_id`. -/
def sourceResourceId (sourceId slug : SafeId) (effort : Option SafeId) : Except Fault SafeId :=
  if sourceIdMaxLength < sourceId.text.length then
    .error (.refused "source_id: longer than 20 chars; derived resource ids would exceed the safe-id contract"
      (.string sourceId.toText))
  else if ':' ∈ sourceId.text.toList ∨ effort.any (fun e => ':' ∈ e.text.toList) then
    .error (.stated "source and effort identifiers must not contain ':'")
  else if effort = none ∧ ':' ∈ slug.text.toList then
    .error (.stated "an effort-less source model must not contain ':'")
  else
    let combined := sourceId.text ++ ":" ++ slug.text ++ effort.elim "" (":" ++ ·.text)
    if h : matchesSafeId combined.toList = true then .ok ⟨combined, h⟩
    else .error (.unsafeIdentifier "source_resource_id" (Text.ofString combined))

/-- `_resource_id`. -/
def derivedResourceId (sourceId slug : SafeId) (effort : Option SafeId) : Except Fault SafeId :=
  if 40 < slug.text.length then
    .error (.refused "discovered slug exceeds 40 chars" (.string slug.toText))
  else sourceResourceId sourceId slug effort

/-- `resource_id.partition(":")[0]`. -/
def sourceHead (resourceId : SafeId) : List Char := resourceId.text.toList.takeWhile (· ≠ ':')

/-- `is_source_resource_id`. -/
def isSourceResourceId (resourceId : SafeId) : Bool :=
  match resourceId.text.toList.dropWhile (· ≠ ':') with
  | [] => false
  | _ :: tail =>
    sourceHead resourceId ≠ [] && tail ≠ [] && (sourceHead resourceId).length ≤ sourceIdMaxLength

/-! ### Efforts -/

/-- `REASONING_EFFORTS`. -/
def reasoningEfforts : List SafeId :=
  [ReasoningEffort.none, .low, .medium, .high, .xhigh, .max, .ultra].map ReasoningEffort.text

/-- The policy efforts among the reported ones, sorted. -/
def policyEfforts (efforts : List SafeId) : List SafeId :=
  sortBy id (efforts.filter (· ∈ reasoningEfforts))

@[simp] theorem mem_policyEfforts {efforts : List SafeId} {effort : SafeId} :
    effort ∈ policyEfforts efforts ↔ effort ∈ efforts ∧ effort ∈ reasoningEfforts := by
  unfold policyEfforts
  rw [mem_sortBy, List.mem_filter, decide_eq_true_eq]

/-! ### Configuration -/

/-- An administrator-attested context bound of an exact model. -/
@[ext] structure SourceContextEvidence where
  model : SafeId
  variant : SafeId
  runtimeVersion : String
  inputTokens : ℕ+
  evidenceRef : SafeId
  validUntil : Timestamp
  verifiedAt : Timestamp
  interval : verifiedAt < validUntil := by decide

instance : DecidableEq SourceContextEvidence := fun _ _ =>
  decidable_of_iff _ SourceContextEvidence.ext_iff.symm

/-- One execution source's administrator configuration. -/
structure SourceConfig where
  sourceId : SafeId
  kind : SourceKind
  workerId : SafeId
  entitlement : Entitlement := .subscriptionIncluded
  quotaPoolId : Option SafeId := none
  autoAdopt : Bool := true
  allowedTracks : List (SafeId × SafeId) := []
  allowedModels : List SafeId := []
  contextEvidence : List SourceContextEvidence := []
  sourceId_le : sourceId.text.length ≤ sourceIdMaxLength := by decide +kernel
  sourceId_plain : ':' ∉ sourceId.text.toList := by decide +kernel
  entitlement_eq : entitlement = .subscriptionIncluded := by exact Eq.refl Entitlement.subscriptionIncluded
  models_le : allowedModels.length ≤ 64 := by decide
  models_distinct : allowedModels.Nodup := by decide +kernel
  deriving DecidableEq

/-- `pool_id`, in the identity of a resource. -/
def SourceConfig.poolId (config : SourceConfig) : Except Fault SafeId :=
  match config.quotaPoolId with
  | some poolId => .ok poolId
  | none =>
    let pool := "pool-" ++ config.sourceId.text
    if h : matchesSafeId pool.toList = true then .ok ⟨pool, h⟩
    else .error (.unsafeIdentifier "resource_identity.quota_pool_ids" (Text.ofString pool))

/-- `ADOPTION_EXCLUSION_CODES`. -/
inductive AdoptionExclusion where
  | modelNotAllowed | legacyTrackPolicy | planLaneUnverified | adoptionDisabled
  | sourceNotAuthenticated | effortNotReported
  deriving DecidableEq

/-- `_current_exclusion`. -/
def SourceConfig.currentExclusion (config : SourceConfig) (slug : SafeId) :
    Option AdoptionExclusion :=
  if !config.autoAdopt then some .adoptionDisabled
  else if config.allowedTracks ≠ [] then some .legacyTrackPolicy
  else if slug ∉ config.allowedModels then some .modelNotAllowed
  else none

/-- The states of `ADOPTION_STATES` that a decision has. -/
inductive AdoptionState where
  | discovered | routable
  deriving DecidableEq

/-- One discovered model's adoption outcome. -/
structure AdoptionDecision where
  slug : SafeId
  state : AdoptionState
  reason : Option AdoptionExclusion
  resourceId : Option SafeId
  efforts : List SafeId
  deriving DecidableEq

/-! ### One source -/

/-- An entry of `adopted`. -/
structure AdoptedModel where
  slug : SafeId
  efforts : List SafeId
  deriving DecidableEq

/-- An entry of `miss_counts`. -/
structure MissCount where
  slug : SafeId
  misses : ℕ
  deriving DecidableEq

/-- `_SourceState`; the slugs of `retired` are in the order of their retirement. -/
structure SourceState where
  config : SourceConfig
  inventory : Option SourceInventory := none
  adopted : Table AdoptedModel.slug := {}
  missCounts : Table MissCount.slug := {}
  retired : List SafeId := []
  decisions : List AdoptionDecision := []

/-- `RETIRE_AFTER_MISSES`. -/
def retireAfterMisses : ℕ := 3

/-- `MAX_RETAINED_RETIRED`. -/
def maxRetainedRetired : ℕ := 64

/-- Why a listed model is not adopted. -/
def SourceConfig.exclusion (config : SourceConfig) (authState : SourceAuthState)
    (model : DiscoveredModel) : Option AdoptionExclusion :=
  match config.currentExclusion model.slug with
  | some reason => some reason
  | none =>
    match config.kind with
    | .zcodeSubscription =>
      if model.slug.text ≠ "plan-managed" ∨ model.reasoningEfforts ≠ [] then
        some .planLaneUnverified
      else if authState ≠ .authenticated ∧ authState ≠ .unverified then
        some .sourceNotAuthenticated
      else none
    | .codexSubscription =>
      if authState ≠ .authenticated then some .sourceNotAuthenticated
      else if policyEfforts model.reasoningEfforts = [] then some .effortNotReported
      else none

namespace SourceState

/-- The efforts under which a source of a kind holds a model, and binds its resources. -/
def heldEfforts (kind : SourceKind) (model : DiscoveredModel) : List SafeId :=
  match kind with
  | .zcodeSubscription => []
  | .codexSubscription => model.reasoningEfforts

/-- The ids of the resources of a model. -/
def resourceIds (config : SourceConfig) (model : DiscoveredModel) : Except Fault (List SafeId) :=
  match config.kind with
  | .zcodeSubscription => do
    let id ← derivedResourceId config.sourceId model.slug none
    return [id]
  | .codexSubscription =>
    (policyEfforts model.reasoningEfforts).mapM fun effort =>
      derivedResourceId config.sourceId model.slug (some effort)

/-- The part of the loop of `_decide` for one model: every id is checked before it is adopted. -/
def adoptModel (authState : SourceAuthState) (s : SourceState) (model : DiscoveredModel) :
    Except Fault SourceState :=
  match s.config.exclusion authState model with
  | some reason =>
    .ok { s with
      decisions := s.decisions ++
        [⟨model.slug, .discovered, some reason, none, model.reasoningEfforts⟩] }
  | none => do
    let ids ← resourceIds s.config model
    return { s with
      adopted := s.adopted.put ⟨model.slug, heldEfforts s.config.kind model⟩
      decisions := s.decisions ++
        [⟨model.slug, .routable, none, ids.head?, model.reasoningEfforts⟩] }

/-- `retired[slug] = None`, and the bound on what is retained. -/
def retire (retired : List SafeId) (slug : SafeId) : List SafeId :=
  (if slug ∈ retired then retired else retired ++ [slug]).rtake maxRetainedRetired

/-- One more authenticated observation without an adopted model. -/
def countMiss (s : SourceState) (slug : SafeId) : SourceState :=
  let misses := (s.missCounts.row? slug).elim 0 (·.misses) + 1
  if retireAfterMisses ≤ misses then
    { s with
      adopted := s.adopted.erase slug
      missCounts := s.missCounts.erase slug
      retired := retire s.retired slug }
  else { s with missCounts := s.missCounts.put ⟨slug, misses⟩ }

/-- A model that is listed and adopted is neither missing nor retired. -/
def clearMiss (s : SourceState) (slug : SafeId) : SourceState :=
  if (s.adopted.row? slug).isSome then
    { s with
      missCounts := s.missCounts.erase slug
      retired := s.retired.filter (· ≠ slug) }
  else s

/-- The adopted slugs that an inventory does not list, sorted. -/
def omitted (s : SourceState) (slugs : List SafeId) : List SafeId :=
  sortBy id ((s.adopted.rows.map (·.slug)).filter (· ∉ slugs))

/-- What an authenticated inventory says of the adopted models. -/
def settle (s : SourceState) (slugs : List SafeId) : SourceState :=
  slugs.foldl clearMiss ((s.omitted slugs).foldl countMiss s)

/-- `_decide`: the decisions of the inventory are those of the state. -/
def decide (s : SourceState) (inventory : SourceInventory) : Except Fault SourceState := do
  let adopted ← inventory.models.foldlM (adoptModel inventory.authState) { s with decisions := [] }
  return if inventory.authState = .authenticated then adopted.settle inventory.slugs else adopted

/-- The adapter instance of a source: `<prefix>:<source_id>`. -/
def adapterId (config : SourceConfig) : String :=
  config.kind.adapterPrefix ++ ":" ++ config.sourceId.text

/-- An inventory belongs to the source. -/
def Owns (config : SourceConfig) (workerId : SafeId) (inventory : SourceInventory) : Prop :=
  inventory.sourceId = config.sourceId ∧ workerId = config.workerId ∧
    inventory.kind = config.kind ∧ inventory.adapterId.text = adapterId config

instance (config : SourceConfig) (workerId : SafeId) (inventory : SourceInventory) :
    Decidable (Owns config workerId inventory) := by
  unfold Owns
  infer_instance

/-- The part of the loop of `apply_inventory` for the source an inventory names. -/
def apply (s : SourceState) (workerId : SafeId) (inventory : SourceInventory) :
    Except Fault SourceState :=
  if Owns s.config workerId inventory then
    { s with inventory := some inventory }.decide inventory
  else .ok s

/-! #### Derived resources -/

/-- The cells of the adopted models: a slug with an effort, or the one lane without. -/
def cells (s : SourceState) : List (SafeId × Option SafeId) :=
  if s.inventory = none then []
  else
    (sortBy (·.slug) s.adopted.rows).flatMap fun model =>
      if s.config.currentExclusion model.slug ≠ none then []
      else if model.efforts = [] then [(model.slug, none)]
      else (policyEfforts model.efforts).map fun effort => (model.slug, some effort)

/-- The context evidence of a model under the runtime that was observed. -/
def evidence? (s : SourceState) (slug variant : SafeId) : Option SourceContextEvidence :=
  s.config.contextEvidence.find? fun item =>
    item.model = slug && item.variant = variant &&
      s.inventory.any fun inventory =>
        inventory.runtimeVersionExact && item.runtimeVersion = inventory.runtimeVersion

/-- `_source_capabilities`. -/
def capabilities (s : SourceState) (slug variant : SafeId) : ExecutionCapabilities :=
  let toolCalls := some (s.config.kind = .codexSubscription : Bool)
  match s.evidence? slug variant with
  | none => { toolCalls, outputLimitControl := some false }
  | some item =>
    { toolCalls
      outputLimitControl := some false
      contextLimitTokens := some item.inputTokens
      contextEvidence := some
        { ref := item.evidenceRef
          validUntil := item.validUntil
          verifiedAt := item.verifiedAt
          runtimeVersion := item.runtimeVersion
          interval := item.interval }
      evidence_limit := fun _ => rfl }

/-- The registration of a cell. -/
def registration (s : SourceState) (freshnessTtlSeconds : ℕ+) (cell : SafeId × Option SafeId) :
    Except Fault ResourceRegistration := do
  let resourceId ← derivedResourceId s.config.sourceId cell.1 cell.2
  let poolId ← s.config.poolId
  return {
    identity :=
      { resourceId
        channel := .workerBridged
        provider := s.config.kind.provider
        model := cell.1
        variant := cell.2
        entitlement := s.config.entitlement
        quotaPoolIds := [poolId]
        pools_sorted := List.pairwise_singleton _ _ }
    freshnessTtlSeconds
    capabilities := s.capabilities cell.1 (cell.2.getD (.lit "plan")) }

end SourceState

/-! ### The registry of sources -/

/-- `SourceRegistry`. -/
structure SourceRegistry where
  freshnessTtlSeconds : ℕ+ := 900
  sources : Table (fun state : SourceState => state.config.sourceId) := {}

namespace SourceRegistry

variable (r : SourceRegistry)

/-- What is carried into a configuration of a source: what is known of it, as long as its worker
    and its kind are as before. -/
def carried (config : SourceConfig) : SourceState :=
  match r.sources.row? config.sourceId with
  | none => { config }
  | some existing =>
    if existing.config.workerId ≠ config.workerId ∨ existing.config.kind ≠ config.kind then
      { config }
    else { existing with config }

@[simp] theorem carried_config (config : SourceConfig) : (r.carried config).config = config := by
  unfold carried
  split
  · rfl
  · split_ifs <;> rfl

/-- `sync_configuration`. -/
def syncConfiguration (configs : List SourceConfig)
    (distinct : (configs.map (·.sourceId)).Nodup) : SourceRegistry where
  freshnessTtlSeconds := r.freshnessTtlSeconds
  sources :=
    { rows := configs.map r.carried
      distinct := by
        rw [List.map_map]
        have hids : configs.map ((fun state : SourceState => state.config.sourceId) ∘ r.carried) =
            configs.map (·.sourceId) :=
          List.map_congr_left fun config _ => by
            show (r.carried config).config.sourceId = config.sourceId
            rw [carried_config]
        rw [hids]
        exact distinct }

/-- The part of the loop of `apply_inventory` for one inventory. -/
def applySource (workerId : SafeId) (r : SourceRegistry) (inventory : SourceInventory) :
    Except Fault SourceRegistry :=
  match r.sources.row? inventory.sourceId with
  | none => .ok r
  | some state => do
    let applied ← state.apply workerId inventory
    return { r with sources := r.sources.put applied }

/-- `apply_inventory`. -/
def applyInventory (report : ModelInventoryReport) : Except Fault SourceRegistry :=
  report.sources.foldlM (applySource report.workerId) r

/-- `derived_registrations`. -/
def derivedRegistrations : Except Fault (List ResourceRegistration) :=
  (sortBy (fun state => state.config.sourceId) r.sources.rows).foldlM
    (fun registrations state => do
      let derived ← state.cells.mapM (state.registration r.freshnessTtlSeconds)
      return registrations ++ derived) []

end SourceRegistry

end ScarcityRouter
