import ScarcityRouter.MiConsumer
import ScarcityRouter.Routing.Contracts

namespace ScarcityRouter

open ScarcityRouter.Lib

/-!
# The route request

`RouteRequest` of `routing_core.py`: the inputs of one decision, their construction checks and the
requirement they resolve to.

* `RouteInputs` — the fields.  `RouteInputs.postInit` is `__post_init__`: it checks, sorts the
  reports and cells, and merges an explicit task requirement into the binding.
* `resolveRequirement` — the merged requirement and the profile provenance.
* `RouteInputs.Valid`, `RouteRequest` — what the constructor establishes, and the requests that
  carry it; `valid_of_postInit` and `postInit_of_valid` say that **construction is idempotent**, so
  `dataclasses.replace` re-checks only what it changes.
-/

/-- Every observation and layer one route decision consumes. -/
structure RouteInputs where
  catalog : ModelCatalog
  profiles : TaskProfileCatalog
  registrySnapshot : RegistrySnapshot
  policy : SelectorPolicy
  evaluatedAt : Instant
  capacitySnapshots : List CapacitySnapshot := []
  replenishmentStates : List ReplenishmentState := []
  eligibilityReports : List ExecutionEligibility := []
  compatibilityCells : List CompatibilityCell := []
  adminConstraints : AdministratorConstraints := {}
  clientAuthorization : ClientAuthorization := {}
  routingProfile : Option ClientRoutingProfile := none
  request : RequestBinding := {}
  profilePolicyVersion : Option ℕ+ := none
  requireCatalogEffort : Bool := false
  availableAdapterResourceIds : Option (Finset SafeId) := none
  continuationCapableResourceIds : Option (Finset SafeId) := none
  candidateIdentities : Option (List ModelIdentity) := none
  taskRequirement : Option TaskRequirement := none
  executionAssurances : List ExecutionAssurance := []
  miAdmission : Option MIAdmission := none
  miBlocked : Finset ModelIdentity := ∅
  miChannels : List (ModelIdentity × Option SafeId) := []

namespace RouteInputs

variable (i : RouteInputs)

/-- `catalog.catalog_version is None`: the request reads a runtime inventory. -/
def isRuntime : Bool := i.catalog.catalogVersion.isNone

/-! ### Requirement resolution -/

/-- The requirement of an unprofiled request: level `L0`, no minima. -/
def minimalRequirement : TaskRequirement := ⟨.l0, {}, {}⟩

/-- The requirement before the structural demands: the profile's, tightened by the explicit one. -/
def baseRequirement : Except ContractError TaskRequirement :=
  match i.routingProfile, i.taskRequirement with
  | none, none => .ok minimalRequirement
  | none, some explicit => .ok explicit
  | some profile, none => i.profiles.resolve profile.profileId
  | some profile, some explicit => do
    let base ← i.profiles.resolve profile.profileId
    tightenRequirement base explicit

/-- The structural demands of a binding, as a requirement of a given level. -/
def structuralRequirement (request : RequestBinding) (level : TaskLevel) : TaskRequirement where
  taskLevel := level
  capabilityMinima := {}
  hardConstraints :=
    { requiresToolUse := request.requiresToolCalls
      requiresReasoningMode := request.requiresReasoningControls
      minimumInputContextTokens := request.minimumInputContextTokens
      minimumOutputTokens := request.maximumOutputTokens }

/-- The requirement a binding resolves to. -/
def resolveWith (request : RequestBinding) : Except ContractError TaskRequirement := do
  let base ← i.baseRequirement
  tightenRequirement base (structuralRequirement request base.taskLevel)

/-- `_resolve_requirement`. -/
def resolveRequirement : Except ContractError TaskRequirement := i.resolveWith i.request

/-- The profile provenance that `_resolve_requirement` returns next to the requirement. -/
def profileId : Option SafeId := i.routingProfile.map (·.profileId)

/-- The profile's own context floor. -/
def profileContextFloor : Except ContractError ℕ :=
  match i.routingProfile with
  | none => .ok 0
  | some profile => do
    let base ← i.profiles.resolve profile.profileId
    return orZero base.hardConstraints.minimumInputContextTokens

/-! ### Construction -/

/-- The binding with the context minimum of the structural floor, when there is one. -/
def withContext (request : RequestBinding) (floor : ℕ) : RequestBinding :=
  { request with
    minimumInputContextTokens := (positive? floor).or request.minimumInputContextTokens
    exclusive := request.exclusive }

/-- The merge of an explicit task requirement into the request binding. -/
def normalizeBinding (explicit : TaskRequirement) : Except ContractError RequestBinding := do
  let profileFloor ← i.profileContextFloor
  let floored := withContext i.request (max
    (max (orZero i.request.minimumInputContextTokens)
      (orZero explicit.hardConstraints.minimumInputContextTokens)) profileFloor)
  let resolved ← i.resolveWith floored
  let hard := resolved.hardConstraints
  check (hard.requiresVision = false) (.routeContractValidation
    "task_requirement.requires_vision: no evidenced channel contract")
  check (∀ minimum ∈ hard.minimumOutputTokens, ∀ maximum ∈ floored.maximumOutputTokens,
      minimum ≤ maximum) (.routeContractValidation
    "task_requirement.minimum_output_tokens contradicts the requested output ceiling")
  let merged := withContext floored
    (max (orZero floored.minimumInputContextTokens) (orZero hard.minimumInputContextTokens))
  return { merged with
    requiresToolCalls := floored.requiresToolCalls || hard.requiresToolUse
    requiresReasoningControls := floored.requiresReasoningControls || hard.requiresReasoningMode
    exclusive := merged.exclusive }

/-- The tuple rendering of a cell key in errors. -/
def renderCellKey (key : Channel ×ₗ SafeId ×ₗ SafeId ×ₗ WithBot SafeId ×ₗ CompatFeature) : String :=
  let (channel, rest) := ofLex key
  let (provider, rest) := ofLex rest
  let (model, rest) := ofLex rest
  let (variant, feature) := ofLex rest
  "(" ++ channel.text.repr ++ ", " ++ provider.repr ++ ", " ++ model.repr ++ ", "
    ++ variant.recBotCoe "None" SafeId.repr ++ ", " ++ feature.text.repr ++ ")"

/-- The checks of `__post_init__` that precede the requirement merge, in order. -/
def checks : Except ContractError Unit := do
  check (∀ candidates ∈ i.candidateIdentities, candidates.Nodup ∧
      candidates ⊆ i.catalog.entries.map (·.identity)) (.routeContractValidation
    "route_request.candidate_identities: expected unique calibrated identities")
  check (i.isRuntime = true → i.replenishmentStates = []) (.routeContractValidation
    ("runtime routing cannot associate provider-only replenishment observations with an "
      ++ "exact resource"))
  rejectDuplicates (i.eligibilityReports.map (·.provider)) fun provider =>
    .routeContractValidation ("route_request.eligibility_reports: duplicate eligibility report "
      ++ "for provider " ++ provider.repr ++ "; at most one report per provider is permitted")
  rejectDuplicates (i.compatibilityCells.map (·.key)) fun key =>
    .routeContractValidation ("route_request.compatibility_cells: duplicate cell for "
      ++ renderCellKey key ++ "; at most one current cell per key is permitted")
  check (i.request.profileAlias.isSome = true → i.routingProfile.isSome = true)
    (.routeContractValidation
      "route_request: a profile_alias requires the configured routing profile that resolves it")
  check (i.registrySnapshot.generatedAt.instant ≤ i.evaluatedAt) (.routeContractValidation
    ("route_request: evaluated_at precedes the registry snapshot's generated_at; a decision is "
      ++ "never evaluated before its own state snapshot"))

/-- The stored form of the report and cell collections. -/
def canonical : RouteInputs :=
  { i with
    eligibilityReports := sortBy (·.provider) i.eligibilityReports
    compatibilityCells := sortBy (·.key) i.compatibilityCells }

/-- `RouteRequest.__post_init__`. -/
def postInit : Except ContractError RouteInputs := do
  i.checks
  match i.taskRequirement with
  | none => return i.canonical
  | some explicit =>
    let request ← i.normalizeBinding explicit
    return { i.canonical with request }

/-! ### Valid inputs -/

/-- What construction establishes. -/
structure Valid : Prop where
  candidates_calibrated : ∀ candidates ∈ i.candidateIdentities, candidates.Nodup ∧
    candidates ⊆ i.catalog.entries.map (·.identity)
  runtime_states : i.isRuntime = true → i.replenishmentStates = []
  reports_sorted : i.eligibilityReports.Pairwise fun a b => a.provider < b.provider
  cells_sorted : i.compatibilityCells.Pairwise fun a b => a.key < b.key
  alias_profile : i.request.profileAlias.isSome = true → i.routingProfile.isSome = true
  after_snapshot : i.registrySnapshot.generatedAt.instant ≤ i.evaluatedAt
  binding_merged : ∀ explicit ∈ i.taskRequirement, i.normalizeBinding explicit = .ok i.request

/-! ### Construction is idempotent -/

section Idempotence

variable {i}

theorem withContext_eq_self {request : RequestBinding} {floor : ℕ}
    (h : orZero request.minimumInputContextTokens = floor) : withContext request floor = request := by
  have hmin : (positive? floor).or request.minimumInputContextTokens =
      request.minimumInputContextTokens := by
    rw [← h, positive?_orZero, Option.or_self]
  unfold withContext
  rw [hmin]

theorem orZero_withContext {request : RequestBinding} {floor : ℕ}
    (h : orZero request.minimumInputContextTokens ≤ floor) :
    orZero (withContext request floor).minimumInputContextTokens = floor := by
  unfold withContext
  dsimp only
  by_cases hpos : 0 < floor
  · have hsome : positive? floor = some ⟨floor, hpos⟩ := dif_pos hpos
    rw [hsome]
    rfl
  · have hzero : floor = 0 := by omega
    have hreq : request.minimumInputContextTokens = none := orZero_injective (by
      rw [orZero_none]
      omega)
    rw [hreq, Option.or_none, orZero_positive?]

/-- The base requirement never asks for more context than the floor accounts for. -/
theorem baseRequirement_context_le {explicit base : TaskRequirement} {profileFloor : ℕ}
    (hexplicit : i.taskRequirement = some explicit)
    (hfloor : i.profileContextFloor = .ok profileFloor) (hbase : i.baseRequirement = .ok base) :
    orZero base.hardConstraints.minimumInputContextTokens ≤
      max (orZero explicit.hardConstraints.minimumInputContextTokens) profileFloor := by
  unfold baseRequirement at hbase
  unfold profileContextFloor at hfloor
  rw [hexplicit] at hbase
  cases hprofile : i.routingProfile with
  | none =>
    rw [hprofile] at hbase
    obtain rfl : explicit = base := Except.ok.inj hbase
    exact le_max_left _ _
  | some profile =>
    rw [hprofile] at hbase hfloor
    obtain ⟨profileBase, hresolve, htighten⟩ := bind_eq_ok.mp hbase
    obtain ⟨profileBase', hresolve', hvalue⟩ := bind_eq_ok.mp hfloor
    obtain rfl : profileBase = profileBase' := Except.ok.inj (hresolve.symm.trans hresolve')
    obtain rfl := Except.ok.inj hvalue
    rw [(tightenRequirement_hard htighten).1]
    cases explicit.hardConstraints.minimumInputContextTokens with
    | none => exact le_max_right _ _
    | some minimum => exact le_max_left _ _

/-- What a merged binding is: the floored binding with the requirement's flags. -/
private theorem normalizeBinding_spec {explicit : TaskRequirement} {request : RequestBinding}
    (hexplicit : i.taskRequirement = some explicit)
    (h : i.normalizeBinding explicit = .ok request) :
    ∃ profileFloor base resolved, ∃ floored : RequestBinding,
      i.profileContextFloor = .ok profileFloor ∧ i.baseRequirement = .ok base ∧
      tightenRequirement base (structuralRequirement floored base.taskLevel) = .ok resolved ∧
      resolved.hardConstraints.requiresVision = false ∧
      (∀ minimum ∈ resolved.hardConstraints.minimumOutputTokens,
        ∀ maximum ∈ floored.maximumOutputTokens, minimum ≤ maximum) ∧
      orZero floored.minimumInputContextTokens = max
        (max (orZero i.request.minimumInputContextTokens)
          (orZero explicit.hardConstraints.minimumInputContextTokens)) profileFloor ∧
      orZero resolved.hardConstraints.minimumInputContextTokens ≤
        orZero floored.minimumInputContextTokens ∧
      request = { floored with
        requiresToolCalls := floored.requiresToolCalls || resolved.hardConstraints.requiresToolUse
        requiresReasoningControls :=
          floored.requiresReasoningControls || resolved.hardConstraints.requiresReasoningMode
        exclusive := floored.exclusive } := by
  unfold normalizeBinding at h
  obtain ⟨profileFloor, hfloor, h⟩ := bind_eq_ok.mp h
  obtain ⟨resolved, hresolved, h⟩ := bind_eq_ok.mp h
  obtain ⟨hvision, h⟩ := check_bind_eq_ok.mp h
  obtain ⟨houtput, h⟩ := check_bind_eq_ok.mp h
  unfold resolveWith at hresolved
  obtain ⟨base, hbase, htighten⟩ := bind_eq_ok.mp hresolved
  set floor := max (max (orZero i.request.minimumInputContextTokens)
    (orZero explicit.hardConstraints.minimumInputContextTokens)) profileFloor
  set floored := withContext i.request floor
  have hfloored : orZero floored.minimumInputContextTokens = floor :=
    orZero_withContext (le_trans (le_max_left _ _) (le_max_left _ _))
  have hbaseLe := baseRequirement_context_le hexplicit hfloor hbase
  have hle : orZero resolved.hardConstraints.minimumInputContextTokens ≤
      orZero floored.minimumInputContextTokens := by
    rw [(tightenRequirement_hard htighten).1]
    change orZero (floored.minimumInputContextTokens.or _) ≤ _
    cases hmin : floored.minimumInputContextTokens with
    | some minimum => exact le_rfl
    | none =>
      rw [Option.none_or, ← hmin, hfloored]
      exact le_trans hbaseLe (max_le (le_trans (le_max_right _ _) (le_max_left _ _))
        (le_max_right _ _))
  have hmerged : withContext floored (max (orZero floored.minimumInputContextTokens)
      (orZero resolved.hardConstraints.minimumInputContextTokens)) = floored :=
    withContext_eq_self (max_eq_left hle).symm
  refine ⟨profileFloor, base, resolved, floored, hfloor, hbase, htighten, hvision, houtput,
    hfloored, hle, ?_⟩
  rw [pure_eq_ok, hmerged] at h
  exact (Except.ok.inj h).symm

/-- **Merging twice is merging once.** -/
theorem normalizeBinding_idempotent {explicit : TaskRequirement} {request : RequestBinding}
    (hexplicit : i.taskRequirement = some explicit)
    (h : i.normalizeBinding explicit = .ok request) :
    ({ i with request } : RouteInputs).normalizeBinding explicit = .ok request := by
  obtain ⟨profileFloor, base, resolved, floored, hfloor, hbase, htighten, hvision, houtput,
    hfloored, hle, rfl⟩ := normalizeBinding_spec hexplicit h
  set request : RequestBinding := { floored with
    requiresToolCalls := floored.requiresToolCalls || resolved.hardConstraints.requiresToolUse
    requiresReasoningControls :=
      floored.requiresReasoningControls || resolved.hardConstraints.requiresReasoningMode
    exclusive := floored.exclusive }
  obtain ⟨-, -, htool, -, hreasoning⟩ := tightenRequirement_hard htighten
  have hsame : withContext request (max (max (orZero request.minimumInputContextTokens)
      (orZero explicit.hardConstraints.minimumInputContextTokens)) profileFloor) = request := by
    refine withContext_eq_self ?_
    change orZero floored.minimumInputContextTokens =
      max (max (orZero floored.minimumInputContextTokens) _) _
    rw [hfloored]
    omega
  have htighten' : tightenRequirement base (structuralRequirement request base.taskLevel) =
      .ok resolved := by
    rw [← htighten]
    refine tightenRequirement_congr_flags rfl rfl rfl ?_ ?_
    · change (base.hardConstraints.requiresToolUse || (floored.requiresToolCalls ||
        resolved.hardConstraints.requiresToolUse)) = (_ || floored.requiresToolCalls)
      rw [htool]
      change (base.hardConstraints.requiresToolUse || (floored.requiresToolCalls ||
        (_ || floored.requiresToolCalls))) = _
      cases base.hardConstraints.requiresToolUse <;> cases floored.requiresToolCalls <;> rfl
    · change (base.hardConstraints.requiresReasoningMode || (floored.requiresReasoningControls ||
        resolved.hardConstraints.requiresReasoningMode)) = (_ || floored.requiresReasoningControls)
      rw [hreasoning]
      change (base.hardConstraints.requiresReasoningMode || (floored.requiresReasoningControls ||
        (_ || floored.requiresReasoningControls))) = _
      cases base.hardConstraints.requiresReasoningMode <;>
        cases floored.requiresReasoningControls <;> rfl
  unfold normalizeBinding
  refine bind_eq_ok.mpr ⟨profileFloor, hfloor, ?_⟩
  dsimp only
  rw [hsame]
  refine bind_eq_ok.mpr ⟨resolved, bind_eq_ok.mpr ⟨base, hbase, htighten'⟩, ?_⟩
  refine check_bind_eq_ok.mpr ⟨hvision, check_bind_eq_ok.mpr ⟨houtput, ?_⟩⟩
  have hmerged : withContext request (max (orZero request.minimumInputContextTokens)
      (orZero resolved.hardConstraints.minimumInputContextTokens)) = request :=
    withContext_eq_self (max_eq_left hle).symm
  rw [hmerged, pure_eq_ok]
  refine congrArg Except.ok ?_
  simp only [request, Bool.or_assoc, Bool.or_self]

end Idempotence

/-- The alias of a merged binding is the alias of the request. -/
theorem normalizeBinding_alias {explicit : TaskRequirement} {request : RequestBinding}
    (h : i.normalizeBinding explicit = .ok request) :
    request.profileAlias = i.request.profileAlias := by
  unfold normalizeBinding at h
  obtain ⟨_, -, h⟩ := bind_eq_ok.mp h
  obtain ⟨_, -, h⟩ := bind_eq_ok.mp h
  obtain ⟨-, h⟩ := check_bind_eq_ok.mp h
  obtain ⟨-, h⟩ := check_bind_eq_ok.mp h
  obtain rfl := Except.ok.inj h
  rfl

/-- What the preliminary checks establish. -/
theorem checks_eq_ok {u : Unit} : i.checks = .ok u ↔
    (∀ candidates ∈ i.candidateIdentities, candidates.Nodup ∧
      candidates ⊆ i.catalog.entries.map (·.identity)) ∧
    (i.isRuntime = true → i.replenishmentStates = []) ∧
    (i.eligibilityReports.map (·.provider)).Nodup ∧ (i.compatibilityCells.map (·.key)).Nodup ∧
    (i.request.profileAlias.isSome = true → i.routingProfile.isSome = true) ∧
    i.registrySnapshot.generatedAt.instant ≤ i.evaluatedAt := by
  unfold checks
  simp only [check_bind_eq_ok, rejectDuplicates_bind_eq_ok, check_eq_ok]

/-- **Construction establishes validity.** -/
theorem valid_of_postInit {j : RouteInputs} (h : i.postInit = .ok j) : j.Valid := by
  unfold postInit at h
  obtain ⟨_, hchecks, h⟩ := bind_eq_ok.mp h
  obtain ⟨hcandidates, hstates, hreports, hcells, halias, hafter⟩ := i.checks_eq_ok.mp hchecks
  cases hexplicit : i.taskRequirement with
  | none =>
    rw [hexplicit] at h
    obtain rfl := Except.ok.inj h
    exact ⟨hcandidates, hstates, pairwise_lt_sortBy hreports, pairwise_lt_sortBy hcells, halias,
      hafter, fun explicit hmem => absurd (hexplicit.symm.trans hmem) (by simp)⟩
  | some explicit =>
    rw [hexplicit] at h
    obtain ⟨request, hmerge, h⟩ := bind_eq_ok.mp h
    obtain rfl := Except.ok.inj h
    refine ⟨hcandidates, hstates, pairwise_lt_sortBy hreports, pairwise_lt_sortBy hcells, ?_,
      hafter, ?_⟩
    · change request.profileAlias.isSome = true → i.routingProfile.isSome = true
      rw [i.normalizeBinding_alias hmerge]
      exact halias
    · intro explicit' hmem
      obtain rfl : explicit = explicit' := Option.some.inj (hexplicit.symm.trans hmem)
      exact normalizeBinding_idempotent hexplicit hmerge

/-- **Construction leaves valid inputs alone.** -/
theorem postInit_of_valid (h : i.Valid) : i.postInit = .ok i := by
  have hreports : sortBy (·.provider) i.eligibilityReports = i.eligibilityReports :=
    sortBy_eq_self (h.reports_sorted.imp le_of_lt)
  have hcells : sortBy (·.key) i.compatibilityCells = i.compatibilityCells :=
    sortBy_eq_self (h.cells_sorted.imp le_of_lt)
  have hcanonical : i.canonical = i := by
    unfold canonical
    rw [hreports, hcells]
  have hchecks : i.checks = .ok () := i.checks_eq_ok.mpr ⟨h.candidates_calibrated,
    h.runtime_states, List.pairwise_map.mpr (h.reports_sorted.imp ne_of_lt),
    List.pairwise_map.mpr (h.cells_sorted.imp ne_of_lt), h.alias_profile, h.after_snapshot⟩
  unfold postInit
  refine bind_eq_ok.mpr ⟨(), hchecks, ?_⟩
  rw [hcanonical]
  cases hexplicit : i.taskRequirement with
  | none => rfl
  | some explicit => exact bind_eq_ok.mpr ⟨i.request, h.binding_merged explicit hexplicit, rfl⟩

end RouteInputs

/-! ### Requests -/

/-- A valid `RouteRequest`. -/
structure RouteRequest extends RouteInputs where
  valid : toRouteInputs.Valid

/-- The constructor of `RouteRequest`; `dataclasses.replace` runs it again on changed fields. -/
def RouteRequest.make (inputs : RouteInputs) : Except ContractError RouteRequest :=
  match h : inputs.postInit with
  | .ok stored => .ok ⟨stored, inputs.valid_of_postInit h⟩
  | .error e => .error e

theorem RouteRequest.make_of_valid {inputs : RouteInputs} (h : inputs.Valid) :
    RouteRequest.make inputs = .ok ⟨inputs, h⟩ := by
  have hinit := inputs.postInit_of_valid h
  unfold RouteRequest.make
  split
  · rename_i stored hstored
    obtain rfl : inputs = stored := Except.ok.inj (hinit.symm.trans hstored)
    rfl
  · rename_i e herror
    rw [hinit] at herror
    cases herror

theorem RouteRequest.make_eq_ok {inputs : RouteInputs} {request : RouteRequest} :
    RouteRequest.make inputs = .ok request ↔ inputs.postInit = .ok request.toRouteInputs := by
  unfold RouteRequest.make
  split
  · rename_i stored hstored
    constructor
    · intro h
      rw [← Except.ok.inj h]
      exact hstored
    · intro h
      obtain rfl : stored = request.toRouteInputs := Except.ok.inj (hstored.symm.trans h)
      rfl
  · rename_i e herror
    simp [herror]

/-- Replacing the catalog of a request re-checks the candidates and the runtime rule only. -/
theorem RouteInputs.Valid.withCatalog {i : RouteInputs} (h : i.Valid) (catalog : ModelCatalog)
    (hcandidates : ∀ candidates ∈ i.candidateIdentities,
      candidates ⊆ catalog.entries.map (·.identity))
    (hversion : catalog.catalogVersion = i.catalog.catalogVersion) :
    ({ i with catalog } : RouteInputs).Valid where
  candidates_calibrated := fun candidates hmem =>
    ⟨(h.candidates_calibrated candidates hmem).1, hcandidates candidates hmem⟩
  runtime_states := fun hruntime => h.runtime_states (by
    unfold RouteInputs.isRuntime at hruntime ⊢
    rwa [← hversion])
  reports_sorted := h.reports_sorted
  cells_sorted := h.cells_sorted
  alias_profile := h.alias_profile
  after_snapshot := h.after_snapshot
  binding_merged := h.binding_merged

/-- Replacing the catalog returns exactly when the candidates stay calibrated. -/
theorem RouteRequest.make_withCatalog_returns_iff (r : RouteRequest) {catalog : ModelCatalog}
    (hversion : catalog.catalogVersion = r.catalog.catalogVersion) :
    Returns (RouteRequest.make { r.toRouteInputs with catalog }) ↔
      ∀ candidates ∈ r.candidateIdentities, candidates ⊆ catalog.entries.map (·.identity) := by
  constructor
  · rintro ⟨request, h⟩ candidates hmem
    have hinit := RouteRequest.make_eq_ok.mp h
    unfold RouteInputs.postInit at hinit
    obtain ⟨_, hchecks, -⟩ := bind_eq_ok.mp hinit
    exact ((RouteInputs.checks_eq_ok _).mp hchecks).1 candidates hmem |>.2
  · intro hcandidates
    exact ⟨_, RouteRequest.make_of_valid (r.valid.withCatalog catalog hcandidates hversion)⟩

end ScarcityRouter
