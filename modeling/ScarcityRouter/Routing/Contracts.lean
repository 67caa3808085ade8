import ScarcityRouter.Routing.Authorization
import ScarcityRouter.Selector.Selection

namespace ScarcityRouter

open ScarcityRouter.Lib

/-!
# Routing contracts

The request-side and decision-side records of `routing_core.py`.

* `PinnedTarget`, `RequestBinding`, `CompatibilityCell` — what one request carries.
* `TargetExclusion`, `RouteContent`, `AdmissionDecision` — the outputs.  A constructor runs its
  `__post_init__` checks on a plain record and returns the validated one; `make_eq_ok` of each says
  which records it accepts.
-/

/-! ### The request side -/

/-- One pinned executable-target reference. -/
structure PinnedTarget where
  resourceId : SafeId
  model : ModelIdentity
  decisionId : Option SafeId := none
  reasoningEffort : Option SafeId := none
  deriving DecidableEq

theorem noAlias_exclusive :
    (none : Option SafeId).isSome = true → (none : Option ModelRef) = none := fun _ => rfl

/-- The request-derived requirements and explicit pins; the alias and the explicit model are two
    readings of one client field. -/
structure RequestBinding where
  requiresToolCalls : Bool := false
  requiresStructuredOutput : Bool := false
  requiresStreaming : Bool := false
  requiresReasoningControls : Bool := false
  minimumInputContextTokens : Option ℕ+ := none
  maximumOutputTokens : Option ℕ+ := none
  profileAlias : Option SafeId := none
  explicitModel : Option ModelRef := none
  explicitVariant : Option SafeId := none
  pinnedTarget : Option PinnedTarget := none
  exclusive : profileAlias.isSome = true → explicitModel = none := by
    first | exact noAlias_exclusive | decide
  deriving DecidableEq

/-- `_REQUEST_FEATURE_MAP`: the gated matrix features and their request flags, in fixed order. -/
def requestFeatureMap : List ((RequestBinding → Bool) × CompatFeature) :=
  [(RequestBinding.requiresToolCalls, .toolCalls),
    (RequestBinding.requiresStructuredOutput, .structuredOutput),
    (RequestBinding.requiresStreaming, .streaming),
    (RequestBinding.requiresReasoningControls, .reasoningControls)]

/-- One compatibility-matrix cell; the adapter and its evidence reference gate nothing. -/
structure CompatibilityCell where
  channel : Channel
  provider : SafeId
  model : SafeId
  feature : CompatFeature
  value : CellValue
  variant : Option SafeId := none
  deriving DecidableEq

/-- `variant or ""` as a sort key: absent before every identifier. -/
def orEmpty (x : Option SafeId) : WithBot SafeId := x.elim ⊥ WithBot.some

/-- The key under which a cell is unique and sorted. -/
def CompatibilityCell.key (cell : CompatibilityCell) :
    Channel ×ₗ SafeId ×ₗ SafeId ×ₗ WithBot SafeId ×ₗ CompatFeature :=
  toLex (cell.channel, toLex (cell.provider, toLex (cell.model,
    toLex (orEmpty cell.variant, cell.feature))))

/-! ### Targets -/

/-- A context attestation next to the limit it attests. -/
structure TargetContextEvidence where
  evidence : ContextEvidence
  contextLimitTokens : ℕ+
  deriving DecidableEq

/-- One authorized executable target. -/
@[ext] structure RouteTarget where
  resource : ResourceIdentity
  model : ModelIdentity
  quotaPools : List SafeId := []
  routingProfile : Option SafeId := none
  promotionSources : List SafeId := []
  sharesQuotaPoolWithSelected : Bool := false
  contextEvidence : Option TargetContextEvidence := none
  evidencedReasoningEffort : Option SafeId := none
  pools_sorted : StrictlySorted quotaPools
  promotions_sorted : StrictlySorted promotionSources

instance : DecidableEq RouteTarget := fun _ _ => decidable_of_iff _ RouteTarget.ext_iff.symm

/-- `PinnedTarget.from_route_target`. -/
def PinnedTarget.fromRouteTarget (target : RouteTarget) (decisionId : Option SafeId := none) :
    PinnedTarget where
  resourceId := target.resource.resourceId
  model := target.model
  decisionId := decisionId
  reasoningEffort := target.evidencedReasoningEffort

/-! ### Exclusions -/

/-- The fields of one per-resource exclusion. -/
structure ExclusionRecord where
  resourceId : SafeId
  stage : RouteStage
  reasonCodes : List TargetReason
  channel : Option Channel := none
  provider : Option SafeId := none
  model : Option SafeId := none
  variant : Option SafeId := none
  healthStatus : Option HealthStatus := none
  freshness : Option Freshness := none
  compatibilityFeature : Option CompatFeature := none
  compatibilityValue : Option CellValue := none
  executionEligibility : Option ExecutionEligibility := none
  deriving DecidableEq

/-- What `TargetExclusion.__post_init__` establishes. -/
structure ExclusionRecord.WellFormed (e : ExclusionRecord) : Prop where
  codes_sorted : StrictlySorted e.reasonCodes
  codes_primary : ∃ code ∈ e.reasonCodes, code ∈ e.stage.reasons
  feature_stage : e.compatibilityFeature.isSome = true → e.stage = .compatibility
  eligibility_stage : e.executionEligibility.isSome = true → e.stage = .availability

/-- `_v_sorted_safe_ids`: duplicate free, then sorted. -/
def checkSorted {κ : Type} [LinearOrder κ] (ids : List κ) (fld : String) :
    Except ContractError Unit := do
  check ids.Nodup (.routeContractValidation (fld ++ ": duplicate values are not permitted"))
  check (ids.Pairwise (· ≤ ·))
    (.routeContractValidation (fld ++ ": must be deterministically sorted"))

theorem checkSorted_eq_ok {κ : Type} [LinearOrder κ] {ids : List κ} {fld : String} {u : Unit} :
    checkSorted ids fld = .ok u ↔ StrictlySorted ids := by
  unfold checkSorted
  rw [check_bind_eq_ok, check_eq_ok]
  constructor
  · rintro ⟨hnd, hle⟩
    exact hle.and hnd |>.imp fun hab => lt_of_le_of_ne hab.1 hab.2
  · intro h
    exact ⟨h.nodup, h.imp le_of_lt⟩

/-- The checks of `TargetExclusion.__post_init__`, in order. -/
def ExclusionRecord.checks (e : ExclusionRecord) : Except ContractError Unit := do
  checkSorted e.reasonCodes "target_exclusion.reason_codes"
  check (e.reasonCodes ≠ []) (.routeContractValidation
    "target_exclusion: an excluded resource requires at least one reason code")
  check (∃ code ∈ e.reasonCodes, code ∈ e.stage.reasons) (.routeContractValidation
    ("target_exclusion: reason codes carry no primary code for stage " ++ e.stage.text.repr))
  check (e.compatibilityFeature.isSome = true → e.stage = .compatibility)
    (.routeContractValidation
      "target_exclusion: compatibility_feature is carried only on compatibility-stage exclusions")
  check (e.executionEligibility.isSome = true → e.stage = .availability)
    (.routeContractValidation
      "target_exclusion: execution_eligibility is carried only on availability-stage exclusions")

theorem ExclusionRecord.checks_eq_ok {e : ExclusionRecord} {u : Unit} :
    e.checks = .ok u ↔ e.WellFormed := by
  unfold ExclusionRecord.checks
  simp only [bind_eq_ok, checkSorted_eq_ok, check_eq_ok, exists_const]
  constructor
  · rintro ⟨hsorted, -, hprimary, hfeature, heligibility⟩
    exact ⟨hsorted, hprimary, hfeature, heligibility⟩
  · rintro ⟨hsorted, ⟨code, hcode, hprimary⟩, hfeature, heligibility⟩
    exact ⟨hsorted, List.ne_nil_of_mem hcode, ⟨code, hcode, hprimary⟩, hfeature, heligibility⟩

/-- One typed per-resource exclusion. -/
structure TargetExclusion extends ExclusionRecord where
  well_formed : toExclusionRecord.WellFormed
  deriving DecidableEq

/-- The constructor of `TargetExclusion`. -/
def TargetExclusion.make (e : ExclusionRecord) : Except ContractError TargetExclusion :=
  (fun p => ⟨e, p.down⟩) <$> certify e.checks ExclusionRecord.checks_eq_ok.mp

theorem TargetExclusion.make_eq_ok {e : ExclusionRecord} {x : TargetExclusion} :
    TargetExclusion.make e = .ok x ↔ e.WellFormed ∧ x.toExclusionRecord = e := by
  unfold TargetExclusion.make
  rw [certify_map_eq_ok, ExclusionRecord.checks_eq_ok]
  constructor
  · rintro ⟨hwf, p, rfl⟩
    exact ⟨hwf, rfl⟩
  · rintro ⟨hwf, rfl⟩
    exact ⟨hwf, hwf, rfl⟩

theorem TargetExclusion.make_returns_iff {e : ExclusionRecord} :
    Returns (TargetExclusion.make e) ↔ e.WellFormed := by
  constructor
  · rintro ⟨x, hx⟩
    exact (make_eq_ok.mp hx).1
  · intro hwf
    exact ⟨⟨e, hwf⟩, make_eq_ok.mpr ⟨hwf, rfl⟩⟩

/-- The sort key of the exclusions of a decision. -/
def ExclusionRecord.key (e : ExclusionRecord) :
    SafeId ×ₗ WithBot SafeId ×ₗ WithBot SafeId ×ₗ RouteStage :=
  toLex (e.resourceId, toLex (orEmpty e.model, toLex (orEmpty e.variant, e.stage)))

/-! ### The route decision -/

/-- `ROUTE_STATUSES`. -/
inductive RouteStatus where
  | selected | noSolution
  deriving DecidableEq, Repr

/-- The content of a route decision: everything its decision id is derived from. -/
structure RouteContent where
  schemaVersion : ℕ
  status : RouteStatus
  selection : SelectionDecision
  registryRevision : ℕ
  registryGeneratedAt : Timestamp
  target : Option RouteTarget := none
  targetAlternatives : List RouteTarget := []
  unroutableIdentities : List ModelIdentity := []
  targetExclusions : List TargetExclusion := []
  expiredPromotions : List SafeId := []
  pinned : Bool := false
  reasonCodes : List RouteReason := []

/-- The schema version a catalog version calls for: runtime inventories have schema 2. -/
def schemaVersionOf (catalogVersion : Option ℕ+) : ℕ := if catalogVersion = none then 2 else 1

/-- A route-decision contract error. -/
private def invalidRoute (message : String) : ContractError :=
  .routeContractValidation ("route_decision" ++ message)

namespace RouteContent

/-- What `RouteDecision.__post_init__` establishes of a selected decision. -/
structure SelectedShape (d : RouteContent) : Prop where
  has_target : ∃ target ∈ d.target, target.sharesQuotaPoolWithSelected = false
  codes_exact : d.reasonCodes = [.routeSelected]

/-- What it establishes of a no-solution decision. -/
structure NoSolutionShape (d : RouteContent) : Prop where
  no_target : d.target = none
  no_alternatives : d.targetAlternatives = []
  explained : .noEligibleTarget ∈ d.reasonCodes
  pin_explained : d.pinned = true → .pinnedRequestFailed ∈ d.reasonCodes

/-- What `RouteDecision.__post_init__` establishes. -/
structure WellFormed (d : RouteContent) : Prop where
  schema_matches : d.schemaVersion = schemaVersionOf d.selection.catalogVersion
  unroutable_unique : d.unroutableIdentities.Nodup
  promotions_sorted : StrictlySorted d.expiredPromotions
  codes_sorted : StrictlySorted d.reasonCodes
  selected_shape : d.status = .selected → d.SelectedShape
  no_solution_shape : d.status = .noSolution → d.NoSolutionShape

/-- The checks that depend on the status. -/
def checkStatus (d : RouteContent) : Except ContractError Unit :=
  match d.status with
  | .selected => do
    check (d.target ≠ none) (invalidRoute ": a selected decision requires a target")
    check (∀ target ∈ d.target, target.sharesQuotaPoolWithSelected = false)
      (invalidRoute ": the selected target never shares a pool with itself")
    check (d.reasonCodes = [.routeSelected])
      (invalidRoute ": a selected decision carries exactly the 'route_selected' reason code")
  | .noSolution => do
    check (d.target = none ∧ d.targetAlternatives = [])
      (invalidRoute ": a no-solution result has no target")
    check (.noEligibleTarget ∈ d.reasonCodes)
      (invalidRoute ": a no-solution result requires the 'no_eligible_target' reason code")
    check (d.pinned = true → .pinnedRequestFailed ∈ d.reasonCodes)
      (invalidRoute ": a failed pinned request carries the 'pinned_request_failed' reason code")

/-- The checks of `RouteDecision.__post_init__`, in order. -/
def checks (d : RouteContent) : Except ContractError Unit := do
  check (d.schemaVersion = schemaVersionOf d.selection.catalogVersion)
    (invalidRoute ".schema_version does not match selection provenance")
  check d.unroutableIdentities.Nodup
    (invalidRoute ".unroutable_identities: duplicate identities are not permitted")
  checkSorted d.expiredPromotions "route_decision.expired_promotions"
  checkSorted d.reasonCodes "route_decision.reason_codes"
  d.checkStatus

theorem checkStatus_eq_ok {d : RouteContent} {u : Unit} : d.checkStatus = .ok u ↔
    (d.status = .selected → d.SelectedShape) ∧ (d.status = .noSolution → d.NoSolutionShape) := by
  unfold checkStatus
  cases hs : d.status with
  | selected =>
    simp only [bind_eq_ok, check_eq_ok, exists_const, reduceCtorEq, false_imp_iff, and_true,
      forall_const]
    constructor
    · rintro ⟨hne, hshare, hcodes⟩
      obtain ⟨target, htarget⟩ := Option.ne_none_iff_exists'.mp hne
      exact ⟨⟨target, htarget, hshare target htarget⟩, hcodes⟩
    · rintro ⟨⟨target, htarget, hshare⟩, hcodes⟩
      have htarget' : d.target = some target := htarget
      refine ⟨by simp [htarget'], ?_, hcodes⟩
      intro other hother
      rw [htarget'] at hother
      rwa [← Option.some.inj hother]
  | noSolution =>
    simp only [bind_eq_ok, check_eq_ok, exists_const, reduceCtorEq, false_imp_iff, true_and,
      forall_const]
    constructor
    · rintro ⟨⟨htarget, halts⟩, hcode, hpin⟩
      exact ⟨htarget, halts, hcode, hpin⟩
    · rintro ⟨htarget, halts, hcode, hpin⟩
      exact ⟨⟨htarget, halts⟩, hcode, hpin⟩

theorem checks_eq_ok {d : RouteContent} {u : Unit} : d.checks = .ok u ↔ d.WellFormed := by
  unfold checks
  simp only [bind_eq_ok, checkSorted_eq_ok, check_eq_ok, checkStatus_eq_ok, exists_const]
  constructor
  · rintro ⟨hschema, hunique, hpromotions, hcodes, hselected, hnone⟩
    exact ⟨hschema, hunique, hpromotions, hcodes, hselected, hnone⟩
  · rintro ⟨hschema, hunique, hpromotions, hcodes, hselected, hnone⟩
    exact ⟨hschema, hunique, hpromotions, hcodes, hselected, hnone⟩

end RouteContent

/-! ### The admission decision -/

/-- The fields of an admission decision, its receipt apart. -/
structure AdmissionContent where
  resourceId : SafeId
  approved : Bool
  reasonCodes : List AdmissionReason
  target : Option RouteTarget := none
  exclusion : Option TargetExclusion := none
  boundDecisionId : Option SafeId := none

/-- An admission contract error. -/
private def invalidAdmission (message : String) : ContractError :=
  .routeContractValidation ("admission_decision" ++ message)

namespace AdmissionContent

/-- What `AdmissionDecision.__post_init__` establishes. -/
structure WellFormed (d : AdmissionContent) : Prop where
  codes_sorted : StrictlySorted d.reasonCodes
  codes_nonempty : d.reasonCodes ≠ []
  approval_shape : d.approved = true →
    d.target ≠ none ∧ d.exclusion = none ∧ .admissionApproved ∈ d.reasonCodes
  rejection_shape : d.approved = false → d.target = none ∧ .admissionRejected ∈ d.reasonCodes

/-- The checks of `AdmissionDecision.__post_init__`, in order. -/
def checks (d : AdmissionContent) : Except ContractError Unit := do
  checkSorted d.reasonCodes "admission_decision.reason_codes"
  check (d.reasonCodes ≠ []) (invalidAdmission ": reason codes are required")
  check (d.approved = true → d.target ≠ none) (invalidAdmission ": an approval carries its target")
  check (d.approved = true → d.exclusion = none)
    (invalidAdmission ": an approval carries no exclusion")
  check (d.approved = true → .admissionApproved ∈ d.reasonCodes)
    (invalidAdmission ": an approval requires the 'admission_approved' reason code")
  check (d.approved = false → d.target = none) (invalidAdmission ": a rejection carries no target")
  check (d.approved = false → .admissionRejected ∈ d.reasonCodes)
    (invalidAdmission ": a rejection requires the 'admission_rejected' reason code")

theorem checks_eq_ok {d : AdmissionContent} {u : Unit} : d.checks = .ok u ↔ d.WellFormed := by
  unfold checks
  simp only [bind_eq_ok, checkSorted_eq_ok, check_eq_ok, exists_const]
  constructor
  · rintro ⟨hcodes, hne, htarget, hexclusion, hcode, hno, hrejected⟩
    exact ⟨hcodes, hne, fun ha => ⟨htarget ha, hexclusion ha, hcode ha⟩,
      fun ha => ⟨hno ha, hrejected ha⟩⟩
  · rintro ⟨hcodes, hne, happroval, hrejection⟩
    exact ⟨hcodes, hne, fun ha => (happroval ha).1, fun ha => (happroval ha).2.1,
      fun ha => (happroval ha).2.2, fun ha => (hrejection ha).1, fun ha => (hrejection ha).2⟩

end AdmissionContent

end ScarcityRouter
