import Mathlib.Data.Finset.Dedup
import Mathlib.Data.List.Lex
import ScarcityRouter.Selector.Candidate

namespace ScarcityRouter

open ScarcityRouter.Lib

/-!
# Balanced selection

Ranking, the selection decision and the authoritative selector of `selector.py`.

* `candidateRankingKey` — the exact `balanced` ranking key.
* `SelectionDecision.postInit` — the construction checks of the decision record.
* `assembleEvaluations`, `selectModel` — the selector.
* `selectModel_returns_iff` — **the selector never raises** beyond its documented input demands.
* `selectModel_eq_of_perm` — the decision does not depend on the order of catalog entries,
  capacity snapshots or replenishment states.
-/

/-! ### Ranking -/

/-- `_EffortState`. -/
inductive EffortState where
  | known | unconfigured
  deriving DecidableEq, Repr

/-- The integer value of an effort state. -/
def EffortState.value : EffortState → ℕ
  | .known => 0
  | .unconfigured => 1

/-- The ranking key: capacity class, happy-hour class, penalty, effort, preference class and
    index, identity. -/
abbrev RankingKey :=
  ℕ ×ₗ ℕ ×ₗ ℕ ×ₗ (ℕ ×ₗ List ℕ) ×ₗ (ℕ ×ₗ ℕ) ×ₗ IdentityKey

/-- `_preference_key`: listed before unlisted, then by index. -/
def preferenceKey (preferenceOrder : List ModelIdentity) (identity : ModelIdentity) : ℕ ×ₗ ℕ :=
  if identity ∈ preferenceOrder then toLex (0, preferenceOrder.idxOf identity) else toLex (1, 0)

/-- The effort component; an unconfigured effort has no ordinal, not even that of `none`. -/
def effortKey : Option ReasoningEffort → ℕ ×ₗ List ℕ
  | none => toLex (EffortState.unconfigured.value, [])
  | some effort => toLex (EffortState.known.value, [effort.index])

/-- The penalty of a known capacity; unknown capacity has no numeric comparison. -/
def knownPenalty (evaluation : CandidateEvaluation) : Option ℕ :=
  evaluation.scarcityAssessment.bind fun s => if s.state = .known then s.penaltyUnits else none

/-- `candidate_ranking_key`. -/
def candidateRankingKey (preferenceOrder : List ModelIdentity) (evaluation : CandidateEvaluation)
    (reasoningEffort : Option ReasoningEffort) : RankingKey :=
  let capacityClass := if (knownPenalty evaluation).isSome then 0 else 1
  let happyClass := if evaluation.happyHourDecision.isSome then 0 else 1
  toLex (capacityClass, toLex (happyClass, toLex ((knownPenalty evaluation).getD 0,
    toLex (effortKey reasoningEffort, toLex (preferenceKey preferenceOrder evaluation.identity,
      identityKey evaluation.identity)))))

/-- The ranking key ends in the identity, so it tells distinct identities apart. -/
theorem identity_eq_of_candidateRankingKey {preferenceOrder : List ModelIdentity}
    {a b : CandidateEvaluation} {effort effort' : Option ReasoningEffort}
    (h : candidateRankingKey preferenceOrder a effort =
      candidateRankingKey preferenceOrder b effort') : a.identity = b.identity := by
  simp only [candidateRankingKey, EmbeddingLike.apply_eq_iff_eq, Prod.mk.injEq] at h
  exact identityKey_injective h.2.2.2.2.2

/-! ### The decision record -/

/-- The structured deterministic selector decision; its mode is always `balanced`. -/
structure SelectionDecision where
  evaluatedAt : Instant
  requirement : TaskRequirement
  catalogVersion : Option ℕ+
  catalogUpdatedOn : Option String
  resourcePolicyVersion : ℕ+
  selected : Option CandidateEvaluation
  alternatives : List CandidateEvaluation := []
  excluded : List CandidateEvaluation := []
  closestCandidates : List CandidateEvaluation := []
  recoverableCandidates : List CandidateEvaluation := []
  degraded : Bool := false
  reasonCodes : List SelectionReason := []
  profileId : Option SafeId := none
  profilePolicyVersion : Option ℕ+ := none
  preferenceOrder : List ModelIdentity := []
  expiredHappyHourRules : List SafeId := []
  expiredBlackoutRules : List SafeId := []

namespace SelectionDecision

/-- A `SelectionContractValidationError` of the decision record. -/
private def invalid (message : String) : ContractError :=
  .selectionContractValidation ("selection_decision: " ++ message)

/-- The duplicate-rule error of the two expiry lists. -/
private def duplicateRule (field : String) (ruleId : SafeId) : ContractError :=
  .selectionContractValidation
    ("selection_decision." ++ field ++ ": duplicate rule id " ++ ruleId.repr)

/-- The checks that depend on whether a candidate was selected. -/
def checkSelected (d : SelectionDecision) : Except ContractError Unit :=
  match d.selected with
  | none => do
    check (d.alternatives = []) (invalid "a no-solution result has no alternatives")
    check (d.degraded = false) (invalid "a no-solution result is not degraded")
    check (.noEligibleCandidate ∈ d.reasonCodes)
      (invalid "a no-solution result requires the 'no_eligible_candidate' reason code")
  | some selected => do
    check (.selectedBalanced ∈ d.reasonCodes)
      (invalid "a selection requires the 'selected_balanced' reason code")
    check (∀ code ∈ d.reasonCodes, code = .selectedBalanced ∨ code = .selectedDegradedCapacity)
      (invalid "a selection carries no exclusion reason codes")
    check (d.degraded = selected.degraded) (invalid "degraded must mirror the selected candidate")
    check (∀ a ∈ d.alternatives, a.eligible = true) (invalid "alternatives must be eligible")
    check (∀ a ∈ d.alternatives, a.identity ≠ selected.identity)
      (invalid "the selected candidate must not repeat in alternatives")

/-- `SelectionDecision.__post_init__`: the checks, then the canonical stored form. -/
def postInit (d : SelectionDecision) : Except ContractError SelectionDecision := do
  check (d.catalogUpdatedOn.isSome = d.catalogVersion.isSome)
    (invalid "runtime inventory has no catalog update date")
  check (∀ s ∈ d.selected, s.eligible = true) (invalid "the selected candidate must be eligible")
  rejectDuplicates d.reasonCodes fun code => .selectionContractValidation
    ("selection_decision.reason_codes: duplicate reason code " ++ code.text.repr)
  d.checkSelected
  check (∀ c ∈ d.excluded, c.eligible = false) (invalid "excluded candidates must be excluded")
  check (∀ c ∈ d.closestCandidates, c.eligible = false)
    (invalid "closest candidates are excluded candidates")
  check (∀ c ∈ d.recoverableCandidates, c.eligible = false)
    (invalid "recoverable candidates are excluded candidates")
  rejectDuplicates d.preferenceOrder fun identity => .selectionContractValidation
    ("selection_decision.preference_order: duplicate entry " ++ identity.repr)
  rejectDuplicates d.expiredHappyHourRules (duplicateRule "expired_happy_hour_rules")
  rejectDuplicates d.expiredBlackoutRules (duplicateRule "expired_blackout_rules")
  check (d.profileId = none → d.profilePolicyVersion = none)
    (invalid "profile_policy_version requires a profile_id")
  return { d with
    reasonCodes := sortBy id d.reasonCodes
    expiredHappyHourRules := sortBy id d.expiredHappyHourRules
    expiredBlackoutRules := sortBy id d.expiredBlackoutRules }

end SelectionDecision

/-! ### The selector -/

/-- `_closest_candidates`: maximum stage progress, capped at 3. -/
def closestCandidates (excluded : List CandidateEvaluation) : List CandidateEvaluation :=
  let progress (c : CandidateEvaluation) : ℕ := c.exclusionStage.elim 0 ExclusionStage.progress
  let maxProgress := (excluded.map progress).foldr max 0
  (excluded.filter fun c => progress c = maxProgress).take 3

/-- An explicitly exhausted candidate whose replenishment a human can redeem. -/
def recoverableCandidate (c : CandidateEvaluation) : Bool :=
  c.exclusionStage = some .capacity && c.scarcityAssessment.any (·.state = .unavailable)
    && c.replenishmentEvaluations.any (·.recoverable)

/-- The eligible evaluations in ranking order, with the efforts of their catalog entries. -/
def rankedEvaluations (catalog : ModelCatalog) (policy : SelectorPolicy)
    (evaluations : List CandidateEvaluation) : List CandidateEvaluation :=
  sortBy (fun e => candidateRankingKey policy.preferenceOrder e
    ((catalog.lookup? e.identity).bind (·.reasoningEffort)))
    ((sortBy (fun e => identityKey e.identity) evaluations).filter (·.eligible))

/-- The excluded evaluations in canonical identity order. -/
def excludedEvaluations (evaluations : List CandidateEvaluation) : List CandidateEvaluation :=
  (sortBy (fun e => identityKey e.identity) evaluations).filter (!·.eligible)

/-- The evaluations are those of the catalog: the identities agree up to order. -/
def MatchesCatalog (catalog : ModelCatalog) (evaluations : List CandidateEvaluation) : Prop :=
  (evaluations.map (·.identity)).Perm (catalog.entries.map (·.identity))

theorem MatchesCatalog.nodup {catalog : ModelCatalog} {evaluations : List CandidateEvaluation}
    (h : MatchesCatalog catalog evaluations) : (evaluations.map (·.identity)).Nodup :=
  h.nodup_iff.mpr catalog.unique

/-- The ranked evaluations are the eligible ones. -/
theorem mem_rankedEvaluations {catalog : ModelCatalog} {policy : SelectorPolicy}
    {evaluations : List CandidateEvaluation} {e : CandidateEvaluation} :
    e ∈ rankedEvaluations catalog policy evaluations ↔ e ∈ evaluations ∧ e.eligible = true := by
  simp only [rankedEvaluations, mem_sortBy, List.mem_filter]

theorem mem_excludedEvaluations {evaluations : List CandidateEvaluation}
    {e : CandidateEvaluation} :
    e ∈ excludedEvaluations evaluations ↔ e ∈ evaluations ∧ e.eligible = false := by
  simp only [excludedEvaluations, mem_sortBy, List.mem_filter, Bool.not_eq_true']

/-- No identity is ranked twice. -/
theorem nodup_rankedEvaluations (catalog : ModelCatalog) (policy : SelectorPolicy)
    {evaluations : List CandidateEvaluation} (h : (evaluations.map (·.identity)).Nodup) :
    ((rankedEvaluations catalog policy evaluations).map (·.identity)).Nodup := by
  have hsorted : ((sortBy (fun e => identityKey e.identity) evaluations).map (·.identity)).Nodup :=
    ((sortBy_perm _ evaluations).map _).nodup_iff.mpr h
  have hfiltered := hsorted.sublist (List.filter_sublist (p := (·.eligible)).map _)
  exact ((sortBy_perm _ _).map _).nodup_iff.mpr hfiltered

/-- The sorted ids of the rules inert purely because of their calendar bounds. -/
def expiredRules [Platform] (rules : List WeeklyRule) (evaluatedAt : Instant) : List SafeId :=
  sortBy id ((rules.filter (·.isDateExpiredAt evaluatedAt)).map (·.ruleId))

section Selector

variable [Platform]

/-- The decision `assemble_evaluations` constructs, before its own checks. -/
def assembledDecision (catalog : ModelCatalog) (requirement : TaskRequirement)
    (policy : SelectorPolicy) (evaluatedAt : Instant) (evaluations : List CandidateEvaluation)
    (profileId : Option SafeId) (profilePolicyVersion : Option ℕ+) : SelectionDecision :=
  let ranked := rankedEvaluations catalog policy evaluations
  let excluded := excludedEvaluations evaluations
  let selected := ranked.head?
  { evaluatedAt
    requirement
    catalogVersion := catalog.catalogVersion
    catalogUpdatedOn := catalog.updatedOn
    resourcePolicyVersion := policy.resourcePolicy.policyVersion
    selected
    alternatives := ranked.tail
    excluded
    closestCandidates := if selected.isSome then [] else closestCandidates excluded
    recoverableCandidates := excluded.filter recoverableCandidate
    degraded := selected.any (·.degraded)
    reasonCodes :=
      match selected with
      | none => [.noEligibleCandidate]
      | some s =>
        if s.degraded then [.selectedBalanced, .selectedDegradedCapacity] else [.selectedBalanced]
    profileId
    profilePolicyVersion
    preferenceOrder := policy.preferenceOrder
    expiredHappyHourRules := expiredRules policy.resourcePolicy.happyHours evaluatedAt
    expiredBlackoutRules := expiredRules policy.resourcePolicy.blackouts evaluatedAt }

/-- `assemble_evaluations`. -/
def assembleEvaluations (catalog : ModelCatalog) (requirement : TaskRequirement)
    (policy : SelectorPolicy) (evaluatedAt : Instant) (evaluations : List CandidateEvaluation)
    (profileId : Option SafeId) (profilePolicyVersion : Option ℕ+) :
    Except ContractError SelectionDecision := do
  check ((catalog.entries.map (·.identity)).toFinset = (evaluations.map (·.identity)).toFinset ∧
      catalog.entries.length = evaluations.length)
    (.selectionContractValidation "candidate evaluations must match the catalog identities")
  (assembledDecision catalog requirement policy evaluatedAt evaluations profileId
    profilePolicyVersion).postInit

/-- `select_model`. -/
def selectModel (catalog : ModelCatalog) (requirement : TaskRequirement) (policy : SelectorPolicy)
    (snapshots : List CapacitySnapshot) (evaluatedAt : Instant)
    (states : List ReplenishmentState) (reports : List ExecutionEligibility)
    (profileId : Option SafeId) (profilePolicyVersion : Option ℕ+)
    (policyBlocked : Finset ModelIdentity) : Except ContractError SelectionDecision := do
  rejectDuplicates (snapshots.map (·.provider)) fun provider => .selectionContractValidation
    ("select_model.snapshots: duplicate provider snapshot for " ++ provider.repr
      ++ "; at most one snapshot per provider is permitted per selection")
  rejectDuplicates (reports.map (·.provider)) fun provider => .selectionContractValidation
    ("select_model.eligibility_reports: duplicate eligibility report for provider "
      ++ provider.repr ++ "; at most one report per provider is permitted per selection")
  rejectDuplicates (states.map (·.key)) fun key => .selectionContractValidation
    ("select_model.replenishment_states: duplicate replenishment state for (provider, kind) ("
      ++ (ofLex key).1.repr ++ ", " ++ (ofLex key).2.repr
      ++ "); at most one state per (provider, kind) is permitted")
  let evaluations ← (sortBy (fun e => identityKey e.identity) catalog.entries).mapM
    (evaluateCandidate requirement policy snapshots (sortBy (·.key) states) evaluatedAt
      (sortBy (·.provider) reports) policyBlocked)
  assembleEvaluations catalog requirement policy evaluatedAt evaluations profileId
    profilePolicyVersion

/-! ### The decision record accepts every assembled decision -/

/-- Rules with distinct ids expire under distinct ids. -/
theorem nodup_expiredRules {rules : List WeeklyRule} (h : (rules.map (·.ruleId)).Nodup)
    (evaluatedAt : Instant) : (expiredRules rules evaluatedAt).Nodup :=
  (sortBy_perm _ _).nodup_iff.mpr (h.sublist (List.filter_sublist.map _))

/-- The assembled decision passes the checks that depend on its selection. -/
private theorem checkSelected_assembled {catalog : ModelCatalog} (requirement : TaskRequirement)
    (policy : SelectorPolicy) (evaluatedAt : Instant) {evaluations : List CandidateEvaluation}
    (h : (evaluations.map (·.identity)).Nodup) (profileId : Option SafeId)
    (profilePolicyVersion : Option ℕ+) :
    (assembledDecision catalog requirement policy evaluatedAt evaluations profileId
      profilePolicyVersion).checkSelected = .ok () := by
  have hmem : ∀ e, e ∈ rankedEvaluations catalog policy evaluations ↔
      e ∈ evaluations ∧ e.eligible = true := fun _ => mem_rankedEvaluations
  have hnd := nodup_rankedEvaluations catalog policy h
  unfold SelectionDecision.checkSelected assembledDecision
  cases hr : rankedEvaluations catalog policy evaluations with
  | nil =>
    exact check_bind_eq_ok.mpr ⟨rfl, check_bind_eq_ok.mpr ⟨rfl,
      check_pos (List.mem_singleton_self _) _⟩⟩
  | cons s rest =>
    rw [hr] at hmem hnd
    have hcodes : .selectedBalanced ∈ (if s.degraded = true then
        [SelectionReason.selectedBalanced, .selectedDegradedCapacity] else [.selectedBalanced]) ∧
        ∀ code ∈ (if s.degraded = true then
          [SelectionReason.selectedBalanced, .selectedDegradedCapacity] else [.selectedBalanced]),
          code = .selectedBalanced ∨ code = .selectedDegradedCapacity := by
      split_ifs <;> decide
    refine check_bind_eq_ok.mpr ⟨hcodes.1, check_bind_eq_ok.mpr ⟨hcodes.2, ?_⟩⟩
    refine check_bind_eq_ok.mpr ⟨rfl, check_bind_eq_ok.mpr ⟨?_, check_pos ?_ _⟩⟩
    · exact fun a ha => ((hmem a).mp (List.mem_cons_of_mem _ ha)).2
    · intro a ha heq
      exact (List.nodup_cons.mp hnd).1 (List.mem_map.mpr ⟨a, ha, heq⟩)

/-- **The decision record accepts every assembled decision**, unchanged. -/
theorem postInit_assembledDecision {catalog : ModelCatalog} (requirement : TaskRequirement)
    (policy : SelectorPolicy) (evaluatedAt : Instant) {evaluations : List CandidateEvaluation}
    (h : MatchesCatalog catalog evaluations) {profileId : Option SafeId}
    {profilePolicyVersion : Option ℕ+}
    (hprofile : profileId = none → profilePolicyVersion = none) :
    (assembledDecision catalog requirement policy evaluatedAt evaluations profileId
      profilePolicyVersion).postInit =
      .ok (assembledDecision catalog requirement policy evaluatedAt evaluations profileId
        profilePolicyVersion) := by
  set d := assembledDecision catalog requirement policy evaluatedAt evaluations profileId
    profilePolicyVersion with hd
  have hselected : ∀ s ∈ d.selected, s.eligible = true := fun s hs =>
    (mem_rankedEvaluations.mp (List.mem_of_mem_head? hs)).2
  have hexcluded : ∀ c ∈ d.excluded, c.eligible = false := fun c hc =>
    (mem_excludedEvaluations.mp hc).2
  have hclosest : ∀ c ∈ d.closestCandidates, c.eligible = false := by
    intro c hc
    rw [hd] at hc
    unfold assembledDecision closestCandidates at hc
    dsimp only at hc
    split at hc
    · cases hc
    · exact (mem_excludedEvaluations.mp (List.mem_of_mem_filter (List.mem_of_mem_take hc))).2
  have hrecoverable : ∀ c ∈ d.recoverableCandidates, c.eligible = false := fun c hc =>
    (mem_excludedEvaluations.mp (List.mem_of_mem_filter hc)).2
  have hreasons : StrictlySorted d.reasonCodes := by
    rw [hd]
    unfold assembledDecision
    dsimp only
    split
    · exact List.pairwise_singleton _ _
    · split_ifs <;> decide
  have hhappy : d.expiredHappyHourRules.Nodup :=
    nodup_expiredRules ((policy.resourcePolicy.happyHours_sorted.imp ne_of_lt).map _ fun _ _ => id)
      evaluatedAt
  have hblackout : d.expiredBlackoutRules.Nodup :=
    nodup_expiredRules ((policy.resourcePolicy.blackouts_sorted.imp ne_of_lt).map _ fun _ _ => id)
      evaluatedAt
  unfold SelectionDecision.postInit
  refine check_bind_eq_ok.mpr ⟨catalog.dated, check_bind_eq_ok.mpr ⟨hselected, ?_⟩⟩
  refine rejectDuplicates_bind_eq_ok.mpr ⟨hreasons.nodup, bind_eq_ok.mpr ⟨(), ?_, ?_⟩⟩
  · exact checkSelected_assembled requirement policy evaluatedAt h.nodup _ _
  refine check_bind_eq_ok.mpr ⟨hexcluded, check_bind_eq_ok.mpr ⟨hclosest, ?_⟩⟩
  refine check_bind_eq_ok.mpr ⟨hrecoverable, ?_⟩
  refine rejectDuplicates_bind_eq_ok.mpr ⟨policy.preference_unique, ?_⟩
  refine rejectDuplicates_bind_eq_ok.mpr ⟨hhappy, rejectDuplicates_bind_eq_ok.mpr ⟨hblackout, ?_⟩⟩
  refine check_bind_eq_ok.mpr ⟨hprofile, ?_⟩
  -- The three normalised lists are stored sorted already.
  have hcodes : sortBy id d.reasonCodes = d.reasonCodes := sortBy_eq_self (hreasons.imp le_of_lt)
  have h1 : sortBy id d.expiredHappyHourRules = d.expiredHappyHourRules := sortBy_sortBy _ _
  have h2 : sortBy id d.expiredBlackoutRules = d.expiredBlackoutRules := sortBy_sortBy _ _
  rw [pure_eq_ok, hcodes, h1, h2]

/-- The assembly of evaluations that match the catalog. -/
theorem assembleEvaluations_eq_ok {catalog : ModelCatalog} (requirement : TaskRequirement)
    (policy : SelectorPolicy) (evaluatedAt : Instant) {evaluations : List CandidateEvaluation}
    (h : MatchesCatalog catalog evaluations) {profileId : Option SafeId}
    {profilePolicyVersion : Option ℕ+}
    (hprofile : profileId = none → profilePolicyVersion = none) :
    assembleEvaluations catalog requirement policy evaluatedAt evaluations profileId
      profilePolicyVersion =
      .ok (assembledDecision catalog requirement policy evaluatedAt evaluations profileId
        profilePolicyVersion) := by
  have hmatch : (catalog.entries.map (·.identity)).toFinset =
      (evaluations.map (·.identity)).toFinset ∧ catalog.entries.length = evaluations.length := by
    refine ⟨(List.toFinset_eq_of_perm _ _ h).symm, ?_⟩
    have hlen := h.length_eq
    rw [List.length_map, List.length_map] at hlen
    exact hlen.symm
  exact check_bind_eq_ok.mpr
    ⟨hmatch, postInit_assembledDecision requirement policy evaluatedAt h hprofile⟩

/-! ### The selector returns, and what it returns -/

section Spec

variable {catalog : ModelCatalog} {requirement : TaskRequirement} {policy : SelectorPolicy}
  {snapshots : List CapacitySnapshot} {evaluatedAt : Instant} {states : List ReplenishmentState}
  {reports : List ExecutionEligibility} {profileId : Option SafeId}
  {profilePolicyVersion : Option ℕ+} {policyBlocked : Finset ModelIdentity}

/-- What the selector demands of its inputs. -/
structure SelectorDemands (snapshots : List CapacitySnapshot) (states : List ReplenishmentState)
    (reports : List ExecutionEligibility) (profileId : Option SafeId)
    (profilePolicyVersion : Option ℕ+) : Prop where
  snapshots_unique : UniqueProviders snapshots
  reports_unique : (reports.map (·.provider)).Nodup
  states_unique : (states.map (·.key)).Nodup
  profile_version : profileId = none → profilePolicyVersion = none

/-- The evaluations of the catalog, in canonical identity order. -/
def catalogEvaluations (catalog : ModelCatalog) (requirement : TaskRequirement)
    (policy : SelectorPolicy) (snapshots : List CapacitySnapshot) (evaluatedAt : Instant)
    (states : List ReplenishmentState) (reports : List ExecutionEligibility)
    (policyBlocked : Finset ModelIdentity) : Except ContractError (List CandidateEvaluation) :=
  (sortBy (fun e => identityKey e.identity) catalog.entries).mapM
    (evaluateCandidate requirement policy snapshots (sortBy (·.key) states) evaluatedAt
      (sortBy (·.provider) reports) policyBlocked)

/-- The evaluations of a catalog match it. -/
theorem matchesCatalog_of_catalogEvaluations {evaluations : List CandidateEvaluation}
    (h : catalogEvaluations catalog requirement policy snapshots evaluatedAt states reports
      policyBlocked = .ok evaluations) : MatchesCatalog catalog evaluations := by
  have hident : evaluations.map (·.identity) =
      (sortBy (fun e => identityKey e.identity) catalog.entries).map (·.identity) := by
    refine List.forall₂_eq_eq_eq ▸ ?_
    rw [List.forall₂_map_left_iff, List.forall₂_map_right_iff]
    exact (mapM_eq_ok.mp h).flip.imp fun _ _ he => (evaluateCandidate_spec he).identity_eq
  unfold MatchesCatalog
  rw [hident]
  exact (sortBy_perm _ _).map _

/-- **A returning selection** meets the input demands, and assembles the evaluations of its
    catalog. -/
theorem selectModel_eq_ok {decision : SelectionDecision} :
    selectModel catalog requirement policy snapshots evaluatedAt states reports profileId
      profilePolicyVersion policyBlocked = .ok decision ↔
    SelectorDemands snapshots states reports profileId profilePolicyVersion ∧
      ∃ evaluations, catalogEvaluations catalog requirement policy snapshots evaluatedAt states
        reports policyBlocked = .ok evaluations ∧
      decision = assembledDecision catalog requirement policy evaluatedAt evaluations profileId
        profilePolicyVersion := by
  unfold selectModel
  constructor
  · intro h
    obtain ⟨hs, h⟩ := rejectDuplicates_bind_eq_ok.mp h
    obtain ⟨hr, h⟩ := rejectDuplicates_bind_eq_ok.mp h
    obtain ⟨ht, h⟩ := rejectDuplicates_bind_eq_ok.mp h
    obtain ⟨evaluations, he, h⟩ := bind_eq_ok.mp h
    have hprofile : profileId = none → profilePolicyVersion = none := by
      have h' := h
      unfold assembleEvaluations SelectionDecision.postInit at h'
      obtain ⟨_, _, h'⟩ := bind_eq_ok.mp h'
      iterate 10 obtain ⟨_, _, h'⟩ := bind_eq_ok.mp h'
      obtain ⟨_, hp, _⟩ := bind_eq_ok.mp h'
      exact check_eq_ok.mp hp
    refine ⟨⟨hs, hr, ht, hprofile⟩, evaluations, he, ?_⟩
    rw [assembleEvaluations_eq_ok requirement policy evaluatedAt
      (matchesCatalog_of_catalogEvaluations he) hprofile] at h
    exact (Except.ok.inj h).symm
  · rintro ⟨demands, evaluations, he, rfl⟩
    refine rejectDuplicates_bind_eq_ok.mpr ⟨demands.snapshots_unique, ?_⟩
    refine rejectDuplicates_bind_eq_ok.mpr ⟨demands.reports_unique, ?_⟩
    refine rejectDuplicates_bind_eq_ok.mpr ⟨demands.states_unique, ?_⟩
    exact bind_eq_ok.mpr ⟨evaluations, he, assembleEvaluations_eq_ok requirement policy evaluatedAt
      (matchesCatalog_of_catalogEvaluations he) demands.profile_version⟩

/-- **The selector never raises** beyond its documented input demands. -/
theorem selectModel_returns_iff :
    Returns (selectModel catalog requirement policy snapshots evaluatedAt states reports profileId
      profilePolicyVersion policyBlocked) ↔
    SelectorDemands snapshots states reports profileId profilePolicyVersion := by
  constructor
  · rintro ⟨decision, h⟩
    exact (selectModel_eq_ok.mp h).1
  · intro demands
    have hreturns : Returns (catalogEvaluations catalog requirement policy snapshots evaluatedAt
        states reports policyBlocked) :=
      returns_mapM.mpr fun entry _ => evaluateCandidate_returns demands.snapshots_unique _ _ _ _
        _ _ entry
    obtain ⟨evaluations, he⟩ := hreturns
    exact ⟨_, selectModel_eq_ok.mpr ⟨demands, evaluations, he, rfl⟩⟩

/-- The candidates of an assembled decision are its eligible evaluations. -/
theorem mem_of_assembledDecision {evaluations : List CandidateEvaluation}
    {e : CandidateEvaluation}
    (he : e ∈ (assembledDecision catalog requirement policy evaluatedAt evaluations profileId
        profilePolicyVersion).selected ∨
      e ∈ (assembledDecision catalog requirement policy evaluatedAt evaluations profileId
        profilePolicyVersion).alternatives) : e ∈ evaluations ∧ e.eligible = true := by
  have hranked : e ∈ rankedEvaluations catalog policy evaluations := by
    rcases he with he | he
    · exact List.mem_of_mem_head? he
    · exact List.mem_of_mem_tail he
  exact mem_rankedEvaluations.mp hranked

/-- Every candidate of a returned decision belongs to a catalog entry. -/
theorem exists_entry_of_selected {decision : SelectionDecision}
    (h : selectModel catalog requirement policy snapshots evaluatedAt states reports profileId
      profilePolicyVersion policyBlocked = .ok decision) {e : CandidateEvaluation}
    (he : e ∈ decision.selected ∨ e ∈ decision.alternatives) :
    e.eligible = true ∧ ∃ entry ∈ catalog.entries,
      CandidateOf requirement policyBlocked entry e := by
  obtain ⟨-, evaluations, heval, rfl⟩ := selectModel_eq_ok.mp h
  obtain ⟨hmem, heligible⟩ := mem_of_assembledDecision he
  obtain ⟨entry, hentry, hspec⟩ := exists_of_mem_mapM heval hmem
  exact ⟨heligible, entry, mem_sortBy.mp hentry, evaluateCandidate_spec hspec⟩

/-- Nothing is selected exactly when no evaluation is eligible. -/
theorem assembledDecision_selected_eq_none {evaluations : List CandidateEvaluation} :
    (assembledDecision catalog requirement policy evaluatedAt evaluations profileId
      profilePolicyVersion).selected = none ↔ ∀ e ∈ evaluations, e.eligible = false := by
  change (rankedEvaluations catalog policy evaluations).head? = none ↔ _
  rw [List.head?_eq_none_iff, List.eq_nil_iff_forall_not_mem]
  simp only [mem_rankedEvaluations, not_and, Bool.not_eq_true]

/-- Over a non-empty catalog, a selection without a winner has excluded someone. -/
theorem excluded_ne_nil_of_selected_none {decision : SelectionDecision}
    (h : selectModel catalog requirement policy snapshots evaluatedAt states reports profileId
      profilePolicyVersion policyBlocked = .ok decision) (hentries : catalog.entries ≠ [])
    (hnone : decision.selected = none) : decision.excluded ≠ [] := by
  obtain ⟨-, evaluations, heval, rfl⟩ := selectModel_eq_ok.mp h
  obtain ⟨entry, hentry⟩ := List.exists_mem_of_ne_nil _ hentries
  obtain ⟨e, he, -⟩ := exists_mem_of_mapM heval (mem_sortBy.mpr hentry)
  have hineligible := assembledDecision_selected_eq_none.mp hnone e he
  exact List.ne_nil_of_mem (mem_excludedEvaluations.mpr ⟨he, hineligible⟩)

/-- **Order independence.** The decision does not depend on the order of the catalog entries, the
    capacity snapshots, the replenishment states or the eligibility reports. -/
theorem selectModel_eq_of_perm {catalog' : ModelCatalog} {snapshots' : List CapacitySnapshot}
    {states' : List ReplenishmentState} {reports' : List ExecutionEligibility}
    (hentries : catalog.entries.Perm catalog'.entries)
    (hversion : catalog.catalogVersion = catalog'.catalogVersion)
    (hupdated : catalog.updatedOn = catalog'.updatedOn)
    (hsnapshots : snapshots.Perm snapshots') (hstates : states.Perm states')
    (hreports : reports.Perm reports') {decision : SelectionDecision}
    (h : selectModel catalog requirement policy snapshots evaluatedAt states reports profileId
      profilePolicyVersion policyBlocked = .ok decision) :
    selectModel catalog' requirement policy snapshots' evaluatedAt states' reports' profileId
      profilePolicyVersion policyBlocked = .ok decision := by
  obtain ⟨demands, evaluations, heval, rfl⟩ := selectModel_eq_ok.mp h
  refine selectModel_eq_ok.mpr ⟨⟨(hsnapshots.map _).nodup_iff.mp demands.snapshots_unique,
    (hreports.map _).nodup_iff.mp demands.reports_unique,
    (hstates.map _).nodup_iff.mp demands.states_unique, demands.profile_version⟩, evaluations, ?_,
    ?_⟩
  · have hs : sortBy (·.key) states' = sortBy (·.key) states :=
      (sortBy_eq_of_perm hstates fun _ ha _ hb =>
        List.inj_on_of_nodup_map demands.states_unique ha hb).symm
    have hr : sortBy (·.provider) reports' = sortBy (·.provider) reports :=
      (sortBy_eq_of_perm hreports fun _ ha _ hb =>
        List.inj_on_of_nodup_map demands.reports_unique ha hb).symm
    have heach : evaluateCandidate requirement policy snapshots' (sortBy (·.key) states)
        evaluatedAt (sortBy (·.provider) reports) policyBlocked =
        evaluateCandidate requirement policy snapshots (sortBy (·.key) states) evaluatedAt
          (sortBy (·.provider) reports) policyBlocked := by
      funext entry
      exact (evaluateCandidate_eq_of_perm hsnapshots demands.snapshots_unique _ _ _ _ _ _ _).symm
    unfold catalogEvaluations at heval ⊢
    rw [hs, hr, heach, ← ModelCatalog.sorted_eq_of_perm hentries]
    exact heval
  · have hranked : rankedEvaluations catalog' policy evaluations =
        rankedEvaluations catalog policy evaluations := by
      unfold rankedEvaluations
      simp only [ModelCatalog.lookup?_eq_of_perm hentries]
    unfold assembledDecision
    rw [hranked, hversion, hupdated]

end Spec

/-! ### Reordered arguments -/

/-- The collections one selection takes, as a caller lists them. -/
structure SelectionListing where
  catalog : ModelCatalog
  policy : SelectorPolicy
  snapshots : List CapacitySnapshot
  states : List ReplenishmentState
  reports : List ExecutionEligibility

namespace SelectionListing

/-- `select_model` over listed collections. -/
def select (l : SelectionListing) (requirement : TaskRequirement) (evaluatedAt : Instant)
    (profileId : Option SafeId) (profilePolicyVersion : Option ℕ+)
    (policyBlocked : Finset ModelIdentity) : Except ContractError SelectionDecision :=
  selectModel l.catalog requirement l.policy l.snapshots evaluatedAt l.states l.reports profileId
    profilePolicyVersion policyBlocked

/-- Two listings of the same collections. -/
structure Reorders (l l' : SelectionListing) : Prop where
  entries : l.catalog.entries.Perm l'.catalog.entries
  version : l.catalog.catalogVersion = l'.catalog.catalogVersion
  updated : l.catalog.updatedOn = l'.catalog.updatedOn
  policy : l.policy.Reorders l'.policy
  snapshots : l.snapshots.Perm l'.snapshots
  states : l.states.Perm l'.states
  reports : l.reports.Perm l'.reports

omit [Platform] in
theorem Reorders.symm {l l' : SelectionListing} (h : l.Reorders l') : l'.Reorders l :=
  ⟨h.entries.symm, h.version.symm, h.updated.symm, h.policy.symm, h.snapshots.symm, h.states.symm,
    h.reports.symm⟩

/-- A decision of one listing is one of every other. -/
theorem Reorders.select_eq_ok {l l' : SelectionListing} (h : l.Reorders l')
    {requirement : TaskRequirement} {evaluatedAt : Instant} {profileId : Option SafeId}
    {profilePolicyVersion : Option ℕ+} {policyBlocked : Finset ModelIdentity}
    {d : SelectionDecision} (hd : l.select requirement evaluatedAt profileId profilePolicyVersion
      policyBlocked = .ok d) :
    l'.select requirement evaluatedAt profileId profilePolicyVersion policyBlocked = .ok d := by
  unfold SelectionListing.select at hd ⊢
  rw [h.policy.eq]
  exact selectModel_eq_of_perm h.entries h.version h.updated h.snapshots h.states h.reports hd

end SelectionListing

/-- **Order independence of a selection.**  Catalog entries, snapshots, replenishment states,
    reports and policy rules in another order give the same decision. -/
theorem select_reordered (l l' : SelectionListing) (h : l.Reorders l')
    (requirement : TaskRequirement) (evaluatedAt : Instant) (profileId : Option SafeId)
    (profilePolicyVersion : Option ℕ+) (policyBlocked : Finset ModelIdentity)
    (d : SelectionDecision) :
    l.select requirement evaluatedAt profileId profilePolicyVersion policyBlocked = .ok d ↔
      l'.select requirement evaluatedAt profileId profilePolicyVersion policyBlocked = .ok d :=
  ⟨h.select_eq_ok, h.symm.select_eq_ok⟩

end Selector

/-! ### A small catalog -/

/-- A blackout of every Monday. -/
def mondayBlackout (ruleId : SafeId) : WeeklyBlackoutRule where
  ruleId := ruleId
  target :=
    { provider := .lit "zai"
      supported := by decide +kernel }
  timezone := "UTC"
  weekdays := [0]
  startLocal := 0
  endLocal := 1439
  reasonCode := .lit "maintenance"

/-- A policy with two rules. -/
def mondayPolicy : UserPolicy where
  policyVersion := 1
  unknownCapacityMode := .degraded
  replenishmentMode := .ignore
  reservations := []
  blackouts := [mondayBlackout (.lit "first"), mondayBlackout (.lit "second")]
  blackouts_sorted := by decide +kernel
  unique_ids := by decide +kernel

/-- The policy listed in the order of the rule ids, or the other way round. -/
def mondayListing (blackouts : List WeeklyBlackoutRule) : PolicyListing :=
  ⟨1, .degraded, .ignore, [], blackouts, []⟩

/-- An entry without facts. -/
def plainEntry (provider : SafeId) : ModelCatalogEntry where
  identity := ⟨provider, .lit "atlas", .lit "base"⟩
  displayName := "Atlas"
  name_nonempty := atlas_named
  bindings_valid := by
    intro _ h
    cases h
  resource_bindings_valid := by
    intro _ h
    cases h

/-- A snapshot without windows. -/
def plainSnapshot (provider : SafeId) : CapacitySnapshot where
  provider := provider
  source := .lit "probe"
  retrievedAt := 0
  status := .ok
  windows := []
  diagnostics := []

theorem nova_ne_acme : (.lit "nova" : SafeId) ≠ .lit "acme" := by decide +kernel

/-- The collections of a small deployment: two providers, in a given order. -/
def smallListing (first second : SafeId) (hne : first ≠ second) : SelectionListing where
  catalog :=
    { catalogVersion := none
      updatedOn := none
      entries := [plainEntry first, plainEntry second]
      unique := by simp [plainEntry, hne] }
  policy := { resourcePolicy := mondayPolicy }
  snapshots := [plainSnapshot first, plainSnapshot second]
  states := []
  reports := []

/-- The two orders of a small deployment. -/
theorem smallListing_reorders {first second : SafeId} (hne : first ≠ second) :
    (smallListing first second hne).Reorders (smallListing second first hne.symm) where
  entries := .swap _ _ _
  version := rfl
  updated := rfl
  policy := by
    refine ⟨⟨mondayListing [mondayBlackout (.lit "first"), mondayBlackout (.lit "second")],
      mondayListing [mondayBlackout (.lit "second"), mondayBlackout (.lit "first")],
      ⟨rfl, rfl, rfl, .refl _, .swap _ _ _, .refl _⟩, rfl, rfl⟩, rfl, rfl⟩
  snapshots := .swap _ _ _
  states := .refl _
  reports := .refl _

/-- Two providers in either order are selected alike. -/
theorem select_reordered_smallListing : ∃ d,
    @SelectionListing.select utcPlatform
      (smallListing (.lit "nova") (.lit "acme") nova_ne_acme) ⟨.l0, {}, {}⟩ 0 none none ∅ =
        .ok d := by
  let _ := utcPlatform
  obtain ⟨d, _, hd, -⟩ := exists_of_toOption (x := (smallListing (.lit "acme") (.lit "nova")
    (by decide +kernel)).select ⟨.l0, {}, {}⟩ 0 none none ∅) (f := (·.selected)) (by decide +kernel)
  exact ⟨d, (select_reordered _ _ (smallListing_reorders _) _ _ _ _ _ d).mp hd⟩

end ScarcityRouter
