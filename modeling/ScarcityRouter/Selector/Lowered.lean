import ScarcityRouter.Selector.Ranking

namespace ScarcityRouter

open ScarcityRouter.Lib

/-!
# Selection under less capacity

What a selection keeps when some known windows have less remaining and nothing else changes.

* `reservationDecision_lowered` — a reservation rule that excluded a candidate still does.
* `evaluateCandidate_lowered` — **no candidate gains**: an ineligible one stays ineligible, and no
  penalty decreases.
* `selectModel_lowered` — the same of every candidate of a decision.
-/

/-! ### Reservations -/

/-- A rule's decision that takes a candidate out: undetermined, or blocked. -/
def ReservationDecision.excludes (d : ReservationDecision) : Prop :=
  d.state = .unknown ∨ d.blocked = some true

/-- No reservation code arises exactly when no rule excludes. -/
theorem reservationPrimary_eq_none {decisions : List ReservationDecision} :
    reservationPrimary decisions = none ↔ ∀ d ∈ decisions, ¬ d.excludes := by
  unfold reservationPrimary ReservationDecision.excludes
  split_ifs with hunknown hblocked
  · obtain ⟨d, hd, hstate⟩ := List.any_eq_true.mp hunknown
    simp only [false_iff]
    intro hnone
    exact hnone d hd (.inl (of_decide_eq_true hstate))
  · obtain ⟨d, hd, hstate⟩ := List.any_eq_true.mp hblocked
    simp only [false_iff]
    intro hnone
    exact hnone d hd (.inr (of_decide_eq_true hstate))
  · refine iff_of_true rfl fun d hd hexcludes => ?_
    rcases hexcludes with hstate | hstate
    · exact hunknown (List.any_eq_true.mpr ⟨d, hd, decide_eq_true hstate⟩)
    · exact hblocked (List.any_eq_true.mpr ⟨d, hd, decide_eq_true hstate⟩)

/-- An identified window excludes by being below the threshold. -/
private theorem excludes_reservationKnown {rule : ReservationRule} {level : TaskLevel}
    {evidence : Percent} : (reservationKnown rule level evidence).excludes ↔
      evidence < rule.whenRemainingBelow ∧ level.index < rule.minimumTaskLevel.index := by
  unfold reservationKnown ReservationDecision.excludes
  split_ifs with hbelow hlevel
  · simp [hbelow, hlevel]
  · simp [hbelow, hlevel]
  · simp [hbelow]

private theorem excludes_reservationUnknown {ruleId : SafeId} {reason : PolicyReason}
    {h : reason.reservationUnknownCause = true} : (reservationUnknown ruleId reason h).excludes :=
  .inl rfl

/-- The evidence of the matching windows: the least of them, or none. -/
private theorem excludes_of_evidence {rule : ReservationRule} {level : TaskLevel}
    {least least' : Option Percent} (hmin : LoweredPercent least least')
    (h : (match least with
      | none => reservationUnknown rule.ruleId .reservationWindowMissing
      | some evidence => reservationKnown rule level evidence).excludes) :
    (match least' with
      | none => reservationUnknown rule.ruleId .reservationWindowMissing
      | some evidence => reservationKnown rule level evidence).excludes := by
  cases hmin with
  | none => exact excludes_reservationUnknown
  | some hle =>
    obtain ⟨hbelow, hlevel⟩ := excludes_reservationKnown.mp h
    exact excludes_reservationKnown.mpr ⟨lt_of_le_of_lt hle hbelow, hlevel⟩

/-- **A rule that excluded a candidate still does** with less remaining. -/
theorem reservationDecision_lowered {snapshots snapshots' : List CapacitySnapshot}
    (hlow : LoweredSnapshots snapshots snapshots') {level : TaskLevel} {rule : ReservationRule}
    (h : (reservationDecision snapshots level rule).excludes) :
    (reservationDecision snapshots' level rule).excludes := by
  unfold reservationDecision at h ⊢
  have hsnapshot := hlow.snapshotOf rule.scope.provider
  revert h hsnapshot
  generalize snapshotOf snapshots rule.scope.provider = found
  generalize snapshotOf snapshots' rule.scope.provider = found'
  intro h hsnapshot
  cases hsnapshot with
  | none => exact excludes_reservationUnknown
  | @some s s' hs =>
    dsimp only at h ⊢
    rw [hs.status]
    by_cases hok : s.status ≠ .ok
    · rw [if_pos hok]
      exact excludes_reservationUnknown
    · rw [if_neg hok] at h ⊢
      -- The same windows match; their known percentages went down.
      have hmatching : List.Forall₂ LoweredWindow
          (s.windows.filter fun w => w.scopeId = some rule.scope.scopeId ∧
            w.resource = rule.resource ∧ w.kind = rule.kind)
          (s'.windows.filter fun w => w.scopeId = some rule.scope.scopeId ∧
            w.resource = rule.resource ∧ w.kind = rule.kind) :=
        forall₂_filter (fun hw => by rw [hw.scopeId, hw.resource, hw.kind]) hs.windows
      have hgap := forall₂_any (p := fun w => w.remainingPercent.isNone)
        (fun hw => hw.isNone) hmatching
      have hmin := min?_rel_of_forall₂
        (List.rel_filterMap (fun _ _ hw => hw.lowered) hmatching)
      rw [hgap]
      split_ifs at h ⊢ with hnone
      · exact excludes_reservationUnknown
      · exact excludes_of_evidence hmin h

/-! ### Candidates -/

/-- The scarcity penalty a candidate carries, if its capacity was assessed to one. -/
def CandidateEvaluation.penaltyUnits (e : CandidateEvaluation) : Option ℕ :=
  e.scarcityAssessment.bind (·.penaltyUnits)

/-- The candidate gained nothing: it is not newly eligible, and its penalty did not decrease. -/
structure CandidateEvaluation.NoGain (e e' : CandidateEvaluation) : Prop where
  ineligible : e.eligible = false → e'.eligible = false
  penalty : ∀ p ∈ e.penaltyUnits, ∃ p' ∈ e'.penaltyUnits, p ≤ p'

section Selection

variable [Platform]

/-- **No candidate gains from less capacity.** -/
theorem evaluateCandidate_lowered {requirement : TaskRequirement} {policy : SelectorPolicy}
    {snapshots snapshots' : List CapacitySnapshot} (hlow : LoweredSnapshots snapshots snapshots')
    {states : List ReplenishmentState} {evaluatedAt : Instant}
    {reports : List ExecutionEligibility} {policyBlocked : Finset ModelIdentity}
    {entry : ModelCatalogEntry} {e e' : CandidateEvaluation}
    (h : evaluateCandidate requirement policy snapshots states evaluatedAt reports policyBlocked
      entry = .ok e)
    (h' : evaluateCandidate requirement policy snapshots' states evaluatedAt reports policyBlocked
      entry = .ok e') : e.NoGain e' := by
  rcases evaluateCandidate_stages requirement policy states evaluatedAt reports policyBlocked
    entry with hcapacity | ⟨excluded, heach, -, -⟩
  · rw [hcapacity policy rfl] at h h'
    obtain ⟨scarcity, outcome⟩ := evaluateCapacity_spec h
    obtain ⟨scarcity', outcome'⟩ := evaluateCapacity_spec h'
    have hassessed := assessScarcity_lowered hlow outcome.assessed outcome'.assessed
    constructor
    · -- Contrapositive: what lets a candidate through now let it through before.
      intro hineligible
      by_contra heligible
      obtain ⟨hunknown, hreservations⟩ := outcome'.eligible_iff.mp (eq_true_of_ne_false heligible)
      have hbefore : e.eligible = true := by
        apply outcome.eligible_iff.mpr
        constructor
        · revert hunknown
          unfold applyUnknownCapacityMode
          cases hstate : scarcity.state with
          | known => simp
          | unavailable => simp [hassessed.exhausted hstate]
          | unknown =>
            have hstate' := hassessed.unknown hstate
            cases hs' : scarcity'.state with
            | known => exact absurd hs' hstate'
            | unavailable => simp
            | unknown => simp
        · apply reservationPrimary_eq_none.mpr
          intro decision hdecision hexcludes
          obtain ⟨rule, hrule, rfl⟩ := List.mem_map.mp hdecision
          exact reservationPrimary_eq_none.mp hreservations _ (List.mem_map_of_mem hrule)
            (reservationDecision_lowered hlow hexcludes)
      rw [hbefore] at hineligible
      cases hineligible
    · unfold CandidateEvaluation.penaltyUnits
      rw [outcome.scarcity_eq, outcome'.scarcity_eq]
      exact hassessed.penalty
  · rw [heach policy rfl] at h h'
    cases h
    cases h'
    exact ⟨id, fun p hp => ⟨p, hp, le_refl p⟩⟩

/-! ### Decisions -/

/-- The candidates of a decision, eligible or not. -/
def SelectionDecision.candidates (d : SelectionDecision) : List CandidateEvaluation :=
  d.ranked ++ d.excluded

section Spec

variable {catalog : ModelCatalog} {requirement : TaskRequirement} {policy : SelectorPolicy}
  {snapshots : List CapacitySnapshot} {evaluatedAt : Instant} {states : List ReplenishmentState}
  {reports : List ExecutionEligibility} {profileId : Option SafeId}
  {profilePolicyVersion : Option ℕ+} {policyBlocked : Finset ModelIdentity}

/-- The candidates of a decision are the evaluations of the catalog entries. -/
private theorem exists_entry_of_candidates {d : SelectionDecision}
    (h : selectModel catalog requirement policy snapshots evaluatedAt states reports profileId
      profilePolicyVersion policyBlocked = .ok d) {e : CandidateEvaluation}
    (he : e ∈ d.candidates) : ∃ entry ∈ catalog.entries,
      evaluateCandidate requirement policy snapshots (sortBy (·.key) states) evaluatedAt
        (sortBy (·.provider) reports) policyBlocked entry = .ok e := by
  obtain ⟨-, evaluations, heval, rfl⟩ := selectModel_eq_ok.mp h
  have hmem : e ∈ evaluations := by
    rcases List.mem_append.mp he with hranked | hexcluded
    · rcases List.mem_append.mp hranked with hselected | halternative
      · exact (mem_of_assembledDecision (.inl (Option.mem_toList.mp hselected))).1
      · exact (mem_of_assembledDecision (.inr halternative)).1
    · exact (mem_excludedEvaluations.mp hexcluded).1
  obtain ⟨entry, hentry, hevaluate⟩ := exists_of_mem_mapM heval hmem
  exact ⟨entry, mem_sortBy.mp hentry, hevaluate⟩

/-- **Capacity monotonicity.**  With less remaining in some known windows the selection still
    returns, over the same candidates; none of them gains: what was ineligible stays ineligible,
    and no scarcity penalty decreases. -/
theorem selectModel_lowered {snapshots' : List CapacitySnapshot}
    (hlow : LoweredSnapshots snapshots snapshots') {d : SelectionDecision}
    (h : selectModel catalog requirement policy snapshots evaluatedAt states reports profileId
      profilePolicyVersion policyBlocked = .ok d) :
    ∃ d', selectModel catalog requirement policy snapshots' evaluatedAt states reports profileId
        profilePolicyVersion policyBlocked = .ok d' ∧
      (d'.candidates.map (·.identity)).Perm (d.candidates.map (·.identity)) ∧
      ∀ e ∈ d.candidates, ∀ e' ∈ d'.candidates, e'.identity = e.identity → e.NoGain e' := by
  have demands := selectModel_returns_iff.mp ⟨d, h⟩
  obtain ⟨d', h'⟩ : Returns (selectModel catalog requirement policy snapshots' evaluatedAt states
      reports profileId profilePolicyVersion policyBlocked) :=
    selectModel_returns_iff.mpr { demands with
      snapshots_unique := hlow.unique.mpr demands.snapshots_unique }
  refine ⟨d', h', ?_, ?_⟩
  · exact (ranksCatalog_of_selectModel h').partition.trans
      (ranksCatalog_of_selectModel h).partition.symm
  · intro e he e' he' hidentity
    obtain ⟨entry, hentry, hevaluate⟩ := exists_entry_of_candidates h he
    obtain ⟨entry', hentry', hevaluate'⟩ := exists_entry_of_candidates h' he'
    -- One identity is one catalog entry.
    have hsame : entry'.identity = entry.identity := by
      rw [← (evaluateCandidate_spec hevaluate').identity_eq,
        ← (evaluateCandidate_spec hevaluate).identity_eq, hidentity]
    obtain rfl := List.inj_on_of_nodup_map catalog.unique hentry' hentry hsame
    exact evaluateCandidate_lowered hlow hevaluate hevaluate'

end Spec

end Selection

/-- A catalog of one entry, bound to one quota scope. -/
def boundCatalog : ModelCatalog where
  catalogVersion := none
  updatedOn := none
  entries := [{
    identity := ⟨.lit "openai", .lit "atlas", .lit "base"⟩
    displayName := "Atlas"
    capacityBindings := some [⟨.lit "openai", .lit "shared"⟩]
    name_nonempty := atlas_named
    bindings_valid := openai_shared
    resource_bindings_valid := openai_unbound }]
  unique := List.nodup_singleton _

/-- The weekly window of the quota scope, at a given percentage. -/
def weeklyWindow (remaining : Percent) : CapacityWindow where
  resource := .tokens
  kind := .weekly
  scopeId := some (.lit "shared")
  remainingPercent := some remaining

/-- An observation of the quota scope. -/
def weeklySnapshot (remaining : Percent) : CapacitySnapshot where
  provider := .lit "openai"
  source := .lit "probe"
  retrievedAt := 0
  status := .ok
  windows := [weeklyWindow remaining]
  diagnostics := []
  no_windows := by
    intro h
    cases h

/-- Going from 60 to 30 percent, the one candidate keeps its place at a higher penalty. -/
theorem selectModel_lowered_weekly : ∃ d d' : SelectionDecision,
    (∃ s ∈ d.selected, s.penaltyUnits = some 1600) ∧
    @selectModel utcPlatform boundCatalog ⟨.l0, {}, {}⟩ { resourcePolicy := mondayPolicy }
      [weeklySnapshot 30] 0 [] [] none none ∅ = .ok d' ∧
    ∀ e ∈ d.candidates, ∀ e' ∈ d'.candidates, e'.identity = e.identity → e.NoGain e' := by
  let _ := utcPlatform
  have hlow : LoweredSnapshots [weeklySnapshot 60] [weeklySnapshot 30] := by
    refine .cons ⟨rfl, rfl, rfl, rfl, rfl, .cons ⟨rfl, .some ?_⟩ .nil⟩ .nil
    decide
  obtain ⟨d, s, hd, hs⟩ := exists_of_toOption
    (x := selectModel boundCatalog ⟨.l0, {}, {}⟩ { resourcePolicy := mondayPolicy }
      [weeklySnapshot 60] 0 [] [] none none ∅)
    (f := fun d => d.selected.filter (·.penaltyUnits = some 1600)) (by decide +kernel)
  obtain ⟨hselected, hpenalty⟩ := Option.filter_eq_some_iff.mp hs
  obtain ⟨d', hd', -, hgain⟩ := selectModel_lowered hlow hd
  exact ⟨d, d', ⟨s, hselected, of_decide_eq_true hpenalty⟩, hd', hgain⟩

end ScarcityRouter
