import ScarcityRouter.ScarcitySpec
import ScarcityRouter.Selector.Selection

namespace ScarcityRouter

open ScarcityRouter.Lib

/-!
# What a selection ranks

* `CapacityOutcome`, `evaluateCapacity_spec` — what the capacity and reservation stages decide.
* `degraded_of_eligible` — an eligible candidate is degraded exactly when its capacity is not
  known, so the first component of the ranking key is the degraded flag.
* `SelectionDecision.ranked` — the selected candidate and the alternatives, in ranking order.
* `RanksCatalog` — **the decision partitions the catalog and ranks its eligible part.**
* `DiffersInHappyHours` — two policies with the same rules but for the happy hours; they rank the
  same candidates on each side of the known/degraded boundary.
-/

section Ranking

variable [Platform]

/-! ### The capacity and reservation stages -/

/-- What the capacity and reservation stages decide, from the assessment and the rules. -/
structure CapacityOutcome (entry : ModelCatalogEntry) (requirement : TaskRequirement)
    (policy : UserPolicy) (snapshots : List CapacitySnapshot) (scarcity : ScarcityAssessment)
    (evaluation : CandidateEvaluation) : Prop where
  assessed : assessScarcity entry snapshots = .ok scarcity
  scarcity_eq : evaluation.scarcityAssessment = some scarcity
  eligible_iff : evaluation.eligible = true ↔
    (applyUnknownCapacityMode policy.unknownCapacityMode scarcity).eligibleByUnknownPolicy = true ∧
    reservationPrimary ((applicableReservations policy entry.capacityBindings).map
      (reservationDecision snapshots requirement.taskLevel)) = none
  degraded_eq : evaluation.eligible = true → evaluation.degraded =
    (applyUnknownCapacityMode policy.unknownCapacityMode scarcity).degraded

/-- **The capacity stages decide** by the unknown-capacity mode and the applicable reservations. -/
theorem evaluateCapacity_spec {entry : ModelCatalogEntry} {requirement : TaskRequirement}
    {policy : SelectorPolicy} {snapshots : List CapacitySnapshot}
    {states : List ReplenishmentState} {evaluatedAt : Instant} {evaluation : CandidateEvaluation}
    (h : evaluateCapacity entry requirement policy snapshots states evaluatedAt = .ok evaluation) :
    ∃ scarcity, CapacityOutcome entry requirement policy.resourcePolicy snapshots scarcity
      evaluation := by
  unfold evaluateCapacity at h
  obtain ⟨scarcity, hassessed, h⟩ := bind_eq_ok.mp h
  have unique : UniqueProviders snapshots :=
    (assessScarcity_returns_iff entry snapshots).mp ⟨_, hassessed⟩
  refine ⟨scarcity, ?_⟩
  dsimp only at h
  split at h
  · rename_i hblocked
    cases h
    refine ⟨hassessed, rfl, ?_, fun h => by cases h⟩
    simp [hblocked]
  · rename_i hpassed
    have hpassed := eq_true_of_ne_false hpassed
    rw [mapM_eq_ok_map fun rule (_ : rule ∈ applicableReservations policy.resourcePolicy
      entry.capacityBindings) => evaluateReservation_eq_ok unique requirement.taskLevel rule] at h
    obtain ⟨reservations, hreservations, h⟩ := bind_eq_ok.mp h
    cases hreservations
    split at h
    · rename_i code hcode
      cases h
      refine ⟨hassessed, rfl, ?_, fun h => by cases h⟩
      simp [hcode]
    · rename_i hnone
      cases h
      exact ⟨hassessed, rfl, ⟨fun _ => ⟨hpassed, hnone⟩, fun _ => rfl⟩, fun _ => rfl⟩

/-- The stages before capacity read the blackouts of the policy, and no snapshot: they exclude the
    candidate alike for every such policy and capacity, or leave it to the capacity stages. -/
theorem evaluateCandidate_stages (requirement : TaskRequirement) (policy : SelectorPolicy)
    (states : List ReplenishmentState) (evaluatedAt : Instant)
    (reports : List ExecutionEligibility) (policyBlocked : Finset ModelIdentity)
    (entry : ModelCatalogEntry) :
    (∀ policy' : SelectorPolicy,
      policy'.resourcePolicy.blackouts = policy.resourcePolicy.blackouts → ∀ snapshots,
      evaluateCandidate requirement policy' snapshots states evaluatedAt reports policyBlocked
        entry = evaluateCapacity entry requirement policy' snapshots states evaluatedAt) ∨
    ∃ evaluation : CandidateEvaluation, (∀ policy' : SelectorPolicy,
      policy'.resourcePolicy.blackouts = policy.resourcePolicy.blackouts → ∀ snapshots,
      evaluateCandidate requirement policy' snapshots states evaluatedAt reports policyBlocked
        entry = .ok evaluation) ∧
      evaluation.eligible = false ∧ evaluation.scarcityAssessment = none := by
  cases hreport : blockingReport reports entry.identity.provider with
  | some report =>
    refine .inr ⟨_, fun policy' _ snapshots => by
      unfold evaluateCandidate
      rw [hreport], by rfl, by rfl⟩
  | none =>
    by_cases hpolicy : entry.identity ∈ policyBlocked
    · refine .inr ⟨_, fun policy' _ snapshots => by
        unfold evaluateCandidate
        rw [hreport]
        exact if_pos hpolicy, by rfl, by rfl⟩
    by_cases hblackout : (evaluateBlackouts policy.resourcePolicy.blackouts entry.identity
        evaluatedAt).blocked = true
    · refine .inr ⟨_, fun policy' hsame snapshots => by
        unfold evaluateCandidate
        rw [hreport, hsame]
        exact (if_neg hpolicy).trans (if_pos hblackout), by rfl, by rfl⟩
    by_cases hhard : evaluateHardConstraints requirement.hardConstraints entry ≠ []
    · refine .inr ⟨_, fun policy' hsame snapshots => by
        unfold evaluateCandidate
        rw [hreport, hsame]
        exact (if_neg hpolicy).trans ((if_neg hblackout).trans (if_pos hhard)), by rfl, by rfl⟩
    by_cases hcapability : evaluateCapabilitySufficiency requirement.capabilityMinima
        entry.capabilities ≠ []
    · refine .inr ⟨_, fun policy' hsame snapshots => by
        unfold evaluateCandidate
        rw [hreport, hsame]
        exact (if_neg hpolicy).trans ((if_neg hblackout).trans ((if_neg hhard).trans
          (if_pos hcapability))), by rfl, by rfl⟩
    · refine .inl fun policy' hsame snapshots => ?_
      unfold evaluateCandidate
      rw [hreport, hsame]
      exact (if_neg hpolicy).trans ((if_neg hblackout).trans ((if_neg hhard).trans
        (if_neg hcapability)))

/-! ### The known/degraded boundary -/

omit [Platform] in
/-- The candidate's capacity was assessed from complete evidence. -/
def CandidateEvaluation.capacityKnown (e : CandidateEvaluation) : Bool :=
  e.scarcityAssessment.any (·.state = .known)

/-- The eligible evaluations of an entry: known and undegraded, or degraded. -/
private theorem boundary_of_eligible {requirement : TaskRequirement} {policy : SelectorPolicy}
    {snapshots : List CapacitySnapshot} {states : List ReplenishmentState}
    {evaluatedAt : Instant} {reports : List ExecutionEligibility}
    {policyBlocked : Finset ModelIdentity} {entry : ModelCatalogEntry}
    {evaluation : CandidateEvaluation}
    (h : evaluateCandidate requirement policy snapshots states evaluatedAt reports policyBlocked
      entry = .ok evaluation) (heligible : evaluation.eligible = true) :
    (knownPenalty evaluation).isSome = evaluation.capacityKnown ∧
      evaluation.degraded = !evaluation.capacityKnown := by
  rcases evaluateCandidate_stages requirement policy states evaluatedAt reports policyBlocked
    entry with hcapacity | ⟨e, heach, hineligible, -⟩
  · rw [hcapacity policy rfl] at h
    obtain ⟨scarcity, outcome⟩ := evaluateCapacity_spec h
    have hdegraded := outcome.degraded_eq heligible
    have hallowed := (outcome.eligible_iff.mp heligible).1
    have hpenalty := penaltyUnits_isSome_of_assessScarcity outcome.assessed
    rw [hdegraded]
    unfold knownPenalty CandidateEvaluation.capacityKnown
    unfold applyUnknownCapacityMode at hallowed ⊢
    rw [outcome.scarcity_eq]
    cases hstate : scarcity.state with
    | known => simpa [hstate] using hpenalty.mpr (by simp [hstate])
    | unavailable => simp [hstate] at hallowed
    | unknown =>
      rw [hstate] at hallowed
      cases hmode : policy.resourcePolicy.unknownCapacityMode with
      | degraded => simp [hstate]
      | strict => simp [hmode] at hallowed
  · rw [heach policy rfl snapshots] at h
    cases h
    rw [heligible] at hineligible
    cases hineligible

/-! ### The ranking of a decision -/

omit [Platform] in
/-- The selected candidate and the alternatives. -/
def SelectionDecision.ranked (d : SelectionDecision) : List CandidateEvaluation :=
  d.selected.toList ++ d.alternatives

omit [Platform] in
/-- The ranking key of a candidate, under the effort its catalog entry configures. -/
def catalogRankingKey (catalog : ModelCatalog) (policy : SelectorPolicy)
    (e : CandidateEvaluation) : RankingKey :=
  candidateRankingKey policy.preferenceOrder e
    ((catalog.lookup? e.identity).bind (·.reasoningEffort))

/-- The decision partitions the catalog, and ranks its eligible candidates. -/
structure RanksCatalog (catalog : ModelCatalog) (policy : SelectorPolicy)
    (d : SelectionDecision) : Prop where
  /-- Each catalog entry is ranked or excluded, and none of them twice. -/
  partition : ((d.ranked ++ d.excluded).map (·.identity)).Perm (catalog.entries.map (·.identity))
  ranked_eligible : ∀ e ∈ d.ranked, e.eligible = true
  excluded_ineligible : ∀ e ∈ d.excluded, e.eligible = false
  selected_none : d.selected = none → d.alternatives = []
  selected_least : ∀ s ∈ d.selected, ∀ e ∈ d.alternatives,
    catalogRankingKey catalog policy s < catalogRankingKey catalog policy e
  alternatives_increasing : d.alternatives.Pairwise fun a b =>
    catalogRankingKey catalog policy a < catalogRankingKey catalog policy b
  /-- The candidates of known capacity come first, the degraded ones last. -/
  known_first : ∃ known degraded, d.ranked = known ++ degraded ∧
    (∀ e ∈ known, e.capacityKnown = true ∧ e.degraded = false) ∧
    (∀ e ∈ degraded, e.capacityKnown = false ∧ e.degraded = true)

omit [Platform] in
/-- A list in which no entry of `p` follows another entry is cut into its two parts. -/
private theorem eq_filter_append {α : Type*} {p : α → Bool} {xs : List α}
    (h : xs.Pairwise fun a b => p b = true → p a = true) :
    xs = xs.filter p ++ xs.filter (!p ·) := by
  induction h with
  | nil => rfl
  | @cons a rest hhead _ ih =>
    cases hp : p a with
    | true =>
      rw [List.filter_cons_of_pos hp, List.filter_cons_of_neg (by simp [hp]), List.cons_append,
        ← ih]
    | false =>
      -- Nothing after `a` satisfies the predicate, so the first part is empty.
      have hnone : rest.filter p = [] := by
        apply List.filter_eq_nil_iff.mpr
        intro b hb hpb
        rw [hhead b hb hpb] at hp
        cases hp
      rw [hnone, List.nil_append] at ih
      rw [List.filter_cons_of_neg (by simp [hp]), List.filter_cons_of_pos (by simp [hp]), hnone,
        List.nil_append, ← ih]

/-- The ranking of an assembled decision. -/
private theorem ranked_assembledDecision (catalog : ModelCatalog) (requirement : TaskRequirement)
    (policy : SelectorPolicy) (evaluatedAt : Instant) (evaluations : List CandidateEvaluation)
    (profileId : Option SafeId) (profilePolicyVersion : Option ℕ+) :
    (assembledDecision catalog requirement policy evaluatedAt evaluations profileId
      profilePolicyVersion).ranked = rankedEvaluations catalog policy evaluations := by
  unfold SelectionDecision.ranked assembledDecision
  cases rankedEvaluations catalog policy evaluations with
  | nil => rfl
  | cons _ _ => rfl

omit [Platform] in
/-- The ranked evaluations are in strictly increasing key order. -/
private theorem pairwise_rankedEvaluations {catalog : ModelCatalog} (policy : SelectorPolicy)
    {evaluations : List CandidateEvaluation} (h : MatchesCatalog catalog evaluations) :
    (rankedEvaluations catalog policy evaluations).Pairwise fun a b =>
      catalogRankingKey catalog policy a < catalogRankingKey catalog policy b := by
  apply pairwise_lt_sortBy
  -- Two candidates of one key are candidates of one identity.
  have hsorted : ((sortBy (fun e => identityKey e.identity) evaluations).map (·.identity)).Nodup :=
    ((sortBy_perm _ evaluations).map _).nodup_iff.mpr h.nodup
  have hfiltered := hsorted.sublist (List.filter_sublist (p := (·.eligible)).map _)
  rw [List.Nodup, List.pairwise_map] at hfiltered ⊢
  exact hfiltered.imp fun hne hkey => hne (identity_eq_of_candidateRankingKey hkey)

omit [Platform] in
/-- The capacity class is the first component of the key. -/
private theorem knownPenalty_isSome_of_le {catalog : ModelCatalog} {policy : SelectorPolicy}
    {a b : CandidateEvaluation}
    (h : catalogRankingKey catalog policy a < catalogRankingKey catalog policy b)
    (hb : (knownPenalty b).isSome = true) : (knownPenalty a).isSome = true := by
  by_contra ha
  unfold catalogRankingKey candidateRankingKey at h
  rw [if_neg ha, if_pos hb] at h
  rcases Prod.Lex.lt_iff.mp h with hlt | ⟨heq, -⟩
  · exact absurd hlt (Nat.not_lt_zero 1)
  · exact absurd heq Nat.one_ne_zero

section Spec

variable {catalog : ModelCatalog} {requirement : TaskRequirement} {policy : SelectorPolicy}
  {snapshots : List CapacitySnapshot} {evaluatedAt : Instant} {states : List ReplenishmentState}
  {reports : List ExecutionEligibility} {profileId : Option SafeId}
  {profilePolicyVersion : Option ℕ+} {policyBlocked : Finset ModelIdentity}

/-- **Every decision partitions and ranks its catalog.** -/
theorem ranksCatalog_of_selectModel {d : SelectionDecision}
    (h : selectModel catalog requirement policy snapshots evaluatedAt states reports profileId
      profilePolicyVersion policyBlocked = .ok d) : RanksCatalog catalog policy d := by
  obtain ⟨-, evaluations, heval, rfl⟩ := selectModel_eq_ok.mp h
  have hmatch := matchesCatalog_of_catalogEvaluations heval
  have hranked := ranked_assembledDecision catalog requirement policy evaluatedAt evaluations
    profileId profilePolicyVersion
  have hordered := pairwise_rankedEvaluations policy hmatch
  -- Each ranked candidate is on its side of the boundary.
  have hboundary : ∀ e ∈ rankedEvaluations catalog policy evaluations,
      (knownPenalty e).isSome = e.capacityKnown ∧ e.degraded = !e.capacityKnown := by
    intro e he
    obtain ⟨hmem, heligible⟩ := mem_rankedEvaluations.mp he
    obtain ⟨entry, -, hentry⟩ := exists_of_mem_mapM heval hmem
    exact boundary_of_eligible hentry heligible
  constructor
  · rw [hranked]
    refine List.Perm.trans (List.Perm.map _ ?_) hmatch
    refine List.Perm.trans ?_ (sortBy_perm (fun e => identityKey e.identity) evaluations)
    refine List.Perm.trans ((sortBy_perm _ _).append_right _) ?_
    exact List.filter_append_perm _ _
  · intro e he
    rw [hranked] at he
    exact (mem_rankedEvaluations.mp he).2
  · intro e he
    exact (mem_excludedEvaluations.mp he).2
  · intro hnone
    change (rankedEvaluations catalog policy evaluations).head? = none at hnone
    change (rankedEvaluations catalog policy evaluations).tail = []
    rw [List.head?_eq_none_iff.mp hnone, List.tail_nil]
  · intro s hs e he
    change s ∈ (rankedEvaluations catalog policy evaluations).head? at hs
    change e ∈ (rankedEvaluations catalog policy evaluations).tail at he
    obtain ⟨rest, hrest⟩ := List.head?_eq_some_iff.mp hs
    rw [hrest] at hordered he
    exact (List.pairwise_cons.mp hordered).1 e he
  · exact hordered.tail
  · refine ⟨_, _, hranked.trans (eq_filter_append (p := CandidateEvaluation.capacityKnown) ?_),
      ?_, ?_⟩
    · refine hordered.imp_of_mem fun ha hb hab hknown => ?_
      rw [← (hboundary _ hb).1] at hknown
      rw [← (hboundary _ ha).1]
      exact knownPenalty_isSome_of_le hab hknown
    · intro e he
      obtain ⟨hmem, hknown⟩ := List.mem_filter.mp he
      refine ⟨hknown, ?_⟩
      rw [(hboundary e hmem).2, hknown]
      rfl
    · intro e he
      obtain ⟨hmem, hunknown⟩ := List.mem_filter.mp he
      have hunknown : e.capacityKnown = false := by simpa using hunknown
      refine ⟨hunknown, ?_⟩
      rw [(hboundary e hmem).2, hunknown]
      rfl

/-! ### Happy hours -/

omit [Platform] in
/-- Two policies that agree on everything but the happy hours. -/
structure DiffersInHappyHours (p p' : SelectorPolicy) : Prop where
  version : p'.resourcePolicy.policyVersion = p.resourcePolicy.policyVersion
  unknown : p'.resourcePolicy.unknownCapacityMode = p.resourcePolicy.unknownCapacityMode
  replenishment : p'.resourcePolicy.replenishmentMode = p.resourcePolicy.replenishmentMode
  reservations : p'.resourcePolicy.reservations = p.resourcePolicy.reservations
  blackouts : p'.resourcePolicy.blackouts = p.resourcePolicy.blackouts
  preference : p'.preferenceOrder = p.preferenceOrder
  floor : p'.shortWindowFloorPercent = p.shortWindowFloorPercent

omit [Platform] in
/-- The facts of an evaluation that place its candidate: excluded, known or degraded. -/
def CandidateEvaluation.placement (e : CandidateEvaluation) : ModelIdentity × Bool × Bool :=
  (e.identity, e.eligible, e.capacityKnown)

/-- Happy hours do not move a candidate. -/
private theorem DiffersInHappyHours.placement_eq {policy' : SelectorPolicy}
    (hdiffers : DiffersInHappyHours policy policy') {entry : ModelCatalogEntry}
    {e e' : CandidateEvaluation}
    (h : evaluateCandidate requirement policy snapshots states evaluatedAt reports policyBlocked
      entry = .ok e)
    (h' : evaluateCandidate requirement policy' snapshots states evaluatedAt reports policyBlocked
      entry = .ok e') : e'.placement = e.placement := by
  have hident := (evaluateCandidate_spec h).identity_eq
  have hident' := (evaluateCandidate_spec h').identity_eq
  rcases evaluateCandidate_stages requirement policy states evaluatedAt reports policyBlocked
    entry with hcapacity | ⟨excluded, heach, -, -⟩
  · rw [hcapacity policy rfl] at h
    rw [hcapacity policy' hdiffers.blackouts] at h'
    obtain ⟨scarcity, outcome⟩ := evaluateCapacity_spec h
    obtain ⟨scarcity', outcome'⟩ := evaluateCapacity_spec h'
    obtain rfl : scarcity = scarcity' := Except.ok.inj (outcome.assessed.symm.trans
      outcome'.assessed)
    have heligible : e'.eligible = e.eligible := by
      have hiff := outcome'.eligible_iff
      unfold applicableReservations at hiff
      rw [hdiffers.unknown, hdiffers.reservations] at hiff
      exact Bool.eq_iff_iff.mpr (hiff.trans outcome.eligible_iff.symm)
    unfold CandidateEvaluation.placement CandidateEvaluation.capacityKnown
    rw [hident, hident', heligible, outcome.scarcity_eq, outcome'.scarcity_eq]
  · rw [heach policy rfl] at h
    rw [heach policy' hdiffers.blackouts] at h'
    cases h
    cases h'
    rfl

omit [Platform] in
/-- The identities of the eligible candidates on one side of the boundary. -/
private theorem map_identity_filter (known : Bool) (evaluations : List CandidateEvaluation) :
    ((evaluations.filter (·.eligible)).filter (·.capacityKnown = known)).map (·.identity) =
      ((evaluations.map (·.placement)).filter fun x => x.2.2 = known && x.2.1).map (·.1) := by
  rw [List.filter_map, List.map_map, List.filter_filter]
  rfl

/-- The candidates ranked on one side of the boundary. -/
def SelectionDecision.rankedSide (d : SelectionDecision) (known : Bool) : List ModelIdentity :=
  (d.ranked.filter (·.capacityKnown = known)).map (·.identity)

/-- One side of the boundary, up to order, is read off the placements. -/
private theorem rankedSide_perm {d : SelectionDecision} {evaluations : List CandidateEvaluation}
    (hd : d = assembledDecision catalog requirement policy evaluatedAt evaluations profileId
      profilePolicyVersion) (known : Bool) :
    (d.rankedSide known).Perm
      (((evaluations.map (·.placement)).filter fun x => x.2.2 = known && x.2.1).map (·.1)) := by
  unfold SelectionDecision.rankedSide
  rw [hd, ranked_assembledDecision, ← map_identity_filter]
  refine List.Perm.map _ (List.Perm.filter _ ?_)
  exact (sortBy_perm _ _).trans ((sortBy_perm _ evaluations).filter _)

/-- **Balanced selection.**  The eligible and the excluded candidates partition the catalog; the
    selected one is least under the ranking key, and the alternatives follow in strictly
    increasing order, known capacity before degraded.  Happy hours reorder each side of that
    boundary, and move no candidate across it. -/
theorem selectModel_ranks {d : SelectionDecision}
    (h : selectModel catalog requirement policy snapshots evaluatedAt states reports profileId
      profilePolicyVersion policyBlocked = .ok d) :
    RanksCatalog catalog policy d ∧
    ∀ policy', DiffersInHappyHours policy policy' → ∀ d',
      selectModel catalog requirement policy' snapshots evaluatedAt states reports profileId
        profilePolicyVersion policyBlocked = .ok d' →
      ∀ known, (d'.rankedSide known).Perm (d.rankedSide known) := by
  refine ⟨ranksCatalog_of_selectModel h, ?_⟩
  intro policy' hdiffers d' h' known
  obtain ⟨-, evaluations, heval, hd⟩ := selectModel_eq_ok.mp h
  obtain ⟨-, evaluations', heval', hd'⟩ := selectModel_eq_ok.mp h'
  have hplacements : evaluations'.map (·.placement) = evaluations.map (·.placement) := by
    refine List.forall₂_eq_eq_eq ▸ ?_
    rw [List.forall₂_map_left_iff, List.forall₂_map_right_iff]
    exact forall₂_of_mapM heval' heval fun _ _ _ he' he => hdiffers.placement_eq he he'
  have hside := rankedSide_perm hd known
  rw [← hplacements] at hside
  exact (rankedSide_perm hd' known).trans hside.symm

end Spec

end Ranking

/-- The Monday policy with a happy hour for the openai models. -/
def mondayHappyPolicy : UserPolicy :=
  { mondayPolicy with
    happyHours := [{ mondayBlackout (.lit "third") with
      target := { provider := .lit "openai", supported := openai_supported } }]
    happyHours_sorted := by decide +kernel
    unique_ids := by decide +kernel }

/-- The entries of two providers. -/
def twoProviders : ModelCatalog :=
  (smallListing (.lit "nova") (.lit "openai") (by decide +kernel)).catalog

/-- Two entries of unknown capacity: the happy hour moves the second ahead, on the same side. -/
theorem selectModel_ranks_smallListing : ∃ d d' : SelectionDecision,
    RanksCatalog twoProviders { resourcePolicy := mondayPolicy } d ∧
    (∃ s ∈ d.selected, s.identity.provider.text = "nova") ∧
    (∃ s ∈ d'.selected, s.identity.provider.text = "openai") ∧
    ∀ known, (d'.rankedSide known).Perm (d.rankedSide known) := by
  let _ := utcPlatform
  -- The instant is the midnight of a Monday.
  obtain ⟨d, s, hd, hs⟩ := exists_of_toOption
    (x := selectModel twoProviders ⟨.l0, {}, {}⟩ { resourcePolicy := mondayPolicy } []
      345600000000 [] [] none none ∅)
    (f := fun d => d.selected.filter (·.identity.provider.text = "nova")) (by decide +kernel)
  obtain ⟨d', s', hd', hs'⟩ := exists_of_toOption
    (x := selectModel twoProviders ⟨.l0, {}, {}⟩ { resourcePolicy := mondayHappyPolicy } []
      345600000000 [] [] none none ∅)
    (f := fun d => d.selected.filter (·.identity.provider.text = "openai")) (by decide +kernel)
  obtain ⟨hselected, hprovider⟩ := Option.filter_eq_some_iff.mp hs
  obtain ⟨hselected', hprovider'⟩ := Option.filter_eq_some_iff.mp hs'
  obtain ⟨hranks, hsides⟩ := selectModel_ranks hd
  exact ⟨d, d', hranks, ⟨s, hselected, of_decide_eq_true hprovider⟩,
    ⟨s', hselected', of_decide_eq_true hprovider'⟩,
    hsides { resourcePolicy := mondayHappyPolicy } ⟨rfl, rfl, rfl, rfl, rfl, rfl, rfl⟩ d' hd'⟩

end ScarcityRouter
