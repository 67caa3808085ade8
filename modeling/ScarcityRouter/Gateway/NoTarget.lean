import ScarcityRouter.Gateway.Errors
import ScarcityRouter.Routing.Totality

namespace ScarcityRouter

open ScarcityRouter.Lib

/-!
# The failure of a decision without a target

`_no_eligible_target_error` of `gateway_coordinator.py`: what a client is told when routing selects
nothing.

* `noEligibleTargetError` — the classification.
* `noEligibleTargetError_eq_of_strict`, `noEligibleTargetError_eq_output_iff`,
  `noEligibleTargetError_cases` — its three outcomes.
* `rejectionError_noEligibleTargetError` — **when the caller is blamed.**
-/

/-! ### The three failures -/

/-- `_strict_non_paid_error`. -/
def strictNonPaidError (code : TargetReason) : GatewayError :=
  .permission ("strict non-paid admission cannot verify this source's complete execution path; "
    ++ "an administrator must supply a supported reviewed source/control implementation and current "
    ++ "evidence. Entitlement, quota, prices and source authentication do not prove that path; "
    ++ "no fallback is permitted") (some code.text.text)

/-- The caller's output request is the cause. -/
def outputRejection (code : OutputCode) : GatewayError :=
  .invalidRequest "no execution route can satisfy this request's output requirements"
    (some code.text.text)

/-- The ordinary failure. -/
def noEligibleTarget : GatewayError :=
  .api "no authorized execution target satisfies this request" (some "no_eligible_target") 503

/-- `code.startswith("no_payg_")`. -/
def TargetReason.startsNoPayg (code : TargetReason) : Bool :=
  "no_payg_".toList.isPrefixOf code.text.text.toList

/-- The prefix is that of the refusals of the no-PAYG proof. -/
theorem TargetReason.startsNoPayg_iff {code : TargetReason} :
    code.startsNoPayg = true ↔ ∃ refusal, code = .nonPaid refusal := by
  cases code with
  | nonPaid refusal =>
    refine iff_of_true ?_ ⟨refusal, rfl⟩
    cases refusal <;> decide +kernel
  | outputLimit code =>
    refine iff_of_false ?_ nofun
    cases code <;> decide +kernel
  | _ => exact iff_of_false (by decide +kernel) nofun

/-- The reason is an output limit. -/
def TargetReason.isOutput : TargetReason → Bool
  | .outputLimit _ => true
  | _ => false

theorem TargetReason.isOutput_iff {code : TargetReason} :
    code.isOutput = true ↔ ∃ output, code = .outputLimit output := by
  cases code <;> simp [isOutput]

/-! ### The classification -/

/-- Every reason of every target exclusion, in order. -/
def RouteContent.exclusionReasons (d : RouteContent) : List TargetReason :=
  d.targetExclusions.flatMap (·.reasonCodes)

/-- `sorted({code ... if code.startswith("no_payg_")})`. -/
def RouteContent.strictCodes (d : RouteContent) : List TargetReason :=
  sortedSet (d.exclusionReasons.filter (·.startsNoPayg))

/-- `purely_output`: there are target exclusions, and all their codes are output codes. -/
def RouteContent.purelyOutput (d : RouteContent) : Bool :=
  !d.targetExclusions.isEmpty && d.targetExclusions.all fun exclusion =>
    !exclusion.reasonCodes.isEmpty && exclusion.reasonCodes.all (·.isOutput)

/-- Some candidate of the embedded selection is blocked by a blackout. -/
def SelectionDecision.blackedOut (selection : SelectionDecision) : Bool :=
  (selection.excluded ++ selection.closestCandidates).any fun candidate =>
    candidate.blackoutDecision.any (·.blocked)

/-- The output code that is reported: insufficient, then unenforceable, then unknown. -/
def reportedOutput (seen : List TargetReason) : OutputCode :=
  if .outputLimit .insufficient ∈ seen then .insufficient
  else if .outputLimit .unenforceable ∈ seen then .unenforceable
  else .unknown

/-- `_no_eligible_target_error`. -/
def noEligibleTargetError (d : RouteContent) : GatewayError :=
  match d.strictCodes with
  | code :: _ => strictNonPaidError code
  | [] =>
    if d.purelyOutput && !d.selection.blackedOut then
      outputRejection (reportedOutput d.exclusionReasons)
    else noEligibleTarget

variable {d d' : RouteContent}

theorem mem_strictCodes {code : TargetReason} :
    code ∈ d.strictCodes ↔ code ∈ d.exclusionReasons ∧ ∃ refusal, code = .nonPaid refusal := by
  unfold RouteContent.strictCodes
  rw [mem_sortedSet, List.mem_filter, TargetReason.startsNoPayg_iff]

theorem strictCodes_eq_nil :
    d.strictCodes = [] ↔ ∀ refusal, .nonPaid refusal ∉ d.exclusionReasons := by
  rw [List.eq_nil_iff_forall_not_mem]
  constructor
  · intro h refusal hmem
    exact h _ (mem_strictCodes.mpr ⟨hmem, refusal, rfl⟩)
  · intro h code hmem
    obtain ⟨hreason, refusal, rfl⟩ := mem_strictCodes.mp hmem
    exact h refusal hreason

/-- **A refusal of the no-PAYG proof comes first**, and the first one in order is reported. -/
theorem noEligibleTargetError_eq_of_strict {refusal : NonPaidRefusal}
    (h : .nonPaid refusal ∈ d.exclusionReasons) :
    ∃ first, .nonPaid first ∈ d.exclusionReasons ∧
      TargetReason.nonPaid first ≤ .nonPaid refusal ∧
      noEligibleTargetError d = strictNonPaidError (.nonPaid first) := by
  have hmem : TargetReason.nonPaid refusal ∈ d.strictCodes := mem_strictCodes.mpr ⟨h, refusal, rfl⟩
  cases hcodes : d.strictCodes with
  | nil =>
    rw [hcodes] at hmem
    cases hmem
  | cons code rest =>
    have hfirst : code ∈ d.strictCodes := by
      rw [hcodes]
      exact List.mem_cons_self
    obtain ⟨hreason, first, rfl⟩ := mem_strictCodes.mp hfirst
    refine ⟨first, hreason, ?_, ?_⟩
    · have hsorted : StrictlySorted d.strictCodes := strictlySorted_sortedSet _
      rw [hcodes] at hsorted hmem
      rcases List.mem_cons.mp hmem with heq | hrest
      · exact le_of_eq heq.symm
      · exact le_of_lt ((List.pairwise_cons.mp hsorted).1 _ hrest)
    · unfold noEligibleTargetError
      rw [hcodes]

/-- All the target exclusions are for the output request. -/
structure OnlyOutput (d : RouteContent) : Prop where
  excludes : d.targetExclusions ≠ []
  output : ∀ reason ∈ d.exclusionReasons, ∃ code, reason = .outputLimit code

theorem purelyOutput_iff : d.purelyOutput = true ↔ OnlyOutput d := by
  unfold RouteContent.purelyOutput
  simp only [Bool.and_eq_true, Bool.not_eq_true', List.all_eq_true, TargetReason.isOutput_iff,
    List.isEmpty_eq_false_iff]
  constructor
  · rintro ⟨hne, hall⟩
    refine ⟨hne, fun reason hreason => ?_⟩
    obtain ⟨exclusion, hexclusion, hmem⟩ := List.mem_flatMap.mp hreason
    exact (hall exclusion hexclusion).2 reason hmem
  · intro h
    refine ⟨h.excludes, fun exclusion hexclusion => ⟨?_, fun reason hreason => ?_⟩⟩
    · -- An exclusion has a primary code.
      obtain ⟨code, hcode, -⟩ := exclusion.well_formed.codes_primary
      exact List.ne_nil_of_mem hcode
    · exact h.output reason (List.mem_flatMap.mpr ⟨exclusion, hexclusion, hreason⟩)

/-- Refusals are no output reasons. -/
theorem OnlyOutput.strictCodes (h : OnlyOutput d) : d.strictCodes = [] := by
  refine strictCodes_eq_nil.mpr fun refusal hmem => ?_
  obtain ⟨code, hcode⟩ := h.output _ hmem
  cases hcode

/-- The failures are told apart by their status. -/
theorem outputRejection_ne_noEligibleTarget (code : OutputCode) :
    outputRejection code ≠ noEligibleTarget := by
  intro h
  have hstatus : 400 = 503 := congrArg GatewayError.httpStatus h
  omega

theorem outputRejection_ne_strictNonPaidError (code : OutputCode) (reason : TargetReason) :
    outputRejection code ≠ strictNonPaidError reason := by
  intro h
  have hstatus : 400 = 403 := congrArg GatewayError.httpStatus h
  omega

theorem strictNonPaidError_ne_noEligibleTarget (reason : TargetReason) :
    strictNonPaidError reason ≠ noEligibleTarget := by
  intro h
  have hstatus : 403 = 503 := congrArg GatewayError.httpStatus h
  omega

theorem OutputCode.text_injective : Function.Injective OutputCode.text := by
  intro a b h
  cases a <;> cases b <;> first | rfl | exact absurd h (by decide +kernel)

theorem outputRejection_injective : Function.Injective outputRejection := by
  intro a b h
  have htext := Option.some.inj (congrArg GatewayError.code h)
  exact OutputCode.text_injective (SafeId.text_injective htext)

/-- **When the output request is blamed.** -/
theorem noEligibleTargetError_eq_output_iff {code : OutputCode} :
    noEligibleTargetError d = outputRejection code ↔
      OnlyOutput d ∧ d.selection.blackedOut = false ∧ code = reportedOutput d.exclusionReasons := by
  by_cases hstrict : d.strictCodes = []
  · unfold noEligibleTargetError
    rw [hstrict]
    dsimp only
    by_cases honly : OnlyOutput d
    · rw [purelyOutput_iff.mpr honly]
      cases hblack : d.selection.blackedOut with
      | false => simp [honly, outputRejection_injective.eq_iff, eq_comm]
      | true => simp [(outputRejection_ne_noEligibleTarget code).symm]
    · rw [Bool.eq_false_iff.mpr (mt purelyOutput_iff.mp honly)]
      simp [honly, (outputRejection_ne_noEligibleTarget code).symm]
  · refine iff_of_false (fun h => ?_) fun h => hstrict h.1.strictCodes
    obtain ⟨reason, rest, hcodes⟩ := List.exists_cons_of_ne_nil hstrict
    unfold noEligibleTargetError at h
    rw [hcodes] at h
    exact outputRejection_ne_strictNonPaidError code reason h.symm

/-- Every other failure is the ordinary one. -/
theorem noEligibleTargetError_cases :
    (∃ refusal, .nonPaid refusal ∈ d.exclusionReasons) ∨
      (∃ code, noEligibleTargetError d = outputRejection code) ∨
        noEligibleTargetError d = noEligibleTarget := by
  by_cases hstrict : d.strictCodes = []
  · refine .inr ?_
    unfold noEligibleTargetError
    rw [hstrict]
    dsimp only
    split_ifs
    · exact .inl ⟨_, rfl⟩
    · exact .inr rfl
  · left
    by_contra hnone
    push Not at hnone
    exact hstrict (strictCodes_eq_nil.mpr hnone)

/-! ### Whose fault it is -/

/-- The reasons of every rejection of the decision: of its target exclusions, and of the candidates
    its selection excluded. -/
def RouteContent.rejectionTexts (d : RouteContent) : List SafeId :=
  d.exclusionReasons.map TargetReason.text ++
    d.selection.excluded.flatMap (·.reasonCodes.map SelectionReason.text)

/-- A decision purely about the output request is the caller's, and every other one is not. -/
structure ErrorPurity (d : RouteContent) (error : GatewayError) : Prop where
  output : (∃ code, error = outputRejection code) →
    ∀ text ∈ d.rejectionTexts, ∃ code : OutputCode, text = code.text
  otherwise : (¬ ∃ code, error = outputRejection code) → error = noEligibleTarget

/-- How specific an output code is. -/
def OutputCode.priority : OutputCode → ℕ
  | .insufficient => 0
  | .unenforceable => 1
  | .unknown => 2

/-- The reported code is the most specific one seen. -/
theorem reportedOutput_spec {seen : List TargetReason}
    (hne : seen ≠ []) (houtput : ∀ reason ∈ seen, ∃ code, reason = .outputLimit code) :
    .outputLimit (reportedOutput seen) ∈ seen ∧
      ∀ code, .outputLimit code ∈ seen → (reportedOutput seen).priority ≤ code.priority := by
  unfold reportedOutput
  split_ifs with hinsufficient hunenforceable
  · exact ⟨hinsufficient, fun code _ => Nat.zero_le _⟩
  · refine ⟨hunenforceable, fun code hcode => ?_⟩
    cases code with
    | insufficient => exact absurd hcode hinsufficient
    | unenforceable | unknown => decide
  · obtain ⟨reason, hreason⟩ := List.exists_mem_of_ne_nil seen hne
    obtain ⟨code, rfl⟩ := houtput reason hreason
    cases code with
    | insufficient => exact absurd hreason hinsufficient
    | unenforceable => exact absurd hreason hunenforceable
    | unknown =>
      refine ⟨hreason, fun code hcode => ?_⟩
      cases code with
      | insufficient => exact absurd hcode hinsufficient
      | unenforceable => exact absurd hcode hunenforceable
      | unknown => exact le_rfl

/-- What the failure of a decision without a target says. -/
structure RejectionError (d : RouteContent) (error : GatewayError) : Prop where
  /-- A refusal of the no-PAYG proof is reported before anything else. -/
  strict : ∀ refusal, .nonPaid refusal ∈ d.exclusionReasons →
    ∃ first, .nonPaid first ∈ d.exclusionReasons ∧
      TargetReason.nonPaid first ≤ .nonPaid refusal ∧
      error = strictNonPaidError (.nonPaid first)
  /-- The caller is blamed with the most specific output code, only where every target exclusion
      is for the output request and no candidate is blacked out. -/
  output : ∀ code, error = outputRejection code → OnlyOutput d ∧
    (∀ c ∈ d.selection.excluded ++ d.selection.closestCandidates,
      ∀ blackout ∈ c.blackoutDecision, blackout.blocked = false) ∧
    .outputLimit code ∈ d.exclusionReasons ∧
    ∀ other, .outputLimit other ∈ d.exclusionReasons → code.priority ≤ other.priority
  /-- The caller is blamed where nothing but the output request was a reason. -/
  blamed : OnlyOutput d → d.selection.excluded = [] → d.selection.closestCandidates = [] →
    ∃ code, error = outputRejection code
  /-- Every other failure is the ordinary one. -/
  otherwise : (∀ refusal, .nonPaid refusal ∉ d.exclusionReasons) →
    (¬ ∃ code, error = outputRejection code) → error = noEligibleTarget

/-- **When the caller is blamed.** -/
theorem rejectionError_noEligibleTargetError (d : RouteDecision) :
    RejectionError d.toRouteContent (noEligibleTargetError d.toRouteContent) where
  strict refusal h := noEligibleTargetError_eq_of_strict h
  output code h := by
    obtain ⟨honly, hblack, rfl⟩ := noEligibleTargetError_eq_output_iff.mp h
    have hreasons : d.exclusionReasons ≠ [] := by
      obtain ⟨exclusion, hexclusion⟩ := List.exists_mem_of_ne_nil _ honly.excludes
      obtain ⟨reason, hreason, -⟩ := exclusion.well_formed.codes_primary
      exact List.ne_nil_of_mem (List.mem_flatMap.mpr ⟨exclusion, hexclusion, hreason⟩)
    refine ⟨honly, fun c hc blackout hblackout => ?_, reportedOutput_spec hreasons honly.output⟩
    have hnot := List.any_eq_false.mp hblack c hc
    rw [Option.mem_def.mp hblackout] at hnot
    exact Bool.eq_false_iff.mpr hnot
  blamed honly hexcluded hclosest := by
    refine ⟨_, noEligibleTargetError_eq_output_iff.mpr ⟨honly, ?_, rfl⟩⟩
    unfold SelectionDecision.blackedOut
    rw [hexcluded, hclosest]
    rfl
  otherwise hstrict houtput := by
    rcases noEligibleTargetError_cases with ⟨refusal, hrefusal⟩ | hblamed | hordinary
    · exact absurd hrefusal (hstrict refusal)
    · exact absurd hblamed houtput
    · exact hordinary

/-- A request of a client that demands proof of a non-paid path, over a resource without proof. -/
def strictRequest : RouteRequest where
  toRouteInputs := { acmeInputs with clientAuthorization := { strictNoPayg := true } }
  valid := { acmeInputs_valid with }

/-- A resource with a small output limit. -/
def limitedHttp : ResourceRegistryEntry :=
  { acmeHttp with capabilities := { outputLimitTokens := some 100 } }

/-- A resource of another provider. -/
def novaHttp : ResourceRegistryEntry where
  identity :=
    { resourceId := .lit "nova-http"
      channel := .serverDirectHttp
      provider := .lit "nova"
      model := .lit "atlas"
      entitlement := .localUngated }
  freshnessTtlSeconds := 300
  capabilities := { outputLimitTokens := some 1000 }
  observation := some { observedAt := 0, health := { status := .ok } }
  freshness := .fresh
  observed := acmeHttp.observed

/-- Its model, without an assessment. -/
def novaBase : ModelIdentity := ⟨.lit "nova", .lit "atlas", .lit "base"⟩

/-- A request that exceeds the limit of the one and needs an assessment of the other. -/
def mixedRequest : RouteRequest where
  toRouteInputs := { acmeInputs with
    catalog :=
      { atlasInventory with
        entries := [atlasEntry atlasBase, { atlasEntry novaBase with
          capacityBindingResources := some [.lit "nova-http"]
          resources_sorted := by decide +kernel
          resource_bindings_evidenced := by
            intro _ h
            cases h }]
        unique := by decide +kernel }
    registrySnapshot := { revision := 1, generatedAt := 0, entries := [limitedHttp, novaHttp] }
    taskRequirement := some ⟨.l0, { reasoning := some ⟨4, by decide, by decide⟩ }, {}⟩
    request := { maximumOutputTokens := some 200 } }
  valid :=
    { acmeInputs_valid with
      candidates_calibrated := fun _ h => nomatch h
      runtime_states := fun _ => rfl
      alias_profile := nofun
      after_snapshot := le_rfl
      binding_merged := by
        intro explicit hexplicit
        obtain rfl := Option.some.inj hexplicit
        rfl }

/-- The decision of a request has no target, and its failure does not meet the purity. -/
def ImpureFailure [RouteHost] (r : RouteRequest) : Prop :=
  ∃ d, routeRequest r = .ok d ∧ d.target = none ∧
    ¬ ErrorPurity d.toRouteContent (noEligibleTargetError d.toRouteContent)

/-- The failure of the strict request is neither the caller's nor the ordinary one, and that of the
    mixed request blames the caller although a candidate was excluded for its capabilities. -/
theorem impureFailure_strictRequest_mixedRequest :
    @ImpureFailure utcHost strictRequest ∧ @ImpureFailure utcHost mixedRequest := by
  let _ := utcHost
  constructor
  · obtain ⟨d, reasons, hd, hreasons⟩ := exists_of_toOption (x := routeRequest strictRequest)
      (f := fun d => if d.target = none ∧
        .nonPaid .evidenceUnavailable ∈ d.exclusionReasons then some () else none)
      (by decide +kernel)
    split_ifs at hreasons with hfacts
    obtain ⟨first, -, -, herror⟩ := noEligibleTargetError_eq_of_strict hfacts.2
    refine ⟨d, hd, hfacts.1, fun hpurity => ?_⟩
    rw [herror] at hpurity
    refine strictNonPaidError_ne_noEligibleTarget _ (hpurity.otherwise ?_)
    rintro ⟨code, hcode⟩
    exact outputRejection_ne_strictNonPaidError code _ hcode.symm
  · obtain ⟨d, reasons, hd, hreasons⟩ := exists_of_toOption (x := routeRequest mixedRequest)
      (f := fun d => if d.target = none ∧
        noEligibleTargetError d.toRouteContent = outputRejection .insufficient ∧
        SelectionReason.capabilityFailed.text ∈ d.rejectionTexts then some () else none)
      (by decide +kernel)
    split_ifs at hreasons with hfacts
    obtain ⟨hnone, herror, hreason⟩ := hfacts
    refine ⟨d, hd, hnone, fun hpurity => ?_⟩
    obtain ⟨code, hcode⟩ := hpurity.output ⟨_, herror⟩ _ hreason
    cases code <;> exact absurd hcode (by decide +kernel)

end ScarcityRouter
