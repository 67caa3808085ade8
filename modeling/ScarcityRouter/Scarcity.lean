import Mathlib.Tactic.Common
import ScarcityRouter.Capacity

namespace ScarcityRouter

open ScarcityRouter.Lib

/-!
# Scarcity assessment

How scarce a candidate's bound subscription capacity is, after `scarcity.py`.

* `windowRole`, `blendedEffectiveRemainingPercent` — the strategic/tactical blend.
* `scarcityPenaltyUnits`, `scarcityLabel` — the frozen penalty and its labels.
* `ScarcityAssessment.postInit` — the construction checks of the assessment record.
* `assessScarcity` — the assessment of one catalog entry over the capacity snapshots.
* `assessScarcity_returns_iff` — **the assessment never raises** beyond the documented demand of
  one snapshot per provider: every record it builds passes its own construction checks.
* `assessScarcity_eq_of_perm` — the assessment does not depend on the order of the snapshots.
-/

/-! ### Vocabularies -/

/-- `SCARCITY_STATES`. -/
inductive ScarcityState where
  | known | unknown | unavailable
  deriving DecidableEq, Repr

/-- `SCARCITY_LABELS`. -/
inductive ScarcityLabel where
  | plentiful | normal | scarce | critical | unavailable | unknown
  deriving DecidableEq, Repr

def ScarcityLabel.text : ScarcityLabel → String
  | .plentiful => "plentiful"
  | .normal => "normal"
  | .scarce => "scarce"
  | .critical => "critical"
  | .unavailable => "unavailable"
  | .unknown => "unknown"

/-- `SCARCITY_REASON_CODES`. -/
inductive ScarcityReason where
  | capacityBindingsUnknown
  | missingProviderSnapshot
  | providerSnapshotNotOk
  | missingScopeWindow
  | windowPercentageUnknown
  | capacityExhausted
  deriving DecidableEq, Repr

def ScarcityReason.text : ScarcityReason → String
  | .capacityBindingsUnknown => "capacity_bindings_unknown"
  | .missingProviderSnapshot => "missing_provider_snapshot"
  | .providerSnapshotNotOk => "provider_snapshot_not_ok"
  | .missingScopeWindow => "missing_scope_window"
  | .windowPercentageUnknown => "window_percentage_unknown"
  | .capacityExhausted => "capacity_exhausted"

theorem ScarcityReason.text_injective : Function.Injective ScarcityReason.text := by
  intro a b h
  cases a <;> cases b <;> first | rfl | exact absurd h (by decide +kernel)

/-- Codes compare as their texts do. -/
instance : LinearOrder ScarcityReason :=
  LinearOrder.lift' ScarcityReason.text ScarcityReason.text_injective

/-- `WINDOW_ROLES`. -/
inductive WindowRole where
  | strategic | tactical
  deriving DecidableEq, Repr

/-- `window_role`: the frozen role of one normalized window. -/
def windowRole (resource : CapacityResource) (kind : WindowKind) : WindowRole :=
  match kind with
  | .weekly => .strategic
  | .fiveHour => .tactical
  | .unknown => if resource = .time then .tactical else .strategic

/-! ### Penalty, label and blend -/

/-- `scarcity_penalty_units`: exactly `(100 - remaining)^2`. -/
def scarcityPenaltyUnits (remaining : Percent) : ℕ := (100 - remaining.val) * (100 - remaining.val)

/-- `scarcity_label`. -/
def scarcityLabel (remaining : Percent) : ScarcityLabel :=
  if remaining.val ≥ 80 then .plentiful
  else if remaining.val ≥ 50 then .normal
  else if remaining.val ≥ 20 then .scarce
  else if remaining.val ≥ 1 then .critical
  else .unavailable

/-- `(a + WEEKLY_TO_FIVE_HOUR_RATIO * b) // BLEND_UNIT_COUNT`. -/
def blend (a b : Percent) : Percent := ⟨(a.val + 5 * b.val) / 6, by omega⟩

/-- `blended_effective_remaining_percent`: a role without evidence takes the other's value. -/
def blendedEffectiveRemainingPercent (tactical strategic : Option Percent) :
    Except ContractError Percent :=
  match tactical, strategic with
  | none, none => .error (.selectionContractValidation
      ("blended_effective_remaining_percent: at least one role representative is required"))
  | none, some b => .ok (blend b b)
  | some a, none => .ok (blend a a)
  | some a, some b => .ok (blend a b)

theorem blend_self (a : Percent) : blend a a = a := Fin.ext (by simp only [blend]; omega)

theorem blend_pos {a b : Percent} (ha : a ≠ 0) (hb : b ≠ 0) : blend a b ≠ 0 := by
  rw [Ne, Fin.ext_iff] at ha hb ⊢
  simp only [blend, Fin.val_zero] at ha hb ⊢
  omega

/-! ### The assessment record -/

/-- Explanation-only reference to the governing capacity window. -/
structure GoverningWindowEvidence where
  scope : CapacityScopeRef
  resource : CapacityResource
  kind : WindowKind
  remainingPercent : Percent
  windowId : Option SafeId
  deriving DecidableEq

/-- The role of the evidenced window. -/
def GoverningWindowEvidence.role (w : GoverningWindowEvidence) : WindowRole :=
  windowRole w.resource w.kind

/-- The `(resource, kind)` rendering of the role errors. -/
def GoverningWindowEvidence.shape (w : GoverningWindowEvidence) : String :=
  "(" ++ w.resource.text ++ ", " ++ w.kind.text ++ ")"

/-- The normalized scarcity result for one candidate's bound capacity. -/
structure ScarcityAssessment where
  state : ScarcityState
  label : ScarcityLabel
  penaltyUnits : Option ℕ
  effectiveRemainingPercent : Option Percent
  applicableScopes : List CapacityScopeRef
  governingWindow : Option GoverningWindowEvidence
  reasonCodes : List ScarcityReason
  strategicWindow : Option GoverningWindowEvidence := none
  tacticalWindow : Option GoverningWindowEvidence := none
  deriving DecidableEq

namespace ScarcityAssessment

/-- A `SelectionContractValidationError` of the assessment record. -/
private def invalid (message : String) : ContractError :=
  .selectionContractValidation ("scarcity_assessment: " ++ message)

/-- The checks of `__post_init__` on the `unknown` state. -/
def checkUnknown (a : ScarcityAssessment) : Except ContractError Unit := do
  check (a.penaltyUnits = none ∧ a.effectiveRemainingPercent = none)
    (invalid "unknown state must not carry a numeric penalty or effective remaining")
  check (a.governingWindow = none) (invalid "unknown state has no governing window evidence")
  check (a.strategicWindow = none ∧ a.tacticalWindow = none)
    (invalid "unknown state has no role window evidence (D-037)")
  check (a.label = .unknown)
    (invalid ("unknown state requires the exact label 'unknown', got '" ++ a.label.text ++ "'"))
  check (a.reasonCodes ≠ []) (invalid "unknown state requires at least one reason code")
  check (.capacityExhausted ∉ a.reasonCodes)
    (invalid "unknown state must not claim capacity_exhausted")
  if .capacityBindingsUnknown ∈ a.reasonCodes then do
    check (a.reasonCodes = [.capacityBindingsUnknown])
      (invalid ("unknown applicability carries exactly the 'capacity_bindings_unknown' reason "
        ++ "code; telemetry causes require known bindings"))
    check (a.applicableScopes = [])
      (invalid "unknown applicability has no normalized applicable scopes")
  else
    check (a.applicableScopes ≠ [])
      (invalid ("unknown telemetry requires at least one applicable scope; empty applicable "
        ++ "scopes are reserved for unknown applicability"))

/-- The role evidence checks of a numeric state. -/
def checkRoles (a : ScarcityAssessment) (effective : Percent)
    (governing : GoverningWindowEvidence) : Except ContractError Unit := do
  check (∀ w ∈ a.strategicWindow, w.role = .strategic)
    (invalid ("strategic_window " ++ a.strategicWindow.elim "" (·.shape)
      ++ " is not a strategic-role window"))
  check (∀ w ∈ a.tacticalWindow, w.role = .tactical)
    (invalid ("tactical_window " ++ a.tacticalWindow.elim "" (·.shape)
      ++ " is not a tactical-role window"))
  if a.state = .unavailable then
    check (a.strategicWindow = none ∧ a.tacticalWindow = none)
      (invalid "the unavailable state carries no role window evidence (D-037)")
  else do
    check (a.strategicWindow.isSome ∨ a.tacticalWindow.isSome)
      (invalid ("a known assessment carries the D-037 role window evidence of at least one "
        ++ "role"))
    check (some governing = a.strategicWindow.or a.tacticalWindow)
      (invalid ("governing_window must equal the strategic representative when one exists, "
        ++ "else the tactical representative (D-037)"))
    let expected ← blendedEffectiveRemainingPercent (a.tacticalWindow.map (·.remainingPercent))
      (a.strategicWindow.map (·.remainingPercent))
    check (effective = expected)
      (invalid ("effective remaining " ++ toString effective.val
        ++ " does not equal the frozen D-037 blend (" ++ toString expected.val
        ++ ") of the role representatives"))
  check (a.state = .known ∧ a.strategicWindow.isSome ∨ governing.remainingPercent = effective)
    (invalid ("governing window remaining " ++ toString governing.remainingPercent.val
      ++ " does not match effective remaining " ++ toString effective.val))

/-- The checks of `__post_init__` on the numeric states. -/
def checkNumeric (a : ScarcityAssessment) : Except ContractError Unit :=
  match a.effectiveRemainingPercent, a.penaltyUnits, a.governingWindow with
  | none, _, _ => .error (.selectionContractValidation
      "scarcity_assessment.effective_remaining_percent: expected int, got NoneType (None)")
  | some _, none, _ => .error (.selectionContractValidation
      "scarcity_assessment.penalty_units: expected int, got NoneType")
  | some effective, some penalty, governing? => do
    check (penalty = scarcityPenaltyUnits effective)
      (invalid ("penalty_units " ++ toString penalty ++ " does not equal the frozen penalty ("
        ++ toString (scarcityPenaltyUnits effective) ++ ") for effective remaining "
        ++ toString effective.val))
    check (a.label = scarcityLabel effective)
      (invalid ("label '" ++ a.label.text ++ "' does not equal the frozen label '"
        ++ (scarcityLabel effective).text ++ "' for effective remaining "
        ++ toString effective.val))
    match governing? with
    | none => .error (.selectionContractValidation
        ("scarcity_assessment.governing_window: expected a GoverningWindowEvidence, "
          ++ "got NoneType"))
    | some governing => do
      checkRoles a effective governing
      check (a.applicableScopes ≠ [])
        (invalid "a numeric state requires at least one applicable scope")
      check (governing.scope ∈ a.applicableScopes)
        (invalid ("governing window scope (" ++ governing.scope.provider.text ++ ", "
          ++ governing.scope.scopeId.text ++ ") must belong to the applicable scopes"))
      if a.state = .known then do
        check (effective ≠ 0) (invalid ("state 'known' requires a nonzero effective remaining; "
          ++ "use state 'unavailable'"))
        check (a.reasonCodes = []) (invalid "a fully known state carries no reason codes")
      else do
        check (effective = 0) (invalid "state 'unavailable' requires effective remaining 0")
        check (.capacityExhausted ∈ a.reasonCodes)
          (invalid "state 'unavailable' requires the 'capacity_exhausted' reason code")

/-- The state-dependent checks of `__post_init__`. -/
def checkState (a : ScarcityAssessment) : Except ContractError Unit :=
  if a.state = .unknown then a.checkUnknown else a.checkNumeric

/-- The canonical stored form: sorted codes and scopes. -/
def canonical (a : ScarcityAssessment) : ScarcityAssessment :=
  { a with
    reasonCodes := sortBy id a.reasonCodes
    applicableScopes := sortBy CapacityScopeRef.key a.applicableScopes }

/-- `ScarcityAssessment.__post_init__`: canonical codes and scopes, then the state's checks. -/
def postInit (a : ScarcityAssessment) : Except ContractError ScarcityAssessment := do
  rejectDuplicates a.reasonCodes fun code => .selectionContractValidation
    ("scarcity_assessment.reason_codes: duplicate reason code '" ++ code.text ++ "'")
  a.canonical.checkState
  return a.canonical

end ScarcityAssessment

/-! ### Governing windows -/

/-- An applicable window: its scope, the window and its known remaining percentage. -/
structure KnownWindow where
  scope : CapacityScopeRef
  window : CapacityWindow
  remaining : Percent
  deriving DecidableEq

/-- `_canonical_window_key`: the explanation tie-break over normalized fields. -/
def canonicalWindowKey (w : KnownWindow) : SafeId ×ₗ SafeId ×ₗ String ×ₗ String ×ₗ String :=
  toLex (w.scope.provider, toLex (w.scope.scopeId, toLex (w.window.resource.text,
    toLex (w.window.kind.text, w.window.windowId.elim "" SafeId.text))))

/-- The maximum of the candidates' penalties. -/
def maxPenalty (candidates : List KnownWindow) : ℕ :=
  (candidates.map fun w => scarcityPenaltyUnits w.remaining).foldr max 0

/-- `_pick_governing`: maximum penalty, then the least canonical key. -/
def pickGoverning (candidates : List KnownWindow) : Option KnownWindow :=
  (sortBy canonicalWindowKey (candidates.filter fun w =>
    scarcityPenaltyUnits w.remaining = maxPenalty candidates)).head?

/-- `_governing_evidence`. -/
def governingEvidence (w : KnownWindow) : GoverningWindowEvidence where
  scope := w.scope
  resource := w.window.resource
  kind := w.window.kind
  remainingPercent := w.remaining
  windowId := w.window.windowId

/-! ### The assessment -/

/-- What one binding contributes: incompleteness reasons and known windows. -/
structure BindingTelemetry where
  reasons : List ScarcityReason
  known : List KnownWindow

/-- The loop body over `entry.capacity_bindings`. -/
def assessBinding (snapshots : List CapacitySnapshot) (binding : CapacityScopeRef) :
    BindingTelemetry :=
  match snapshotOf snapshots binding.provider with
  | none => ⟨[.missingProviderSnapshot], []⟩
  | some snapshot =>
    if snapshot.status ≠ .ok then ⟨[.providerSnapshotNotOk], []⟩
    else
      let matched := snapshot.windows.filter fun w => w.scopeId = some binding.scopeId
      { reasons :=
          (if matched = [] then [.missingScopeWindow] else []) ++
          (if matched.any (·.remainingPercent.isNone) then [.windowPercentageUnknown] else [])
        known := matched.filterMap fun w => w.remainingPercent.map fun r => ⟨binding, w, r⟩ }

/-- `_unknown_assessment`. -/
def unknownAssessment (reasons : List ScarcityReason) (scopes : List CapacityScopeRef) :
    ScarcityAssessment where
  state := .unknown
  label := .unknown
  penaltyUnits := none
  effectiveRemainingPercent := none
  applicableScopes := scopes
  governingWindow := none
  reasonCodes := reasons

/-- The record of an exhausted applicable window. -/
def unavailableAssessment (bindings : List CapacityScopeRef) (reasons : List ScarcityReason)
    (governing : KnownWindow) : ScarcityAssessment where
  state := .unavailable
  label := .unavailable
  penaltyUnits := some 10000
  effectiveRemainingPercent := some 0
  applicableScopes := bindings
  governingWindow := some { governingEvidence governing with remainingPercent := 0 }
  reasonCodes := sortedSet (.capacityExhausted :: reasons)

/-- The record of completely assessed bindings, from the role representatives. -/
def knownAssessment (bindings : List CapacityScopeRef) (effective : Percent)
    (strategic tactical : Option GoverningWindowEvidence) : ScarcityAssessment where
  state := .known
  label := scarcityLabel effective
  penaltyUnits := some (scarcityPenaltyUnits effective)
  effectiveRemainingPercent := some effective
  applicableScopes := bindings
  governingWindow := strategic.or tactical
  reasonCodes := []
  strategicWindow := strategic
  tacticalWindow := tactical

/-- The known windows of one role. -/
def rolePool (role : WindowRole) (known : List KnownWindow) : List KnownWindow :=
  known.filter fun w => windowRole w.window.resource w.window.kind = role

/-- The assessment of known bindings, from the gathered telemetry. -/
def assessTelemetry (bindings : List CapacityScopeRef) (reasons : List ScarcityReason)
    (known : List KnownWindow) : Except ContractError ScarcityAssessment :=
  match pickGoverning (known.filter (·.remaining = 0)) with
  | some governing => (unavailableAssessment bindings reasons governing).postInit
  | none =>
    if reasons ≠ [] then (unknownAssessment (sortedSet reasons) bindings).postInit
    else do
      check (known ≠ []) (.selectionContractValidation
        ("assess_scarcity: no applicable window evidence and no incompleteness reason; "
          ++ "internal contract violation"))
      let strategic := pickGoverning (rolePool .strategic known)
      let tactical := pickGoverning (rolePool .tactical known)
      let effective ← blendedEffectiveRemainingPercent (tactical.map (·.remaining))
        (strategic.map (·.remaining))
      check (strategic.isSome ∨ tactical.isSome) (.selectionContractValidation
        ("assess_scarcity: no role evidence despite known windows; "
          ++ "internal contract violation"))
      (knownAssessment bindings effective (strategic.map governingEvidence)
        (tactical.map governingEvidence)).postInit

/-- `assess_scarcity`. -/
def assessScarcity (entry : ModelCatalogEntry) (snapshots : List CapacitySnapshot) :
    Except ContractError ScarcityAssessment := do
  rejectDuplicates (snapshots.map (·.provider)) fun provider => .selectionContractValidation
    ("assess_scarcity.snapshots: duplicate provider snapshot for " ++ provider.repr
      ++ "; at most one snapshot per provider is permitted per assessment")
  match entry.capacityBindings with
  | none => ScarcityAssessment.postInit (unknownAssessment [.capacityBindingsUnknown] [])
  | some bindings =>
    assessTelemetry bindings (bindings.flatMap fun b => (assessBinding snapshots b).reasons)
      (bindings.flatMap fun b => (assessBinding snapshots b).known)

/-! ### The assessment never raises -/

/-- A non-empty pool attains its maximal penalty. -/
private theorem exists_maxPenalty {candidates : List KnownWindow} (h : candidates ≠ []) :
    ∃ w ∈ candidates, scarcityPenaltyUnits w.remaining = maxPenalty candidates := by
  induction candidates with
  | nil => exact absurd rfl h
  | cons w ws ih =>
    have hcons : maxPenalty (w :: ws) = max (scarcityPenaltyUnits w.remaining) (maxPenalty ws) :=
      rfl
    rcases le_total (maxPenalty ws) (scarcityPenaltyUnits w.remaining) with hle | hle
    · exact ⟨w, List.mem_cons_self, by rw [hcons, max_eq_left hle]⟩
    · by_cases hws : ws = []
      · subst hws
        exact ⟨w, List.mem_cons_self, (max_eq_left (Nat.zero_le _)).symm⟩
      · obtain ⟨v, hv, hmax⟩ := ih hws
        exact ⟨v, List.mem_cons_of_mem _ hv, by rw [hcons, max_eq_right hle, hmax]⟩

theorem pickGoverning_mem {candidates : List KnownWindow} {w : KnownWindow}
    (h : pickGoverning candidates = some w) : w ∈ candidates := by
  have hmem := List.mem_of_head? h
  exact List.mem_of_mem_filter (mem_sortBy.mp hmem)

@[simp] theorem pickGoverning_eq_none {candidates : List KnownWindow} :
    pickGoverning candidates = none ↔ candidates = [] := by
  constructor
  · intro h
    by_contra hne
    obtain ⟨w, hw, hmax⟩ := exists_maxPenalty hne
    have hnil := sortBy_eq_nil.mp (List.head?_eq_none_iff.mp h)
    have hin : w ∈ candidates.filter fun w =>
        scarcityPenaltyUnits w.remaining = maxPenalty candidates :=
      List.mem_filter.mpr ⟨hw, decide_eq_true hmax⟩
    rw [hnil] at hin
    exact List.not_mem_nil hin
  · rintro rfl
    rfl

private theorem pickGoverning_role {role : WindowRole} {known : List KnownWindow}
    {w : KnownWindow} (h : pickGoverning (rolePool role known) = some w) :
    (governingEvidence w).role = role :=
  of_decide_eq_true (List.mem_filter.mp (pickGoverning_mem h)).2

/-- The roles partition the known windows. -/
private theorem exists_role {known : List KnownWindow} (h : known ≠ []) :
    rolePool .strategic known ≠ [] ∨ rolePool .tactical known ≠ [] := by
  obtain ⟨w, ws, rfl⟩ := List.exists_cons_of_ne_nil h
  cases hrole : windowRole w.window.resource w.window.kind with
  | strategic => exact .inl (by simp [rolePool, hrole])
  | tactical => exact .inr (by simp [rolePool, hrole])

/-- Every gathered window belongs to one of the bindings. -/
theorem scope_of_mem_known {snapshots : List CapacitySnapshot} {b : CapacityScopeRef}
    {w : KnownWindow} (h : w ∈ (assessBinding snapshots b).known) : w.scope = b := by
  unfold assessBinding at h
  split at h
  · exact absurd h List.not_mem_nil
  · split at h
    · exact absurd h List.not_mem_nil
    · obtain ⟨window, _, hmap⟩ := List.mem_filterMap.mp h
      obtain ⟨r, _, rfl⟩ := Option.map_eq_some_iff.mp hmap
      rfl

/-- Telemetry reasons never speak about applicability or exhaustion. -/
theorem reason_of_mem_reasons {snapshots : List CapacitySnapshot} {b : CapacityScopeRef}
    {code : ScarcityReason} (h : code ∈ (assessBinding snapshots b).reasons) :
    code ≠ .capacityBindingsUnknown ∧ code ≠ .capacityExhausted := by
  unfold assessBinding at h
  split at h
  · rw [List.mem_singleton.mp h]; decide
  · split at h
    · rw [List.mem_singleton.mp h]; decide
    · rcases List.mem_append.mp h with h | h <;> split at h
      all_goals first
        | exact absurd h List.not_mem_nil
        | (rw [List.mem_singleton.mp h]; decide)

/-- A binding without a reason has a known window. -/
theorem known_ne_nil_of_reasons_nil {snapshots : List CapacitySnapshot} {b : CapacityScopeRef}
    (h : (assessBinding snapshots b).reasons = []) : (assessBinding snapshots b).known ≠ [] := by
  unfold assessBinding at h ⊢
  split at h
  · cases h
  · split at h
    · cases h
    · rename_i snapshot hsnap hok
      rw [if_neg hok]
      obtain ⟨hmatched, hknown⟩ := List.append_eq_nil_iff.mp h
      have hne : snapshot.windows.filter (fun w => w.scopeId = some b.scopeId) ≠ [] := by
        intro hnil
        rw [if_pos hnil] at hmatched
        cases hmatched
      obtain ⟨w, ws, hcons⟩ := List.exists_cons_of_ne_nil hne
      have hall : ∀ w ∈ snapshot.windows.filter (fun w => w.scopeId = some b.scopeId),
          w.remainingPercent.isSome := by
        intro w hw
        by_contra hnone
        have hany : (snapshot.windows.filter (fun w => w.scopeId = some b.scopeId)).any
            (·.remainingPercent.isNone) = true :=
          List.any_eq_true.mpr ⟨w, hw, by simpa using hnone⟩
        rw [if_pos hany] at hknown
        cases hknown
      obtain ⟨r, hr⟩ := Option.isSome_iff_exists.mp (hall w (by rw [hcons]; exact List.mem_cons_self))
      intro hnil
      have hmem : (⟨b, w, r⟩ : KnownWindow) ∈ (snapshot.windows.filter
          (fun w => w.scopeId = some b.scopeId)).filterMap
          fun w => w.remainingPercent.map fun r => ⟨b, w, r⟩ :=
        List.mem_filterMap.mpr ⟨w, by rw [hcons]; exact List.mem_cons_self, by rw [hr]; rfl⟩
      change _ ∈ List.filterMap _ _ at hmem
      simp only at hnil
      rw [hnil] at hmem
      exact List.not_mem_nil hmem

private theorem returns_postInit {a : ScarcityAssessment} (hcodes : a.reasonCodes.Nodup)
    (hchecks : Returns a.canonical.checkState) : Returns a.postInit := by
  unfold ScarcityAssessment.postInit
  rw [returns_rejectDuplicates_bind]
  obtain ⟨u, hu⟩ := hchecks
  exact ⟨hcodes, returns_bind.mpr ⟨u, hu, returns_ok _⟩⟩

/-- Unknown applicability builds a valid record. -/
private theorem returns_unknown_applicability :
    Returns (unknownAssessment [.capacityBindingsUnknown] []).postInit :=
  ⟨_, rfl⟩

/-- Unknown telemetry over known bindings builds a valid record. -/
private theorem returns_unknown_telemetry {bindings : List CapacityScopeRef}
    {reasons : List ScarcityReason} (hbindings : bindings ≠ []) (hreasons : reasons ≠ [])
    (hcodes : ∀ code ∈ reasons, code ≠ .capacityBindingsUnknown ∧ code ≠ .capacityExhausted) :
    Returns (unknownAssessment (sortedSet reasons) bindings).postInit := by
  refine returns_postInit (strictlySorted_sortedSet reasons).nodup ?_
  have hstored : sortBy id (sortedSet reasons) = sortedSet reasons :=
    sortBy_eq_self ((strictlySorted_sortedSet reasons).imp le_of_lt)
  have hno : ScarcityReason.capacityBindingsUnknown ∉ reasons := fun h => (hcodes _ h).1 rfl
  have hnoExhausted : ScarcityReason.capacityExhausted ∉ reasons := fun h => (hcodes _ h).2 rfl
  simp [ScarcityAssessment.checkState, ScarcityAssessment.canonical,
    ScarcityAssessment.checkUnknown, unknownAssessment, hstored, hno, hnoExhausted, hreasons,
    hbindings]

/-- An exhausted applicable window builds a valid record. -/
private theorem returns_unavailable {bindings : List CapacityScopeRef} {w : KnownWindow}
    (reasons : List ScarcityReason) (hscope : w.scope ∈ bindings) :
    Returns (unavailableAssessment bindings reasons w).postInit := by
  refine returns_postInit (strictlySorted_sortedSet _).nodup ?_
  have hne : bindings ≠ [] := List.ne_nil_of_mem hscope
  simp [ScarcityAssessment.checkState, ScarcityAssessment.canonical, unavailableAssessment,
    ScarcityAssessment.checkNumeric, ScarcityAssessment.checkRoles, scarcityPenaltyUnits,
    scarcityLabel, governingEvidence, hscope, hne]

/-- Role representatives with a nonzero blend build a valid record. -/
private theorem returns_known {bindings : List CapacityScopeRef} {effective : Percent}
    {strategic tactical : Option GoverningWindowEvidence}
    (hsRole : ∀ w ∈ strategic, w.role = .strategic) (htRole : ∀ w ∈ tactical, w.role = .tactical)
    (hsScope : ∀ w ∈ strategic, w.scope ∈ bindings) (htScope : ∀ w ∈ tactical, w.scope ∈ bindings)
    (hsome : strategic.isSome ∨ tactical.isSome)
    (hblend : blendedEffectiveRemainingPercent (tactical.map (·.remainingPercent))
      (strategic.map (·.remainingPercent)) = .ok effective)
    (hpos : effective ≠ 0) :
    Returns (knownAssessment bindings effective strategic tactical).postInit := by
  refine returns_postInit List.nodup_nil ?_
  cases strategic with
  | none =>
    cases tactical with
    | none => simp at hsome
    | some t =>
      -- The tactical window fills both slots of the blend, so it is the effective remaining.
      have hscope := htScope t rfl
      have hne : bindings ≠ [] := List.ne_nil_of_mem hscope
      have heff : t.remainingPercent = effective := by
        simpa [blendedEffectiveRemainingPercent, blend_self] using hblend
      simp [ScarcityAssessment.checkState, ScarcityAssessment.canonical, knownAssessment,
        ScarcityAssessment.checkNumeric, ScarcityAssessment.checkRoles, htRole t rfl, hscope, hne,
        hpos, blendedEffectiveRemainingPercent, blend_self, heff]
  | some s =>
    have hscope := hsScope s rfl
    have hne : bindings ≠ [] := List.ne_nil_of_mem hscope
    have hrole : ∀ w ∈ tactical, w.role = .tactical := htRole
    simp only [Option.map_some] at hblend
    simp [ScarcityAssessment.checkState, ScarcityAssessment.canonical, knownAssessment,
      ScarcityAssessment.checkNumeric, ScarcityAssessment.checkRoles, hsRole s rfl, hscope, hne,
      hpos, hblend]
    exact htRole

/-- The blend of nonzero representatives exists and is nonzero. -/
private theorem exists_blend (strategic tactical : Option Percent)
    (hsome : strategic.isSome ∨ tactical.isSome) (hs : ∀ p ∈ strategic, p ≠ 0)
    (ht : ∀ p ∈ tactical, p ≠ 0) :
    ∃ e, blendedEffectiveRemainingPercent tactical strategic = .ok e ∧ e ≠ 0 := by
  cases strategic with
  | none =>
    cases tactical with
    | none => simp at hsome
    | some t => exact ⟨_, rfl, blend_pos (ht t rfl) (ht t rfl)⟩
  | some s =>
    cases tactical with
    | none => exact ⟨_, rfl, blend_pos (hs s rfl) (hs s rfl)⟩
    | some t => exact ⟨_, rfl, blend_pos (ht t rfl) (hs s rfl)⟩

/-- Gathered telemetry always assembles into a valid record. -/
private theorem returns_assessTelemetry {bindings : List CapacityScopeRef}
    {reasons : List ScarcityReason} {known : List KnownWindow} (hbindings : bindings ≠ [])
    (hscopes : ∀ w ∈ known, w.scope ∈ bindings)
    (hcodes : ∀ code ∈ reasons, code ≠ .capacityBindingsUnknown ∧ code ≠ .capacityExhausted)
    (hcomplete : reasons = [] → known ≠ []) :
    Returns (assessTelemetry bindings reasons known) := by
  unfold assessTelemetry
  cases hpick : pickGoverning (known.filter (·.remaining = 0)) with
  | some w =>
    have hmem := List.mem_of_mem_filter (pickGoverning_mem hpick)
    exact returns_unavailable reasons (hscopes w hmem)
  | none =>
    have hpos : ∀ w ∈ known, w.remaining ≠ 0 := by
      intro w hw hzero
      have hin : w ∈ known.filter (·.remaining = 0) :=
        List.mem_filter.mpr ⟨hw, decide_eq_true hzero⟩
      rw [pickGoverning_eq_none.mp hpick] at hin
      exact List.not_mem_nil hin
    by_cases hreasons : reasons = []
    · subst hreasons
      have hknown := hcomplete rfl
      have hin : ∀ {role w}, pickGoverning (rolePool role known) = some w → w ∈ known :=
        fun h => List.mem_of_mem_filter (pickGoverning_mem h)
      have hsome : (pickGoverning (rolePool .strategic known)).isSome ∨
          (pickGoverning (rolePool .tactical known)).isSome := by
        rcases exists_role hknown with h | h
        · exact .inl (Option.isSome_iff_ne_none.mpr fun hn => h (pickGoverning_eq_none.mp hn))
        · exact .inr (Option.isSome_iff_ne_none.mpr fun hn => h (pickGoverning_eq_none.mp hn))
      obtain ⟨e, he, hepos⟩ := exists_blend
        ((pickGoverning (rolePool .strategic known)).map (·.remaining))
        ((pickGoverning (rolePool .tactical known)).map (·.remaining))
        (by simpa using hsome)
        (by rintro p hp
            obtain ⟨w, hw, rfl⟩ := Option.map_eq_some_iff.mp (Option.mem_def.mp hp)
            exact hpos w (hin hw))
        (by rintro p hp
            obtain ⟨w, hw, rfl⟩ := Option.map_eq_some_iff.mp (Option.mem_def.mp hp)
            exact hpos w (hin hw))
      rw [if_neg (not_not.mpr rfl), returns_check_bind]
      refine ⟨hknown, returns_bind.mpr ⟨e, he, ?_⟩⟩
      rw [returns_check_bind]
      refine ⟨hsome, returns_known ?_ ?_ ?_ ?_ (by simpa using hsome) ?_ hepos⟩
      · rintro v hv
        obtain ⟨w, hw, rfl⟩ := Option.map_eq_some_iff.mp (Option.mem_def.mp hv)
        exact pickGoverning_role hw
      · rintro v hv
        obtain ⟨w, hw, rfl⟩ := Option.map_eq_some_iff.mp (Option.mem_def.mp hv)
        exact pickGoverning_role hw
      · rintro v hv
        obtain ⟨w, hw, rfl⟩ := Option.map_eq_some_iff.mp (Option.mem_def.mp hv)
        exact hscopes w (hin hw)
      · rintro v hv
        obtain ⟨w, hw, rfl⟩ := Option.map_eq_some_iff.mp (Option.mem_def.mp hv)
        exact hscopes w (hin hw)
      · rw [Option.map_map, Option.map_map]
        exact he
    · rw [if_pos hreasons]
      exact returns_unknown_telemetry hbindings hreasons hcodes

/-- **The assessment never raises** beyond its documented demand: it returns exactly when the
    caller supplies at most one snapshot per provider. -/
theorem assessScarcity_returns_iff (entry : ModelCatalogEntry) (snapshots : List CapacitySnapshot) :
    Returns (assessScarcity entry snapshots) ↔ UniqueProviders snapshots := by
  unfold assessScarcity
  rw [returns_rejectDuplicates_bind]
  refine and_iff_left ?_
  cases hb : entry.capacityBindings with
  | none => exact returns_unknown_applicability
  | some bindings =>
    have hvalid := entry.bindings_valid bindings hb
    refine returns_assessTelemetry hvalid.1 ?_ ?_ ?_
    · intro w hw
      obtain ⟨b, hbmem, hwb⟩ := List.mem_flatMap.mp hw
      rw [scope_of_mem_known hwb]
      exact hbmem
    · intro code hcode
      obtain ⟨b, _, hcb⟩ := List.mem_flatMap.mp hcode
      exact reason_of_mem_reasons hcb
    · intro hnil
      obtain ⟨b, bs, rfl⟩ := List.exists_cons_of_ne_nil hvalid.1
      rw [List.flatMap_cons] at hnil ⊢
      have hb0 := known_ne_nil_of_reasons_nil (List.append_eq_nil_iff.mp hnil).1
      exact fun h => hb0 (List.append_eq_nil_iff.mp h).1

/-- **Order independence.** The assessment does not depend on the order of the snapshots. -/
theorem assessScarcity_eq_of_perm (entry : ModelCatalogEntry) {xs ys : List CapacitySnapshot}
    (h : xs.Perm ys) (unique : UniqueProviders xs) :
    assessScarcity entry xs = assessScarcity entry ys := by
  have hy : UniqueProviders ys := (h.map _).nodup_iff.mp unique
  have hbinding : ∀ b, assessBinding xs b = assessBinding ys b := fun b => by
    unfold assessBinding
    rw [snapshotOf_eq_of_perm h unique]
  unfold assessScarcity
  rw [rejectDuplicates_of_nodup unique, rejectDuplicates_of_nodup hy]
  simp only [hbinding]

end ScarcityRouter
