import ScarcityRouter.SelectionTypes

namespace ScarcityRouter

open ScarcityRouter.Lib

/-!
# Requirement tightening

The pure monotone merge of `selector.py`: an explicit requirement may tighten a base, never
loosen it.

* `tightenMinimum`, `tightenIdentity`, `tightenModelRef` — the three field merges.
* `tightenRequirement` — the merge of whole requirements.
* `tightenMinimum_eq_ok` — what a successful numeric merge stores: the larger of the two.
-/

/-- The two classes of text a merge error shows: a number, or a quoted identifier. -/
private def loosens (name explicit base : String) : ContractError :=
  .selectionContractValidation ("tighten_requirement: explicit " ++ name ++ "=" ++ explicit
    ++ " would loosen the base minimum " ++ base
    ++ "; relaxation is rejected, never silently clamped")

/-- `_tighten_minimum`: monotone merge for one optional numeric minimum. -/
def tightenMinimum {α : Type} (value : α → ℕ) (base explicit : Option α) (name : String) :
    Except ContractError (Option α) :=
  match explicit, base with
  | none, _ => .ok base
  | some e, none => .ok (some e)
  | some e, some b =>
    if value b ≤ value e then .ok (some e)
    else .error (loosens name (toString (value e)) (toString (value b)))

/-- `_tighten_identity`: monotone merge for one optional exact-identity constraint. -/
def tightenIdentity (base explicit : Option SafeId) (name : String) :
    Except ContractError (Option SafeId) :=
  match explicit, base with
  | none, _ => .ok base
  | some e, none => .ok (some e)
  | some e, some b =>
    if e = b then .ok (some e)
    else .error (.selectionContractValidation ("tighten_requirement: explicit " ++ name ++ "="
      ++ e.repr ++ " contradicts the base constraint " ++ b.repr))

/-- The tuple rendering of a model reference in merge errors. -/
def ModelRef.repr (ref : ModelRef) : String :=
  "(" ++ ref.provider.repr ++ ", " ++ ref.model.repr ++ ")"

/-- `_tighten_model_ref`. -/
def tightenModelRef (base explicit : Option ModelRef) (name : String) :
    Except ContractError (Option ModelRef) :=
  match explicit, base with
  | none, _ => .ok base
  | some e, none => .ok (some e)
  | some e, some b =>
    if b = e then .ok (some b)
    else .error (.selectionContractValidation ("tighten_requirement: explicit " ++ name ++ "="
      ++ e.repr ++ " contradicts the base constraint " ++ b.repr))

/-- The capability-minima merge, dimension by dimension. -/
def tightenMinima (base explicit : CapabilityMinima) : Except ContractError CapabilityMinima := do
  let merge (d : CapabilityDimension) :=
    tightenMinimum Rating.val (base.get d) (explicit.get d) ("capability_minimum." ++ d.text)
  return {
    reasoning := ← merge .reasoning
    coding := ← merge .coding
    scientificMethodological := ← merge .scientificMethodological
    writingEditorial := ← merge .writingEditorial
    toolUse := ← merge .toolUse
    translationMultilingual := ← merge .translationMultilingual }

/-- The hard-constraint merge; the constructor still rejects provider/model contradictions. -/
def tightenHardConstraints (base explicit : HardConstraints) :
    Except ContractError HardConstraints := do
  let minimumInputContextTokens ← tightenMinimum PNat.val base.minimumInputContextTokens
    explicit.minimumInputContextTokens "hard_constraint.minimum_input_context_tokens"
  let minimumOutputTokens ← tightenMinimum PNat.val base.minimumOutputTokens
    explicit.minimumOutputTokens "hard_constraint.minimum_output_tokens"
  let requiredProvider ← tightenIdentity base.requiredProvider explicit.requiredProvider
    "hard_constraint.required_provider"
  let requiredModel ← tightenModelRef base.requiredModel explicit.requiredModel
    "hard_constraint.required_model"
  let requiredVariant ← tightenIdentity base.requiredVariant explicit.requiredVariant
    "hard_constraint.required_variant"
  let privacyConstraint ← tightenIdentity base.privacyConstraint explicit.privacyConstraint
    "hard_constraint.privacy_constraint"
  if h : providersAgree requiredProvider requiredModel = true then
    return {
      minimumInputContextTokens
      minimumOutputTokens
      requiresToolUse := base.requiresToolUse || explicit.requiresToolUse
      requiresVision := base.requiresVision || explicit.requiresVision
      requiresReasoningMode := base.requiresReasoningMode || explicit.requiresReasoningMode
      requiredProvider
      requiredModel
      requiredVariant
      privacyConstraint
      providers_agree := h }
  else .error (.selectionContractValidation ("hard_constraints: required_provider "
    ++ requiredProvider.elim "" SafeId.repr ++ " contradicts required_model provider "
    ++ requiredModel.elim "" (·.provider.repr)))

/-- `tighten_requirement`. -/
def tightenRequirement (base explicit : TaskRequirement) :
    Except ContractError TaskRequirement := do
  check (base.taskLevel.index ≤ explicit.taskLevel.index) (.selectionContractValidation
    ("tighten_requirement: explicit task level '" ++ explicit.taskLevel.text
      ++ "' would loosen the base level '" ++ base.taskLevel.text ++ "'"))
  let capabilityMinima ← tightenMinima base.capabilityMinima explicit.capabilityMinima
  let hardConstraints ← tightenHardConstraints base.hardConstraints explicit.hardConstraints
  return { taskLevel := explicit.taskLevel, capabilityMinima, hardConstraints }

/-! ### What a successful merge stores -/

/-- A successful numeric merge keeps the explicit value when there is one, and never falls below
    the base. -/
theorem tightenMinimum_eq_ok {α : Type} {value : α → ℕ} {base explicit : Option α} {name : String}
    {merged : Option α} : tightenMinimum value base explicit name = .ok merged ↔
      merged = explicit.or base ∧ ∀ e ∈ explicit, ∀ b ∈ base, value b ≤ value e := by
  unfold tightenMinimum
  cases explicit with
  | none => simp [eq_comm]
  | some e =>
    cases base with
    | none => simp [eq_comm]
    | some b =>
      by_cases h : value b ≤ value e
      · simp [h, eq_comm]
      · simp [h]

/-- A merged requirement carries the explicit minima where they are given. -/
theorem tightenRequirement_hard {base explicit merged : TaskRequirement}
    (h : tightenRequirement base explicit = .ok merged) :
    merged.hardConstraints.minimumInputContextTokens =
      explicit.hardConstraints.minimumInputContextTokens.or
        base.hardConstraints.minimumInputContextTokens ∧
    merged.hardConstraints.minimumOutputTokens =
      explicit.hardConstraints.minimumOutputTokens.or base.hardConstraints.minimumOutputTokens ∧
    merged.hardConstraints.requiresToolUse =
      (base.hardConstraints.requiresToolUse || explicit.hardConstraints.requiresToolUse) ∧
    merged.hardConstraints.requiresVision =
      (base.hardConstraints.requiresVision || explicit.hardConstraints.requiresVision) ∧
    merged.hardConstraints.requiresReasoningMode =
      (base.hardConstraints.requiresReasoningMode
        || explicit.hardConstraints.requiresReasoningMode) := by
  unfold tightenRequirement at h
  obtain ⟨_, _, h⟩ := bind_eq_ok.mp h
  obtain ⟨_, _, h⟩ := bind_eq_ok.mp h
  obtain ⟨hard, hhard, h⟩ := bind_eq_ok.mp h
  cases h
  unfold tightenHardConstraints at hhard
  obtain ⟨input, hinput, h⟩ := bind_eq_ok.mp hhard
  obtain ⟨output, houtput, h⟩ := bind_eq_ok.mp h
  obtain ⟨_, _, h⟩ := bind_eq_ok.mp h
  obtain ⟨_, _, h⟩ := bind_eq_ok.mp h
  obtain ⟨_, _, h⟩ := bind_eq_ok.mp h
  obtain ⟨_, _, h⟩ := bind_eq_ok.mp h
  split at h
  · cases h
    exact ⟨(tightenMinimum_eq_ok.mp hinput).1, (tightenMinimum_eq_ok.mp houtput).1, rfl, rfl, rfl⟩
  · cases h

/-- The merge reads the feature flags only to unite them. -/
theorem tightenRequirement_congr_flags {base a b : TaskRequirement}
    (hlevel : a.taskLevel = b.taskLevel) (hminima : a.capabilityMinima = b.capabilityMinima)
    (hrest : a.hardConstraints = { b.hardConstraints with
      requiresToolUse := a.hardConstraints.requiresToolUse
      requiresReasoningMode := a.hardConstraints.requiresReasoningMode
      providers_agree := b.hardConstraints.providers_agree })
    (htool : (base.hardConstraints.requiresToolUse || a.hardConstraints.requiresToolUse) =
      (base.hardConstraints.requiresToolUse || b.hardConstraints.requiresToolUse))
    (hreasoning :
      (base.hardConstraints.requiresReasoningMode || a.hardConstraints.requiresReasoningMode) =
      (base.hardConstraints.requiresReasoningMode || b.hardConstraints.requiresReasoningMode)) :
    tightenRequirement base a = tightenRequirement base b := by
  have hhard : tightenHardConstraints base.hardConstraints a.hardConstraints =
      tightenHardConstraints base.hardConstraints b.hardConstraints := by
    unfold tightenHardConstraints
    rw [htool, hreasoning, hrest]
  unfold tightenRequirement
  rw [hlevel, hminima, hhard]

end ScarcityRouter
