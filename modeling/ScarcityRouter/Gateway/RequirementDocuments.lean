import ScarcityRouter.Gateway.BindingDocuments

namespace ScarcityRouter

open ScarcityRouter.Lib
open ConfigDocument (ConfigRaised reading routeError routeItem presentOr)

/-!
# Requirement documents

The readers of `TaskRequirement` and of its parts, and the errors of all readers.

* `CapabilityMinima.fromDict`, `HardConstraints.fromDict`, `TaskRequirement.fromDict` — the
  readers.
* `IsSelection`, `IsContract` — the errors of the selection contract, and those of both contracts.
* `raisesSelection_taskRequirement`, `raisesContract_requestBinding` — **the readers raise errors of
  the contracts and no others**: after the shape check no key is missing.
-/

/-! ### Readers -/

theorem rating_least {n : ℤ} (h : ¬n < 1) : 1 ≤ n.toNat := by omega

theorem rating_most {n : ℤ} (h : ¬n > 5) : n.toNat ≤ 5 := by omega

/-- `_v_rating`. -/
def vRating (value : Json) (field : String) : Except Fault Rating :=
  match value with
  | .int n =>
    if hlo : n < 1 then .error (.below field n 1)
    else if hhi : n > 5 then .error (.refused (field ++ ": value > 5") (.int n))
    else .ok ⟨n.toNat, rating_least hlo, rating_most hhi⟩
  | value => .error (.expectedInt field value)

/-- `None if value is None else read(value)`, where a missing key stands for `None` too. -/
def vOptional {α : Type} (read : Json → String → Except Fault α) (value : Option Json)
    (field : String) : Except Fault (Option α) :=
  match value with
  | none | some .null => .ok none
  | some value => some <$> read value field

/-- `CapabilityMinima.from_dict`. -/
def CapabilityMinima.fromDict (d : Json) : Except Raised CapabilityMinima := do
  let dd ← selectionError (vExactShape d [] (CapabilityDimension.all.map CapabilityDimension.text)
    "capability_minima")
  let rating (dimension : CapabilityDimension) := selectionError (vOptional vRating
    (dd.get? dimension.text) ("capability_minima." ++ dimension.text))
  let reasoning ← rating .reasoning
  let coding ← rating .coding
  let scientificMethodological ← rating .scientificMethodological
  let writingEditorial ← rating .writingEditorial
  let toolUse ← rating .toolUse
  let translationMultilingual ← rating .translationMultilingual
  .ok ⟨reasoning, coding, scientificMethodological, writingEditorial, toolUse,
    translationMultilingual⟩

/-- `_optional_bool_field` of the hard constraints: absent is false, and null is malformed. -/
def optionalBoolField (dd : Record) (key : String) : Except Raised Bool :=
  match dd.get? key with
  | none => .ok false
  | some value => selectionError (vBool value ("hard_constraints." ++ key))

/-- `HardConstraints._OPTIONAL`. -/
def hardConstraintKeys : List String :=
  ["minimum_input_context_tokens", "minimum_output_tokens", "requires_tool_use", "requires_vision",
    "requires_reasoning_mode", "required_provider", "required_model", "required_variant",
    "privacy_constraint"]

/-- `HardConstraints.from_dict`. -/
def HardConstraints.fromDict (d : Json) : Except Raised HardConstraints := do
  let dd ← selectionError (vExactShape d [] hardConstraintKeys "hard_constraints")
  let requiredModel ← dd.optionalItem "required_model" ModelRef.fromDict
  let minimumInputContextTokens ← selectionError (vOptCount
    (dd.get? "minimum_input_context_tokens") "hard_constraints.minimum_input_context_tokens")
  let minimumOutputTokens ← selectionError (vOptCount (dd.get? "minimum_output_tokens")
    "hard_constraints.minimum_output_tokens")
  let requiresToolUse ← optionalBoolField dd "requires_tool_use"
  let requiresVision ← optionalBoolField dd "requires_vision"
  let requiresReasoningMode ← optionalBoolField dd "requires_reasoning_mode"
  let requiredProvider ← selectionError (vOptional vSafeId (dd.get? "required_provider")
    "hard_constraints.required_provider")
  let requiredVariant ← selectionError (vOptional vSafeId (dd.get? "required_variant")
    "hard_constraints.required_variant")
  let privacyConstraint ← selectionError (vOptional vSafeId (dd.get? "privacy_constraint")
    "hard_constraints.privacy_constraint")
  if providersAgree : providersAgree requiredProvider requiredModel = true then
    .ok ⟨minimumInputContextTokens, minimumOutputTokens, requiresToolUse, requiresVision,
      requiresReasoningMode, requiredProvider, requiredModel, requiredVariant, privacyConstraint,
      providersAgree⟩
  else .error (.selectionContractValidation (.stated ("hard_constraints: required_provider "
    ++ requiredProvider.elim "" SafeId.repr ++ " contradicts required_model provider "
    ++ requiredModel.elim "" (·.provider.repr))))

/-- `TASK_LEVELS`. -/
def taskLevels : List TaskLevel := [.l0, .l1, .l2, .l3, .l4, .l5]

/-- `TaskRequirement.from_dict`. -/
def TaskRequirement.fromDict (d : Json) : Except Raised TaskRequirement := do
  let dd ← selectionError (vExactShape d ["task_level", "capability_minima", "hard_constraints"] []
    "task_requirement")
  let taskLevel ← selectionError (vEnum taskLevels TaskLevel.text (← dd.item "task_level")
    "task_requirement.task_level")
  let capabilityMinima ← CapabilityMinima.fromDict (← dd.item "capability_minima")
  let hardConstraints ← HardConstraints.fromDict (← dd.item "hard_constraints")
  .ok ⟨taskLevel, capabilityMinima, hardConstraints⟩

/-! ### Errors of the readers -/

/-- An error of the selection contract. -/
def IsSelection (error : Raised) : Prop := ∃ fault, error = .selectionContractValidation fault

/-- A `SelectionContractError` of a reader. -/
def IsContract : ConfigRaised → Prop
  | .raised error => IsSelection error
  | .routeContractValidation _ => True

/-- The computation raises errors of the selection contract only. -/
abbrev RaisesSelection {α : Type} (x : Except Raised α) : Prop := Ends IsSelection (fun _ => True) x

/-- The computation raises errors of the contracts only. -/
abbrev RaisesContract {α : Type} (x : Except ConfigRaised α) : Prop :=
  Ends IsContract (fun _ => True) x

section Errors

variable {α β : Type}

@[simp] theorem raisesSelection_selectionError (x : Except Fault α) :
    RaisesSelection (selectionError x) := by
  cases x with
  | ok a => trivial
  | error fault => exact ⟨fault, rfl⟩

@[simp] theorem raisesContract_routeError (x : Except Fault α) : RaisesContract (routeError x) := by
  cases x <;> trivial

theorem raisesContract_reading {x : Except Raised α} (h : RaisesSelection x) :
    RaisesContract (reading x) := by
  cases x with
  | ok a => trivial
  | error error => exact h

/-- The rule of sequences. -/
theorem RaisesSelection.bind {x : Except Raised α} {f : α → Except Raised β}
    (hx : RaisesSelection x) (hf : ∀ a, x = .ok a → RaisesSelection (f a)) :
    RaisesSelection (x >>= f) :=
  ends_bind_and.mpr ⟨hx, hf⟩

theorem RaisesContract.bind {x : Except ConfigRaised α} {f : α → Except ConfigRaised β}
    (hx : RaisesContract x) (hf : ∀ a, x = .ok a → RaisesContract (f a)) :
    RaisesContract (x >>= f) :=
  ends_bind_and.mpr ⟨hx, hf⟩

/-- The required keys of a checked record are there. -/
theorem hasKeys_of_shape {d : Json} {required optional : List String} {label : String}
    {dd : Record} (h : vExactShape d required optional label = .ok dd) : dd.HasKeys required := by
  cases d with
  | object members =>
    obtain ⟨rfl, -, hkeys⟩ := exactKeys_eq_ok.mp h
    exact hkeys
  | null | bool _ | int _ | float _ | string _ | list _ => cases h

theorem raisesSelection_item {dd : Record} {key : String} (h : (dd.get? key).isSome = true) :
    RaisesSelection (dd.item key) := by
  obtain ⟨value, hvalue⟩ := Option.isSome_iff_exists.mp h
  rw [Record.item_of hvalue]
  trivial

theorem raisesContract_routeItem {dd : Record} {key : String} (h : (dd.get? key).isSome = true) :
    RaisesContract (routeItem dd key) :=
  raisesContract_reading (raisesSelection_item h)

theorem raisesSelection_optionalItem {dd : Record} {key : String} {read : Json → Except Raised α}
    (h : ∀ value, RaisesSelection (read value)) : RaisesSelection (dd.optionalItem key read) := by
  unfold Record.optionalItem
  split
  · trivial
  · exact ends_map.mpr (h _)

theorem raisesContract_presentOr {dd : Record} {key : String} {default : α}
    {read : Json → Except ConfigRaised α} (h : ∀ value, RaisesContract (read value)) :
    RaisesContract (presentOr dd key default read) := by
  unfold presentOr
  split
  · trivial
  · exact h _

end Errors

theorem raisesSelection_modelRef (d : Json) : RaisesSelection (ModelRef.fromDict d) := by
  refine (raisesSelection_selectionError _).bind fun dd hshape => ?_
  have hkeys := hasKeys_of_shape (mapError_eq_ok.mp hshape)
  simp only [Record.hasKeys_cons] at hkeys
  refine (raisesSelection_item hkeys.1).bind fun value _ => ?_
  refine (raisesSelection_selectionError _).bind fun provider _ => ?_
  refine (raisesSelection_item hkeys.2.1).bind fun value _ => ?_
  exact (raisesSelection_selectionError _).bind fun model _ => trivial

theorem raisesSelection_modelIdentity (d : Json) : RaisesSelection (modelFromDict d) := by
  refine (raisesSelection_selectionError _).bind fun dd hshape => ?_
  have hkeys := hasKeys_of_shape (mapError_eq_ok.mp hshape)
  simp only [Record.hasKeys_cons] at hkeys
  refine (raisesSelection_item hkeys.1).bind fun value _ => ?_
  refine (raisesSelection_selectionError _).bind fun provider _ => ?_
  refine (raisesSelection_item hkeys.2.1).bind fun value _ => ?_
  refine (raisesSelection_selectionError _).bind fun model _ => ?_
  refine (raisesSelection_item hkeys.2.2.1).bind fun value _ => ?_
  exact (raisesSelection_selectionError _).bind fun variant _ => trivial

theorem raisesSelection_minima (d : Json) : RaisesSelection (CapabilityMinima.fromDict d) := by
  refine (raisesSelection_selectionError _).bind fun dd _ => ?_
  iterate 6 refine (raisesSelection_selectionError _).bind fun _ _ => ?_
  trivial

theorem raisesSelection_boolField (dd : Record) (key : String) :
    RaisesSelection (optionalBoolField dd key) := by
  unfold optionalBoolField
  split
  · trivial
  · exact raisesSelection_selectionError _

theorem raisesSelection_hardConstraints (d : Json) :
    RaisesSelection (HardConstraints.fromDict d) := by
  refine (raisesSelection_selectionError _).bind fun dd _ => ?_
  refine (raisesSelection_optionalItem raisesSelection_modelRef).bind fun model _ => ?_
  iterate 2 refine (raisesSelection_selectionError _).bind fun _ _ => ?_
  iterate 3 refine (raisesSelection_boolField _ _).bind fun _ _ => ?_
  iterate 3 refine (raisesSelection_selectionError _).bind fun _ _ => ?_
  split
  · trivial
  · exact ⟨_, rfl⟩

/-- **A requirement is read, or an error of the selection contract is raised.** -/
theorem raisesSelection_taskRequirement (d : Json) :
    RaisesSelection (TaskRequirement.fromDict d) := by
  refine (raisesSelection_selectionError _).bind fun dd hshape => ?_
  have hkeys := hasKeys_of_shape (mapError_eq_ok.mp hshape)
  simp only [Record.hasKeys_cons] at hkeys
  refine (raisesSelection_item hkeys.1).bind fun value _ => ?_
  refine (raisesSelection_selectionError _).bind fun level _ => ?_
  refine (raisesSelection_item hkeys.2.1).bind fun value _ => ?_
  refine (raisesSelection_minima _).bind fun minima _ => ?_
  refine (raisesSelection_item hkeys.2.2.1).bind fun value _ => ?_
  exact (raisesSelection_hardConstraints _).bind fun constraints _ => trivial

theorem raisesContract_pinnedTarget (d : Json) : RaisesContract (PinnedTarget.fromDict d) := by
  have hid (field : String) (value : Json) :
      RaisesContract (some <$> routeError (vSafeId value field)) :=
    ends_map.mpr (raisesContract_routeError _)
  refine (raisesContract_routeError _).bind fun dd hshape => ?_
  have hkeys := hasKeys_of_shape (mapError_eq_ok.mp hshape)
  simp only [Record.hasKeys_cons] at hkeys
  refine (raisesContract_routeItem hkeys.1).bind fun value _ => ?_
  refine (raisesContract_routeError _).bind fun resource _ => ?_
  refine (raisesContract_routeItem hkeys.2.1).bind fun value _ => ?_
  refine (raisesContract_reading (raisesSelection_modelIdentity _)).bind fun model _ => ?_
  refine (raisesContract_presentOr (hid _)).bind fun decision _ => ?_
  exact (raisesContract_presentOr (hid _)).bind fun effort _ => trivial

theorem raisesContract_boolField (dd : Record) (key : String) :
    RaisesContract (requestBoolField dd key) := by
  unfold requestBoolField
  split
  · trivial
  · exact raisesContract_routeError _

/-- **A binding is read, or an error of the contracts is raised.** -/
theorem raisesContract_requestBinding (d : Json) : RaisesContract (RequestBinding.fromDict d) := by
  have hid (field : String) (value : Json) :
      RaisesContract (some <$> routeError (vSafeId value field)) :=
    ends_map.mpr (raisesContract_routeError _)
  refine (raisesContract_routeError _).bind fun dd _ => ?_
  refine (raisesContract_presentOr fun value => ends_map.mpr
    (raisesContract_reading (raisesSelection_modelRef value))).bind fun model _ => ?_
  refine (raisesContract_presentOr fun value => ends_map.mpr
    (raisesContract_pinnedTarget value)).bind fun pin _ => ?_
  iterate 4 refine (raisesContract_boolField _ _).bind fun _ _ => ?_
  iterate 2 refine (raisesContract_routeError _).bind fun _ _ => ?_
  iterate 2 refine (raisesContract_presentOr (hid _)).bind fun _ _ => ?_
  split <;> trivial

end ScarcityRouter
