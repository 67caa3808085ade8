import ScarcityRouter.Gateway.RequirementDocuments
import ScarcityRouter.Worker.IdentityStore

namespace ScarcityRouter

open ScarcityRouter.Lib
open ConfigDocument (ConfigRaised reading)

/-!
# Kernel declarations

`kernel_requirements.py`: the interpretation of an approved declaration as a requirement and a
binding.

* `KernelReadings` — what the standard library reads in bytes and texts.
* `KernelRaised` — the exceptions, and the `except` clauses of the interpretation.
* `readDeclaration` — the producer's shape: the exact fields, their arrays, paths and origins.
* `readQuality`, `readInterface` — the two fields that the router interprets.
* `interpretKernelDeclaration` — the interpretation, with its problems.
* `interpretKernelDeclaration_total` — **every declaration within the byte bound is interpreted**,
  and only an exact document without unknowns and context is bindable.
-/

/-! ### Readings -/

/-- What `json.loads` raises: its own error, a `ValueError` of a hook, or a `RecursionError`. -/
inductive JsonRaised where
  | jsonDecodeError
  | valueError
  | recursionError

/-- What `urlsplit` finds in a network origin. -/
structure OriginParts extends ConfigDocument.UrlParts where
  path : Text

/-- What the standard library reads. -/
class KernelReadings where
  /-- `hashlib.sha256(declaration).hexdigest()`. -/
  sha256 : Bytes → Text
  /-- `json.loads` with the hooks of `load_strict_json`. -/
  jsonLoads : Text → Except JsonRaised Json
  /-- `urlsplit`; `none` stands for the `ValueError`. -/
  urlsplit : Text → Option OriginParts

/-! ### Exceptions -/

/-- The exceptions of the interpretation and of the binding. -/
inductive KernelRaised where
  | applicationInput (message : String)
  | legacyProfileInput
  | contract (error : ContractError)
  | config (error : ConfigRaised)
  | value
  | recursion

/-- A `SelectionContractError` of the contracts. -/
def ContractError.isSelectionContract : ContractError → Bool
  | selectionContractValidation _ | routeContractValidation _ => true
  | _ => false

namespace KernelRaised

/-- A `ValueError`; a `UnicodeError` is one. -/
def isValueError : KernelRaised → Bool
  | value | config (.raised (.value _)) => true
  | _ => false

/-- A `SelectionContractError`. -/
def isSelectionContractError : KernelRaised → Bool
  | applicationInput _ | legacyProfileInput => true
  | contract error => error.isSelectionContract
  | config (.raised (.selectionContractValidation _)) => true
  | config (.routeContractValidation _) => true
  | _ => false

/-- `except (ValueError, UnicodeError, RecursionError)`. -/
def isMalformed : KernelRaised → Bool
  | recursion => true
  | error => error.isValueError

/-- `except (ValueError, SelectionContractError, RecursionError)`. -/
def isInvalid (error : KernelRaised) : Bool := error.isMalformed || error.isSelectionContractError

end KernelRaised

/-! ### The shape of a declaration -/

section Interpretation

variable [KernelReadings]

/-- `load_strict_json`. -/
def loadStrictJson (text : Text) : Except KernelRaised Json :=
  (KernelReadings.jsonLoads text).mapError fun
    | .jsonDecodeError | .valueError => .value
    | .recursionError => .recursion

/-- `_FIELDS`. -/
def kernelFields : List String :=
  ["version", "outcome", "criteria", "quality", "interface", "context", "unknowns", "paths",
    "network", "effects", "recipes", "provenance"]

/-- A string that is not blank. -/
def nonBlank : Json → Except KernelRaised Text
  | .string item => do
    check (strip item ≠ []) .value
    .ok item
  | _ => .error .value

/-- One declared array: strings that are not blank, no two of them equal. -/
def declaredArray (fields : Record) (name : String) : Except KernelRaised (List Text) :=
  match fields.get? name with
  | some (.list items) => do
    let strings ← items.mapM nonBlank
    check strings.Nodup .value
    .ok strings
  | _ => .error .value

/-- The arrays of a declaration. -/
structure DeclaredArrays where
  criteria : List Text
  quality : List Text
  interface : List Text
  context : List Text
  unknowns : List Text
  paths : List Text
  network : List Text
  effects : List Text
  recipes : List Text
  provenance : List Text

/-- The arrays of a declaration, each with its own check. -/
def declaredArrays (fields : Record) : Except KernelRaised DeclaredArrays := do
  let criteria ← declaredArray fields "criteria"
  let quality ← declaredArray fields "quality"
  let interface ← declaredArray fields "interface"
  let context ← declaredArray fields "context"
  let unknowns ← declaredArray fields "unknowns"
  let paths ← declaredArray fields "paths"
  let network ← declaredArray fields "network"
  let effects ← declaredArray fields "effects"
  let recipes ← declaredArray fields "recipes"
  let provenance ← declaredArray fields "provenance"
  .ok ⟨criteria, quality, interface, context, unknowns, paths, network, effects, recipes,
    provenance⟩

/-- A path is relative and stays below its root: the parts of a `PurePosixPath` are the components
    between slashes, without empty ones and single dots. -/
def checkPath (path : Text) : Except KernelRaised Unit :=
  check (path.head? ≠ some (codePoint '/') ∧
    Text.ofString ".." ∉ path.splitOn (codePoint '/') ∧ path ≠ Text.ofString "." ∧ path ≠ [] ∧
    codePoint '\\' ∉ path) .value

/-- The origin of a network request, and nothing more than an origin. -/
def checkOrigin (origin : Text) : Except KernelRaised Unit :=
  match KernelReadings.urlsplit origin with
  | none => .error .value
  | some parts => check (parts.scheme = Text.ofString "https" ∧ parts.hostname.getD [] ≠ [] ∧
      parts.username.getD [] = [] ∧ parts.password.getD [] = [] ∧ parts.path = [] ∧
      parts.query = [] ∧ parts.fragment = []) .value

/-- `type(version) is int and version == 1`. -/
def isVersionOne : Option Json → Bool
  | some (.int n) => n = 1
  | _ => false

/-- An outcome that is not blank. -/
def isOutcome : Option Json → Bool
  | some (.string outcome) => strip outcome ≠ []
  | _ => false

/-- The checks of a decoded document.  Every one of them raises the same error, so their order
    does not matter. -/
def declarationOf (fields : Record) : Except KernelRaised DeclaredArrays := do
  check (fields.extraKeys kernelFields = [] ∧ fields.missing kernelFields = []) .value
  check (isVersionOne (fields.get? "version") = true) .value
  check (isOutcome (fields.get? "outcome") = true) .value
  let arrays ← declaredArrays fields
  check (arrays.criteria ≠ [] ∧ arrays.recipes ≠ [] ∧ arrays.provenance ≠ []) .value
  List.forM arrays.paths checkPath
  List.forM arrays.network checkOrigin
  .ok arrays

/-- `declaration.decode("utf-8")`. -/
def decodeDeclaration (declaration : Bytes) : Except KernelRaised Text :=
  match decodeUtf8 declaration with
  | some cs => .ok (cs.map codePoint)
  | none => .error .value

/-- `isinstance(value, dict)`. -/
def mappingOf : Json → Except KernelRaised Record
  | .object members => .ok members
  | _ => .error .value

/-- The first `try` of the interpretation. -/
def readDeclaration (declaration : Bytes) : Except KernelRaised DeclaredArrays := do
  let text ← decodeDeclaration declaration
  let fields ← mappingOf (← loadStrictJson text)
  declarationOf fields

/-! ### The fields that are interpreted -/

/-- `QUALITY_PREFIX`. -/
def qualityMarker : Text := Text.ofString "scarcity-router.requirement.v1:"

/-- `INTERFACE_PREFIX`. -/
def interfaceMarker : Text := Text.ofString "scarcity-router.request.v1:"

/-- `TaskProfileCatalog.resolve` of a text. -/
def TaskProfileCatalog.resolveText (profiles : TaskProfileCatalog) (profileId : Text) :
    Except KernelRaised TaskRequirement :=
  match profiles.definitions.find? (·.profileId.toText = profileId) with
  | some definition => .ok definition.requirement
  | none => .error (.contract
      (.selectionContractValidation "task_profile_catalog.resolve: unknown profile id"))

/-- `except SelectionContractValidationError: raise ApplicationInputError(message)`. -/
def asApplicationInput {α : Type} (message : String) (x : Except KernelRaised α) :
    Except KernelRaised α :=
  match x with
  | .error (.contract (.selectionContractValidation _)) => .error (.applicationInput message)
  | x => x

/-- `resolve_requirement` of `selection_app.py`. -/
def resolveTaskRequirement (profiles : TaskProfileCatalog) (profileId : Option Text)
    (explicitRequirement tightening : Option TaskRequirement) :
    Except KernelRaised (TaskRequirement × Option Text) :=
  match explicitRequirement, profileId with
  | some _, some _ => .error (.applicationInput ("resolve_requirement: exactly one requirement "
      ++ "source is permitted: a profile id or an explicit TaskRequirement, never both"))
  | some explicit, none => do
    check (tightening = none) (.applicationInput ("resolve_requirement: tightening is only "
      ++ "permitted with the profile path, never with an explicit requirement"))
    .ok (explicit, none)
  | none, none => .error (.applicationInput ("resolve_requirement: exactly one requirement source "
      ++ "is required: a profile id or an explicit TaskRequirement"))
  | none, some profileId => do
    check (profiles.definitions ≠ []) .legacyProfileInput
    let base ← asApplicationInput "resolve_requirement: unknown profile id"
      (profiles.resolveText profileId)
    match tightening with
    | none => .ok (base, some profileId)
    | some tightening =>
      (fun merged => (merged, some profileId)) <$>
        asApplicationInput "resolve_requirement: invalid tightening"
          ((tightenRequirement base tightening).mapError .contract)

/-- What the quality field demands. -/
structure QualityReading where
  requirement : TaskRequirement
  profileId : Option Text := none
  expansion : Option TaskRequirement := none

/-- The profile of a quality payload: a text, under a policy version. -/
def payloadProfile (candidate : Json) (profilePolicyVersion : Option ℤ) :
    Except KernelRaised Text :=
  match candidate, profilePolicyVersion with
  | .string profileId, some version => do
    check (profileId ≠ [] ∧ 1 ≤ version) .value
    .ok profileId
  | _, _ => .error .value

/-- A requirement under a profile; the supplied one has to include the profile's floor. -/
def profileQuality (profiles : TaskProfileCatalog) (profileId : Text)
    (supplied : TaskRequirement) : Except KernelRaised QualityReading := do
  let expansion ← profiles.resolveText profileId
  let (requirement, _) ← resolveTaskRequirement profiles (some profileId) none (some supplied)
  check (requirement = supplied) .value
  .ok ⟨requirement, some profileId, some expansion⟩

/-- A requirement on its own. -/
def explicitQuality (profiles : TaskProfileCatalog) (supplied : TaskRequirement) :
    Except KernelRaised QualityReading := do
  let (requirement, _) ← resolveTaskRequirement profiles none (some supplied) none
  .ok { requirement }

/-- The requirement of a quality payload. -/
def qualityOf (profiles : TaskProfileCatalog) (profilePolicyVersion : Option ℤ)
    (mapping : Record) (supplied : TaskRequirement) : Except KernelRaised QualityReading :=
  match mapping.get? "profile_id" with
  | some candidate => do
    let profileId ← payloadProfile candidate profilePolicyVersion
    profileQuality profiles profileId supplied
  | none => explicitQuality profiles supplied

/-- The `try` of the quality field. -/
def readQuality (profiles : TaskProfileCatalog) (profilePolicyVersion : Option ℤ)
    (payload : Text) : Except KernelRaised QualityReading := do
  let mapping ← mappingOf (← loadStrictJson payload)
  check ((mapping.get? "requirement").isSome = true ∧
    mapping.extraKeys ["requirement", "profile_id"] = []) .value
  let requirement ← (reading (mapping.item "requirement")).mapError .config
  let supplied ← (reading (TaskRequirement.fromDict requirement)).mapError .config
  qualityOf profiles profilePolicyVersion mapping supplied

/-- The `try` of the interface field. -/
def readInterface (payload : Text) : Except KernelRaised RequestBinding := do
  let document ← loadStrictJson payload
  (RequestBinding.fromDict document).mapError .config

/-! ### The interpretation -/

/-- The problems of an interpretation: fixed codes, never submitted content. -/
inductive KernelProblem where
  | malformed
  | unknownsUnresolved
  | contextUnsupported
  | qualityMissing
  | qualityUnsupported
  | visionUnsupported
  | qualityInvalid
  | interfaceUnsupported
  | aliasUnsupported
  | interfaceInvalid
  deriving DecidableEq

def KernelProblem.text : KernelProblem → String
  | malformed => "declaration.malformed"
  | unknownsUnresolved => "unknowns.unresolved"
  | contextUnsupported => "context.unsupported"
  | qualityMissing => "quality.missing_requirement"
  | qualityUnsupported => "quality.unsupported"
  | visionUnsupported => "quality.vision_channel_unsupported"
  | qualityInvalid => "quality.invalid_requirement"
  | interfaceUnsupported => "interface.unsupported"
  | aliasUnsupported => "interface.profile_alias_unsupported"
  | interfaceInvalid => "interface.invalid_binding"

/-- `KernelRequirementInterpretation`. -/
structure KernelRequirementInterpretation where
  declarationDigest : Text
  requirement : Option TaskRequirement := none
  request : Option RequestBinding := none
  problems : List KernelProblem := []
  profileId : Option Text := none
  profilePolicyVersion : Option ℤ := none
  profileExpansion : Option TaskRequirement := none

/-- What a field gives: a value, or the problem of an error that its handlers catch. -/
def fieldReading {α : Type} (x : Except KernelRaised α) (invalid : KernelProblem)
    (further : α → List KernelProblem) : Except KernelRaised (List KernelProblem × Option α) :=
  match x with
  | .ok value => .ok (further value, some value)
  | .error error => if error.isInvalid then .ok ([invalid], none) else .error error

/-- The quality field. -/
def interpretQuality (profiles : TaskProfileCatalog) (profilePolicyVersion : Option ℤ) :
    List Text → Except KernelRaised (List KernelProblem × Option QualityReading)
  | [] => .ok ([.qualityMissing], none)
  | [text] =>
    if qualityMarker.isPrefixOf text then
      fieldReading (readQuality profiles profilePolicyVersion (text.drop qualityMarker.length))
        .qualityInvalid fun reading =>
          if reading.requirement.hardConstraints.requiresVision then [.visionUnsupported] else []
    else .ok ([.qualityUnsupported], none)
  | _ => .ok ([.qualityUnsupported], none)

/-- The interface field. -/
def interpretInterface : List Text → Except KernelRaised (List KernelProblem × Option RequestBinding)
  | [] => .ok ([], some {})
  | [text] =>
    if interfaceMarker.isPrefixOf text then
      fieldReading (readInterface (text.drop interfaceMarker.length)) .interfaceInvalid
        fun binding => if binding.profileAlias.isSome then [.aliasUnsupported] else []
    else .ok ([.interfaceUnsupported], none)
  | _ => .ok ([.interfaceUnsupported], none)

/-- The problems of all fields, or what was read of them. -/
def assembleInterpretation (digest : Text) (arrays : DeclaredArrays)
    (profilePolicyVersion : Option ℤ) (quality : List KernelProblem × Option QualityReading)
    (interface : List KernelProblem × Option RequestBinding) : KernelRequirementInterpretation :=
  let problems := (if arrays.unknowns ≠ [] then [.unknownsUnresolved] else []) ++
    (if arrays.context ≠ [] then [.contextUnsupported] else []) ++ quality.1 ++ interface.1
  let profileId := quality.2.bind (·.profileId)
  if problems ≠ [] then { declarationDigest := digest, problems }
  else
    { declarationDigest := digest
      requirement := quality.2.map (·.requirement)
      request := interface.2
      profileId
      profilePolicyVersion := if profileId.isSome then profilePolicyVersion else none
      profileExpansion := quality.2.bind (·.expansion) }

/-- The interpretation of the arrays. -/
def interpretArrays (digest : Text) (arrays : DeclaredArrays) (profiles : TaskProfileCatalog)
    (profilePolicyVersion : Option ℤ) : Except KernelRaised KernelRequirementInterpretation := do
  let quality ← interpretQuality profiles profilePolicyVersion arrays.quality
  let interface ← interpretInterface arrays.interface
  .ok (assembleInterpretation digest arrays profilePolicyVersion quality interface)

/-- `interpret_kernel_declaration`. -/
def interpretKernelDeclaration (declaration : Bytes) (profiles : TaskProfileCatalog)
    (profilePolicyVersion : Option ℤ) : Except KernelRaised KernelRequirementInterpretation :=
  if declaration.length > 262144 then
    .error (.applicationInput "Kernel declaration exceeds the producer byte bound")
  else
    let digest := KernelReadings.sha256 declaration
    match readDeclaration declaration with
    | .ok arrays => interpretArrays digest arrays profiles profilePolicyVersion
    | .error error =>
      if error.isMalformed then
        .ok { declarationDigest := digest, problems := [.malformed] }
      else .error error

end Interpretation

/-! ### Nothing escapes -/

/-- The computation raises what the first handler catches. -/
abbrev RaisesMalformed {α : Type} (x : Except KernelRaised α) : Prop :=
  Ends (fun error => error.isMalformed = true) (fun _ => True) x

/-- The computation raises what the handlers of a field catch. -/
abbrev RaisesInvalid {α : Type} (x : Except KernelRaised α) : Prop :=
  Ends (fun error => error.isInvalid = true) (fun _ => True) x

/-- The computation raises `SelectionContractError`s of the contracts. -/
abbrev RaisesSelectionContract {α : Type} (x : Except ContractError α) : Prop :=
  Ends (fun error => error.isSelectionContract = true) (fun _ => True) x

section Escapes

variable {α β : Type}

theorem RaisesSelectionContract.bind {x : Except ContractError α} {f : α → Except ContractError β}
    (hx : RaisesSelectionContract x) (hf : ∀ a, x = .ok a → RaisesSelectionContract (f a)) :
    RaisesSelectionContract (x >>= f) :=
  ends_bind_and.mpr ⟨hx, hf⟩

theorem RaisesMalformed.bind {x : Except KernelRaised α} {f : α → Except KernelRaised β}
    (hx : RaisesMalformed x) (hf : ∀ a, x = .ok a → RaisesMalformed (f a)) :
    RaisesMalformed (x >>= f) :=
  ends_bind_and.mpr ⟨hx, hf⟩

theorem RaisesInvalid.bind {x : Except KernelRaised α} {f : α → Except KernelRaised β}
    (hx : RaisesInvalid x) (hf : ∀ a, x = .ok a → RaisesInvalid (f a)) :
    RaisesInvalid (x >>= f) :=
  ends_bind_and.mpr ⟨hx, hf⟩

theorem RaisesMalformed.invalid {x : Except KernelRaised α} (h : RaisesMalformed x) :
    RaisesInvalid x :=
  h.mono (fun error he => by rw [KernelRaised.isInvalid, he]; rfl) fun _ _ _ => trivial

theorem raisesMalformed_check {c : Prop} [Decidable c] :
    RaisesMalformed (check c KernelRaised.value) :=
  ends_check.mpr ⟨fun _ => trivial, fun _ => rfl⟩

theorem raisesMalformed_forM {f : α → Except KernelRaised PUnit} {xs : List α}
    (h : ∀ x, RaisesMalformed (f x)) : RaisesMalformed (List.forM xs f) := by
  induction xs with
  | nil => trivial
  | cons x xs ih => exact (h x).bind fun _ _ => ih

end Escapes

theorem raisesMalformed_mappingOf (value : Json) : RaisesMalformed (mappingOf value) := by
  cases value <;> trivial

theorem raisesMalformed_declaredArray (fields : Record) (name : String) :
    RaisesMalformed (declaredArray fields name) := by
  unfold declaredArray
  split
  · refine RaisesMalformed.bind (ends_mapM fun item _ => ?_) fun strings _ =>
      raisesMalformed_check.bind fun _ _ => trivial
    cases item with
    | string s => exact raisesMalformed_check.bind fun _ _ => trivial
    | null | bool _ | int _ | float _ | list _ | object _ => rfl
  · rfl

theorem raisesInvalid_resolveText (profiles : TaskProfileCatalog) (profileId : Text) :
    RaisesInvalid (profiles.resolveText profileId) := by
  unfold TaskProfileCatalog.resolveText
  split <;> trivial

theorem raisesSelection_tightenMinimum {α : Type} {value : α → ℕ} {base explicit : Option α}
    {name : String} : RaisesSelectionContract (tightenMinimum value base explicit name) := by
  unfold tightenMinimum
  split
  · trivial
  · trivial
  · split <;> trivial

theorem raisesSelection_tightenIdentity {base explicit : Option SafeId} {name : String} :
    RaisesSelectionContract (tightenIdentity base explicit name) := by
  unfold tightenIdentity
  split
  · trivial
  · trivial
  · split <;> trivial

theorem raisesSelection_tightenModelRef {base explicit : Option ModelRef} {name : String} :
    RaisesSelectionContract (tightenModelRef base explicit name) := by
  unfold tightenModelRef
  split
  · trivial
  · trivial
  · split <;> trivial

theorem raisesSelection_tightenRequirement (base explicit : TaskRequirement) :
    RaisesSelectionContract (tightenRequirement base explicit) := by
  refine RaisesSelectionContract.bind (ends_check.mpr ⟨fun _ => trivial, fun _ => rfl⟩)
    fun _ _ => ?_
  refine RaisesSelectionContract.bind ?_ fun minima _ =>
    RaisesSelectionContract.bind ?_ fun _ _ => trivial
  · iterate 6 refine raisesSelection_tightenMinimum.bind fun _ _ => ?_
    trivial
  · iterate 2 refine raisesSelection_tightenMinimum.bind fun _ _ => ?_
    refine raisesSelection_tightenIdentity.bind fun _ _ => ?_
    refine raisesSelection_tightenModelRef.bind fun _ _ => ?_
    iterate 2 refine raisesSelection_tightenIdentity.bind fun _ _ => ?_
    split <;> trivial

theorem raisesInvalid_asApplicationInput {α : Type} {message : String} {x : Except KernelRaised α}
    (h : RaisesInvalid x) : RaisesInvalid (asApplicationInput message x) := by
  unfold asApplicationInput
  split
  · rfl
  · exact h

theorem raisesInvalid_contract {α : Type} {x : Except ContractError α}
    (h : RaisesSelectionContract x) : RaisesInvalid (x.mapError KernelRaised.contract) := by
  cases x with
  | ok a => trivial
  | error error =>
    show (_ || error.isSelectionContract) = true
    rw [show error.isSelectionContract = true from h, Bool.or_true]

theorem raisesInvalid_resolve (profiles : TaskProfileCatalog) (profileId : Option Text)
    (explicit tightening : Option TaskRequirement) :
    RaisesInvalid (resolveTaskRequirement profiles profileId explicit tightening) := by
  unfold resolveTaskRequirement
  split
  · rfl
  · exact RaisesInvalid.bind (ends_check.mpr ⟨fun _ => trivial, fun _ => rfl⟩) fun _ _ => trivial
  · rfl
  · refine RaisesInvalid.bind (ends_check.mpr ⟨fun _ => trivial, fun _ => rfl⟩) fun _ _ => ?_
    refine (raisesInvalid_asApplicationInput (raisesInvalid_resolveText _ _)).bind fun base _ => ?_
    split
    · trivial
    · exact ends_map.mpr (raisesInvalid_asApplicationInput
        (raisesInvalid_contract (raisesSelection_tightenRequirement _ _)))

theorem raisesInvalid_config {α : Type} {x : Except ConfigRaised α} (h : RaisesContract x) :
    RaisesInvalid (x.mapError KernelRaised.config) := by
  cases x with
  | ok a => trivial
  | error error =>
    cases error with
    | raised error =>
      obtain ⟨fault, rfl⟩ := h
      rfl
    | routeContractValidation fault => rfl

theorem raisesInvalid_qualityOf (profiles : TaskProfileCatalog) (version : Option ℤ)
    (mapping : Record) (supplied : TaskRequirement) :
    RaisesInvalid (qualityOf profiles version mapping supplied) := by
  unfold qualityOf
  split
  · refine RaisesInvalid.bind (RaisesMalformed.invalid ?_) fun profileId _ => ?_
    · unfold payloadProfile
      split
      · exact raisesMalformed_check.bind fun _ _ => trivial
      · rfl
    · refine (raisesInvalid_resolveText _ _).bind fun expansion _ => ?_
      refine (raisesInvalid_resolve _ _ _ _).bind fun resolved _ => ?_
      exact raisesMalformed_check.invalid.bind fun _ _ => trivial
  · exact (raisesInvalid_resolve _ _ _ _).bind fun resolved _ => trivial

theorem fieldReading_returns {α : Type} {x : Except KernelRaised α} (h : RaisesInvalid x)
    (invalid : KernelProblem) (further : α → List KernelProblem) :
    Returns (fieldReading x invalid further) := by
  unfold fieldReading
  cases x with
  | ok value => exact ⟨_, rfl⟩
  | error error => exact ⟨_, if_pos h⟩

section Totality

variable [KernelReadings]

theorem raisesMalformed_loadStrictJson (text : Text) : RaisesMalformed (loadStrictJson text) := by
  unfold loadStrictJson
  cases KernelReadings.jsonLoads text with
  | ok value => trivial
  | error error => cases error <;> rfl

theorem raisesMalformed_checkOrigin (origin : Text) : RaisesMalformed (checkOrigin origin) := by
  unfold checkOrigin
  split
  · rfl
  · exact raisesMalformed_check

theorem raisesMalformed_declarationOf (fields : Record) :
    RaisesMalformed (declarationOf fields) := by
  iterate 3 refine raisesMalformed_check.bind fun _ _ => ?_
  refine RaisesMalformed.bind ?_ fun arrays _ => ?_
  · iterate 10 refine (raisesMalformed_declaredArray fields _).bind fun _ _ => ?_
    trivial
  · refine raisesMalformed_check.bind fun _ _ => ?_
    refine (raisesMalformed_forM fun _ => raisesMalformed_check).bind fun _ _ => ?_
    exact (raisesMalformed_forM raisesMalformed_checkOrigin).bind fun _ _ => trivial

/-- The first `try` catches all that is raised in it. -/
theorem raisesMalformed_readDeclaration (declaration : Bytes) :
    RaisesMalformed (readDeclaration declaration) := by
  refine RaisesMalformed.bind ?_ fun text _ => ?_
  · unfold decodeDeclaration
    split <;> trivial
  · refine (raisesMalformed_loadStrictJson text).bind fun value _ => ?_
    refine (raisesMalformed_mappingOf value).bind fun fields _ => ?_
    exact raisesMalformed_declarationOf fields

/-- The handlers of the quality field catch all that is raised in it. -/
theorem raisesInvalid_readQuality (profiles : TaskProfileCatalog) (version : Option ℤ)
    (payload : Text) : RaisesInvalid (readQuality profiles version payload) := by
  refine (raisesMalformed_loadStrictJson payload).invalid.bind fun value _ => ?_
  refine (raisesMalformed_mappingOf value).invalid.bind fun mapping _ => ?_
  refine RaisesInvalid.bind raisesMalformed_check.invalid fun _ hshape => ?_
  obtain ⟨hrequirement, -⟩ := check_eq_ok.mp hshape
  obtain ⟨requirement, hvalue⟩ := Option.isSome_iff_exists.mp hrequirement
  refine RaisesInvalid.bind ?_ fun _ _ => ?_
  · rw [Record.item_of hvalue]
    trivial
  exact (raisesInvalid_config (raisesContract_reading (raisesSelection_taskRequirement _))).bind
    fun supplied _ => raisesInvalid_qualityOf _ _ _ _

theorem raisesInvalid_readInterface (payload : Text) : RaisesInvalid (readInterface payload) :=
  (raisesMalformed_loadStrictJson payload).invalid.bind fun document _ =>
    raisesInvalid_config (raisesContract_requestBinding document)

theorem interpretQuality_returns (profiles : TaskProfileCatalog) (version : Option ℤ)
    (quality : List Text) : Returns (interpretQuality profiles version quality) := by
  unfold interpretQuality
  split
  · exact ⟨_, rfl⟩
  · split_ifs
    · exact fieldReading_returns (raisesInvalid_readQuality _ _ _) _ _
    · exact ⟨_, rfl⟩
  · exact ⟨_, rfl⟩

theorem interpretInterface_returns (interface : List Text) :
    Returns (interpretInterface interface) := by
  unfold interpretInterface
  split
  · exact ⟨_, rfl⟩
  · split_ifs
    · exact fieldReading_returns (raisesInvalid_readInterface _) _ _
    · exact ⟨_, rfl⟩
  · exact ⟨_, rfl⟩

/-- The interpretation can be bound. -/
structure KernelRequirementInterpretation.Bindable (i : KernelRequirementInterpretation) :
    Prop where
  problems : i.problems = []
  requirement : i.requirement.isSome = true
  request : i.request.isSome = true

/-- The document has exactly the declared fields, and declares no unknowns and no context. -/
structure DeclaresExactly (fields : Record) : Prop where
  declared : fields.KeysIn kernelFields
  complete : fields.HasKeys kernelFields
  unknowns : fields.get? "unknowns" = some (.list [])
  context : fields.get? "context" = some (.list [])

omit [KernelReadings] in
/-- An empty array was declared as an empty list. -/
theorem declaredArray_eq_nil {fields : Record} {name : String}
    (h : declaredArray fields name = .ok []) : fields.get? name = some (.list []) := by
  unfold declaredArray at h
  split at h
  · rename_i items hitems
    obtain ⟨strings, hstrings, h⟩ := bind_eq_ok.mp h
    obtain ⟨-, h⟩ := check_bind_eq_ok.mp h
    obtain rfl := Except.ok.inj h
    obtain rfl : items = [] := List.forall₂_nil_right_iff.mp (mapM_eq_ok.mp hstrings)
    exact hitems
  · cases h

/-- What the accepted arrays say of the document. -/
theorem declaresExactly_of_declarationOf {fields : Record} {arrays : DeclaredArrays}
    (h : declarationOf fields = .ok arrays) (hunknowns : arrays.unknowns = [])
    (hcontext : arrays.context = []) : DeclaresExactly fields := by
  unfold declarationOf at h
  obtain ⟨⟨hextra, hmissing⟩, h⟩ := check_bind_eq_ok.mp h
  obtain ⟨-, h⟩ := check_bind_eq_ok.mp h
  obtain ⟨-, h⟩ := check_bind_eq_ok.mp h
  obtain ⟨arrays', harrays, h⟩ := bind_eq_ok.mp h
  obtain ⟨-, h⟩ := check_bind_eq_ok.mp h
  obtain ⟨-, -, h⟩ := bind_eq_ok.mp h
  obtain ⟨-, -, h⟩ := bind_eq_ok.mp h
  obtain rfl := Except.ok.inj h
  have hshape : exactKeys fields kernelFields [] "" = .ok fields := by
    unfold exactKeys
    rw [List.append_nil]
    exact check_bind_eq_ok.mpr ⟨hextra, check_bind_eq_ok.mpr ⟨hmissing, rfl⟩⟩
  obtain ⟨-, hdeclared, hcomplete⟩ := exactKeys_eq_ok.mp hshape
  rw [List.append_nil] at hdeclared
  unfold declaredArrays at harrays
  obtain ⟨criteria, -, harrays⟩ := bind_eq_ok.mp harrays
  obtain ⟨quality, -, harrays⟩ := bind_eq_ok.mp harrays
  obtain ⟨interface, -, harrays⟩ := bind_eq_ok.mp harrays
  obtain ⟨context, hreadContext, harrays⟩ := bind_eq_ok.mp harrays
  obtain ⟨unknowns, hreadUnknowns, harrays⟩ := bind_eq_ok.mp harrays
  obtain ⟨paths, -, harrays⟩ := bind_eq_ok.mp harrays
  obtain ⟨network, -, harrays⟩ := bind_eq_ok.mp harrays
  obtain ⟨effects, -, harrays⟩ := bind_eq_ok.mp harrays
  obtain ⟨recipes, -, harrays⟩ := bind_eq_ok.mp harrays
  obtain ⟨provenance, -, harrays⟩ := bind_eq_ok.mp harrays
  obtain rfl := Except.ok.inj harrays
  obtain rfl : unknowns = [] := hunknowns
  obtain rfl : context = [] := hcontext
  exact ⟨hdeclared, hcomplete, declaredArray_eq_nil hreadUnknowns,
    declaredArray_eq_nil hreadContext⟩

omit [KernelReadings] in
theorem assembleInterpretation_bindable {digest : Text} {arrays : DeclaredArrays}
    {version : Option ℤ} {quality : List KernelProblem × Option QualityReading}
    {interface : List KernelProblem × Option RequestBinding}
    (h : (assembleInterpretation digest arrays version quality interface).Bindable) :
    arrays.unknowns = [] ∧ arrays.context = [] := by
  have hproblems := h.problems
  unfold assembleInterpretation at hproblems
  dsimp only at hproblems
  by_cases hsome : ((if arrays.unknowns ≠ [] then [KernelProblem.unknownsUnresolved] else []) ++
      (if arrays.context ≠ [] then [KernelProblem.contextUnsupported] else []) ++ quality.1 ++
      interface.1) ≠ []
  · rw [if_pos hsome] at hproblems
    exact absurd hproblems hsome
  · rw [not_ne_iff, List.append_eq_nil_iff, List.append_eq_nil_iff, List.append_eq_nil_iff] at hsome
    obtain ⟨⟨⟨hunknowns, hcontext⟩, -⟩, -⟩ := hsome
    constructor
    · by_contra hne
      rw [if_pos hne] at hunknowns
      cases hunknowns
    · by_contra hne
      rw [if_pos hne] at hcontext
      cases hcontext

/-- The arrays are interpreted, and are bindable only without unknowns and context. -/
theorem interpretArrays_returns (digest : Text) (arrays : DeclaredArrays)
    (profiles : TaskProfileCatalog) (version : Option ℤ) :
    ∃ i, interpretArrays digest arrays profiles version = .ok i ∧
      (i.Bindable → arrays.unknowns = [] ∧ arrays.context = []) := by
  obtain ⟨quality, hquality⟩ := interpretQuality_returns profiles version arrays.quality
  obtain ⟨interface, hinterface⟩ := interpretInterface_returns arrays.interface
  refine ⟨assembleInterpretation digest arrays version quality interface,
    bind_eq_ok.mpr ⟨quality, hquality, bind_eq_ok.mpr ⟨interface, hinterface, rfl⟩⟩, fun h => ?_⟩
  exact assembleInterpretation_bindable h

/-- **Every declaration within the byte bound is interpreted**, and it is bindable only if its
    document has exactly the declared fields and declares no unknowns and no context. -/
theorem interpretKernelDeclaration_total (declaration : Bytes) (profiles : TaskProfileCatalog)
    (version : Option ℤ) (hbound : declaration.length ≤ 262144) :
    ∃ i, interpretKernelDeclaration declaration profiles version = .ok i ∧
      (i.Bindable → ∃ text fields, decodeDeclaration declaration = .ok text ∧
        loadStrictJson text = .ok (.object fields) ∧ DeclaresExactly fields) := by
  have hcaught := raisesMalformed_readDeclaration declaration
  unfold interpretKernelDeclaration
  rw [if_neg (not_lt.mpr hbound)]
  dsimp only
  cases hread : readDeclaration declaration with
  | error error =>
    rw [hread] at hcaught
    refine ⟨_, if_pos hcaught, fun h => ?_⟩
    cases h.problems
  | ok arrays =>
    obtain ⟨i, hi, hopen⟩ :=
      interpretArrays_returns (KernelReadings.sha256 declaration) arrays profiles version
    refine ⟨i, hi, fun h => ?_⟩
    obtain ⟨hunknowns, hcontext⟩ := hopen h
    unfold readDeclaration at hread
    obtain ⟨text, htext, hread⟩ := bind_eq_ok.mp hread
    obtain ⟨value, hvalue, hread⟩ := bind_eq_ok.mp hread
    obtain ⟨fields, hfields, hread⟩ := bind_eq_ok.mp hread
    cases value with
    | object members =>
      obtain rfl := Except.ok.inj hfields
      exact ⟨text, _, htext, hvalue, declaresExactly_of_declarationOf hread hunknowns hcontext⟩
    | null | bool _ | int _ | float _ | string _ | list _ => cases hfields

end Totality

end ScarcityRouter
