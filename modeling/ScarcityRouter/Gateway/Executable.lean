import ScarcityRouter.Routing.Contracts
import ScarcityRouter.Worker.Codec

namespace ScarcityRouter

open ScarcityRouter.Lib

/-!
# Executable requirements

`executable_contract.py`: what a recommendation retains for the execution of its target.

* `ExecutableRequirements` — the retained requirement, binding, profile and effort.
* `ExecutableRequirements.toDict` — their document.
-/

/-! ### Documents of the retained parts -/

/-- A flag that is written when it is set. -/
def flagMember (key : String) (value : Bool) : Record :=
  optionalMember key (if value then some (.bool true) else none)

/-- A positive number as a value. -/
def countJson (n : ℕ+) : Json := .int n

/-- `ModelRef.to_dict`. -/
def ModelRef.toDict (ref : ModelRef) : Record :=
  [member "provider" ref.provider.json, member "model" ref.model.json]

/-- `PinnedTarget.to_dict`. -/
def PinnedTarget.toDict (pin : PinnedTarget) : Record :=
  [member "resource_id" pin.resourceId.json, member "model" (.object (modelToDict pin.model))] ++
    optionalMember "decision_id" (pin.decisionId.map SafeId.json) ++
    optionalMember "reasoning_effort" (pin.reasoningEffort.map SafeId.json)

/-- `RequestBinding.to_dict`. -/
def RequestBinding.toDict (binding : RequestBinding) : Record :=
  flagMember "requires_tool_calls" binding.requiresToolCalls ++
    flagMember "requires_structured_output" binding.requiresStructuredOutput ++
    flagMember "requires_streaming" binding.requiresStreaming ++
    flagMember "requires_reasoning_controls" binding.requiresReasoningControls ++
    optionalMember "minimum_input_context_tokens"
      (binding.minimumInputContextTokens.map countJson) ++
    optionalMember "maximum_output_tokens" (binding.maximumOutputTokens.map countJson) ++
    optionalMember "profile_alias" (binding.profileAlias.map SafeId.json) ++
    optionalMember "explicit_model" (binding.explicitModel.map fun ref => .object ref.toDict) ++
    optionalMember "explicit_variant" (binding.explicitVariant.map SafeId.json) ++
    optionalMember "pinned_target" (binding.pinnedTarget.map fun pin => .object pin.toDict)

/-- `CapabilityMinima.to_dict`. -/
def CapabilityMinima.toDict (minima : CapabilityMinima) : Record :=
  CapabilityDimension.all.flatMap fun dimension =>
    optionalMember dimension.text ((minima.get dimension).map fun rating => .int rating.val)

/-- `HardConstraints.to_dict`. -/
def HardConstraints.toDict (constraints : HardConstraints) : Record :=
  optionalMember "minimum_input_context_tokens"
      (constraints.minimumInputContextTokens.map countJson) ++
    optionalMember "minimum_output_tokens" (constraints.minimumOutputTokens.map countJson) ++
    flagMember "requires_tool_use" constraints.requiresToolUse ++
    flagMember "requires_vision" constraints.requiresVision ++
    flagMember "requires_reasoning_mode" constraints.requiresReasoningMode ++
    optionalMember "required_provider" (constraints.requiredProvider.map SafeId.json) ++
    optionalMember "required_model"
      (constraints.requiredModel.map fun ref => .object ref.toDict) ++
    optionalMember "required_variant" (constraints.requiredVariant.map SafeId.json) ++
    optionalMember "privacy_constraint" (constraints.privacyConstraint.map SafeId.json)

/-- `TaskRequirement.to_dict`. -/
def TaskRequirement.toDict (requirement : TaskRequirement) : Record :=
  [member "task_level" (textJson requirement.taskLevel.text),
    member "capability_minima" (.object requirement.capabilityMinima.toDict),
    member "hard_constraints" (.object requirement.hardConstraints.toDict)]

/-! ### The retained requirements -/

/-- `ExecutableRequirements`; a schema-2 document stands for a runtime catalog. -/
structure ExecutableRequirements where
  requirement : TaskRequirement
  binding : RequestBinding
  profilePolicyVersion : Option ℕ+ := none
  profileExpansion : Option TaskRequirement := none
  reasoningEffort : Option ReasoningEffort := none
  schemaVersion : ℕ := 1
  deriving DecidableEq

/-- `ExecutableRequirements.to_dict`. -/
def ExecutableRequirements.toDict (retained : ExecutableRequirements) : Record :=
  [member "schema_version" (.int retained.schemaVersion),
    member "requirement" (.object retained.requirement.toDict),
    member "binding" (.object retained.binding.toDict),
    member "profile_policy_version" ((retained.profilePolicyVersion.map countJson).getD .null),
    member "profile_expansion"
      ((retained.profileExpansion.map fun r => .object r.toDict).getD .null),
    member "reasoning_effort"
      ((retained.reasoningEffort.map fun effort => effort.text.json).getD .null)]

end ScarcityRouter
