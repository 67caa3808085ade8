import ScarcityRouter.ControlPlane.ConfigRoundTrip
import ScarcityRouter.Gateway.Executable
import ScarcityRouter.Lib.Entries
import ScarcityRouter.Selector.Tighten

namespace ScarcityRouter

open ScarcityRouter.Lib
open ConfigDocument (ConfigRaised reading routeError routeItem presentOr presentOr_map reading_ok
  routeError_ok)

/-!
# Binding documents

The readers of `RequestBinding` and of its parts, and a binding as the family of its members.

* `ModelRef.fromDict`, `PinnedTarget.fromDict`, `RequestBinding.fromDict` — the readers.
* `BindingKey`, `RequestBinding.member?` — a binding as one optional value for each key of its
  document.
* `RequestBinding.get?_toDict` — the document holds the members.
* `RequestBinding.fromDict_eq_ok` — **a document that holds some members is read as them.**
-/

/-! ### Readers -/

/-- `_v_opt_int(value, fld, lo=1)`. -/
def vOptCount (value : Option Json) (field : String) : Except Fault (Option ℕ+) :=
  match value with
  | none | some .null => .ok none
  | some value => do
    let ⟨n, h⟩ ← vInt value field 1
    .ok (some ⟨n.toNat, by omega⟩)

/-- `ModelRef.from_dict`. -/
def ModelRef.fromDict (d : Json) : Except Raised ModelRef := do
  let dd ← selectionError (vExactShape d ["provider", "model"] [] "model_ref")
  let provider ← selectionError (vSafeId (← dd.item "provider") "model_ref.provider")
  let model ← selectionError (vSafeId (← dd.item "model") "model_ref.model")
  .ok ⟨provider, model⟩

/-- `PinnedTarget.from_dict`. -/
def PinnedTarget.fromDict (d : Json) : Except ConfigRaised PinnedTarget := do
  let dd ← routeError (vExactShape d ["resource_id", "model"] ["decision_id", "reasoning_effort"]
    "pinned_target")
  let resourceId ← routeError (vSafeId (← routeItem dd "resource_id") "pinned_target.resource_id")
  let model ← reading (modelFromDict (← routeItem dd "model"))
  let decisionId ← presentOr dd "decision_id" none fun value =>
    some <$> routeError (vSafeId value "pinned_target.decision_id")
  let reasoningEffort ← presentOr dd "reasoning_effort" none fun value =>
    some <$> routeError (vSafeId value "pinned_target.reasoning_effort")
  .ok ⟨resourceId, model, decisionId, reasoningEffort⟩

/-- `_request_bool_field`: absent is false, and null is malformed. -/
def requestBoolField (dd : Record) (key : String) : Except ConfigRaised Bool :=
  match dd.get? key with
  | none => .ok false
  | some value => routeError (vBool value ("request_binding." ++ key))

/-- `RequestBinding._OPTIONAL`. -/
def requestBindingKeys : List String :=
  ["requires_tool_calls", "requires_structured_output", "requires_streaming",
    "requires_reasoning_controls", "minimum_input_context_tokens", "maximum_output_tokens",
    "profile_alias", "explicit_model", "explicit_variant", "pinned_target"]

/-- The refusal of a binding that names both an alias and an explicit model. -/
def twoReadings : ConfigRaised :=
  .routeContractValidation (.stated ("request_binding: profile_alias and explicit_model are two "
    ++ "readings of the same client model field and are mutually exclusive"))

/-- `RequestBinding.from_dict`. -/
def RequestBinding.fromDict (d : Json) : Except ConfigRaised RequestBinding := do
  let dd ← routeError (vExactShape d [] requestBindingKeys "request_binding")
  let explicitModel ← presentOr dd "explicit_model" none fun value =>
    some <$> reading (ModelRef.fromDict value)
  let pinnedTarget ← presentOr dd "pinned_target" none fun value =>
    some <$> PinnedTarget.fromDict value
  let requiresToolCalls ← requestBoolField dd "requires_tool_calls"
  let requiresStructuredOutput ← requestBoolField dd "requires_structured_output"
  let requiresStreaming ← requestBoolField dd "requires_streaming"
  let requiresReasoningControls ← requestBoolField dd "requires_reasoning_controls"
  let minimumInputContextTokens ← routeError (vOptCount (dd.get? "minimum_input_context_tokens")
    "request_binding.minimum_input_context_tokens")
  let maximumOutputTokens ← routeError (vOptCount (dd.get? "maximum_output_tokens")
    "request_binding.maximum_output_tokens")
  let profileAlias ← presentOr dd "profile_alias" none fun value =>
    some <$> routeError (vSafeId value "request_binding.profile_alias")
  let explicitVariant ← presentOr dd "explicit_variant" none fun value =>
    some <$> routeError (vSafeId value "request_binding.explicit_variant")
  if exclusive : profileAlias.isSome = true → explicitModel = none then
    .ok ⟨requiresToolCalls, requiresStructuredOutput, requiresStreaming, requiresReasoningControls,
      minimumInputContextTokens, maximumOutputTokens, profileAlias, explicitModel, explicitVariant,
      pinnedTarget, exclusive⟩
  else .error twoReadings

/-! ### Members -/

/-- The keys of a binding document. -/
inductive BindingKey where
  | requiresToolCalls
  | requiresStructuredOutput
  | requiresStreaming
  | requiresReasoningControls
  | minimumInputContextTokens
  | maximumOutputTokens
  | profileAlias
  | explicitModel
  | explicitVariant
  | pinnedTarget
  deriving DecidableEq

namespace BindingKey

/-- The keys, in their order in the document. -/
def all : List BindingKey :=
  [requiresToolCalls, requiresStructuredOutput, requiresStreaming, requiresReasoningControls,
    minimumInputContextTokens, maximumOutputTokens, profileAlias, explicitModel, explicitVariant,
    pinnedTarget]

/-- The name of a key. -/
def text : BindingKey → String
  | requiresToolCalls => "requires_tool_calls"
  | requiresStructuredOutput => "requires_structured_output"
  | requiresStreaming => "requires_streaming"
  | requiresReasoningControls => "requires_reasoning_controls"
  | minimumInputContextTokens => "minimum_input_context_tokens"
  | maximumOutputTokens => "maximum_output_tokens"
  | profileAlias => "profile_alias"
  | explicitModel => "explicit_model"
  | explicitVariant => "explicit_variant"
  | pinnedTarget => "pinned_target"

/-- What a member says; a feature is only required or not. -/
def Value : BindingKey → Type
  | requiresToolCalls | requiresStructuredOutput | requiresStreaming
  | requiresReasoningControls => Unit
  | minimumInputContextTokens | maximumOutputTokens => ℕ+
  | profileAlias | explicitVariant => SafeId
  | explicitModel => ModelRef
  | pinnedTarget => PinnedTarget

/-- A member as a value of the document. -/
def json : (k : BindingKey) → k.Value → Json
  | requiresToolCalls | requiresStructuredOutput | requiresStreaming
  | requiresReasoningControls => fun _ => .bool true
  | minimumInputContextTokens | maximumOutputTokens => countJson
  | profileAlias | explicitVariant => SafeId.json
  | explicitModel => fun ref => .object (ModelRef.toDict ref)
  | pinnedTarget => fun pin => .object (PinnedTarget.toDict pin)

theorem map_text_all : all.map text = requestBindingKeys := rfl

theorem exists_text {key : String} (h : key ∈ requestBindingKeys) :
    ∃ k : BindingKey, k.text = key := by
  obtain ⟨k, -, hk⟩ := List.mem_map.mp (map_text_all ▸ h)
  exact ⟨k, hk⟩

end BindingKey

/-- A required feature as a member. -/
theorem demanded_map {β : Type} (required : Bool) (x : β) :
    (demanded required).map (fun _ => x) = if required then some x else none := by
  cases required <;> rfl

/-- An optional member has at most its own key. -/
theorem Record.keys_optionalMember (key : String) (value : Option Json) :
    ((optionalMember key value).map Prod.fst).Sublist [Text.ofString key] := by
  cases value with
  | none => exact List.nil_sublist _
  | some value => exact List.Sublist.refl _

namespace RequestBinding

/-- The members of a binding. -/
def member? (binding : RequestBinding) : (k : BindingKey) → Option k.Value
  | .requiresToolCalls => demanded binding.requiresToolCalls
  | .requiresStructuredOutput => demanded binding.requiresStructuredOutput
  | .requiresStreaming => demanded binding.requiresStreaming
  | .requiresReasoningControls => demanded binding.requiresReasoningControls
  | .minimumInputContextTokens => binding.minimumInputContextTokens
  | .maximumOutputTokens => binding.maximumOutputTokens
  | .profileAlias => binding.profileAlias
  | .explicitModel => binding.explicitModel
  | .explicitVariant => binding.explicitVariant
  | .pinnedTarget => binding.pinnedTarget

/-- A binding is its members. -/
theorem ext_member {b b' : RequestBinding} (h : ∀ k, b.member? k = b'.member? k) : b = b' := by
  obtain ⟨t, o, s, r, i, m, a, e, v, p, _⟩ := b
  obtain ⟨t', o', s', r', i', m', a', e', v', p', _⟩ := b'
  obtain rfl : t = t' := demanded_injective (h .requiresToolCalls)
  obtain rfl : o = o' := demanded_injective (h .requiresStructuredOutput)
  obtain rfl : s = s' := demanded_injective (h .requiresStreaming)
  obtain rfl : r = r' := demanded_injective (h .requiresReasoningControls)
  obtain rfl : i = i' := h .minimumInputContextTokens
  obtain rfl : m = m' := h .maximumOutputTokens
  obtain rfl : a = a' := h .profileAlias
  obtain rfl : e = e' := h .explicitModel
  obtain rfl : v = v' := h .explicitVariant
  obtain rfl : p = p' := h .pinnedTarget
  rfl

/-- **The document holds the members.** -/
theorem get?_toDict (b : RequestBinding) (k : BindingKey) :
    b.toDict.get? k.text = (b.member? k).map k.json := by
  cases k <;> simp only [toDict, flagMember, Record.get?_append, Record.get?_optionalMember,
    BindingKey.text, String.reduceEq, reduceIte, Option.or_none, Option.none_or]
  case requiresToolCalls | requiresStructuredOutput | requiresStreaming
      | requiresReasoningControls => exact (demanded_map _ _).symm
  all_goals rfl

/-- It has no other keys. -/
theorem keysIn_toDict (b : RequestBinding) : b.toDict.KeysIn requestBindingKeys := by
  simp only [toDict, flagMember, Record.keysIn_append]
  refine ⟨⟨⟨⟨⟨⟨⟨⟨⟨?_, ?_⟩, ?_⟩, ?_⟩, ?_⟩, ?_⟩, ?_⟩, ?_⟩, ?_⟩, ?_⟩ <;>
    exact Record.keysIn_optionalMember _ (by decide)

/-- Each of them is written once. -/
theorem nodup_keys_toDict (b : RequestBinding) : (b.toDict.map Prod.fst).Nodup := by
  have hsub : (b.toDict.map Prod.fst).Sublist (requestBindingKeys.map Text.ofString) := by
    simp only [toDict, flagMember, List.map_append]
    exact ((((((((((Record.keys_optionalMember _ _).append (Record.keys_optionalMember _ _)).append
      (Record.keys_optionalMember _ _)).append (Record.keys_optionalMember _ _)).append
      (Record.keys_optionalMember _ _)).append (Record.keys_optionalMember _ _)).append
      (Record.keys_optionalMember _ _)).append (Record.keys_optionalMember _ _)).append
      (Record.keys_optionalMember _ _)).append (Record.keys_optionalMember _ _))
  exact hsub.nodup ((List.nodup_map_iff Text.ofString_injective).mpr (by decide))

end RequestBinding

/-! ### Reading the members back -/

theorem ModelRef.fromDict_toDict (ref : ModelRef) :
    ModelRef.fromDict (.object ref.toDict) = .ok ref := by
  have hprovider : ref.toDict.get? "provider" = some ref.provider.json := by simp [ModelRef.toDict]
  have hmodel : ref.toDict.get? "model" = some ref.model.json := by simp [ModelRef.toDict]
  have hshape : vExactShape (.object ref.toDict) ["provider", "model"] [] "model_ref"
      = .ok ref.toDict :=
    exactKeys_eq_ok.mpr ⟨rfl, by simp [ModelRef.toDict], by simp [hprovider, hmodel]⟩
  unfold ModelRef.fromDict
  rw [hshape, selectionError_ok, ok_bind, Record.item_of hprovider, Record.item_of hmodel]
  simp only [ok_bind, vSafeId_json, selectionError_ok]

theorem routeItem_of {dd : Record} {key : String} {value : Json} (h : dd.get? key = some value) :
    routeItem dd key = .ok value := by
  unfold routeItem
  rw [Record.item_of h, reading_ok]

/-- An optional identifier is read back. -/
theorem presentOr_safeId {dd : Record} {key field : String} {id : Option SafeId}
    (hget : dd.get? key = id.map SafeId.json) :
    presentOr dd key none (fun value => some <$> routeError (vSafeId value field)) = .ok id :=
  presentOr_map hget (fun _ => rfl) fun id => by
    rw [vSafeId_json, routeError_ok]
    rfl

theorem PinnedTarget.fromDict_toDict (pin : PinnedTarget) :
    PinnedTarget.fromDict (.object pin.toDict) = .ok pin := by
  have hresource : pin.toDict.get? "resource_id" = some pin.resourceId.json := by
    simp [PinnedTarget.toDict]
  have hmodel : pin.toDict.get? "model" = some (.object (modelToDict pin.model)) := by
    simp [PinnedTarget.toDict]
  have hdecision : pin.toDict.get? "decision_id" = pin.decisionId.map SafeId.json := by
    simp [PinnedTarget.toDict]
  have heffort : pin.toDict.get? "reasoning_effort" = pin.reasoningEffort.map SafeId.json := by
    simp [PinnedTarget.toDict]
  have hshape : vExactShape (.object pin.toDict) ["resource_id", "model"]
      ["decision_id", "reasoning_effort"] "pinned_target" = .ok pin.toDict :=
    exactKeys_eq_ok.mpr ⟨rfl, by simp [PinnedTarget.toDict, Record.keysIn_optionalMember],
      by simp [hresource, hmodel]⟩
  unfold PinnedTarget.fromDict
  rw [hshape, routeError_ok, ok_bind, routeItem_of hresource, routeItem_of hmodel,
    presentOr_safeId hdecision, presentOr_safeId heffort]
  simp only [ok_bind, vSafeId_json, routeError_ok, modelFromDict_toDict, reading_ok]

/-- An optional count is read back. -/
theorem vOptCount_json (n : Option ℕ+) (field : String) :
    vOptCount (n.map countJson) field = .ok n := by
  cases n with
  | none => rfl
  | some n =>
    have hread : vInt (countJson n) field 1 = .ok ⟨(n : ℤ), by exact_mod_cast n.pos⟩ :=
      dif_neg (not_lt.mpr (by exact_mod_cast n.pos))
    show (vInt (countJson n) field 1 >>= _) = _
    rw [hread, ok_bind]
    rfl

/-- A feature is read back. -/
theorem requestBoolField_demanded {dd : Record} {key : String} {required : Option Unit}
    (hget : dd.get? key = required.map fun _ => .bool true) :
    requestBoolField dd key = .ok required.isSome := by
  unfold requestBoolField
  rw [hget]
  cases required <;> rfl

theorem countJson_injective : Function.Injective countJson := by
  intro a b h
  exact PNat.eq (by exact_mod_cast Json.int.inj h)

/-- A member is known from its value in the document. -/
theorem BindingKey.json_injective (k : BindingKey) : Function.Injective k.json := by
  intro a b h
  cases k with
  | requiresToolCalls | requiresStructuredOutput | requiresStreaming
  | requiresReasoningControls => rfl
  | minimumInputContextTokens | maximumOutputTokens => exact countJson_injective h
  | profileAlias | explicitVariant => exact SafeId.toText_injective (Json.string.inj h)
  | explicitModel =>
    have hread := ModelRef.fromDict_toDict a
    rw [show Json.object (ModelRef.toDict a) = _ from h] at hread
    exact (Except.ok.inj ((ModelRef.fromDict_toDict b).symm.trans hread)).symm
  | pinnedTarget =>
    have hread := PinnedTarget.fromDict_toDict a
    rw [show Json.object (PinnedTarget.toDict a) = _ from h] at hread
    exact (Except.ok.inj ((PinnedTarget.fromDict_toDict b).symm.trans hread)).symm

theorem demanded_isSome (required : Option Unit) : demanded required.isSome = required := by
  cases required <;> rfl

/-- What a document with some members is read as. -/
theorem RequestBinding.fromDict_of_get? {record : Record} {t o s r : Option Unit}
    {i m : Option ℕ+} {a v : Option SafeId} {e : Option ModelRef} {p : Option PinnedTarget}
    (hkeys : record.KeysIn requestBindingKeys)
    (ht : record.get? "requires_tool_calls" = t.map fun _ => .bool true)
    (ho : record.get? "requires_structured_output" = o.map fun _ => .bool true)
    (hs : record.get? "requires_streaming" = s.map fun _ => .bool true)
    (hr : record.get? "requires_reasoning_controls" = r.map fun _ => .bool true)
    (hi : record.get? "minimum_input_context_tokens" = i.map countJson)
    (hm : record.get? "maximum_output_tokens" = m.map countJson)
    (ha : record.get? "profile_alias" = a.map SafeId.json)
    (he : record.get? "explicit_model" = e.map fun ref => .object ref.toDict)
    (hv : record.get? "explicit_variant" = v.map SafeId.json)
    (hp : record.get? "pinned_target" = p.map fun pin => .object pin.toDict) :
    RequestBinding.fromDict (.object record) =
      if exclusive : a.isSome = true → e = none then
        .ok ⟨t.isSome, o.isSome, s.isSome, r.isSome, i, m, a, e, v, p, exclusive⟩
      else .error twoReadings := by
  have hshape : vExactShape (.object record) [] requestBindingKeys "request_binding"
      = .ok record := exactKeys_eq_ok.mpr ⟨rfl, hkeys, Record.hasKeys_nil record⟩
  have hmodel : presentOr record "explicit_model" none
      (fun value => some <$> reading (ModelRef.fromDict value)) = .ok e :=
    presentOr_map he (fun _ => rfl) fun ref => by
      rw [ModelRef.fromDict_toDict]
      rfl
  have hpin : presentOr record "pinned_target" none
      (fun value => some <$> PinnedTarget.fromDict value) = .ok p :=
    presentOr_map hp (fun _ => rfl) fun pin => by
      rw [PinnedTarget.fromDict_toDict]
      rfl
  unfold RequestBinding.fromDict
  rw [hshape, routeError_ok, ok_bind, hmodel, ok_bind, hpin, ok_bind,
    requestBoolField_demanded ht, ok_bind, requestBoolField_demanded ho, ok_bind,
    requestBoolField_demanded hs, ok_bind, requestBoolField_demanded hr, ok_bind, hi,
    vOptCount_json, routeError_ok, ok_bind, hm, vOptCount_json, routeError_ok, ok_bind,
    presentOr_safeId ha, ok_bind, presentOr_safeId hv, ok_bind]

/-- **A document that holds some members is read as them**, if they make a binding. -/
theorem RequestBinding.fromDict_eq_ok {record : Record} {members : (k : BindingKey) → Option k.Value}
    {binding : RequestBinding} (hkeys : record.KeysIn requestBindingKeys)
    (hget : ∀ k : BindingKey, record.get? k.text = (members k).map k.json) :
    RequestBinding.fromDict (.object record) = .ok binding ↔
      ∀ k, binding.member? k = members k := by
  rw [RequestBinding.fromDict_of_get? hkeys (hget .requiresToolCalls)
    (hget .requiresStructuredOutput) (hget .requiresStreaming) (hget .requiresReasoningControls)
    (hget .minimumInputContextTokens) (hget .maximumOutputTokens) (hget .profileAlias)
    (hget .explicitModel) (hget .explicitVariant) (hget .pinnedTarget)]
  constructor
  · intro h k
    split at h
    · obtain rfl := Except.ok.inj h
      cases k with
      | requiresToolCalls | requiresStructuredOutput | requiresStreaming
      | requiresReasoningControls => exact demanded_isSome _
      | minimumInputContextTokens | maximumOutputTokens | profileAlias | explicitModel
      | explicitVariant | pinnedTarget => rfl
    · cases h
  · intro h
    have hexclusive : (members .profileAlias).isSome = true → members .explicitModel = none := by
      rw [← h .profileAlias, ← h .explicitModel]
      exact binding.exclusive
    refine (dif_pos hexclusive).trans (congrArg Except.ok (RequestBinding.ext_member fun k => ?_))
    rw [h k]
    cases k with
    | requiresToolCalls | requiresStructuredOutput | requiresStreaming
    | requiresReasoningControls => exact demanded_isSome _
    | minimumInputContextTokens | maximumOutputTokens | profileAlias | explicitModel
    | explicitVariant | pinnedTarget => rfl

end ScarcityRouter
