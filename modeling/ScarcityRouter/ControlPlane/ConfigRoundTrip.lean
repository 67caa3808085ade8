import ScarcityRouter.ControlPlane.ConfigDocument

namespace ScarcityRouter

open ScarcityRouter.Lib

/-!
# Round trips of the configuration document

What a configuration writes, a restart reads back.

* `providerFromDict_toDict`, `sourceFromDict_toDict`, `capabilitiesFromDict_toDict`, … — the
  records.
* `resourceConfigFromDict_toDict` — a resource comes back with the default polling cadence of its
  channel, if its bindings are identifiers.
* `fromDocument_toDocument` — **what a restart runs from.**
* `document_round_trip` — **the configurations that are read back as they were.**
-/

namespace ConfigDocument

/-! ### Readers -/

theorem itemOr_of {α : Type} {dd : Record} {key : String} {default a : α}
    {read : Json → Except Raised α} (hnone : dd.get? key = none → a = default)
    (hsome : ∀ value, dd.get? key = some value → read value = .ok a) :
    itemOr dd key default read = .ok a := by
  unfold itemOr
  split
  · rename_i h
    rw [hnone h]
  · rename_i value h
    exact hsome value h

/-- An optional member without a default is read back. -/
theorem itemOr_map {β : Type} {dd : Record} {key : String} {write : β → Json} {a : Option β}
    {read : Json → Except Raised (Option β)} (hget : dd.get? key = a.map write)
    (hread : ∀ b, a = some b → read (write b) = .ok (some b)) :
    itemOr dd key none read = .ok a := by
  refine itemOr_of (fun h => ?_) fun value h => ?_
  · rw [hget] at h
    exact Option.map_eq_none_iff.mp h
  · rw [hget] at h
    obtain ⟨b, hb, rfl⟩ := Option.map_eq_some_iff.mp h
    rw [hread b hb, hb]

theorem strItem_of {dd : Record} {key field : String} {t : Text}
    (h : dd.get? key = some (.string t)) : strItem dd key field = .ok t := by
  unfold strItem
  rw [Record.item_of h, ok_bind, vStr_string, valueError_ok]

theorem presentOr_map {β : Type} {dd : Record} {key : String} {write : β → Json}
    {a : Option β} {read : Json → Except ConfigRaised (Option β)}
    (hget : dd.get? key = a.map write) (hnull : ∀ b, (write b).isNull = false)
    (hread : ∀ b, read (write b) = .ok (some b)) : presentOr dd key none read = .ok a := by
  unfold presentOr Record.present
  rw [hget]
  cases a with
  | none => rfl
  | some b =>
    have hkept : (Option.some (write b)).filter (!·.isNull) = some (write b) :=
      Option.filter_some_pos (by rw [hnull]; rfl)
    rw [Option.map_some, hkept]
    exact hread b

@[simp] theorem routeError_ok {α : Type} (a : α) : routeError (.ok a) = .ok a := rfl

@[simp] theorem reading_ok {α : Type} (a : α) : reading (.ok a) = .ok a := rfl

theorem reading_eq_ok {α : Type} {x : Except Raised α} {a : α} : reading x = .ok a ↔ x = .ok a :=
  mapError_eq_ok

theorem valueError_eq_ok {α : Type} {x : Except Fault α} {a : α} :
    valueError x = .ok a ↔ x = .ok a := mapError_eq_ok

@[simp] theorem exceptCapacityError_eq_ok {α : Type} {x : Except Raised α} {a : α} :
    exceptCapacityError x = .ok a ↔ x = .ok a := by
  unfold exceptCapacityError
  split <;> simp

/-- The texts that are identifiers. -/
def IsSafeId (t : Text) : Prop := (safeId? t).isSome = true

instance (t : Text) : Decidable (IsSafeId t) := inferInstanceAs (Decidable (_ = _))

theorem isSafeId_of_checkSafeId {t : Text} {field : String} {u : Unit}
    (h : checkSafeId t field = .ok u) : IsSafeId t := by
  obtain ⟨id, hid, -⟩ := map_eq_ok.mp h
  unfold vSafeId at hid
  rw [vStr_string, ok_bind] at hid
  unfold IsSafeId
  split at hid
  · rename_i found hfound
    rw [hfound]
    rfl
  · cases hid

theorem vSafeId_map_eq_ok {t t' : Text} {field : String} :
    (vSafeId (.string t) field).map SafeId.toText = .ok t' ↔ t' = t ∧ IsSafeId t := by
  unfold vSafeId IsSafeId
  rw [vStr_string, ok_bind]
  split
  · rename_i found hfound
    rw [hfound]
    have htext := toText_of_safeId? hfound
    constructor
    · intro h
      exact ⟨(Except.ok.inj h).symm.trans htext, rfl⟩
    · rintro ⟨rfl, -⟩
      exact congrArg Except.ok htext
  · rename_i hfound
    rw [hfound]
    constructor
    · intro h
      cases h
    · rintro ⟨-, h⟩
      cases h

/-- A list of texts is read back. -/
theorem strListItem_of {dd : Record} {key : String} {texts : List Text}
    (h : dd.get? key = nonemptyList (texts.map Json.string)) : strListItem dd key = .ok texts := by
  unfold strListItem
  rw [present_nonemptyList h]
  cases texts with
  | nil => rfl
  | cons t texts => exact @mapM_of_read _ Json.string _ (fun t => rfl) (t :: texts)

theorem ObservationClass.text_injective : Function.Injective ObservationClass.text := by
  intro a b h
  cases a <;> cases b <;> first | rfl | exact absurd h (by decide)

theorem vRuntimeVersion_eq_ok {value : Json} {t : Text} (h : vRuntimeVersion value = .ok t) :
    value = .string t := by
  unfold vRuntimeVersion at h
  split at h
  · split_ifs at h
    rw [Except.ok.inj h]
  · cases h

theorem nullableText_eq_string {text : Option Text} {t : Text}
    (h : nullableText text = .string t) : text = some t := by
  cases text with
  | none => cases h
  | some s => rw [Json.string.inj h]

/-- A member before the evidence is not of the evidence. -/
theorem CapabilityFields.get_evidenceToDict {f : CapabilityFields} {key : String}
    (h : key ∉ ["context_evidence_ref", "context_evidence_valid_until",
      "context_evidence_verified_at", "context_evidence_runtime_version"]) :
    f.evidenceToDict.get? key = none := by
  simp only [List.mem_cons, List.not_mem_nil, or_false, not_or] at h
  unfold CapabilityFields.evidenceToDict
  split
  · rfl
  · simp [Ne.symm h.1, Ne.symm h.2.1, Ne.symm h.2.2.1, Ne.symm h.2.2.2]

/-- One fact is read back. -/
theorem factItem_of {dd : Record} {key : String} {fact : Option Bool}
    (h : dd.get? key = fact.map Json.bool) : factItem dd key = .ok fact :=
  Record.optionalItem_of h (fun _ => rfl) fun _ => rfl

/-- A limit of the capabilities is read back. -/
theorem limit_of {dd : Record} {key : String} {limit : Option (AtLeast 1)}
    (h : dd.get? key = limit.map fun n => .int n.1) (field : String) :
    (dd.optionalItem key fun value => capacityError (vInt value field 1)) = .ok limit :=
  Record.optionalItem_of h (fun _ => rfl) fun n => by rw [vInt_val, capacityError_ok]

/-- A text of the evidence is read back if its reader takes it. -/
theorem evidenceText_of {dd : Record} {key : String} {text : Option Text}
    {read : Json → Except Raised Text} (h : dd.get? key = text.map Json.string)
    (hread : ∀ t, text = some t → read (.string t) = .ok t) :
    dd.optionalItem key read = .ok text := by
  unfold Record.optionalItem Record.present
  rw [h]
  cases text with
  | none => rfl
  | some t =>
    show (some <$> read (.string t)) = .ok (some t)
    rw [hread t rfl]
    rfl

theorem costFromDict_toDict (cost : ResourceCost) :
    costFromDict (.object cost.toDict) = .ok cost := by
  have hclass : cost.toDict.get? "observation_class" =
      some (textJson cost.observationClass.text) := by
    simp [ResourceCost.toDict]
  have hinput : cost.toDict.get? "input_micro_usd_per_mtoken" =
      cost.inputMicroUsdPerMtoken.map fun n => .int n.1 := by
    simp [ResourceCost.toDict]
  have houtput : cost.toDict.get? "output_micro_usd_per_mtoken" =
      cost.outputMicroUsdPerMtoken.map fun n => .int n.1 := by
    simp [ResourceCost.toDict]
  have hshape : vExactShape (.object cost.toDict) ["observation_class"]
      ["input_micro_usd_per_mtoken", "output_micro_usd_per_mtoken"] "cost" = .ok cost.toDict :=
    exactKeys_eq_ok.mpr ⟨rfl, by simp [ResourceCost.toDict, Record.keysIn_optionalMember],
      by simp [hclass]⟩
  have hmake : ResourceCost.make cost.observationClass cost.inputMicroUsdPerMtoken
      cost.outputMicroUsdPerMtoken = .ok cost := dif_pos cost.priced
  unfold costFromDict
  rw [hshape, capacityError_ok, ok_bind, Record.item_of hclass, ok_bind,
    vEnum_textJson ObservationClass.text_injective (by cases cost.observationClass <;> decide),
    capacityError_ok, ok_bind,
    Record.optionalItem_of hinput (fun _ => rfl) (fun n => by rw [vInt_val, capacityError_ok]),
    ok_bind,
    Record.optionalItem_of houtput (fun _ => rfl) (fun n => by rw [vInt_val, capacityError_ok]),
    ok_bind, hmake, capacityError_ok]

/-- The optional identifiers that are read back. -/
theorem safeIdItem_eq_ok {dd : Record} {key field : String} {id read : Option Text}
    (h : dd.get? key = id.map Json.string) :
    safeIdItem dd key field = .ok read ↔ read = id ∧ ∀ t ∈ id, IsSafeId t := by
  unfold safeIdItem itemOr
  rw [h]
  cases id with
  | none =>
    show Except.ok none = Except.ok read ↔ _
    simp [eq_comm]
  | some t =>
    show some <$> valueError ((vSafeId (.string t) field).map SafeId.toText) = .ok read ↔ _
    rw [map_eq_ok]
    simp only [valueError_eq_ok, vSafeId_map_eq_ok, Option.mem_some_iff, forall_eq']
    constructor
    · rintro ⟨_, ⟨rfl, hsafe⟩, rfl⟩
      exact ⟨rfl, hsafe⟩
    · rintro ⟨rfl, hsafe⟩
      exact ⟨t, ⟨rfl, hsafe⟩, rfl⟩

/-! ### Endpoints and sources -/

section Library

variable [Readings]

theorem providerFromDict_toDict (provider : ProviderEndpointConfig) :
    providerFromDict (.object provider.1.toDict) = .ok provider := by
  have hprovider : provider.1.toDict.get? "provider_id" = some (.string provider.1.providerId) := by
    simp [ProviderEndpointFields.toDict]
  have hadapter : provider.1.toDict.get? "adapter_id" = some (.string provider.1.adapterId) := by
    simp [ProviderEndpointFields.toDict]
  have hurl : provider.1.toDict.get? "base_url" = some (.string provider.1.baseUrl) := by
    simp [ProviderEndpointFields.toDict]
  have hlabel : provider.1.toDict.get? "label" =
      if provider.1.label = [] then none else some (.string provider.1.label) := by
    simp [ProviderEndpointFields.toDict]
  have hread : itemOr provider.1.toDict "label" []
      (fun value => valueError (vStr value "provider.label")) = .ok provider.1.label := by
    refine itemOr_of (fun h => ?_) fun value h => ?_
    · rw [hlabel] at h
      by_contra hne
      rw [if_neg hne] at h
      cases h
    · rw [hlabel] at h
      split_ifs at h
      obtain rfl := Option.some.inj h
      rfl
  unfold providerFromDict
  rw [exactShape_of (by simp [ProviderEndpointFields.toDict, Record.keysIn_optionalMember])
      (by simp [hprovider, hadapter, hurl]), valueError_ok, ok_bind, strItem_of hprovider, ok_bind,
    strItem_of hadapter, ok_bind, strItem_of hurl, ok_bind, hread, ok_bind, construct_val,
    valueError_ok]

theorem sourceContextFromDict_toDict (evidence : SourceContextEvidence) :
    sourceContextFromDict (.object evidence.1.toDict) = .ok evidence := by
  have hmodel : evidence.1.toDict.get? "model" = some (.string evidence.1.model) := by
    simp [SourceContextFields.toDict]
  have hvariant : evidence.1.toDict.get? "variant" = some (.string evidence.1.variant) := by
    simp [SourceContextFields.toDict]
  have hversion : evidence.1.toDict.get? "runtime_version" =
      some (.string evidence.1.runtimeVersion) := by
    simp [SourceContextFields.toDict]
  have htokens : evidence.1.toDict.get? "input_tokens" = some (.int evidence.1.inputTokens) := by
    simp [SourceContextFields.toDict]
  have href : evidence.1.toDict.get? "evidence_ref" = some (.string evidence.1.evidenceRef) := by
    simp [SourceContextFields.toDict]
  have huntil : evidence.1.toDict.get? "valid_until" = some (.string evidence.1.validUntil) := by
    simp [SourceContextFields.toDict]
  have hverified : evidence.1.toDict.get? "verified_at" = some (.string evidence.1.verifiedAt) := by
    simp [SourceContextFields.toDict]
  have hpositive : 1 ≤ evidence.1.inputTokens := by
    have h := evidence.2
    unfold SourceContextFields.postInit at h
    obtain ⟨-, -, h⟩ := bind_eq_ok.mp h
    obtain ⟨-, -, h⟩ := bind_eq_ok.mp h
    obtain ⟨-, h⟩ := check_bind_eq_ok.mp h
    obtain ⟨-, -, h⟩ := bind_eq_ok.mp h
    obtain ⟨-, h⟩ := check_bind_eq_ok.mp h
    exact (check_bind_eq_ok.mp h).1
  have hint : vInt (.int evidence.1.inputTokens) "source_context.input_tokens" 1 =
      .ok ⟨evidence.1.inputTokens, hpositive⟩ := dif_neg (not_lt.mpr hpositive)
  unfold sourceContextFromDict
  rw [exactShape_of (by simp [SourceContextFields.toDict])
      (by simp [hmodel, hvariant, hversion, htokens, href, huntil, hverified]), valueError_ok,
    ok_bind, strItem_of hmodel, ok_bind, strItem_of hvariant, ok_bind, strItem_of hversion, ok_bind,
    Record.item_of htokens, ok_bind, hint, valueError_ok, ok_bind, strItem_of href, ok_bind,
    strItem_of huntil, ok_bind, strItem_of hverified, ok_bind]
  exact congrArg valueError (construct_val evidence)

theorem sourceFromDict_toDict (source : SourceConfig) :
    sourceFromDict (.object source.1.toDict) = .ok source := by
  have hid : source.1.toDict.get? "source_id" = some (.string source.1.sourceId) := by
    simp [SourceFields.toDict]
  have hkind : source.1.toDict.get? "kind" = some (.string source.1.kind) := by
    simp [SourceFields.toDict]
  have hlabel : source.1.toDict.get? "label" = some (.string source.1.label) := by
    simp [SourceFields.toDict]
  have hworker : source.1.toDict.get? "worker_id" = some (.string source.1.workerId) := by
    simp [SourceFields.toDict]
  have hentitlement : source.1.toDict.get? "entitlement" =
      some (.string source.1.entitlement) := by
    simp [SourceFields.toDict]
  have hadopt : source.1.toDict.get? "auto_adopt" = some (.bool source.1.autoAdopt) := by
    simp [SourceFields.toDict]
  have hpool : source.1.toDict.get? "quota_pool_id" = source.1.quotaPoolId.map Json.string := by
    simp [SourceFields.toDict]
  have htracks : source.1.toDict.get? "allowed_tracks" =
      nonemptyList (source.1.allowedTracks.map Json.string) := by
    simp [SourceFields.toDict]
  have hmodels : source.1.toDict.get? "allowed_models" =
      nonemptyList (source.1.allowedModels.map Json.string) := by
    simp [SourceFields.toDict]
  have hscopes : source.1.toDict.get? "capacity_scope_ids" =
      nonemptyList (source.1.capacityScopeIds.map Json.string) := by
    simp [SourceFields.toDict]
  have hevidence : source.1.toDict.get? "context_evidence" =
      nonemptyList (source.1.contextEvidence.map fun item => .object item.1.toDict) := by
    simp [SourceFields.toDict]
  have hevidenceRead : evidenceItem source.1.toDict = .ok source.1.contextEvidence := by
    unfold evidenceItem
    rw [hevidence]
    cases source.1.contextEvidence with
    | nil => rfl
    | cons item items =>
      exact @mapM_of_read _ (fun item : SourceContextEvidence => .object item.1.toDict) _
        sourceContextFromDict_toDict (item :: items)
  have hentitlementRead : itemOr source.1.toDict "entitlement"
      (Text.ofString Entitlement.subscriptionIncluded.text)
      (fun value => valueError (vStr value "source.entitlement")) = .ok source.1.entitlement := by
    unfold itemOr
    rw [hentitlement]
    rfl
  have hadoptRead : itemOr source.1.toDict "auto_adopt" true
      (fun value => valueError (vBool value "source.auto_adopt")) = .ok source.1.autoAdopt := by
    unfold itemOr
    rw [hadopt]
    rfl
  unfold sourceFromDict
  rw [exactShape_of (by simp [SourceFields.toDict, Record.keysIn_optionalMember])
      (by simp [hid, hkind, hlabel, hworker]), valueError_ok, ok_bind, strListItem_of htracks,
    ok_bind, strListItem_of hmodels, ok_bind, strListItem_of hscopes, ok_bind, hevidenceRead,
    ok_bind, strItem_of hid, ok_bind, strItem_of hkind, ok_bind, strItem_of hlabel, ok_bind,
    strItem_of hworker, ok_bind, hentitlementRead, ok_bind,
    itemOr_map hpool (fun t _ => rfl), ok_bind, hadoptRead, ok_bind]
  exact congrArg valueError (construct_val source)

/-! ### Capabilities and costs -/

theorem vTs_eq_ok {value : Json} {field : String} {t : Text} (h : vTs value field = .ok t) :
    value = .string t ∧ ∀ field', vTs (.string t) field' = .ok t := by
  obtain ⟨s, hs, h⟩ := bind_eq_ok.mp h
  obtain ⟨hcanonical, h⟩ := check_bind_eq_ok.mp h
  obtain ⟨hread, h⟩ := check_bind_eq_ok.mp h
  obtain rfl := Except.ok.inj h
  refine ⟨?_, fun field' => ?_⟩
  · cases value with
    | string t => rw [Except.ok.inj hs]
    | _ => cases hs
  · unfold vTs
    rw [vStr_string, ok_bind, check_pos hcanonical, ok_bind, check_pos hread, ok_bind]

/-- The evidence that a record of capabilities carries: all four texts or none. -/
theorem CapabilityFields.evidence_cases {f : CapabilityFields} (h : f.postInit = .ok ()) :
    (f.contextEvidenceRef = none ∧ f.contextEvidenceValidUntil = none ∧
      f.contextEvidenceVerifiedAt = none ∧ f.contextEvidenceRuntimeVersion = none) ∨
    ∃ ref validUntil verifiedAt version, f.contextEvidenceRef = some ref ∧
      f.contextEvidenceValidUntil = some validUntil ∧
      f.contextEvidenceVerifiedAt = some verifiedAt ∧
      f.contextEvidenceRuntimeVersion = some version ∧ IsSafeId ref ∧
      (∀ field, vTs (.string validUntil) field = .ok validUntil) ∧
      (∀ field, vTs (.string verifiedAt) field = .ok verifiedAt) ∧
      vRuntimeVersion (.string version) = .ok version := by
  unfold CapabilityFields.postInit at h
  split at h
  · rename_i href
    rw [check_eq_ok] at h
    exact .inl ⟨href, h⟩
  · rename_i ref href
    obtain ⟨_, hsafe, h⟩ := bind_eq_ok.mp h
    obtain ⟨version, hversion, h⟩ := bind_eq_ok.mp h
    obtain ⟨validUntil, huntil, h⟩ := bind_eq_ok.mp h
    obtain ⟨verifiedAt, hverified, -⟩ := bind_eq_ok.mp h
    obtain ⟨huntilText, huntilRead⟩ := vTs_eq_ok huntil
    obtain ⟨hverifiedText, hverifiedRead⟩ := vTs_eq_ok hverified
    have hversionText := vRuntimeVersion_eq_ok hversion
    refine .inr ⟨ref, validUntil, verifiedAt, version, href, nullableText_eq_string huntilText,
      nullableText_eq_string hverifiedText, nullableText_eq_string hversionText,
      isSafeId_of_checkSafeId hsafe, huntilRead, hverifiedRead, ?_⟩
    rwa [hversionText] at hversion

/-- Every text of the evidence passes the check it is read with. -/
theorem CapabilityFields.evidence_read {f : CapabilityFields} (h : f.postInit = .ok ()) :
    (∀ t, f.contextEvidenceRef = some t → IsSafeId t) ∧
      (∀ t, f.contextEvidenceValidUntil = some t →
        ∀ field, vTs (.string t) field = .ok t) ∧
      (∀ t, f.contextEvidenceVerifiedAt = some t →
        ∀ field, vTs (.string t) field = .ok t) ∧
      ∀ t, f.contextEvidenceRuntimeVersion = some t → vRuntimeVersion (.string t) = .ok t := by
  rcases CapabilityFields.evidence_cases h with ⟨href, huntil, hverified, hversion⟩ |
    ⟨ref, validUntil, verifiedAt, version, href, huntil, hverified, hversion, hreads⟩
  · simp [href, huntil, hverified, hversion]
  · obtain ⟨hrefRead, huntilRead, hverifiedRead, hversionRead⟩ := hreads
    rw [href, huntil, hverified, hversion]
    simp only [Option.some.injEq]
    refine ⟨?_, ?_, ?_, ?_⟩ <;> rintro t rfl
    · exact hrefRead
    · exact huntilRead
    · exact hverifiedRead
    · exact hversionRead

/-- The optional texts of the evidence, as they are written. -/
theorem CapabilityFields.evidence_get {f : CapabilityFields} (h : f.postInit = .ok ()) :
    f.toDict.get? "context_evidence_ref" = f.contextEvidenceRef.map Json.string ∧
      f.toDict.get? "context_evidence_valid_until" =
        f.contextEvidenceValidUntil.map Json.string ∧
      f.toDict.get? "context_evidence_verified_at" =
        f.contextEvidenceVerifiedAt.map Json.string ∧
      f.toDict.get? "context_evidence_runtime_version" =
        f.contextEvidenceRuntimeVersion.map Json.string := by
  rcases CapabilityFields.evidence_cases h with ⟨href, huntil, hverified, hversion⟩ |
    ⟨ref, validUntil, verifiedAt, version, href, huntil, hverified, hversion, -⟩
  · simp [CapabilityFields.toDict, CapabilityFields.evidenceToDict, href, huntil, hverified,
      hversion]
  · simp [CapabilityFields.toDict, CapabilityFields.evidenceToDict, href, huntil, hverified,
      hversion, nullableText]

theorem capabilitiesFromDict_toDict (capabilities : ExecutionCapabilities) :
    capabilitiesFromDict (.object capabilities.1.toDict) = .ok capabilities := by
  obtain ⟨f, hf⟩ := capabilities
  have hget : ∀ key, key ∉ ["context_evidence_ref", "context_evidence_valid_until",
      "context_evidence_verified_at", "context_evidence_runtime_version"] →
      f.evidenceToDict.get? key = none := fun _ => CapabilityFields.get_evidenceToDict
  have hstreaming : f.toDict.get? "streaming" = f.streaming.map Json.bool := by
    simp [CapabilityFields.toDict, hget]
  have htools : f.toDict.get? "tool_calls" = f.toolCalls.map Json.bool := by
    simp [CapabilityFields.toDict, hget]
  have hstructured : f.toDict.get? "structured_output" = f.structuredOutput.map Json.bool := by
    simp [CapabilityFields.toDict, hget]
  have hreasoning : f.toDict.get? "reasoning_controls" = f.reasoningControls.map Json.bool := by
    simp [CapabilityFields.toDict, hget]
  have husage : f.toDict.get? "usage_reporting" = f.usageReporting.map Json.bool := by
    simp [CapabilityFields.toDict, hget]
  have hcancellation : f.toDict.get? "cancellation" = f.cancellation.map Json.bool := by
    simp [CapabilityFields.toDict, hget]
  have hcontext : f.toDict.get? "context_limit_tokens" =
      f.contextLimitTokens.map fun n => .int n.1 := by
    simp [CapabilityFields.toDict, hget]
  have houtput : f.toDict.get? "output_limit_tokens" =
      f.outputLimitTokens.map fun n => .int n.1 := by
    simp [CapabilityFields.toDict, hget]
  have hcontrol : f.toDict.get? "output_limit_control" = f.outputLimitControl.map Json.bool := by
    simp [CapabilityFields.toDict, hget]
  obtain ⟨href, huntil, hverified, hversion⟩ := CapabilityFields.evidence_get hf
  have hkeys : f.toDict.KeysIn ([] ++ capabilityKeys) := by
    have hevidence : f.evidenceToDict.KeysIn capabilityKeys := by
      unfold CapabilityFields.evidenceToDict
      split
      · exact Record.keysIn_nil _
      · simp [capabilityKeys]
    rw [List.nil_append]
    simp only [CapabilityFields.toDict, Record.keysIn_append]
    refine ⟨?_, hevidence⟩
    simp [Record.keysIn_optionalMember, capabilityKeys]
  have hshape : vExactShape (.object f.toDict) [] capabilityKeys "capabilities" = .ok f.toDict :=
    exactKeys_eq_ok.mpr ⟨rfl, hkeys, Record.hasKeys_nil _⟩
  obtain ⟨hsafe, huntilTs, hverifiedTs, hexact⟩ := CapabilityFields.evidence_read hf
  have hrefRead : (f.toDict.optionalItem "context_evidence_ref" fun value => capacityError
      ((vSafeId value "capabilities.context_evidence_ref").map SafeId.toText)) =
      .ok f.contextEvidenceRef :=
    evidenceText_of href fun t ht => by
      rw [vSafeId_map_eq_ok.mpr ⟨rfl, hsafe t ht⟩, capacityError_ok]
  have huntilRead : (f.toDict.optionalItem "context_evidence_valid_until" fun value =>
      capacityError (vTs value "capabilities.context_evidence_valid_until")) =
      .ok f.contextEvidenceValidUntil :=
    evidenceText_of huntil fun t ht => by rw [huntilTs t ht, capacityError_ok]
  have hverifiedRead : (f.toDict.optionalItem "context_evidence_verified_at" fun value =>
      capacityError (vTs value "capabilities.context_evidence_verified_at")) =
      .ok f.contextEvidenceVerifiedAt :=
    evidenceText_of hverified fun t ht => by rw [hverifiedTs t ht, capacityError_ok]
  have hversionRead : (f.toDict.optionalItem "context_evidence_runtime_version" fun value =>
      capacityError (vRuntimeVersion value)) = .ok f.contextEvidenceRuntimeVersion :=
    evidenceText_of hversion fun t ht => by rw [hexact t ht, capacityError_ok]
  unfold capabilitiesFromDict
  rw [hshape, capacityError_ok, ok_bind, factItem_of hstreaming, ok_bind, factItem_of htools,
    ok_bind, factItem_of hstructured, ok_bind, factItem_of hreasoning, ok_bind, factItem_of husage,
    ok_bind, factItem_of hcancellation, ok_bind, limit_of hcontext, ok_bind, limit_of houtput,
    ok_bind, factItem_of hcontrol, ok_bind, hrefRead, ok_bind, huntilRead, ok_bind, hverifiedRead,
    ok_bind, hversionRead, ok_bind]
  exact congrArg capacityError (construct_val (⟨f, hf⟩ : ExecutionCapabilities))

/-- Nothing is written of capabilities of which nothing is known, and of no others. -/
theorem capabilities_toDict_eq_nil {capabilities : ExecutionCapabilities}
    (h : capabilities.1.toDict = []) : capabilities = .empty := by
  obtain ⟨f, hf⟩ := capabilities
  have hread := capabilitiesFromDict_toDict ⟨f, hf⟩
  have hempty := capabilitiesFromDict_toDict ExecutionCapabilities.empty
  have hnil : ExecutionCapabilities.empty.1.toDict = [] := rfl
  rw [hnil] at hempty
  rw [show (⟨f, hf⟩ : ExecutionCapabilities).1.toDict = [] from h, hempty] at hread
  exact (Except.ok.inj hread).symm

/-! ### Resources -/

/-- The registration with the default polling cadence of its channel where it states none. -/
def ResourceRegistration.withDefaultPoll (registration : ResourceRegistration) :
    ResourceRegistration :=
  { registration with
    pollIntervalSeconds :=
      registration.pollIntervalSeconds.or (defaultPoll registration.identity) }

/-- The resource with the default polling cadence of its channel where it states none. -/
def ResourceConfig.withDefaultPoll (resource : ResourceConfig) : ResourceConfig :=
  { resource with registration := resource.registration.withDefaultPoll }

theorem registrationFromDocument_toDict (registration : ResourceRegistration) :
    registrationFromDocument (.object registration.toDict) = .ok registration.withDefaultPoll := by
  have hidentity : registration.toDict.get? "identity" =
      some (.object (resourceToDict registration.identity)) := by
    simp [ResourceRegistration.toDict]
  have httl : registration.toDict.get? "freshness_ttl_seconds" =
      some (.int registration.freshnessTtlSeconds.1) := by
    simp [ResourceRegistration.toDict]
  have hpoll : registration.toDict.get? "poll_interval_seconds" =
      registration.pollIntervalSeconds.map fun n => .int n.1 := by
    simp [ResourceRegistration.toDict]
  have hcapabilities : registration.toDict.get? "capabilities" =
      nonemptyRecord registration.capabilities.1.toDict := by
    simp [ResourceRegistration.toDict]
  have hcost : registration.toDict.get? "cost" =
      registration.cost.map fun cost => .object cost.toDict := by
    simp [ResourceRegistration.toDict]
  have hpollRead : itemOr registration.toDict "poll_interval_seconds"
      (defaultPoll registration.identity) (fun value => some <$>
        valueError (vInt value "resource_registration.poll_interval_seconds" 1)) =
      .ok (registration.pollIntervalSeconds.or (defaultPoll registration.identity)) := by
    refine itemOr_of (fun h => ?_) fun value h => ?_
    · rw [hpoll, Option.map_eq_none_iff] at h
      rw [h, Option.none_or]
    · rw [hpoll] at h
      obtain ⟨n, hn, rfl⟩ := Option.map_eq_some_iff.mp h
      rw [vInt_val, valueError_ok, hn]
      rfl
  have hcapabilitiesRead : itemOr registration.toDict "capabilities" .empty
      capabilitiesFromDict = .ok registration.capabilities := by
    refine itemOr_of (fun h => ?_) fun value h => ?_
    · rw [hcapabilities, nonemptyRecord] at h
      split_ifs at h with hnil
      exact capabilities_toDict_eq_nil hnil
    · rw [hcapabilities, nonemptyRecord] at h
      split_ifs at h
      obtain rfl := Option.some.inj h
      exact capabilitiesFromDict_toDict registration.capabilities
  have hcostRead : itemOr registration.toDict "cost" none
      (fun value => some <$> costFromDict value) = .ok registration.cost :=
    itemOr_map hcost fun cost _ => by
      rw [costFromDict_toDict]
      rfl
  unfold registrationFromDocument
  rw [exactShape_of (by simp [ResourceRegistration.toDict, Record.keysIn_optionalMember])
      (by simp [hidentity, httl]), valueError_ok, ok_bind, exceptCapacityError_eq_ok]
  unfold registrationOf
  rw [Record.item_of hidentity, ok_bind, resourceFromDict_toDict, ok_bind, Record.item_of httl,
    ok_bind, vInt_val, valueError_ok, ok_bind, hpollRead, ok_bind, hcapabilitiesRead, ok_bind,
    hcostRead, ok_bind]
  rfl

/-- The worker and the adapter that a resource is bound to have identifiers for names. -/
def ResourceConfig.BindingsSafe (resource : ResourceConfig) : Prop :=
  (∀ t ∈ resource.workerId, IsSafeId t) ∧ ∀ t ∈ resource.localAdapterId, IsSafeId t

instance (resource : ResourceConfig) : Decidable resource.BindingsSafe :=
  inferInstanceAs (Decidable (_ ∧ _))

/-- **A resource is read back** with the polling cadence of its channel, if its bindings are
    identifiers, and refused otherwise. -/
theorem resourceConfigFromDict_toDict {resource read : ResourceConfig}
    (hendpoint : ∀ t ∈ resource.endpointId, IsSafeId t) :
    resourceConfigFromDict (.object resource.toDict) = .ok read ↔
      read = resource.withDefaultPoll ∧ resource.BindingsSafe := by
  have hregistration : resource.toDict.get? "registration" =
      some (.object resource.registration.toDict) := by
    simp [ResourceConfig.toDict]
  have henabled : resource.toDict.get? "enabled" = some (.bool resource.enabled) := by
    simp [ResourceConfig.toDict]
  have hendpointId : resource.toDict.get? "endpoint_id" = resource.endpointId.map Json.string := by
    simp [ResourceConfig.toDict]
  have hworkerId : resource.toDict.get? "worker_id" = resource.workerId.map Json.string := by
    simp [ResourceConfig.toDict]
  have hadapterId : resource.toDict.get? "local_adapter_id" =
      resource.localAdapterId.map Json.string := by
    simp [ResourceConfig.toDict]
  have henabledRead : itemOr resource.toDict "enabled" true
      (fun value => valueError (vBool value "resource_config.enabled")) = .ok resource.enabled := by
    unfold itemOr
    rw [henabled]
    rfl
  unfold resourceConfigFromDict
  rw [exactShape_of (by simp [ResourceConfig.toDict, Record.keysIn_optionalMember])
      (by simp [hregistration]), valueError_ok, ok_bind, Record.item_of hregistration, ok_bind]
  dsimp only [vStrObjectMapping]
  rw [valueError_ok, ok_bind, registrationFromDocument_toDict, ok_bind,
    (safeIdItem_eq_ok hendpointId).mpr ⟨rfl, hendpoint⟩, ok_bind]
  constructor
  · intro h
    obtain ⟨worker, hworker, h⟩ := bind_eq_ok.mp h
    obtain ⟨adapter, hadapter, h⟩ := bind_eq_ok.mp h
    obtain ⟨rfl, hworkerSafe⟩ := (safeIdItem_eq_ok hworkerId).mp hworker
    obtain ⟨rfl, hadapterSafe⟩ := (safeIdItem_eq_ok hadapterId).mp hadapter
    rw [henabledRead, ok_bind] at h
    exact ⟨(Except.ok.inj h).symm, hworkerSafe, hadapterSafe⟩
  · rintro ⟨rfl, hworkerSafe, hadapterSafe⟩
    rw [(safeIdItem_eq_ok hworkerId).mpr ⟨rfl, hworkerSafe⟩, ok_bind,
      (safeIdItem_eq_ok hadapterId).mpr ⟨rfl, hadapterSafe⟩, ok_bind, henabledRead, ok_bind]
    rfl

end Library

/-! ### Grants -/

/-- Sorted identifiers are read back. -/
theorem idListField_json {allowed : Option (List String)} (ids : SortedIds allowed)
    (field : String) : idListField allowed ids.json field = .ok ids := by
  show vSortedSafeIds allowed (ids.1.map SafeId.json) field = .ok ids
  have hids : (ids.1.map SafeId.json).mapM (vSafeId · field) = .ok ids.1 := by
    rw [mapM_eq_ok, List.forall₂_map_left_iff]
    exact List.forall₂_same.mpr fun id _ => vSafeId_json id field
  unfold vSortedSafeIds
  rw [hids, ok_bind, dif_pos ids.2.1, dif_pos ids.2.2]
  rfl

theorem spendingLimitFromDict_toDict (limit : SpendingLimit) :
    spendingLimitFromDict (.object limit.toDict) = .ok limit := by
  have hlimit : limit.toDict.get? "micro_usd_per_mtoken_max" =
      some (.int limit.microUsdPerMtokenMax.1) := by
    simp [SpendingLimit.toDict]
  have hshape : vExactShape (.object limit.toDict) ["micro_usd_per_mtoken_max"] []
      "spending_limit" = .ok limit.toDict :=
    exactKeys_eq_ok.mpr ⟨rfl, by simp [SpendingLimit.toDict], by simp [hlimit]⟩
  unfold spendingLimitFromDict routeItem
  rw [hshape, routeError_ok, ok_bind, Record.item_of hlimit, reading_ok, ok_bind, vInt_val,
    routeError_ok, ok_bind]

/-- The shared fields are read back from every record that begins with them. -/
theorem grantFieldsOf_append (label : String) (f : GrantFields) (rest : Record)
    (hrest : ∀ key ∈ grantKeys, rest.get? key = none) :
    grantFieldsOf label (f.toDict ++ rest) = .ok f := by
  simp only [grantKeys, List.forall_mem_cons, List.not_mem_nil, false_imp_iff, implies_true,
    and_true] at hrest
  obtain ⟨hrestProviders, hrestChannels, hrestEntitlements, hrestBlocked, hrestSpend⟩ := hrest
  have hproviders : (f.toDict ++ rest).get? "allowed_providers" =
      f.allowedProviders.map SortedIds.json := by
    simp [GrantFields.toDict, hrestProviders]
  have hchannels : (f.toDict ++ rest).get? "allowed_channels" =
      f.allowedChannels.map SortedIds.json := by
    simp [GrantFields.toDict, hrestChannels]
  have hentitlements : (f.toDict ++ rest).get? "allowed_entitlements" =
      f.allowedEntitlements.map SortedIds.json := by
    simp [GrantFields.toDict, hrestEntitlements]
  have hblocked : (f.toDict ++ rest).get? "blocked_resource_ids" =
      if f.blockedResourceIds.1 = [] then none else some f.blockedResourceIds.json := by
    simp [GrantFields.toDict, hrestBlocked]
  have hspend : (f.toDict ++ rest).get? "spend_limit" =
      f.spendLimit.map fun limit => .object limit.toDict := by
    simp [GrantFields.toDict, hrestSpend]
  have hblockedRead : presentOr (f.toDict ++ rest) "blocked_resource_ids" ⟨[], by simp⟩
      (fun value => routeError (idListField none value (label ++ ".blocked_resource_ids"))) =
      .ok f.blockedResourceIds := by
    unfold presentOr Record.present
    rw [hblocked]
    by_cases hnil : f.blockedResourceIds.1 = []
    · rw [if_pos hnil]
      exact congrArg Except.ok (Subtype.ext hnil.symm)
    · rw [if_neg hnil]
      show routeError (idListField none f.blockedResourceIds.json _) = _
      rw [idListField_json, routeError_ok]
  have hids : ∀ {allowed : Option (List String)} (field : String) (ids : SortedIds allowed),
      (some <$> routeError (idListField allowed ids.json field)) = .ok (some ids) :=
    fun field ids => by
      rw [idListField_json]
      rfl
  unfold grantFieldsOf
  rw [presentOr_map hproviders (fun _ => rfl) (hids _), ok_bind,
    presentOr_map hchannels (fun _ => rfl) (hids _), ok_bind,
    presentOr_map hentitlements (fun _ => rfl) (hids _), ok_bind, hblockedRead, ok_bind,
    presentOr_map hspend (fun _ => rfl) (fun limit => by rw [spendingLimitFromDict_toDict]; rfl),
    ok_bind]

/-- The keys of the shared fields. -/
theorem GrantFields.keysIn (f : GrantFields) {names : List String}
    (h : ∀ key ∈ grantKeys, key ∈ names) : f.toDict.KeysIn names := by
  simp only [grantKeys, List.forall_mem_cons, List.not_mem_nil, false_imp_iff, implies_true,
    and_true] at h
  obtain ⟨hproviders, hchannels, hentitlements, hblocked, hspend⟩ := h
  simp only [GrantFields.toDict, Record.keysIn_append]
  exact ⟨⟨⟨⟨Record.keysIn_optionalMember _ hproviders, Record.keysIn_optionalMember _ hchannels⟩,
    Record.keysIn_optionalMember _ hentitlements⟩, Record.keysIn_optionalMember _ hblocked⟩,
    Record.keysIn_optionalMember _ hspend⟩

theorem adminConstraintsFromDict_toDict (constraints : AdministratorConstraints) :
    adminConstraintsFromDict (.object constraints.toDict) = .ok constraints := by
  have hshape : vExactShape (.object constraints.toDict) [] grantKeys
      "administrator_constraints" = .ok constraints.toDict :=
    exactKeys_eq_ok.mpr ⟨rfl, GrantFields.keysIn _ fun _ h => h, Record.hasKeys_nil _⟩
  have hfields := grantFieldsOf_append "administrator_constraints" constraints.toGrantFields []
    fun _ _ => rfl
  rw [List.append_nil] at hfields
  unfold adminConstraintsFromDict
  rw [hshape, routeError_ok, ok_bind, hfields, ok_bind]

/-- Nothing is written of constraints that constrain nothing, and of no others. -/
theorem adminConstraints_toDict_eq_nil {constraints : AdministratorConstraints}
    (h : constraints.toDict = []) : constraints = ⟨{}⟩ := by
  have hread := adminConstraintsFromDict_toDict constraints
  have hempty := adminConstraintsFromDict_toDict ⟨{}⟩
  have hnil : (⟨{}⟩ : AdministratorConstraints).toDict = [] := rfl
  rw [hnil] at hempty
  rw [h, hempty] at hread
  exact (Except.ok.inj hread).symm

theorem flagItem_of {dd : Record} {key : String} {set : Bool} (h : dd.get? key = flag set) :
    flagItem dd key = .ok set := by
  unfold flagItem
  rw [h]
  cases set <;> rfl

theorem clientAuthorizationFromDict_toDict (grant : ClientAuthorization) :
    clientAuthorizationFromDict (.object grant.toDict) = .ok grant := by
  have hfieldKeys : ∀ key, key ∉ grantKeys → grant.toGrantFields.toDict.get? key = none := by
    intro key hkey
    simp only [grantKeys, List.mem_cons, List.not_mem_nil, or_false, not_or] at hkey
    obtain ⟨hproviders, hchannels, hentitlements, hblocked, hspend⟩ := hkey
    simp [GrantFields.toDict, Ne.symm hproviders, Ne.symm hchannels, Ne.symm hentitlements,
      Ne.symm hblocked, Ne.symm hspend]
  have hinference : grant.toDict.get? "inference_only" = flag grant.inferenceOnly := by
    simp [ClientAuthorization.toDict, hfieldKeys "inference_only" (by decide)]
  have hpayg : grant.toDict.get? "strict_no_payg" = flag grant.strictNoPayg := by
    simp [ClientAuthorization.toDict, hfieldKeys "strict_no_payg" (by decide)]
  have hfields : grantFieldsOf "client_authorization" grant.toDict = .ok grant.toGrantFields := by
    unfold ClientAuthorization.toDict
    rw [List.append_assoc]
    refine grantFieldsOf_append _ _ _ ?_
    simp [grantKeys]
  have hshape : vExactShape (.object grant.toDict) []
      (grantKeys ++ ["inference_only", "strict_no_payg"]) "client_authorization" =
      .ok grant.toDict := by
    refine exactKeys_eq_ok.mpr ⟨rfl, ?_, Record.hasKeys_nil _⟩
    unfold ClientAuthorization.toDict
    rw [Record.keysIn_append, Record.keysIn_append]
    exact ⟨⟨GrantFields.keysIn _ fun _ h => List.mem_append_right _ (List.mem_append_left _ h),
      Record.keysIn_optionalMember _ (by decide)⟩, Record.keysIn_optionalMember _ (by decide)⟩
  unfold clientAuthorizationFromDict
  rw [hshape, routeError_ok, ok_bind, hfields, ok_bind, flagItem_of hinference, ok_bind,
    flagItem_of hpayg, ok_bind]

theorem clientRoutingProfileFromDict_toDict (profile : ClientRoutingProfile) :
    clientRoutingProfileFromDict (.object profile.toDict) = .ok profile := by
  have hid : profile.toDict.get? "profile_id" = some profile.profileId.json := by
    simp [ClientRoutingProfile.toDict]
  have hproviders : profile.toDict.get? "allowed_providers" =
      profile.allowedProviders.map SortedIds.json := by
    simp [ClientRoutingProfile.toDict]
  have hshape : vExactShape (.object profile.toDict) ["profile_id"] ["allowed_providers"]
      "client_routing_profile" = .ok profile.toDict :=
    exactKeys_eq_ok.mpr ⟨rfl, by simp [ClientRoutingProfile.toDict, Record.keysIn_optionalMember],
      by simp [hid]⟩
  unfold clientRoutingProfileFromDict routeItem
  rw [hshape, routeError_ok, ok_bind, Record.item_of hid, reading_ok, ok_bind, vSafeId_json,
    routeError_ok, ok_bind,
    presentOr_map hproviders (fun _ => rfl) (fun ids => by rw [idListField_json]; rfl), ok_bind]

/-! ### Limits -/

theorem limitItem_of {dd : Record} {key : String} {default n : AtLeast 1}
    (h : dd.get? key = some (.int n.1)) : limitItem dd key default = .ok n := by
  unfold limitItem itemOr
  rw [h]
  exact congrArg valueError (vInt_val n _)

theorem gatewayLimitsFromDict_toDict (limits : GatewayLimits) :
    gatewayLimitsFromDict (.object limits.toDict) = .ok limits := by
  unfold gatewayLimitsFromDict
  rw [exactShape_of (by simp [GatewayLimits.toDict, limitFields]) (Record.hasKeys_nil _),
    valueError_ok, ok_bind, limitItem_of (n := limits.maxRequestBodyBytes) (by
      simp [GatewayLimits.toDict]), ok_bind,
    limitItem_of (n := limits.maxInputContextTokens) (by simp [GatewayLimits.toDict]), ok_bind,
    limitItem_of (n := limits.maxOutputTokens) (by simp [GatewayLimits.toDict]), ok_bind,
    limitItem_of (n := limits.maxConcurrentExecutions) (by simp [GatewayLimits.toDict]), ok_bind,
    limitItem_of (n := limits.maxConcurrentExecutionsPerClient) (by
      simp [GatewayLimits.toDict]), ok_bind,
    limitItem_of (n := limits.executionTimeLimitSeconds) (by simp [GatewayLimits.toDict]), ok_bind]
  exact dif_pos limits.per_client_le

theorem auditRetentionFromDict_toDict (retention : AuditRetention) :
    auditRetentionFromDict (.object retention.toDict) = .ok retention := by
  have hrecords : retention.toDict.get? "max_records" = some (.int retention.maxRecords.1) := by
    simp [AuditRetention.toDict]
  have hage : retention.toDict.get? "max_age_seconds" = some (.int retention.maxAgeSeconds.1) := by
    simp [AuditRetention.toDict]
  unfold auditRetentionFromDict
  rw [exactShape_of (by simp [AuditRetention.toDict]) (by simp [hrecords, hage]), valueError_ok,
    ok_bind, Record.item_of hrecords, ok_bind, vInt_val, valueError_ok, ok_bind,
    Record.item_of hage, ok_bind, vInt_val, valueError_ok, ok_bind]

/-! ### The document -/

/-- A list of dictionaries is read as it was written. -/
theorem objectList_of {α : Type} {dd : Record} {key : String} {toDict : α → Record}
    {items : List α} (h : dd.get? key = recordList toDict items) :
    objectList dd key = .ok (items.map fun item => .object (toDict item)) := by
  unfold objectList
  rw [h]
  cases items with
  | nil => rfl
  | cons item items => rfl

/-- A dictionary of dictionaries is read as it was written. -/
theorem mappingItem_of {α : Type} {dd : Record} {key : String} {toDict : α → Record}
    {dict : TextDict α} (h : dd.get? key = recordDict toDict dict) :
    mappingItem dd key = .ok (dict.rows.map fun row => (row.1, .object (toDict row.2))) := by
  unfold mappingItem
  rw [h, recordDict, nonemptyRecord]
  cases dict.rows with
  | nil => rfl
  | cons row rows => rfl

/-- **A loop over distinct identifiers builds the dictionary of its entries.** -/
theorem readEntries_of {α : Type} {field : String} {toDict : α → Record}
    {read : Json → Except ConfigRaised α} (hread : ∀ a, read (.object (toDict a)) = .ok a)
    {rows : List (Text × α)} (hsafe : ∀ row ∈ rows, IsSafeId row.1) {dict : TextDict α}
    (hdistinct : ((dict.rows ++ rows).map Prod.fst).Nodup) :
    (rows.map fun row => (row.1, Json.object (toDict row.2))).foldlM (readEntry field read) dict =
      .ok ⟨dict.rows ++ rows, hdistinct⟩ := by
  induction rows generalizing dict with
  | nil => exact congrArg Except.ok (Table.ext (List.append_nil _).symm)
  | cons row rows ih =>
    obtain ⟨hrow, hrows⟩ := List.forall_mem_cons.mp hsafe
    obtain ⟨id, hid⟩ := Option.isSome_iff_exists.mp hrow
    have hkey : vSafeId (.string row.1) field = .ok id := by
      unfold vSafeId
      rw [vStr_string, ok_bind, hid]
    have htext := toText_of_safeId? hid
    -- The key of the entry is not in use yet.
    have hnew : dict.row? row.1 = none := by
      rw [Table.row?_eq_none]
      intro r hr hsame
      rw [List.map_append, List.map_cons, List.nodup_append] at hdistinct
      exact hdistinct.2.2 _ (List.mem_map_of_mem hr) _ List.mem_cons_self hsame
    have hput : (dict.put (id.toText, row.2)).rows = dict.rows ++ [row] := by
      rw [htext]
      unfold Table.put
      rw [dif_pos hnew]
      rfl
    have hround : readEntry field read dict (row.1, .object (toDict row.2)) =
        .ok (dict.put (id.toText, row.2)) := by
      unfold readEntry
      rw [hkey, valueError_ok, reading_ok, ok_bind, hread, ok_bind]
    rw [List.map_cons, List.foldlM_cons, hround, ok_bind,
      ih hrows (by rw [hput, List.append_assoc]; exact hdistinct)]
    refine congrArg Except.ok (Table.ext ?_)
    show (dict.put (id.toText, row.2)).rows ++ rows = dict.rows ++ row :: rows
    rw [hput, List.append_assoc]
    rfl

/-- A dictionary by identifiers is read back. -/
theorem readDict_of {α : Type} {field : String} {toDict : α → Record}
    {read : Json → Except ConfigRaised α} (hread : ∀ a, read (.object (toDict a)) = .ok a)
    {dict : TextDict α} (hsafe : ∀ row ∈ dict.rows, IsSafeId row.1) :
    (dict.rows.map fun row => (row.1, Json.object (toDict row.2))).foldlM (readEntry field read)
      ⟨[], List.nodup_nil⟩ = .ok dict :=
  @readEntries_of α field toDict read hread dict.rows hsafe ⟨[], List.nodup_nil⟩ dict.distinct

/-- A value that is left out when it is the default is read back. -/
theorem itemOr_unlessDefault {α : Type} [DecidableEq α] {dd : Record} {key : String}
    {default a : α} {write : α → Json} {read : Json → Except Raised α}
    (hget : dd.get? key = unlessDefault default a write) (hread : ∀ a, read (write a) = .ok a) :
    itemOr dd key default read = .ok a := by
  refine itemOr_of (fun h => ?_) fun value h => ?_
  · rw [hget, unlessDefault] at h
    split_ifs at h with heq
    exact heq
  · rw [hget, unlessDefault] at h
    split_ifs at h
    obtain rfl := Option.some.inj h
    exact hread a

section Document

variable [Readings]

/-- **What the constructor of a configuration accepts.** -/
theorem ConfigurationFields.postInit_eq_ok {f : ConfigurationFields} : f.postInit = .ok () ↔
    f.providerIds.Nodup ∧ (f.resources.map (·.resourceId)).Nodup ∧
      (f.sources.map (·.1.sourceId)).Nodup ∧
      (∀ resource ∈ f.resources, isSourceResourceId resource.resourceId = false) ∧
      (∀ resource ∈ f.resources, ∀ endpointId ∈ resource.endpointId,
        endpointId ∈ f.providerIds) ∧
      (∀ row ∈ f.aliases.rows, IsSafeId row.1) ∧
      ∀ row ∈ f.clientAuthorizations.rows, IsSafeId row.1 := by
  have hsafe : ∀ t field, checkSafeId t field = .ok () ↔ IsSafeId t := fun t field => by
    refine ⟨isSafeId_of_checkSafeId, fun h => ?_⟩
    obtain ⟨id, hid, -⟩ := map_eq_ok.mp ((@vSafeId_map_eq_ok _ _ field).mpr ⟨rfl, h⟩)
    exact map_eq_ok.mpr ⟨id, hid, rfl⟩
  unfold postInit
  rw [check_bind_eq_ok, check_bind_eq_ok, check_bind_eq_ok]
  refine and_congr_right fun _ => and_congr_right fun _ => and_congr_right fun _ => ?_
  constructor
  · intro h
    obtain ⟨_, hderived, h⟩ := bind_eq_ok.mp h
    obtain ⟨_, hendpoints, h⟩ := bind_eq_ok.mp h
    obtain ⟨_, haliases, hgrants⟩ := bind_eq_ok.mp h
    exact ⟨fun r hr => check_eq_ok.mp (forM_eq_ok.mp hderived r hr),
      fun r hr => check_eq_ok.mp (forM_eq_ok.mp hendpoints r hr),
      fun row hrow => (hsafe _ _).mp (forM_eq_ok.mp haliases row hrow),
      fun row hrow => (hsafe _ _).mp (forM_eq_ok.mp hgrants row hrow)⟩
  · rintro ⟨hderived, hendpoints, haliases, hgrants⟩
    refine bind_eq_ok.mpr ⟨(), forM_eq_ok.mpr fun r hr => check_eq_ok.mpr (hderived r hr), ?_⟩
    refine bind_eq_ok.mpr ⟨(), forM_eq_ok.mpr fun r hr => check_eq_ok.mpr (hendpoints r hr), ?_⟩
    refine bind_eq_ok.mpr ⟨(), forM_eq_ok.mpr fun row hrow => (hsafe _ _).mpr (haliases row hrow), ?_⟩
    exact forM_eq_ok.mpr fun row hrow => (hsafe _ _).mpr (hgrants row hrow)

/-- The configuration with the default polling cadences filled in. -/
def ConfigurationFields.withDefaultPolling (f : ConfigurationFields) : ConfigurationFields :=
  { f with resources := f.resources.map ResourceConfig.withDefaultPoll }

/-- Filling in the cadences keeps a configuration valid. -/
theorem ConfigurationFields.postInit_withDefaultPolling {f : ConfigurationFields}
    (h : f.postInit = .ok ()) : f.withDefaultPolling.postInit = .ok () := by
  rw [postInit_eq_ok] at h ⊢
  obtain ⟨hproviders, hresources, hsources, hderived, hendpoints, hkeys⟩ := h
  refine ⟨hproviders, ?_, hsources, ?_, ?_, hkeys⟩
  · have hids : (f.resources.map ResourceConfig.withDefaultPoll).map (·.resourceId) =
        f.resources.map (·.resourceId) := by
      rw [List.map_map]
      rfl
    exact hids.symm ▸ hresources
  · rintro _ hmem
    obtain ⟨resource, hresource, rfl⟩ := List.mem_map.mp hmem
    exact hderived resource hresource
  · rintro _ hmem
    obtain ⟨resource, hresource, rfl⟩ := List.mem_map.mp hmem
    exact hendpoints resource hresource

/-- The endpoints that a valid configuration names are identifiers. -/
theorem endpointId_safe (c : ServerConfiguration) {resource : ResourceConfig}
    (hresource : resource ∈ c.1.resources) : ∀ t ∈ resource.endpointId, IsSafeId t := by
  intro t ht
  obtain ⟨-, -, -, -, hendpoints, -⟩ := ConfigurationFields.postInit_eq_ok.mp c.2
  obtain ⟨provider, -, rfl⟩ := List.mem_map.mp (hendpoints resource hresource t ht)
  obtain ⟨_, hsafe, -⟩ := bind_eq_ok.mp provider.2
  exact isSafeId_of_checkSafeId hsafe

/-- The resources of a document are read back one by one. -/
theorem resources_eq_ok (c : ServerConfiguration) {read : List ResourceConfig} :
    (c.1.resources.map fun r => Json.object r.toDict).mapM resourceConfigFromDict = .ok read ↔
      read = c.1.resources.map ResourceConfig.withDefaultPoll ∧
        ∀ resource ∈ c.1.resources, resource.BindingsSafe := by
  have hsafe : ∀ resource ∈ c.1.resources, ∀ t ∈ resource.endpointId, IsSafeId t :=
    fun _ => endpointId_safe c
  rw [mapM_eq_ok, List.forall₂_map_left_iff]
  generalize c.1.resources = resources at hsafe
  induction resources generalizing read with
  | nil => simp
  | cons resource resources ih =>
    obtain ⟨hhead, htail⟩ := List.forall_mem_cons.mp hsafe
    rw [List.forall₂_cons_left_iff, List.map_cons, List.forall_mem_cons]
    constructor
    · rintro ⟨first, rest, hfirst, hrest, rfl⟩
      obtain ⟨rfl, hbindings⟩ := (resourceConfigFromDict_toDict hhead).mp hfirst
      obtain ⟨rfl, hall⟩ := (ih htail).mp hrest
      exact ⟨rfl, hbindings, hall⟩
    · rintro ⟨rfl, hbindings, hall⟩
      exact ⟨_, _, (resourceConfigFromDict_toDict hhead).mpr ⟨rfl, hbindings⟩,
        (ih htail).mpr ⟨rfl, hall⟩, rfl⟩

/-- The lists of a document are read back. -/
theorem listsOf_toDocument (c : ServerConfiguration)
    {read : List ProviderEndpointConfig × List ResourceConfig × List SourceConfig} :
    listsOf c.1.toDocument = .ok read ↔
      read = (c.1.providers, c.1.resources.map ResourceConfig.withDefaultPoll, c.1.sources) ∧
        ∀ resource ∈ c.1.resources, resource.BindingsSafe := by
  have hversion : c.1.toDocument.get? "schema_version" = some (.int 2) := by
    simp [ConfigurationFields.toDocument]
  have hproviders : c.1.toDocument.get? "providers" =
      recordList (fun p : ProviderEndpointConfig => p.1.toDict) c.1.providers := by
    simp [ConfigurationFields.toDocument]
  have hresources : c.1.toDocument.get? "resources" =
      recordList (fun r : ResourceConfig => r.toDict) c.1.resources := by
    simp [ConfigurationFields.toDocument]
  have hsources : c.1.toDocument.get? "sources" =
      recordList (fun source : SourceConfig => source.1.toDict) c.1.sources := by
    simp [ConfigurationFields.toDocument]
  unfold listsOf
  rw [Record.item_of hversion, ok_bind]
  dsimp only [vAnyInt]
  rw [valueError_ok, ok_bind, check_pos (.inr rfl), ok_bind, objectList_of hproviders, ok_bind,
    mapM_of_read providerFromDict_toDict, ok_bind, objectList_of hresources, ok_bind]
  constructor
  · intro h
    obtain ⟨resources, hread, h⟩ := bind_eq_ok.mp h
    obtain ⟨rfl, hsafe⟩ := (resources_eq_ok c).mp hread
    rw [objectList_of hsources, ok_bind, mapM_of_read sourceFromDict_toDict, ok_bind,
      check_pos (fun h => absurd h (by decide)), ok_bind] at h
    exact ⟨(Except.ok.inj h).symm, hsafe⟩
  · rintro ⟨rfl, hsafe⟩
    rw [(resources_eq_ok c).mpr ⟨rfl, hsafe⟩, ok_bind, objectList_of hsources, ok_bind,
      mapM_of_read sourceFromDict_toDict, ok_bind, check_pos (fun h => absurd h (by decide)),
      ok_bind]

/-- The dictionaries of a document are read back. -/
theorem dictsOf_toDocument (c : ServerConfiguration) :
    dictsOf c.1.toDocument = .ok (c.1.aliases, c.1.clientAuthorizations) := by
  have haliases : c.1.toDocument.get? "aliases" =
      recordDict ClientRoutingProfile.toDict c.1.aliases := by
    simp [ConfigurationFields.toDocument]
  have hgrants : c.1.toDocument.get? "client_authorizations" =
      recordDict ClientAuthorization.toDict c.1.clientAuthorizations := by
    simp [ConfigurationFields.toDocument]
  obtain ⟨-, -, -, -, -, haliasKeys, hgrantKeys⟩ := ConfigurationFields.postInit_eq_ok.mp c.2
  unfold dictsOf
  rw [mappingItem_of haliases, reading_ok, ok_bind,
    readDict_of clientRoutingProfileFromDict_toDict haliasKeys, ok_bind, mappingItem_of hgrants,
    reading_ok, ok_bind, readDict_of clientAuthorizationFromDict_toDict hgrantKeys, ok_bind]

/-- The constraints of a document are read back. -/
theorem constraintsOf_toDocument (c : ServerConfiguration) :
    constraintsOf c.1.toDocument = .ok c.1.adminConstraints := by
  have hget : c.1.toDocument.get? "admin_constraints" =
      nonemptyRecord c.1.adminConstraints.toDict := by
    simp [ConfigurationFields.toDocument]
  unfold constraintsOf
  rw [hget, nonemptyRecord]
  by_cases hnil : c.1.adminConstraints.toDict = []
  · rw [if_pos hnil, adminConstraints_toDict_eq_nil hnil]
  · rw [if_neg hnil]
    exact adminConstraintsFromDict_toDict c.1.adminConstraints

/-- **What a restart runs from**: the configuration that was saved, with the default polling
    cadences filled in, if every worker and adapter that a resource is bound to has an identifier
    for a name; and nothing otherwise. -/
theorem fromDocument_toDocument {c read : ServerConfiguration} :
    fromDocument (.object c.1.toDocument) = .ok read ↔
      read.1 = c.1.withDefaultPolling ∧ ∀ resource ∈ c.1.resources, resource.BindingsSafe := by
  have hlimits : c.1.toDocument.get? "limits" =
      unlessDefault {} c.1.limits fun limits => .object limits.toDict := by
    simp [ConfigurationFields.toDocument]
  have hretention : c.1.toDocument.get? "audit_retention" =
      unlessDefault {} c.1.auditRetention fun retention => .object retention.toDict := by
    simp [ConfigurationFields.toDocument]
  have hpairing : c.1.toDocument.get? "pairing_code_ttl_seconds" =
      unlessDefault ⟨900, by decide⟩ c.1.pairingCodeTtlSeconds fun n => .int n.1 := by
    simp [ConfigurationFields.toDocument]
  have hsession : c.1.toDocument.get? "session_ttl_seconds" =
      unlessDefault ⟨28800, by decide⟩ c.1.sessionTtlSeconds fun n => .int n.1 := by
    simp [ConfigurationFields.toDocument]
  have hshape : exactShape (.object c.1.toDocument) ["schema_version"] documentKeys
      "server_configuration" = .ok c.1.toDocument :=
    exactShape_of
      (by simp [ConfigurationFields.toDocument, documentKeys, Record.keysIn_optionalMember])
      (by simp [ConfigurationFields.toDocument])
  have hrest : ∀ lists, reading (listsOf c.1.toDocument) = .ok lists →
      fromDocument (.object c.1.toDocument) = reading (valueError
        (construct ConfigurationFields.postInit c.1.withDefaultPolling)) := by
    intro lists hlists
    obtain ⟨rfl, -⟩ := (listsOf_toDocument c).mp (reading_eq_ok.mp hlists)
    unfold fromDocument
    rw [hshape, valueError_ok, reading_ok, ok_bind, hlists, ok_bind]
    dsimp only
    rw [dictsOf_toDocument, ok_bind]
    dsimp only
    rw [constraintsOf_toDocument, ok_bind, itemOr_unlessDefault hlimits gatewayLimitsFromDict_toDict,
      reading_ok, ok_bind, itemOr_unlessDefault hretention auditRetentionFromDict_toDict, reading_ok,
      ok_bind]
    unfold ttlItem
    rw [itemOr_unlessDefault hpairing (fun n => by rw [vInt_val, valueError_ok]), reading_ok,
      ok_bind, itemOr_unlessDefault hsession (fun n => by rw [vInt_val, valueError_ok]), reading_ok,
      ok_bind]
    rfl
  have hvalid := ConfigurationFields.postInit_withDefaultPolling c.2
  have hmade : reading (valueError (construct ConfigurationFields.postInit
      c.1.withDefaultPolling)) = .ok (⟨c.1.withDefaultPolling, hvalid⟩ : ServerConfiguration) :=
    congrArg (reading ∘ valueError)
      (construct_val (⟨c.1.withDefaultPolling, hvalid⟩ : ServerConfiguration))
  constructor
  · intro h
    have hfirst := h
    unfold fromDocument at hfirst
    rw [hshape, valueError_ok, reading_ok, ok_bind] at hfirst
    obtain ⟨lists, hlists, -⟩ := bind_eq_ok.mp hfirst
    obtain ⟨-, hsafe⟩ := (listsOf_toDocument c).mp (reading_eq_ok.mp hlists)
    rw [hrest lists hlists, hmade] at h
    exact ⟨congrArg Subtype.val (Except.ok.inj h).symm, hsafe⟩
  · rintro ⟨hread, hsafe⟩
    have hlists := reading_eq_ok.mpr ((listsOf_toDocument c).mpr ⟨rfl, hsafe⟩)
    rw [hrest _ hlists, hmade]
    exact congrArg Except.ok (Subtype.ext hread.symm)

/-! ### Configurations that are read back -/

/-- A resource states its polling cadence where its channel has a default one. -/
def ResourceConfig.PollingStated (resource : ResourceConfig) : Prop :=
  resource.registration.identity.channel = .serverDirectHttp →
    resource.registration.pollIntervalSeconds.isSome = true

/-- The default changes the resources that state no cadence, and no others. -/
theorem ResourceConfig.withDefaultPoll_eq_self {resource : ResourceConfig} :
    resource.withDefaultPoll = resource ↔ resource.PollingStated := by
  obtain ⟨⟨identity, ttl, poll, capabilities, cost⟩, enabled, endpoint, worker, adapter⟩ := resource
  simp only [withDefaultPoll, ResourceRegistration.withDefaultPoll, PollingStated, mk.injEq,
    ResourceRegistration.mk.injEq, true_and, and_true]
  cases poll with
  | some n => simp
  | none =>
    rw [Option.none_or, defaultPoll]
    split_ifs with hchannel <;> simp [hchannel]

/-- **The configurations that are read back as they were**: those whose server-direct resources
    state a polling cadence and whose workers and adapters have identifiers for names.  Without
    the cadence, the reader fills in the default one, and changes nothing else. -/
theorem document_round_trip (c : ServerConfiguration) :
    (fromDocument (.object c.1.toDocument) = .ok c ↔
      ∀ resource ∈ c.1.resources, resource.PollingStated ∧ resource.BindingsSafe) ∧
    ((∀ resource ∈ c.1.resources, resource.BindingsSafe) →
      ∃ read : ServerConfiguration, fromDocument (.object c.1.toDocument) = .ok read ∧
        read.1 = { c.1 with resources := c.1.resources.map ResourceConfig.withDefaultPoll }) := by
  constructor
  · have hself : c.1 = c.1.withDefaultPolling ↔
        ∀ resource ∈ c.1.resources, resource.PollingStated := by
      have hlist : c.1 = c.1.withDefaultPolling ↔
          c.1.resources.map ResourceConfig.withDefaultPoll = c.1.resources := by
        constructor
        · intro h
          exact (congrArg ConfigurationFields.resources h).symm
        · intro h
          unfold ConfigurationFields.withDefaultPolling
          rw [h]
      rw [hlist]
      conv_lhs => rhs; rw [← List.map_id c.1.resources]
      rw [List.map_inj_left]
      exact forall₂_congr fun _ _ => ResourceConfig.withDefaultPoll_eq_self
    rw [fromDocument_toDocument, hself, ← forall₂_and]
  · intro hsafe
    exact ⟨⟨_, ConfigurationFields.postInit_withDefaultPolling c.2⟩,
      fromDocument_toDocument.mpr ⟨rfl, hsafe⟩, rfl⟩

end Document

/-- A server-direct resource that states no polling cadence. -/
def unpolledResource [Readings] : ResourceConfig where
  registration :=
    { identity :=
        { resourceId := .lit "local"
          channel := .serverDirectHttp
          provider := .lit "ollama"
          model := .lit "llama"
          entitlement := .localUngated }
      freshnessTtlSeconds := ⟨60, one_le_literal _⟩
      pollIntervalSeconds := none
      capabilities := .empty
      cost := none }
  enabled := true
  endpointId := none
  workerId := none
  localAdapterId := none

/-- The explicit absence of a cadence does not survive a restart. -/
theorem unpolled_not_read_back : ¬ ∀ (_ : Readings) (c : ServerConfiguration),
    fromDocument (.object c.1.toDocument) = .ok c := by
  intro h
  let _ : Readings := ⟨fun _ => none, id, fun _ => none, fun _ => none⟩
  have hderived : ∀ r ∈ [unpolledResource], isSourceResourceId r.resourceId = false := by
    decide +kernel
  have hendpoints : ∀ r ∈ [unpolledResource], ∀ t ∈ r.endpointId, t ∈ ([] : List Text) := by
    intro r hr t ht
    rw [List.mem_singleton.mp hr] at ht
    cases ht
  have hvalid : ({ resources := [unpolledResource] } : ConfigurationFields).postInit = .ok () :=
    ConfigurationFields.postInit_eq_ok.mpr ⟨List.nodup_nil, List.nodup_singleton _,
      List.nodup_nil, hderived, hendpoints, nofun, nofun⟩
  have hread := h inferInstance ⟨_, hvalid⟩
  obtain ⟨hself, -⟩ := fromDocument_toDocument.mp hread
  have hpoll := congrArg (fun f : ConfigurationFields =>
    f.resources.map fun r => r.registration.pollIntervalSeconds) hself
  have hnone : ([none] : List (Option (AtLeast 1))) = [some ⟨300, by decide⟩] := hpoll
  cases hnone

end ConfigDocument

end ScarcityRouter
