import ScarcityRouter.Gateway.Errors
import ScarcityRouter.Lib.Separators
import ScarcityRouter.Registry.Sources
import ScarcityRouter.Routing.Contracts

namespace ScarcityRouter

open ScarcityRouter.Lib

/-!
# Pinned-target references

`sr-pin:<resource>/<provider>/<model>/<variant>[~<effort>][@<decision>]`, after
`gateway_coordinator.py`.

* `parsePinnedReference` — `parse_pinned_reference`.
* `renderPinnedReference` — the reference of a recommended execution.
* `separator_notMem` — no separator is a character of an identifier.
* `pinnedReference_exact` — **the codec is exact**: a rendered reference parses to its target, and
  only the rendering of a target parses to it.
-/

/-! ### The grammar -/

/-- `PIN_PREFIX`. -/
def pinPrefix : Text := Text.ofString "sr-pin:"

/-- The separator of the four identifiers. -/
def slash : CodePoint := codePoint '/'

/-- The separator of the reasoning effort. -/
def tilde : CodePoint := codePoint '~'

/-- The separator of the decision id. -/
def atSign : CodePoint := codePoint '@'

/-- The one refusal of the parser. -/
def invalidPinReference : GatewayError :=
  .invalidRequest "invalid pinned-target reference" (some "invalid_pin_reference") (some "model")

/-- `v_safe_id` inside the handlers of the parser. -/
def pinId (raw : Text) (field : String) : Except GatewayError SafeId :=
  match vSafeId (.string raw) field with
  | .ok id => .ok id
  | .error _ => .error invalidPinReference

/-- The decision id after the last `@`, if there is one. -/
def cutDecision (body : Text) : Except GatewayError (Text × Option SafeId) :=
  if atSign ∈ body then do
    let decisionId ← pinId (cutLast atSign body).2 "pin.decision_id"
    return ((cutLast atSign body).1, some decisionId)
  else .ok (body, none)

/-- The effort after the first `~`, if there is one. -/
def cutEffort (variantRaw : Text) : Except GatewayError (Text × Option SafeId) :=
  if tilde ∈ variantRaw then
    match reasoningEfforts.find? (·.toText = (cutFirst tilde variantRaw).2) with
    | some effort => .ok ((cutFirst tilde variantRaw).1, some effort)
    | none => .error invalidPinReference
  else .ok (variantRaw, none)

/-- The target of the four parts. -/
def pinParts (resourceRaw providerRaw modelRaw variantRaw : Text) (decisionId : Option SafeId) :
    Except GatewayError PinnedTarget := do
  let (variantRaw, effort) ← cutEffort variantRaw
  let resourceId ← pinId resourceRaw "pin.resource_id"
  let provider ← pinId providerRaw "pin.provider"
  let model ← pinId modelRaw "pin.model"
  let variant ← pinId variantRaw "pin.variant"
  return { resourceId, model := ⟨provider, model, variant⟩, decisionId, reasoningEffort := effort }

/-- The target of a body without its decision id. -/
def pinBody (body : Text) (decisionId : Option SafeId) : Except GatewayError PinnedTarget :=
  match body.splitOn slash with
  | [resourceRaw, providerRaw, modelRaw, variantRaw] =>
    pinParts resourceRaw providerRaw modelRaw variantRaw decisionId
  | _ => .error invalidPinReference

/-- `parse_pinned_reference`. -/
def parsePinnedReference (model : Text) : Except GatewayError PinnedTarget := do
  check (pinPrefix <+: model) invalidPinReference
  let (body, decisionId) ← cutDecision (model.drop pinPrefix.length)
  pinBody body decisionId

/-- An optional part behind its separator. -/
def suffix (sep : CodePoint) (part : Option SafeId) : Text :=
  part.elim [] fun id => sep :: id.toText

/-- The variant of a reference, with its effort. -/
def renderVariant (variant : SafeId) (effort : Option SafeId) : Text :=
  variant.toText ++ suffix tilde effort

/-- The four parts of a reference. -/
def renderParts (pin : PinnedTarget) : List Text :=
  [pin.resourceId.toText, pin.model.provider.toText, pin.model.model.toText,
    renderVariant pin.model.variant pin.reasoningEffort]

/-- `model_pin` of a recommended execution. -/
def renderPinnedReference (pin : PinnedTarget) : Text :=
  pinPrefix ++ ([slash].intercalate (renderParts pin) ++ suffix atSign pin.decisionId)

/-! ### The separators are no characters of identifiers -/

/-- Every character of an identifier is safe, or the newline that its pattern lets through. -/
theorem safe_or_newline_of_mem {cs : List Char} (h : matchesSafeId cs = true) {c : Char}
    (hc : c ∈ cs) : isSafeIdChar c = true ∨ c = '\n' := by
  cases cs with
  | nil => cases hc
  | cons head tail =>
    simp only [matchesSafeId, Bool.and_eq_true] at h
    obtain ⟨⟨hhead, hbody⟩, -⟩ := h
    rw [List.all_eq_true] at hbody
    rcases List.mem_cons.mp hc with rfl | hc
    · exact .inl (isSafeIdChar_of_head hhead)
    · split at hbody
      · rename_i hlast
        obtain ⟨front, rfl⟩ := List.getLast?_eq_some_iff.mp hlast
        rw [List.dropLast_concat] at hbody
        rcases List.mem_append.mp hc with hc | hc
        · exact .inl (hbody c hc)
        · exact .inr (List.mem_singleton.mp hc)
      · exact .inl (hbody c hc)

/-- **No separator is a character of an identifier.** -/
theorem separator_notMem {c : Char} (hsafe : isSafeIdChar c = false) (hnewline : c ≠ '\n')
    (id : SafeId) : codePoint c ∉ id.toText := by
  intro h
  obtain ⟨c', hc', hcode⟩ := List.mem_map.mp h
  obtain rfl := codePoint_injective hcode
  rcases safe_or_newline_of_mem id.2 hc' with h | h
  · rw [hsafe] at h
    cases h
  · exact hnewline h

theorem slash_notMem (id : SafeId) : slash ∉ id.toText := separator_notMem (by decide) (by decide) id

theorem tilde_notMem (id : SafeId) : tilde ∉ id.toText := separator_notMem (by decide) (by decide) id

theorem atSign_notMem (id : SafeId) : atSign ∉ id.toText :=
  separator_notMem (by decide) (by decide) id

theorem notMem_suffix {c sep : CodePoint} (hne : c ≠ sep) (hid : ∀ id : SafeId, c ∉ id.toText)
    (part : Option SafeId) : c ∉ suffix sep part := by
  unfold suffix
  cases part with
  | none => exact List.not_mem_nil
  | some id => exact List.not_mem_cons_of_ne_of_not_mem hne (hid id)

/-! ### What the parser reads -/

/-- An identifier is read from its own text only. -/
theorem pinId_eq_ok {raw : Text} {field : String} {id : SafeId} :
    pinId raw field = .ok id ↔ raw = id.toText := by
  unfold pinId vSafeId vStr
  rw [ok_bind]
  constructor
  · intro h
    cases hid : safeId? raw with
    | none =>
      rw [hid] at h
      cases h
    | some found =>
      rw [hid] at h
      cases h
      exact (toText_of_safeId? hid).symm
  · rintro rfl
    rw [safeId?_toText]

/-- The decision id and what stands before it. -/
theorem cutDecision_eq_ok {body rest : Text} {decisionId : Option SafeId} :
    cutDecision body = .ok (rest, decisionId) ↔
      body = rest ++ suffix atSign decisionId ∧ (decisionId = none → atSign ∉ rest) := by
  unfold cutDecision
  by_cases h : atSign ∈ body
  · rw [if_pos h]
    constructor
    · intro hok
      obtain ⟨id, hid, hok⟩ := bind_eq_ok.mp hok
      cases hok
      refine ⟨?_, nofun⟩
      show body = (cutLast atSign body).1 ++ atSign :: id.toText
      rw [← pinId_eq_ok.mp hid]
      exact (cutLast_eq h).symm
    · rintro ⟨rfl, hnone⟩
      cases decisionId with
      | none => exact absurd h (by simpa [suffix] using hnone rfl)
      | some id =>
        show (do
          let decisionId ← pinId (cutLast atSign (rest ++ atSign :: id.toText)).2 _
          return ((cutLast atSign (rest ++ atSign :: id.toText)).1, some decisionId)) = _
        rw [cutLast_append (atSign_notMem id), pinId_eq_ok.mpr rfl]
        rfl
  · rw [if_neg h]
    constructor
    · intro hok
      cases hok
      exact ⟨(List.append_nil _).symm, fun _ => h⟩
    · rintro ⟨rfl, -⟩
      cases decisionId with
      | none => simp [suffix]
      | some id => exact absurd (by simp [suffix]) h

/-- An effort of the vocabulary is found by its text. -/
theorem find?_reasoningEfforts {raw : Text} {effort : SafeId} :
    reasoningEfforts.find? (·.toText = raw) = some effort ↔
      effort ∈ reasoningEfforts ∧ raw = effort.toText := by
  have htext : ∀ {raw : Text} {found : SafeId},
      reasoningEfforts.find? (·.toText = raw) = some found → found.toText = raw := by
    intro raw found h
    have hfound := List.find?_some h
    exact of_decide_eq_true hfound
  constructor
  · intro h
    exact ⟨List.mem_of_find?_eq_some h, (htext h).symm⟩
  · rintro ⟨hmem, rfl⟩
    cases h : reasoningEfforts.find? (·.toText = effort.toText) with
    | none => exact absurd (decide_eq_true rfl) (List.find?_eq_none.mp h effort hmem)
    | some found => exact congrArg some (SafeId.toText_injective (htext h))

/-- The effort and the variant before it. -/
theorem cutEffort_eq_ok {variantRaw rest : Text} {effort : Option SafeId} :
    cutEffort variantRaw = .ok (rest, effort) ↔
      variantRaw = rest ++ suffix tilde effort ∧ tilde ∉ rest ∧
        ∀ e ∈ effort, e ∈ reasoningEfforts := by
  unfold cutEffort
  by_cases h : tilde ∈ variantRaw
  · rw [if_pos h]
    constructor
    · intro hok
      split at hok
      · rename_i e hfound
        cases hok
        obtain ⟨hmem, htext⟩ := find?_reasoningEfforts.mp hfound
        refine ⟨?_, notMem_cutFirst _ _, fun e' he' => Option.some.inj he' ▸ hmem⟩
        show variantRaw = (cutFirst tilde variantRaw).1 ++ tilde :: e.toText
        rw [← htext]
        exact (cutFirst_eq h).symm
      · cases hok
    · rintro ⟨rfl, hrest, heffort⟩
      cases effort with
      | none => exact absurd h (by simpa [suffix] using hrest)
      | some e =>
        have hcut : cutFirst tilde (rest ++ suffix tilde (some e)) = (rest, e.toText) :=
          cutFirst_append hrest e.toText
        rw [hcut, find?_reasoningEfforts.mpr ⟨heffort e rfl, rfl⟩]
  · rw [if_neg h]
    constructor
    · intro hok
      cases hok
      exact ⟨(List.append_nil _).symm, h, nofun⟩
    · rintro ⟨rfl, -, -⟩
      cases effort with
      | none => simp [suffix]
      | some id => exact absurd (by simp [suffix]) h

/-- The four parts of a target, and no others. -/
theorem pinParts_eq_ok {resourceRaw providerRaw modelRaw variantRaw : Text}
    {decisionId : Option SafeId} {pin : PinnedTarget} :
    pinParts resourceRaw providerRaw modelRaw variantRaw decisionId = .ok pin ↔
      [resourceRaw, providerRaw, modelRaw, variantRaw] = renderParts pin ∧
        pin.decisionId = decisionId ∧ ∀ e ∈ pin.reasoningEffort, e ∈ reasoningEfforts := by
  unfold pinParts renderParts renderVariant
  constructor
  · intro h
    obtain ⟨⟨variantId, effort⟩, hcut, h⟩ := bind_eq_ok.mp h
    obtain ⟨resourceId, hresource, h⟩ := bind_eq_ok.mp h
    obtain ⟨provider, hprovider, h⟩ := bind_eq_ok.mp h
    obtain ⟨model, hmodel, h⟩ := bind_eq_ok.mp h
    obtain ⟨variant, hvariant, h⟩ := bind_eq_ok.mp h
    cases h
    obtain ⟨hraw, -, heffort⟩ := cutEffort_eq_ok.mp hcut
    refine ⟨?_, rfl, heffort⟩
    rw [pinId_eq_ok.mp hresource, pinId_eq_ok.mp hprovider, pinId_eq_ok.mp hmodel, hraw,
      pinId_eq_ok.mp hvariant]
  · obtain ⟨resourceId, ⟨provider, model, variant⟩, decision, effort⟩ := pin
    rintro ⟨hparts, rfl, heffort⟩
    simp only [List.cons.injEq, and_true] at hparts
    obtain ⟨rfl, rfl, rfl, hraw⟩ := hparts
    rw [cutEffort_eq_ok.mpr ⟨hraw, tilde_notMem variant, heffort⟩, ok_bind]
    dsimp only
    rw [pinId_eq_ok.mpr rfl, ok_bind, pinId_eq_ok.mpr rfl, ok_bind, pinId_eq_ok.mpr rfl, ok_bind,
      pinId_eq_ok.mpr rfl, ok_bind]
    rfl

/-! ### The codec -/

theorem slash_notMem_renderParts (pin : PinnedTarget) : ∀ part ∈ renderParts pin, slash ∉ part := by
  have hvariant : slash ∉ renderVariant pin.model.variant pin.reasoningEffort := by
    unfold renderVariant
    rw [List.mem_append, not_or]
    exact ⟨slash_notMem _, notMem_suffix (by decide) slash_notMem _⟩
  intro part hpart
  simp only [renderParts, List.mem_cons, List.not_mem_nil, or_false] at hpart
  rcases hpart with rfl | rfl | rfl | rfl
  · exact slash_notMem _
  · exact slash_notMem _
  · exact slash_notMem _
  · exact hvariant

/-- The four parts have no `@`. -/
theorem atSign_notMem_renderParts (pin : PinnedTarget) :
    atSign ∉ [slash].intercalate (renderParts pin) := by
  have hslash : atSign ≠ slash := by decide
  have htilde : atSign ∉ suffix tilde pin.reasoningEffort :=
    notMem_suffix (by decide) atSign_notMem _
  simp [List.intercalate, renderParts, renderVariant, atSign_notMem, hslash, htilde]

/-- The body of a reference is that of the one target with its parts. -/
theorem pinBody_eq_ok {body : Text} {decisionId : Option SafeId} {pin : PinnedTarget} :
    pinBody body decisionId = .ok pin ↔
      body = [slash].intercalate (renderParts pin) ∧ pin.decisionId = decisionId ∧
        ∀ e ∈ pin.reasoningEffort, e ∈ reasoningEfforts := by
  unfold pinBody
  constructor
  · intro h
    split at h
    · rename_i resourceRaw providerRaw modelRaw variantRaw hsplit
      obtain ⟨hparts, hrest⟩ := pinParts_eq_ok.mp h
      rw [← hparts, ← hsplit, List.intercalate_splitOn]
      exact ⟨rfl, hrest⟩
    · cases h
  · rintro ⟨rfl, hrest⟩
    rw [List.splitOn_intercalate slash (slash_notMem_renderParts pin) (List.cons_ne_nil _ _)]
    exact pinParts_eq_ok.mpr ⟨rfl, hrest⟩

/-- **A reference parses exactly to the target it renders**, with an effort of the vocabulary. -/
theorem parsePinnedReference_eq_ok {model : Text} {pin : PinnedTarget} :
    parsePinnedReference model = .ok pin ↔
      model = renderPinnedReference pin ∧ ∀ e ∈ pin.reasoningEffort, e ∈ reasoningEfforts := by
  unfold parsePinnedReference renderPinnedReference
  rw [check_bind_eq_ok]
  constructor
  · rintro ⟨⟨tail, rfl⟩, h⟩
    obtain ⟨⟨body, decisionId⟩, hcut, hbody⟩ := bind_eq_ok.mp h
    rw [List.drop_left] at hcut
    obtain ⟨rfl, rfl, heffort⟩ := pinBody_eq_ok.mp hbody
    obtain ⟨rfl, -⟩ := cutDecision_eq_ok.mp hcut
    exact ⟨rfl, heffort⟩
  · rintro ⟨rfl, heffort⟩
    refine ⟨List.prefix_append _ _, ?_⟩
    rw [List.drop_left, cutDecision_eq_ok.mpr ⟨rfl, fun _ => atSign_notMem_renderParts pin⟩,
      ok_bind]
    exact pinBody_eq_ok.mpr ⟨rfl, rfl, heffort⟩

/-- **The codec is exact.** The rendered reference of a target with no effort, or one of
    `REASONING_EFFORTS`, parses to that target; and a text that parses to a target is its
    rendering. -/
theorem pinnedReference_exact :
    (∀ pin : PinnedTarget, (∀ e ∈ pin.reasoningEffort, e ∈ reasoningEfforts) →
      parsePinnedReference (renderPinnedReference pin) = .ok pin) ∧
    ∀ model pin, parsePinnedReference model = .ok pin → renderPinnedReference pin = model :=
  ⟨fun _ heffort => parsePinnedReference_eq_ok.mpr ⟨rfl, heffort⟩,
    fun _ _ h => (parsePinnedReference_eq_ok.mp h).1.symm⟩

end ScarcityRouter
