import ScarcityRouter.Gateway.BindingDocuments
import ScarcityRouter.Lib.JsonEquality

namespace ScarcityRouter

open ScarcityRouter.Lib
open ConfigDocument (ConfigRaised)

/-!
# Merging bindings

`merge_binding` of `executable_contract.py`: a retained binding is merged into the one of the
request, key by key of their documents.

* `mergeMember`, `mergeBinding` — the loop, over documents.
* `MergesMember`, `mergeEntries_members` — what a merge of two binding documents leaves of each
  member, for any rule that treats them one by one.
* `mergeBinding_eq_ok` — `merge_binding`, member by member.
* `MergeConflict`, `Binds` — when nothing satisfies both bindings, and what binds both.
* `mergeBinding_sound` — **the merge is sound and monotone**: it raises on the conflicts and on
  nothing else, requires what either requires, and merging again changes nothing.
-/

/-! ### The loop -/

/-- `raise ValueError`. -/
def bareValueError : ConfigRaised := .raised (.value (.stated ""))

/-- A comparison of values that are no numbers, which no binding document has here. -/
def unorderedTypes : ConfigRaised :=
  .raised (.type (.stated "'>' not supported between instances"))

/-- `max(cast(int, x), cast(int, y))`. -/
def maxCount : Json → Json → Except ConfigRaised Json
  | .int x, .int y => .ok (.int (max x y))
  | _, _ => .error unorderedTypes

/-- One round of the loop of `merge_binding`.  Both documents come from `to_dict`, so equal values
    are written with their members in the same order. -/
def mergeMember (current : Record) (item : Text × Json) : Except ConfigRaised Record :=
  let (key, value) := item
  if (Text.ofString "requires_").isPrefixOf key then
    .ok (assign key (.bool ( entry? current key = some (.bool true) ∨ value = .bool true)) current)
  else if key = Text.ofString "minimum_input_context_tokens" then do
    let larger ← maxCount (( entry? current key).getD value) value
    .ok (assign key larger current)
  else if key = Text.ofString "maximum_output_tokens" then
    match entry? current key, value with
    | some (.int supplied), .int ceiling =>
      if supplied > ceiling then .error bareValueError else .ok current
    | some (.int _), _ => .error unorderedTypes
    | _, _ => .error bareValueError
  else
    match entry? current key with
    | some held => if held ≠ value then .error bareValueError else .ok (assign key value current)
    | none => .ok (assign key value current)

/-- `merge_binding`. -/
def mergeBinding (retained actual : RequestBinding) : Except ConfigRaised RequestBinding := do
  let current ← retained.toDict.foldlM mergeMember actual.toDict
  RequestBinding.fromDict (.object current)

/-! ### Merges of documents -/

/-- What a merge leaves of one member: what is held, or what the rule makes of both. -/
def MergesMember (rule : (k : BindingKey) → Option k.Value → k.Value → k.Value → Prop)
    (k : BindingKey) (held incoming result : Option k.Value) : Prop :=
  match incoming with
  | none => result = held
  | some value => ∃ x, rule k held value x ∧ result = some x

section Documents

variable {ε : Type} {rule : Text → Option Json → Json → Except ε Json}
  {typed : (k : BindingKey) → Option k.Value → k.Value → k.Value → Prop}
  (hrule : ∀ (k : BindingKey) (held : Option k.Value) (value : k.Value) (result : Json),
    rule (Text.ofString k.text) (held.map k.json) (k.json value) = .ok result ↔
      ∃ x, typed k held value x ∧ result = k.json x)
  {held incoming : RequestBinding}
include hrule

/-- A merge of binding documents returns exactly when each member can be merged. -/
theorem returns_mergeEntries_members :
    Returns (mergeEntries rule held.toDict incoming.toDict) ↔
      ∀ k : BindingKey, ∀ value ∈ incoming.member? k, ∃ x, typed k (held.member? k) value x := by
  rw [returns_mergeEntries incoming.nodup_keys_toDict]
  constructor
  · intro h k value hvalue
    have hget : entry? incoming.toDict (Text.ofString k.text) = some (k.json value) := by
      have hmember := incoming.get?_toDict k
      rw [Option.mem_def.mp hvalue] at hmember
      exact hmember
    obtain ⟨result, hresult⟩ := h _ _ hget
    rw [show entry? held.toDict (Text.ofString k.text) = _ from held.get?_toDict k] at hresult
    obtain ⟨x, hx, -⟩ := (hrule k _ _ _).mp hresult
    exact ⟨x, hx⟩
  · intro h key value hvalue
    obtain ⟨name, hname, rfl⟩ := incoming.keysIn_toDict key
      (List.mem_map_of_mem (f := Prod.fst) ( mem_of_entry? hvalue))
    obtain ⟨k, rfl⟩ := BindingKey.exists_text hname
    have hget : (incoming.member? k).map k.json = some value :=
      (incoming.get?_toDict k).symm.trans hvalue
    obtain ⟨v, hv, rfl⟩ := Option.map_eq_some_iff.mp hget
    obtain ⟨x, hx⟩ := h k v hv
    rw [show entry? held.toDict (Text.ofString k.text) = _ from held.get?_toDict k]
    exact ⟨_, (hrule k _ _ _).mpr ⟨x, hx, rfl⟩⟩

/-- **A merged document holds merged members.** -/
theorem mergeEntries_members {record : Record}
    (h : mergeEntries rule held.toDict incoming.toDict = .ok record) :
    record.KeysIn requestBindingKeys ∧ ∀ k : BindingKey, ∃ member : Option k.Value,
      MergesMember typed k (held.member? k) (incoming.member? k) member ∧
      record.get? k.text = member.map k.json := by
  constructor
  · intro key hkey
    rcases keys_mergeEntries h hkey with hheld | hincoming
    · exact held.keysIn_toDict key hheld
    · exact incoming.keysIn_toDict key hincoming
  · intro k
    have hspec := mergeEntries_spec incoming.nodup_keys_toDict h (Text.ofString k.text)
    rw [show entry? held.toDict (Text.ofString k.text) = _ from held.get?_toDict k,
      show entry? incoming.toDict (Text.ofString k.text) = _ from incoming.get?_toDict k] at hspec
    cases hvalue : incoming.member? k with
    | none =>
      rw [hvalue] at hspec
      refine ⟨held.member? k, rfl, ?_⟩
      generalize hfound : entry? record (Text.ofString k.text) = found at hspec
      cases hspec
      exact hfound
    | some value =>
      rw [hvalue] at hspec
      generalize hfound : entry? record (Text.ofString k.text) = found at hspec
      cases hspec with
      | ruled hresult =>
        obtain ⟨x, hx, rfl⟩ := (hrule k _ _ _).mp hresult
        exact ⟨some x, ⟨x, hx, rfl⟩, hfound⟩

/-- A merged document is read as a binding exactly when its members are the merged ones. -/
theorem mergeEntries_fromDict_iff {merged : RequestBinding} :
    (∃ record, mergeEntries rule held.toDict incoming.toDict = .ok record ∧
      RequestBinding.fromDict (.object record) = .ok merged) ↔
    ∀ k, MergesMember typed k (held.member? k) (incoming.member? k) (merged.member? k) := by
  constructor
  · rintro ⟨record, hmerge, hread⟩ k
    obtain ⟨hkeys, hmembers⟩ := mergeEntries_members hrule hmerge
    choose members hmerges hget using hmembers
    rw [(RequestBinding.fromDict_eq_ok hkeys hget).mp hread k]
    exact hmerges k
  · intro h
    obtain ⟨record, hmerge⟩ : Returns (mergeEntries rule held.toDict incoming.toDict) := by
      refine (returns_mergeEntries_members hrule).mpr fun k value hvalue => ?_
      have hk := h k
      rw [Option.mem_def.mp hvalue] at hk
      obtain ⟨x, hx, -⟩ := hk
      exact ⟨x, hx⟩
    obtain ⟨hkeys, hmembers⟩ := mergeEntries_members hrule hmerge
    refine ⟨record, hmerge, (RequestBinding.fromDict_eq_ok hkeys fun k => ?_).mpr fun _ => rfl⟩
    obtain ⟨member, hmember, hget⟩ := hmembers k
    have hk := h k
    rw [hget]
    -- Both values come from the same round of the loop.
    cases hvalue : incoming.member? k with
    | none =>
      rw [hvalue] at hmember hk
      rw [show member = _ from hmember, show merged.member? k = _ from hk]
    | some value =>
      rw [hvalue] at hmember hk
      obtain ⟨x, hx, rfl⟩ := hmember
      obtain ⟨y, hy, hmerged⟩ := hk
      have hsame := ((hrule k _ _ _).mpr ⟨x, hx, rfl⟩).symm.trans ((hrule k _ _ _).mpr ⟨y, hy, rfl⟩)
      rw [hmerged]
      exact congrArg some (Except.ok.inj hsame)

end Documents

/-! ### `merge_binding`, member by member -/

/-- The value that a round of `merge_binding` leaves under its key. -/
def mergedValue (key : Text) (held : Option Json) (value : Json) : Except ConfigRaised Json :=
  if (Text.ofString "requires_").isPrefixOf key then
    .ok (.bool (held = some (.bool true) ∨ value = .bool true))
  else if key = Text.ofString "minimum_input_context_tokens" then
    maxCount (held.getD value) value
  else if key = Text.ofString "maximum_output_tokens" then
    match held, value with
    | some (.int supplied), .int ceiling =>
      if supplied > ceiling then .error bareValueError else .ok (.int supplied)
    | some (.int _), _ => .error unorderedTypes
    | _, _ => .error bareValueError
  else
    match held with
    | some held => if held ≠ value then .error bareValueError else .ok value
    | none => .ok value

/-- A round assigns its value; the ceiling of the request stays as it is. -/
theorem mergeMember_eq (current : Record) (key : Text) (value : Json) :
    mergeMember current (key, value) =
      (assign key · current) <$> mergedValue key ( entry? current key) value := by
  unfold mergeMember mergedValue
  dsimp only
  split_ifs with hfeature hcontext hceiling
  · rfl
  · cases maxCount (( entry? current key).getD value) value <;> rfl
  · cases hheld : entry? current key with
    | none => rfl
    | some held =>
      cases held with
      | int supplied =>
        cases value with
        | int ceiling =>
          dsimp only
          split_ifs
          · rfl
          · exact congrArg Except.ok ( assign_of_entry? hheld).symm
        | null | bool _ | float _ | string _ | list _ | object _ => rfl
      | null | bool _ | float _ | string _ | list _ | object _ => rfl
  · cases entry? current key with
    | none => rfl
    | some held =>
      dsimp only
      split_ifs <;> rfl

theorem mergeBinding_eq (retained actual : RequestBinding) :
    mergeBinding retained actual =
      mergeEntries mergedValue actual.toDict retained.toDict >>= fun current =>
        RequestBinding.fromDict (.object current) := by
  have hround : mergeMember = fun (entries : Record) (entry : Text × Json) =>
      (assign entry.1 · entries) <$> mergedValue entry.1 ( entry? entries entry.1) entry.2 := by
    funext current item
    exact mergeMember_eq current item.1 item.2
  unfold mergeBinding mergeEntries
  rw [hround]

/-- What `merge_binding` makes of a held and a retained member. -/
def BindsMember : (k : BindingKey) → Option k.Value → k.Value → k.Value → Prop
  | .requiresToolCalls | .requiresStructuredOutput | .requiresStreaming
  | .requiresReasoningControls => fun _ _ _ => True
  | .minimumInputContextTokens => fun (held : Option ℕ+) (value x : ℕ+) =>
    some x = Option.merge max held (some value)
  | .maximumOutputTokens => fun (held : Option ℕ+) (value x : ℕ+) => held = some x ∧ x ≤ value
  | .profileAlias | .explicitModel | .explicitVariant | .pinnedTarget => fun held value x =>
    x = value ∧ ∀ h ∈ held, h = value

section Rules

variable {ε : Type} {k : BindingKey} {held : Option k.Value} {value : k.Value} {result : Json}
  {x : Except ε Json}

theorem exists_ne_json_iff :
    (∃ h ∈ held.map k.json, h ≠ k.json value) ↔ ¬ ∀ h ∈ held, h = value := by
  simp [k.json_injective.eq_iff]

/-- A rule that refuses a value that is not the held one. -/
theorem identity_eq_ok (hagree : (∀ h ∈ held, h = value) → x = .ok (k.json value))
    (hdiffer : (¬ ∀ h ∈ held, h = value) → ∃ error, x = .error error) :
    x = .ok result ↔ ∃ y, (y = value ∧ ∀ h ∈ held, h = value) ∧ result = k.json y := by
  by_cases h : ∀ y ∈ held, y = value
  · rw [hagree h, Except.ok.injEq]
    constructor
    · intro hresult
      exact ⟨value, ⟨rfl, h⟩, hresult.symm⟩
    · rintro ⟨y, ⟨rfl, -⟩, hresult⟩
      exact hresult.symm
  · obtain ⟨error, herror⟩ := hdiffer h
    rw [herror]
    constructor
    · intro hresult
      cases hresult
    · rintro ⟨y, ⟨-, hy⟩, -⟩
      exact absurd hy h

/-- A rule that keeps the larger count. -/
theorem largerCount_eq_ok {held : Option ℕ+} {value : ℕ+}
    (h : x = .ok (countJson (held.elim value (max · value)))) :
    x = .ok result ↔
      ∃ y, some y = Option.merge max held (some value) ∧ result = countJson y := by
  rw [h, Except.ok.injEq]
  cases held with
  | none => simp [Option.merge, eq_comm]
  | some h => simp [Option.merge, eq_comm]

end Rules

/-- A value that is not the held one is refused, and the held one is kept. -/
theorem mergedValue_identity {k : BindingKey} (hkey : k = .profileAlias ∨ k = .explicitModel ∨
    k = .explicitVariant ∨ k = .pinnedTarget) (held : Option Json) (value : Json) :
    mergedValue (Text.ofString k.text) held value =
      if ∃ h ∈ held, h ≠ value then .error bareValueError else .ok value := by
  have hbranch : mergedValue (Text.ofString k.text) held value = match held with
      | some held => if held ≠ value then .error bareValueError else .ok value
      | none => .ok value := by
    unfold mergedValue
    rcases hkey with rfl | rfl | rfl | rfl <;>
      rw [if_neg (by decide), if_neg (by decide), if_neg (by decide)]
  rw [hbranch]
  cases held <;> simp

theorem mergedValue_feature {key : Text} (hkey : (Text.ofString "requires_").isPrefixOf key = true)
    (held : Option Json) (result : Json) :
    mergedValue key held (.bool true) = .ok result ↔ result = .bool true := by
  unfold mergedValue
  rw [if_pos hkey, Except.ok.injEq]
  simp [eq_comm]

theorem maxCount_json (a b : ℕ+) :
    maxCount (countJson a) (countJson b) = .ok (countJson (max a b)) := by
  show Except.ok (Json.int (max _ _)) = Except.ok (Json.int _)
  rcases le_total a b with h | h
  · rw [max_eq_right h, max_eq_right (by exact_mod_cast h)]
  · rw [max_eq_left h, max_eq_left (by exact_mod_cast h)]

/-- The larger count, when only one may be held. -/
theorem maxCount_getD (held : Option ℕ+) (value : ℕ+) :
    maxCount ((held.map countJson).getD (countJson value)) (countJson value) =
      .ok (countJson (held.elim value (max · value))) := by
  cases held with
  | none => exact (maxCount_json value value).trans (by rw [max_self]; rfl)
  | some h => exact maxCount_json h value

theorem mergedValue_context (held : Option ℕ+) (value : ℕ+) (result : Json) :
    mergedValue (Text.ofString "minimum_input_context_tokens") (held.map countJson)
        (countJson value) = .ok result ↔
      ∃ x, some x = Option.merge max held (some value) ∧ result = countJson x := by
  refine largerCount_eq_ok ?_
  unfold mergedValue
  rw [if_neg (by decide), if_pos rfl]
  exact maxCount_getD held value

theorem mergedValue_ceiling (held : Option ℕ+) (value : ℕ+) (result : Json) :
    mergedValue (Text.ofString "maximum_output_tokens") (held.map countJson) (countJson value)
        = .ok result ↔
      ∃ x, (held = some x ∧ x ≤ value) ∧ result = countJson x := by
  unfold mergedValue
  rw [if_neg (by decide), if_neg (by decide), if_pos rfl]
  cases held with
  | none =>
    constructor
    · intro h
      cases h
    · rintro ⟨x, ⟨h, -⟩, -⟩
      cases h
  | some supplied =>
    show (if (supplied : ℤ) > (value : ℤ) then Except.error bareValueError
      else Except.ok (countJson supplied)) = Except.ok result ↔ _
    by_cases h : supplied ≤ value
    · rw [if_neg (not_lt.mpr (by exact_mod_cast h)), Except.ok.injEq]
      constructor
      · intro hresult
        exact ⟨supplied, ⟨rfl, h⟩, hresult.symm⟩
      · rintro ⟨x, ⟨hx, -⟩, hresult⟩
        rw [hresult, Option.some.inj hx]
    · rw [if_pos (not_le.mp fun hle => h (by exact_mod_cast hle))]
      constructor
      · intro hresult
        cases hresult
      · rintro ⟨x, ⟨hx, hle⟩, -⟩
        rw [Option.some.inj hx] at h
        exact absurd hle h

/-- **What a round of `merge_binding` makes of a member.** -/
theorem mergedValue_eq_ok (k : BindingKey) (held : Option k.Value) (value : k.Value)
    (result : Json) :
    mergedValue (Text.ofString k.text) (held.map k.json) (k.json value) = .ok result ↔
      ∃ x, BindsMember k held value x ∧ result = k.json x := by
  have hidentity (hkey : k = .profileAlias ∨ k = .explicitModel ∨ k = .explicitVariant ∨
      k = .pinnedTarget) :
      mergedValue (Text.ofString k.text) (held.map k.json) (k.json value) = .ok result ↔
        ∃ x, (x = value ∧ ∀ h ∈ held, h = value) ∧ result = k.json x := by
    rw [mergedValue_identity hkey]
    exact identity_eq_ok (fun h => if_neg fun hdiffers => exists_ne_json_iff.mp hdiffers h)
      fun h => ⟨_, if_pos (exists_ne_json_iff.mpr h)⟩
  cases k with
  | requiresToolCalls | requiresStructuredOutput | requiresStreaming
  | requiresReasoningControls =>
    exact (mergedValue_feature (by decide) _ result).trans
      ⟨fun h => ⟨(), trivial, h⟩, fun ⟨_, _, h⟩ => h⟩
  | minimumInputContextTokens => exact mergedValue_context held value result
  | maximumOutputTokens => exact mergedValue_ceiling held value result
  | profileAlias | explicitModel | explicitVariant | pinnedTarget =>
    exact hidentity (by decide)

/-- `merge_binding` returns the binding whose members are the merged ones. -/
theorem mergeBinding_eq_ok {retained actual merged : RequestBinding} :
    mergeBinding retained actual = .ok merged ↔ ∀ k, MergesMember BindsMember k
      (actual.member? k) (retained.member? k) (merged.member? k) := by
  rw [mergeBinding_eq, bind_eq_ok]
  exact mergeEntries_fromDict_iff mergedValue_eq_ok

/-- What was merged is merged again without a change. -/
theorem MergesMember.again {k : BindingKey} {held incoming result : Option k.Value}
    (h : MergesMember BindsMember k held incoming result) :
    MergesMember BindsMember k result incoming result := by
  cases incoming with
  | none => rfl
  | some value =>
    obtain ⟨x, hx, rfl⟩ := h
    refine ⟨x, ?_, rfl⟩
    cases k with
    | requiresToolCalls | requiresStructuredOutput | requiresStreaming
    | requiresReasoningControls => trivial
    | minimumInputContextTokens =>
      have hle : @LE.le ℕ+ _ value x := by
        cases held with
        | none => exact le_of_eq (Option.some.inj hx).symm
        | some h => exact (Option.some.inj hx).symm ▸ le_max_right _ _
      exact congrArg some (max_eq_left hle).symm
    | maximumOutputTokens => exact ⟨rfl, hx.2⟩
    | profileAlias | explicitModel | explicitVariant | pinnedTarget =>
      exact ⟨hx.1, fun h hmem => (Option.mem_some_iff.mp hmem).symm.trans hx.1⟩

/-- A member is merged with itself. -/
theorem mergesMember_self (k : BindingKey) (held : Option k.Value) :
    MergesMember BindsMember k held held held := by
  cases held with
  | none => rfl
  | some value =>
    refine ⟨value, ?_, rfl⟩
    cases k with
    | requiresToolCalls | requiresStructuredOutput | requiresStreaming
    | requiresReasoningControls => trivial
    | minimumInputContextTokens => exact congrArg some (max_self _).symm
    | maximumOutputTokens => exact ⟨rfl, le_refl _⟩
    | profileAlias | explicitModel | explicitVariant | pinnedTarget =>
      exact ⟨rfl, fun h hmem => (Option.mem_some_iff.mp hmem).symm⟩

/-! ### What binds both -/

/-- Nothing satisfies both bindings: an identity differs, the retained ceiling is not met, or the
    two together name both an alias and an explicit model. -/
inductive MergeConflict (retained actual : RequestBinding) : Prop
  | profileAlias (r a : SafeId) (hr : retained.profileAlias = some r)
      (ha : actual.profileAlias = some a) (h : r ≠ a)
  | explicitModel (r a : ModelRef) (hr : retained.explicitModel = some r)
      (ha : actual.explicitModel = some a) (h : r ≠ a)
  | explicitVariant (r a : SafeId) (hr : retained.explicitVariant = some r)
      (ha : actual.explicitVariant = some a) (h : r ≠ a)
  | pinnedTarget (r a : PinnedTarget) (hr : retained.pinnedTarget = some r)
      (ha : actual.pinnedTarget = some a) (h : r ≠ a)
  | outputCeiling (ceiling : ℕ+) (hr : retained.maximumOutputTokens = some ceiling)
      (h : ∀ supplied ∈ actual.maximumOutputTokens, ceiling < supplied)
  | twoReadings (halias : (retained.profileAlias.or actual.profileAlias).isSome = true)
      (hmodel : (retained.explicitModel.or actual.explicitModel).isSome = true)

/-- The binding that requires what either requires, under the ceiling of the request. -/
structure Binds (retained actual merged : RequestBinding) : Prop where
  toolCalls : merged.requiresToolCalls = (retained.requiresToolCalls || actual.requiresToolCalls)
  structuredOutput : merged.requiresStructuredOutput =
    (retained.requiresStructuredOutput || actual.requiresStructuredOutput)
  streaming : merged.requiresStreaming = (retained.requiresStreaming || actual.requiresStreaming)
  reasoningControls : merged.requiresReasoningControls =
    (retained.requiresReasoningControls || actual.requiresReasoningControls)
  context : merged.minimumInputContextTokens =
    Option.merge max actual.minimumInputContextTokens retained.minimumInputContextTokens
  outputCeiling : merged.maximumOutputTokens = actual.maximumOutputTokens
  profileAlias : merged.profileAlias = retained.profileAlias.or actual.profileAlias
  explicitModel : merged.explicitModel = retained.explicitModel.or actual.explicitModel
  explicitVariant : merged.explicitVariant = retained.explicitVariant.or actual.explicitVariant
  pinnedTarget : merged.pinnedTarget = retained.pinnedTarget.or actual.pinnedTarget

section Members

variable {rule : (k : BindingKey) → Option k.Value → k.Value → k.Value → Prop} {k : BindingKey}

/-- A feature is merged into what either side requires. -/
theorem mergesFlag_iff {f : RequestBinding → Bool} (hunit : k.Value = Unit)
    (hrule : ∀ held value x, rule k held value x)
    (hflag : ∀ b : RequestBinding, (b.member? k).isSome = f b)
    {incoming held merged : RequestBinding} :
    MergesMember rule k (held.member? k) (incoming.member? k) (merged.member? k) ↔
      f merged = (f incoming || f held) := by
  have hsame : ∀ x y : k.Value, x = y := by
    rw [hunit]
    exact fun _ _ => rfl
  rw [← hflag, ← hflag, ← hflag]
  generalize incoming.member? k = incoming, held.member? k = held, merged.member? k = merged
  cases incoming with
  | none =>
    show merged = held ↔ merged.isSome = held.isSome
    constructor
    · rintro rfl
      rfl
    · intro h
      cases merged <;> cases held <;> first | exact congrArg some (hsame _ _) | rfl | cases h
  | some value =>
    constructor
    · rintro ⟨x, -, rfl⟩
      rfl
    · intro h
      obtain ⟨x, rfl⟩ := Option.isSome_iff_exists.mp h
      exact ⟨x, hrule _ value x, rfl⟩

/-- A value that may not change is merged into that of either side, if they do not differ. -/
theorem mergesIdentity_iff
    (hrule : ∀ held value x, rule k held value x ↔ x = value ∧ ∀ h ∈ held, h = value)
    {held incoming result : Option k.Value} :
    MergesMember rule k held incoming result ↔
      result = incoming.or held ∧ ∀ r ∈ incoming, ∀ a ∈ held, a = r := by
  cases incoming with
  | none => exact ⟨fun h => ⟨h, nofun⟩, fun h => h.1⟩
  | some value =>
    constructor
    · rintro ⟨x, hx, rfl⟩
      obtain ⟨rfl, h⟩ := (hrule held value x).mp hx
      refine ⟨rfl, fun r hr => ?_⟩
      rwa [← Option.mem_some_iff.mp hr]
    · rintro ⟨rfl, h⟩
      exact ⟨value, (hrule held value value).mpr ⟨rfl, h value rfl⟩, rfl⟩

end Members

@[simp] theorem isSome_demanded (required : Bool) : (demanded required).isSome = required := by
  cases required <;> rfl

theorem mergesContext_iff {held incoming result : Option ℕ+} :
    MergesMember BindsMember .minimumInputContextTokens held incoming result ↔
      result = Option.merge max held incoming := by
  cases incoming with
  | none => cases held <;> exact Iff.rfl
  | some value =>
    constructor
    · rintro ⟨x, hx, rfl⟩
      exact hx
    · intro h
      cases held with
      | none => exact ⟨value, rfl, h⟩
      | some held => exact ⟨_, rfl, h⟩

theorem mergesCeiling_iff {held incoming result : Option ℕ+} :
    MergesMember BindsMember .maximumOutputTokens held incoming result ↔
      result = held ∧ ∀ ceiling ∈ incoming, ∃ x ∈ held, x ≤ ceiling := by
  cases incoming with
  | none => exact ⟨fun h => ⟨h, nofun⟩, fun h => h.1⟩
  | some value =>
    constructor
    · rintro ⟨x, ⟨rfl, hle⟩, rfl⟩
      refine ⟨rfl, fun ceiling hc => ⟨x, rfl, ?_⟩⟩
      rwa [← Option.mem_some_iff.mp hc]
    · rintro ⟨rfl, h⟩
      obtain ⟨x, hx, hle⟩ := h value rfl
      exact ⟨x, ⟨hx, hle⟩, hx⟩

/-- The features of a merged binding are those that either side requires. -/
theorem bindsFlags_iff (retained actual merged : RequestBinding) :
    let merges k := MergesMember BindsMember k (actual.member? k) (retained.member? k)
      (merged.member? k)
    (merges .requiresToolCalls ↔
        merged.requiresToolCalls = (retained.requiresToolCalls || actual.requiresToolCalls)) ∧
      (merges .requiresStructuredOutput ↔ merged.requiresStructuredOutput =
        (retained.requiresStructuredOutput || actual.requiresStructuredOutput)) ∧
      (merges .requiresStreaming ↔
        merged.requiresStreaming = (retained.requiresStreaming || actual.requiresStreaming)) ∧
      (merges .requiresReasoningControls ↔ merged.requiresReasoningControls =
        (retained.requiresReasoningControls || actual.requiresReasoningControls)) := by
  exact ⟨mergesFlag_iff (k := .requiresToolCalls) (f := (·.requiresToolCalls)) rfl
      (fun _ _ _ => trivial) fun _ => isSome_demanded _,
    mergesFlag_iff (k := .requiresStructuredOutput) (f := (·.requiresStructuredOutput)) rfl
      (fun _ _ _ => trivial) fun _ => isSome_demanded _,
    mergesFlag_iff (k := .requiresStreaming) (f := (·.requiresStreaming)) rfl
      (fun _ _ _ => trivial) fun _ => isSome_demanded _,
    mergesFlag_iff (k := .requiresReasoningControls) (f := (·.requiresReasoningControls)) rfl
      (fun _ _ _ => trivial) fun _ => isSome_demanded _⟩

/-- **`merge_binding` returns what binds both**, unless nothing does. -/
theorem mergeBinding_eq_ok_iff {retained actual merged : RequestBinding} :
    mergeBinding retained actual = .ok merged ↔
      ¬ MergeConflict retained actual ∧ Binds retained actual merged := by
  rw [mergeBinding_eq_ok]
  obtain ⟨htools, hstructured, hstreaming, hcontrols⟩ := bindsFlags_iff retained actual merged
  constructor
  · intro h
    have halias := (mergesIdentity_iff fun _ _ _ => Iff.rfl).mp (h .profileAlias)
    have hmodel := (mergesIdentity_iff fun _ _ _ => Iff.rfl).mp (h .explicitModel)
    have hvariant := (mergesIdentity_iff fun _ _ _ => Iff.rfl).mp (h .explicitVariant)
    have hpin := (mergesIdentity_iff fun _ _ _ => Iff.rfl).mp (h .pinnedTarget)
    have hceiling := mergesCeiling_iff.mp (h .maximumOutputTokens)
    refine ⟨fun hconflict => ?_, ?_⟩
    · cases hconflict with
      | profileAlias r a hr ha hne => exact hne (halias.2 r hr a ha).symm
      | explicitModel r a hr ha hne => exact hne (hmodel.2 r hr a ha).symm
      | explicitVariant r a hr ha hne => exact hne (hvariant.2 r hr a ha).symm
      | pinnedTarget r a hr ha hne => exact hne (hpin.2 r hr a ha).symm
      | outputCeiling ceiling hr hlarger =>
        obtain ⟨x, hx, hle⟩ := hceiling.2 ceiling hr
        exact absurd (hlarger x hx) (not_lt.mpr hle)
      | twoReadings hsome hsome' =>
        have hheld : merged.profileAlias.isSome = true := (congrArg Option.isSome halias.1).trans hsome
        have hnone := (congrArg Option.isSome hmodel.1).trans hsome'
        rw [show merged.member? .explicitModel = none from merged.exclusive hheld] at hnone
        cases hnone
    · exact ⟨htools.mp (h _), hstructured.mp (h _), hstreaming.mp (h _), hcontrols.mp (h _),
        mergesContext_iff.mp (h .minimumInputContextTokens), hceiling.1, halias.1, hmodel.1,
        hvariant.1, hpin.1⟩
  · rintro ⟨hno, h⟩ k
    cases k with
    | requiresToolCalls => exact htools.mpr h.toolCalls
    | requiresStructuredOutput => exact hstructured.mpr h.structuredOutput
    | requiresStreaming => exact hstreaming.mpr h.streaming
    | requiresReasoningControls => exact hcontrols.mpr h.reasoningControls
    | minimumInputContextTokens => exact mergesContext_iff.mpr h.context
    | maximumOutputTokens =>
      refine mergesCeiling_iff.mpr ⟨h.outputCeiling, fun ceiling hr => ?_⟩
      by_contra hnone
      refine hno (.outputCeiling ceiling hr fun x hx => ?_)
      exact lt_of_not_ge fun hle => hnone ⟨x, hx, hle⟩
    | profileAlias =>
      refine (mergesIdentity_iff fun _ _ _ => Iff.rfl).mpr ⟨h.profileAlias, fun r hr a ha => ?_⟩
      by_contra hne
      exact hno (.profileAlias r a hr ha (Ne.symm hne))
    | explicitModel =>
      refine (mergesIdentity_iff fun _ _ _ => Iff.rfl).mpr ⟨h.explicitModel, fun r hr a ha => ?_⟩
      by_contra hne
      exact hno (.explicitModel r a hr ha (Ne.symm hne))
    | explicitVariant =>
      refine (mergesIdentity_iff fun _ _ _ => Iff.rfl).mpr ⟨h.explicitVariant, fun r hr a ha => ?_⟩
      by_contra hne
      exact hno (.explicitVariant r a hr ha (Ne.symm hne))
    | pinnedTarget =>
      refine (mergesIdentity_iff fun _ _ _ => Iff.rfl).mpr ⟨h.pinnedTarget, fun r hr a ha => ?_⟩
      by_contra hne
      exact hno (.pinnedTarget r a hr ha (Ne.symm hne))

/-- Two bindings without a conflict have a binding that binds both. -/
theorem exists_binds {retained actual : RequestBinding} (h : ¬ MergeConflict retained actual) :
    ∃ merged, Binds retained actual merged := by
  have hexclusive : (retained.profileAlias.or actual.profileAlias).isSome = true →
      retained.explicitModel.or actual.explicitModel = none := by
    intro halias
    by_contra hmodel
    exact h (.twoReadings halias (Option.isSome_iff_ne_none.mpr hmodel))
  exact ⟨⟨_, _, _, _, _, _, _, _, _, _, hexclusive⟩, rfl, rfl, rfl, rfl, rfl, rfl, rfl, rfl, rfl,
    rfl⟩

/-- **The merge of a retained binding into the request's is sound and monotone**: it raises exactly
    on a conflict, binds both otherwise, and merging the same binding again changes nothing. -/
theorem mergeBinding_sound (retained actual : RequestBinding) :
    ((∃ error, mergeBinding retained actual = .error error) ↔ MergeConflict retained actual) ∧
      (∀ merged, mergeBinding retained actual = .ok merged →
        Binds retained actual merged ∧ mergeBinding retained merged = .ok merged) ∧
      mergeBinding retained retained = .ok retained := by
  refine ⟨⟨?_, ?_⟩, fun merged h => ⟨(mergeBinding_eq_ok_iff.mp h).2, ?_⟩, ?_⟩
  · rintro ⟨error, herror⟩
    by_contra hno
    obtain ⟨merged, hbinds⟩ := exists_binds hno
    rw [mergeBinding_eq_ok_iff.mpr ⟨hno, hbinds⟩] at herror
    cases herror
  · intro hconflict
    cases hmerge : mergeBinding retained actual with
    | error error => exact ⟨error, rfl⟩
    | ok merged => exact absurd hconflict (mergeBinding_eq_ok_iff.mp hmerge).1
  · exact mergeBinding_eq_ok.mpr fun k => (mergeBinding_eq_ok.mp h k).again
  · exact mergeBinding_eq_ok.mpr fun k => mergesMember_self k _

end ScarcityRouter
