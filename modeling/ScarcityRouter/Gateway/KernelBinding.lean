import ScarcityRouter.Gateway.BindingMerge
import ScarcityRouter.Gateway.KernelRequirements
import ScarcityRouter.Routing.ProfileFloors

namespace ScarcityRouter

open ScarcityRouter.Lib

/-!
# Binding a kernel declaration

`KernelRequirementInterpretation.bind`: an interpretation is bound to a route request.

* `kernelMember` — the merge of the bindings, with its own conflict rules.
* `KernelRequirementInterpretation.bind` — the checks, both merges and the new request.
* `TaskRequirement.UpheldBy`, `RequestBinding.UpheldBy` — as strong in every dimension.
* `KernelBinds` — what a bound request is.
* `kernelDeclaration_binds` — **a declaration binds only what was approved.**
-/

/-! ### The merge of the bindings -/

/-- One round of the loop over the declared members.  Both documents come from `to_dict`, so equal
    values are written with their members in the same order. -/
def kernelMember (current : Record) (item : Text × Json) : Except KernelRaised Record :=
  let (key, value) := item
  if (Text.ofString "requires_").isPrefixOf key then
    .ok (assign key (.bool ( entry? current key = some (.bool true) ∨ value = .bool true)) current)
  else if key = Text.ofString "minimum_input_context_tokens" then do
    let larger ← (maxCount (( entry? current key).getD value) value).mapError .config
    .ok (assign key larger current)
  else if key = Text.ofString "maximum_output_tokens" ∧
      ∃ held ∈ entry? current key, held ≠ value then
    .error (.applicationInput "Kernel output ceiling conflicts with the existing request")
  else if ∃ held ∈ entry? current key, held ≠ value then
    .error (.applicationInput "Kernel request conflicts with existing identity binding")
  else .ok (assign key value current)

/-! ### The binding -/

/-- `except SelectionContractError: raise ApplicationInputError(message)`. -/
def exceptSelectionContractError {α : Type} (message : String) (x : Except KernelRaised α) :
    Except KernelRaised α :=
  match x with
  | .ok a => .ok a
  | .error error => .error (if error.isSelectionContractError then .applicationInput message else error)

namespace KernelRequirementInterpretation

variable (i : KernelRequirementInterpretation)

/-- The refusal of an interpretation with problems. -/
def refusal : KernelRaised :=
  .applicationInput ("Kernel requirements refused: "
    ++ ", ".intercalate (i.problems.map KernelProblem.text))

/-- The route has the interpreted profile, in its version and its contents.  The one error of
    `resolve` is caught. -/
def sameProfile (route : RouteInputs) : Bool :=
  match i.profileId with
  | none => true
  | some profileId =>
    route.profilePolicyVersion.map (fun version => (version : ℤ)) = i.profilePolicyVersion &&
      match route.profiles.resolveText profileId with
      | .ok expansion => some expansion = i.profileExpansion
      | .error _ => false

/-- The declared requirement over the one of the route. -/
def tightened (own : Option TaskRequirement) (requirement : TaskRequirement) :
    Except KernelRaised TaskRequirement :=
  match own with
  | none => .ok requirement
  | some own => exceptSelectionContractError
      "Kernel requirements contradict existing requirement constraints"
      ((tightenRequirement own requirement).mapError .contract)

/-- The binding of an interpretation that has a requirement and a request. -/
def bindParts (requirement : TaskRequirement) (request : RequestBinding) (route : RouteRequest)
    (currentDeclarationDigest : Text) : Except KernelRaised RouteRequest := do
  check (i.problems = []) i.refusal
  check (currentDeclarationDigest = i.declarationDigest) (.applicationInput
    "Kernel requirement subject changed; obtain a fresh interpretation")
  check (i.sameProfile route.toRouteInputs = true) (.applicationInput
    "Kernel requirement profile changed; obtain a fresh interpretation")
  let taskRequirement ← tightened route.taskRequirement requirement
  let current ← request.toDict.foldlM kernelMember route.request.toDict
  let binding ← exceptSelectionContractError
    "Kernel request conflicts with the configured alias/identity binding"
    ((RequestBinding.fromDict (.object current)).mapError .config)
  exceptSelectionContractError
    "Kernel requirements conflict with the current profile/channel/output contract"
    ((RouteRequest.make { route.toRouteInputs with
      taskRequirement := some taskRequirement, request := binding }).mapError .contract)

/-- `KernelRequirementInterpretation.bind`. -/
def bind (route : RouteRequest) (currentDeclarationDigest : Text) :
    Except KernelRaised RouteRequest :=
  match i.requirement, i.request with
  | some requirement, some request =>
    i.bindParts requirement request route currentDeclarationDigest
  | _, _ => .error i.refusal

end KernelRequirementInterpretation

/-! ### As strong in every dimension -/

/-- Every demand of the requirement is met by the stronger one's. -/
def TaskRequirement.UpheldBy (weak strong : TaskRequirement) : Prop :=
  ∀ k : DemandKind, Upholds k.Below (weak.demand k) (strong.demand k)

/-- A member that a later binding keeps: the context minimum may rise, the others stay. -/
def BindingKey.Kept : (k : BindingKey) → k.Value → k.Value → Prop
  | .minimumInputContextTokens => fun (x y : ℕ+) => x ≤ y
  | .requiresToolCalls | .requiresStructuredOutput | .requiresStreaming
  | .requiresReasoningControls | .maximumOutputTokens | .profileAlias | .explicitModel
  | .explicitVariant | .pinnedTarget => fun x y => x = y

/-- Every member of the binding is kept by the stronger one. -/
def RequestBinding.UpheldBy (weak strong : RequestBinding) : Prop :=
  ∀ k : BindingKey, Upholds k.Kept (weak.member? k) (strong.member? k)

theorem TaskRequirement.UpheldBy.refl (r : TaskRequirement) : r.UpheldBy r := fun k =>
  Upholds.refl k.below_refl

theorem TaskRequirement.UpheldBy.trans {a b c : TaskRequirement} (hab : a.UpheldBy b)
    (hbc : b.UpheldBy c) : a.UpheldBy c := fun k => (hab k).trans k.below_trans (hbc k)

theorem BindingKey.kept_refl (k : BindingKey) (x : k.Value) : k.Kept x x := by
  cases k <;> first | rfl | exact le_refl (α := ℕ+) x

theorem BindingKey.kept_trans (k : BindingKey) {x y z : k.Value} (h : k.Kept x y)
    (h' : k.Kept y z) : k.Kept x z := by
  cases k <;> first | exact Eq.trans h h' | exact le_trans (α := ℕ+) h h'

theorem RequestBinding.UpheldBy.trans {a b c : RequestBinding} (hab : a.UpheldBy b)
    (hbc : b.UpheldBy c) : a.UpheldBy c := fun k => (hab k).trans k.kept_trans (hbc k)

section Joined

variable {base explicit strong : TaskRequirement} (h : TightensBase base explicit)

/-- A merged requirement is as strong as its base, -/
theorem upheldBy_joined_base : base.UpheldBy (joined base explicit h) := by
  intro k
  rw [joins_joined h k]
  exact Upholds.or_base k.below_refl (h.follows k)

/-- as strong as the explicit one, -/
theorem upheldBy_joined_explicit : explicit.UpheldBy (joined base explicit h) := by
  intro k
  rw [joins_joined h k]
  exact Upholds.or_later k.below_refl

/-- and no stronger than what is as strong as both. -/
theorem joined_upheldBy (hbase : base.UpheldBy strong) (hexplicit : explicit.UpheldBy strong) :
    (joined base explicit h).UpheldBy strong := by
  intro k
  rw [joins_joined h k]
  exact (hexplicit k).or (hbase k)

end Joined

/-! ### The merge of the bindings, member by member -/

/-- The value that a round of the loop leaves under its key. -/
def kernelValue (key : Text) (held : Option Json) (value : Json) : Except KernelRaised Json :=
  if (Text.ofString "requires_").isPrefixOf key then
    .ok (.bool (held = some (.bool true) ∨ value = .bool true))
  else if key = Text.ofString "minimum_input_context_tokens" then
    (maxCount (held.getD value) value).mapError .config
  else if key = Text.ofString "maximum_output_tokens" ∧ ∃ h ∈ held, h ≠ value then
    .error (.applicationInput "Kernel output ceiling conflicts with the existing request")
  else if ∃ h ∈ held, h ≠ value then
    .error (.applicationInput "Kernel request conflicts with existing identity binding")
  else .ok value

theorem kernelMember_eq (current : Record) (key : Text) (value : Json) :
    kernelMember current (key, value) =
      (assign key · current) <$> kernelValue key ( entry? current key) value := by
  unfold kernelMember kernelValue
  dsimp only
  split_ifs with hfeature hcontext hceiling hidentity
  · rfl
  · cases maxCount (( entry? current key).getD value) value <;> rfl
  · rfl
  · rfl
  · rfl

theorem foldlM_kernelMember (incoming current : Record) :
    incoming.foldlM kernelMember current = mergeEntries kernelValue current incoming := by
  have hround : kernelMember = fun (entries : Record) (entry : Text × Json) =>
      (assign entry.1 · entries) <$> kernelValue entry.1 ( entry? entries entry.1) entry.2 := by
    funext current item
    exact kernelMember_eq current item.1 item.2
  unfold mergeEntries
  rw [hround]

/-- What the loop makes of a held and a declared member. -/
def KernelMember : (k : BindingKey) → Option k.Value → k.Value → k.Value → Prop
  | .requiresToolCalls | .requiresStructuredOutput | .requiresStreaming
  | .requiresReasoningControls => fun _ _ _ => True
  | .minimumInputContextTokens => fun (held : Option ℕ+) (value x : ℕ+) =>
    some x = Option.merge max held (some value)
  | .maximumOutputTokens | .profileAlias | .explicitModel | .explicitVariant | .pinnedTarget =>
    fun held value x => x = value ∧ ∀ h ∈ held, h = value

/-- The error of an input of the application. -/
def IsApplicationInput (error : KernelRaised) : Prop :=
  ∃ message, error = .applicationInput message

theorem kernelValue_identity {k : BindingKey} (hkey : k = .maximumOutputTokens ∨
    k = .profileAlias ∨ k = .explicitModel ∨ k = .explicitVariant ∨ k = .pinnedTarget)
    (held : Option k.Value) (value : k.Value) :
    ((∀ h ∈ held, h = value) →
      kernelValue (Text.ofString k.text) (held.map k.json) (k.json value) = .ok (k.json value)) ∧
    ((¬ ∀ h ∈ held, h = value) → ∃ message,
      kernelValue (Text.ofString k.text) (held.map k.json) (k.json value)
        = .error (.applicationInput message)) := by
  have hfeature : (Text.ofString "requires_").isPrefixOf (Text.ofString k.text) = false := by
    rcases hkey with rfl | rfl | rfl | rfl | rfl <;> decide
  have hcontext : Text.ofString k.text ≠ Text.ofString "minimum_input_context_tokens" := by
    rcases hkey with rfl | rfl | rfl | rfl | rfl <;> decide
  unfold kernelValue
  rw [hfeature, if_neg Bool.false_ne_true, if_neg hcontext]
  constructor
  · intro h
    rw [if_neg fun hboth => exists_ne_json_iff.mp hboth.2 h,
      if_neg fun hdiffers => exists_ne_json_iff.mp hdiffers h]
  · intro h
    split_ifs with hceiling hidentity
    · exact ⟨_, rfl⟩
    · exact ⟨_, rfl⟩
    · exact absurd (exists_ne_json_iff.mpr h) hidentity

theorem kernelValue_feature {key : Text}
    (hkey : (Text.ofString "requires_").isPrefixOf key = true) (held : Option Json)
    (result : Json) : kernelValue key held (.bool true) = .ok result ↔ result = .bool true := by
  unfold kernelValue
  rw [if_pos hkey, Except.ok.injEq]
  simp [eq_comm]

theorem kernelValue_context (held : Option ℕ+) (value : ℕ+) :
    kernelValue (Text.ofString "minimum_input_context_tokens") (held.map countJson)
      (countJson value) = .ok (countJson (held.elim value (max · value))) := by
  unfold kernelValue
  rw [if_neg (by decide), if_pos rfl, maxCount_getD]
  rfl

/-- **What a round of the loop makes of a member.** -/
theorem kernelValue_eq_ok (k : BindingKey) (held : Option k.Value) (value : k.Value)
    (result : Json) :
    kernelValue (Text.ofString k.text) (held.map k.json) (k.json value) = .ok result ↔
      ∃ x, KernelMember k held value x ∧ result = k.json x := by
  have hidentity (hkey : k = .maximumOutputTokens ∨ k = .profileAlias ∨ k = .explicitModel ∨
      k = .explicitVariant ∨ k = .pinnedTarget) :
      kernelValue (Text.ofString k.text) (held.map k.json) (k.json value) = .ok result ↔
        ∃ x, (x = value ∧ ∀ h ∈ held, h = value) ∧ result = k.json x := by
    obtain ⟨hagree, hdiffer⟩ := kernelValue_identity hkey held value
    refine identity_eq_ok hagree fun h => ?_
    obtain ⟨message, herror⟩ := hdiffer h
    exact ⟨_, herror⟩
  cases k with
  | requiresToolCalls | requiresStructuredOutput | requiresStreaming
  | requiresReasoningControls =>
    exact (kernelValue_feature (by decide) _ result).trans
      ⟨fun h => ⟨(), trivial, h⟩, fun ⟨_, _, h⟩ => h⟩
  | minimumInputContextTokens =>
    exact largerCount_eq_ok (kernelValue_context held value)
  | maximumOutputTokens | profileAlias | explicitModel | explicitVariant | pinnedTarget =>
    exact hidentity (by decide)

/-- The loop raises errors of the application's input only. -/
theorem ends_kernelMerge (held incoming : RequestBinding) :
    Ends IsApplicationInput (fun _ => True)
      (mergeEntries kernelValue held.toDict incoming.toDict) := by
  refine ends_mergeEntries incoming.nodup_keys_toDict fun key value hvalue => ?_
  obtain ⟨name, hname, rfl⟩ := incoming.keysIn_toDict key
    (List.mem_map_of_mem (f := Prod.fst) ( mem_of_entry? hvalue))
  obtain ⟨k, rfl⟩ := BindingKey.exists_text hname
  have hget : (incoming.member? k).map k.json = some value :=
    (incoming.get?_toDict k).symm.trans hvalue
  obtain ⟨v, -, rfl⟩ := Option.map_eq_some_iff.mp hget
  rw [show entry? held.toDict (Text.ofString k.text) = _ from held.get?_toDict k]
  generalize held.member? k = held
  have hidentity (hkey : k = .maximumOutputTokens ∨ k = .profileAlias ∨ k = .explicitModel ∨
      k = .explicitVariant ∨ k = .pinnedTarget) : Ends IsApplicationInput (fun _ => True)
      (kernelValue (Text.ofString k.text) (held.map k.json) (k.json v)) := by
    obtain ⟨hagree, hdiffer⟩ := kernelValue_identity hkey held v
    by_cases h : ∀ x ∈ held, x = v
    · rw [hagree h]
      trivial
    · obtain ⟨message, herror⟩ := hdiffer h
      rw [herror]
      exact ⟨message, rfl⟩
  have hmerged (h : ∃ x, KernelMember k held v x) : Ends IsApplicationInput (fun _ => True)
      (kernelValue (Text.ofString k.text) (held.map k.json) (k.json v)) := by
    obtain ⟨x, hx⟩ := h
    rw [(kernelValue_eq_ok k held v _).mpr ⟨x, hx, rfl⟩]
    trivial
  cases k with
  | requiresToolCalls | requiresStructuredOutput | requiresStreaming
  | requiresReasoningControls => exact hmerged ⟨(), trivial⟩
  | minimumInputContextTokens =>
    refine hmerged ?_
    cases held with
    | none => exact ⟨v, rfl⟩
    | some h => exact ⟨max (α := ℕ+) h v, rfl⟩
  | maximumOutputTokens | profileAlias | explicitModel | explicitVariant | pinnedTarget =>
    exact hidentity (by decide)

/-- **A merged binding keeps the members of both.** -/
theorem kernelMerge_upheldBy {held incoming merged : RequestBinding}
    (h : ∀ k, MergesMember KernelMember k (held.member? k) (incoming.member? k)
      (merged.member? k)) : held.UpheldBy merged ∧ incoming.UpheldBy merged := by
  have hmember (k : BindingKey) : Upholds k.Kept (held.member? k) (merged.member? k) ∧
      Upholds k.Kept (incoming.member? k) (merged.member? k) := by
    have hk := h k
    generalize held.member? k = held, incoming.member? k = incoming,
      merged.member? k = merged at hk ⊢
    cases incoming with
    | none =>
      obtain rfl : merged = held := hk
      exact ⟨Upholds.refl k.kept_refl, Upholds.none⟩
    | some value =>
      obtain ⟨x, hx, rfl⟩ := hk
      suffices hkept : (∀ y ∈ held, k.Kept y x) ∧ k.Kept value x by
        refine ⟨fun y hy => ⟨x, rfl, hkept.1 y hy⟩, fun y hy => ⟨x, rfl, ?_⟩⟩
        rw [← Option.mem_some_iff.mp hy]
        exact hkept.2
      cases k with
      | requiresToolCalls | requiresStructuredOutput | requiresStreaming
      | requiresReasoningControls => exact ⟨fun _ _ => rfl, rfl⟩
      | minimumInputContextTokens =>
        cases held with
        | none =>
          obtain rfl := Option.some.inj hx
          exact ⟨nofun, le_refl (α := ℕ+) _⟩
        | some y =>
          obtain rfl := Option.some.inj hx
          refine ⟨fun z hz => ?_, le_max_right (α := ℕ+) _ _⟩
          rw [← Option.mem_some_iff.mp hz]
          exact le_max_left (α := ℕ+) _ _
      | maximumOutputTokens | profileAlias | explicitModel | explicitVariant | pinnedTarget =>
        obtain ⟨rfl, hagree⟩ := hx
        exact ⟨hagree, rfl⟩
  exact ⟨fun k => (hmember k).1, fun k => (hmember k).2⟩

/-! ### The new request -/

theorem raisesSelection_resolve (profiles : TaskProfileCatalog) (profileId : SafeId) :
    RaisesSelectionContract (profiles.resolve profileId) := by
  unfold TaskProfileCatalog.resolve
  split <;> trivial

theorem raisesSelection_rejectDuplicates {α : Type} [DecidableEq α] {xs : List α}
    {message : α → String} :
    RaisesSelectionContract (rejectDuplicates xs fun x => .routeContractValidation (message x)) := by
  unfold rejectDuplicates
  split <;> trivial

theorem raisesSelection_check {c : Prop} [Decidable c] {message : String} :
    RaisesSelectionContract (check c (.routeContractValidation message)) :=
  ends_check.mpr ⟨fun _ => trivial, fun _ => rfl⟩

theorem raisesSelection_resolveWith (i : RouteInputs) (request : RequestBinding) :
    RaisesSelectionContract (i.resolveWith request) := by
  refine RaisesSelectionContract.bind ?_ fun base _ => raisesSelection_tightenRequirement _ _
  unfold RouteInputs.baseRequirement
  split
  · trivial
  · trivial
  · exact raisesSelection_resolve _ _
  · exact (raisesSelection_resolve _ _).bind fun base _ => raisesSelection_tightenRequirement _ _

theorem raisesSelection_postInit (i : RouteInputs) : RaisesSelectionContract i.postInit := by
  refine RaisesSelectionContract.bind ?_ fun _ _ => ?_
  · iterate 2 refine raisesSelection_check.bind fun _ _ => ?_
    iterate 2 refine raisesSelection_rejectDuplicates.bind fun _ _ => ?_
    exact raisesSelection_check.bind fun _ _ => raisesSelection_check
  · split
    · trivial
    · refine RaisesSelectionContract.bind ?_ fun request _ => trivial
      refine RaisesSelectionContract.bind ?_ fun floor _ => ?_
      · unfold RouteInputs.profileContextFloor
        split
        · trivial
        · exact (raisesSelection_resolve _ _).bind fun base _ => trivial
      · refine (raisesSelection_resolveWith _ _).bind fun resolved _ => ?_
        exact raisesSelection_check.bind fun _ _ => raisesSelection_check.bind fun _ _ => trivial

/-- The constructor of a request raises errors of the contracts only. -/
theorem raisesSelection_make (inputs : RouteInputs) :
    RaisesSelectionContract (RouteRequest.make inputs) := by
  have hinit := raisesSelection_postInit inputs
  unfold RouteRequest.make
  split
  · trivial
  · rename_i error herror
    rw [herror] at hinit
    exact hinit

theorem upholds_of_orZero_le {a b : Option ℕ+} (h : orZero a ≤ orZero b) :
    Upholds (· ≤ ·) a b := by
  rintro x rfl
  cases b with
  | none => exact absurd h (not_le.mpr x.pos)
  | some y => exact ⟨y, rfl, h⟩

theorem follows_of_orZero_le {a b : Option ℕ+} (h : orZero a ≤ orZero b) :
    Follows (· ≤ ·) a b := by
  rintro e rfl x rfl
  exact h

theorem orZero_le_of_upholds {a b : Option ℕ+} (h : Upholds (· ≤ ·) a b) :
    orZero a ≤ orZero b := by
  cases a with
  | none => exact Nat.zero_le _
  | some x =>
    obtain ⟨y, rfl, hle⟩ := h x rfl
    exact hle

/-- A feature that is required stays required. -/
theorem upholds_demanded {r : Unit → Unit → Prop} (hr : ∀ x y, r x y) {x y : Bool}
    (h : x = true → y = true) : Upholds r (demanded x) (demanded y) := by
  cases x with
  | false => exact Upholds.none
  | true =>
    rw [h rfl]
    exact fun _ _ => ⟨(), rfl, hr _ _⟩

/-- **The constructor keeps the members of the binding**, and the binding it stores reaches the
    floors of the requirement. -/
theorem normalizeBinding_upheldBy {i : RouteInputs} {explicit : TaskRequirement}
    {request : RequestBinding} (h : i.normalizeBinding explicit = .ok request) :
    i.request.UpheldBy request ∧
      ∃ base, i.baseRequirement = .ok base ∧ ReachesFloors base request := by
  unfold RouteInputs.normalizeBinding at h
  obtain ⟨profileFloor, -, h⟩ := bind_eq_ok.mp h
  obtain ⟨resolved, hresolved, h⟩ := bind_eq_ok.mp h
  obtain ⟨-, h⟩ := check_bind_eq_ok.mp h
  obtain ⟨-, h⟩ := check_bind_eq_ok.mp h
  obtain rfl := Except.ok.inj h
  set floored := RouteInputs.withContext i.request (max
    (max (orZero i.request.minimumInputContextTokens)
      (orZero explicit.hardConstraints.minimumInputContextTokens)) profileFloor)
  have hfloored : orZero i.request.minimumInputContextTokens ≤
      orZero floored.minimumInputContextTokens := by
    have hle := le_trans (le_max_left (orZero i.request.minimumInputContextTokens)
      (orZero explicit.hardConstraints.minimumInputContextTokens)) (le_max_left _ profileFloor)
    rw [RouteInputs.orZero_withContext hle]
    exact hle
  have hcontext := @RouteInputs.orZero_withContext floored _ (le_max_left
    (orZero floored.minimumInputContextTokens)
    (orZero resolved.hardConstraints.minimumInputContextTokens))
  constructor
  · intro k
    cases k with
    | requiresToolCalls | requiresReasoningControls =>
      exact upholds_demanded (fun _ _ => rfl) fun hflag => Bool.or_eq_true_iff.mpr (.inl hflag)
    | minimumInputContextTokens =>
      refine upholds_of_orZero_le (hfloored.trans ?_)
      exact (le_max_left _ _).trans hcontext.ge
    | requiresStructuredOutput | requiresStreaming | maximumOutputTokens | profileAlias
    | explicitModel | explicitVariant | pinnedTarget => exact Upholds.refl fun _ => rfl
  · obtain ⟨base, hbase, htighten⟩ := bind_eq_ok.mp hresolved
    obtain ⟨ht, rfl⟩ := tightenRequirement_eq_ok.mp htighten
    refine ⟨base, hbase, follows_of_orZero_le ?_, (tightensBase_structural_iff.mp ht).2⟩
    -- The stored context is at least that of the resolved requirement.
    have hbaseLe := orZero_le_of_upholds (upheldBy_joined_base ht .inputContext)
    exact hbaseLe.trans ((le_max_right _ _).trans hcontext.ge)

/-- What replacing the requirement and the binding of a request makes. -/
theorem make_bound {route merged : RouteRequest} {requirement : TaskRequirement}
    {binding : RequestBinding}
    (h : RouteRequest.make { route.toRouteInputs with
      taskRequirement := some requirement, request := binding } = .ok merged) :
    merged.toRouteInputs = { route.toRouteInputs with
        taskRequirement := some requirement, request := merged.request } ∧
      binding.UpheldBy merged.request ∧
      ∃ base effective, merged.baseRequirement = .ok base ∧
        merged.resolveRequirement = .ok effective ∧ base.UpheldBy effective ∧
        (RouteInputs.structuralRequirement merged.request base.taskLevel).UpheldBy effective := by
  have hinit := RouteRequest.make_eq_ok.mp h
  unfold RouteInputs.postInit at hinit
  obtain ⟨-, -, hinit⟩ := bind_eq_ok.mp hinit
  obtain ⟨request, hnormal, hinit⟩ := bind_eq_ok.mp hinit
  have hreports : sortBy (·.provider) route.eligibilityReports = route.eligibilityReports :=
    sortBy_eq_self (route.valid.reports_sorted.imp le_of_lt)
  have hcells : sortBy (·.key) route.compatibilityCells = route.compatibilityCells :=
    sortBy_eq_self (route.valid.cells_sorted.imp le_of_lt)
  have hmerged : merged.toRouteInputs = { route.toRouteInputs with
      taskRequirement := some requirement, request } := by
    rw [← Except.ok.inj hinit]
    unfold RouteInputs.canonical
    dsimp only
    rw [hreports, hcells]
  obtain ⟨hkept, base, hbase, hfloors⟩ := normalizeBinding_upheldBy hnormal
  have hrequest : merged.request = request := congrArg RouteInputs.request hmerged
  have ht := tightensBase_structural_iff.mpr hfloors
  refine ⟨by rw [hrequest]; exact hmerged, by rw [hrequest]; exact hkept, base,
    joined base _ ht, ?_, ?_, upheldBy_joined_base ht, ?_⟩
  · rw [hmerged]
    exact hbase
  · unfold RouteInputs.resolveRequirement RouteInputs.resolveWith
    rw [hmerged]
    exact bind_eq_ok.mpr ⟨base, hbase, tightenRequirement_eq_ok.mpr ⟨ht, rfl⟩⟩
  · rw [hrequest]
    exact upheldBy_joined_explicit ht

/-! ### Requirements of the two requests -/

/-- The requirement of an unprofiled request is the weakest. -/
theorem minimalRequirement_upheldBy (r : TaskRequirement) :
    RouteInputs.minimalRequirement.UpheldBy r := by
  intro k
  cases k with
  | level =>
    intro x hx
    obtain rfl : TaskLevel.l0 = x := Option.some.inj hx
    exact ⟨r.taskLevel, rfl, Nat.zero_le _⟩
  | minimum d => cases d <;> exact Upholds.none
  | inputContext | output | toolUse | vision | reasoningMode | provider | model | variant
  | privacy => exact Upholds.none

/-- Kept members demand no less. -/
theorem structuralRequirement_upheldBy {weak strong : RequestBinding} {low high : TaskLevel}
    (h : weak.UpheldBy strong) (hlevel : low.index ≤ high.index) :
    (RouteInputs.structuralRequirement weak low).UpheldBy
      (RouteInputs.structuralRequirement strong high) := by
  intro k
  cases k with
  | level =>
    intro x hx
    obtain rfl : low = x := Option.some.inj hx
    exact ⟨high, rfl, hlevel⟩
  | inputContext => exact h .minimumInputContextTokens
  | output =>
    intro x hx
    obtain ⟨y, hy, rfl⟩ := h .maximumOutputTokens x hx
    exact ⟨x, hy, le_refl (α := ℕ+) x⟩
  | toolUse => exact h .requiresToolCalls
  | reasoningMode => exact h .requiresReasoningControls
  | minimum d => cases d <;> exact Upholds.none
  | vision | provider | model | variant | privacy => exact Upholds.none

section Bases

variable {i : RouteInputs} {requirement base : TaskRequirement} {binding : RequestBinding}
  (h : ({ i with taskRequirement := some requirement, request := binding } :
    RouteInputs).baseRequirement = .ok base)
include h

/-- The base requirement is as strong as the explicit one. -/
theorem explicit_upheldBy_base : requirement.UpheldBy base := by
  unfold RouteInputs.baseRequirement at h
  dsimp only at h
  cases hprofile : i.routingProfile with
  | none =>
    rw [hprofile] at h
    obtain rfl := Except.ok.inj h
    exact .refl _
  | some profile =>
    rw [hprofile] at h
    obtain ⟨profileBase, -, htighten⟩ := bind_eq_ok.mp h
    obtain ⟨ht, rfl⟩ := tightenRequirement_eq_ok.mp htighten
    exact upheldBy_joined_explicit ht

/-- It is as strong as the base of the request before, if the explicit requirement is. -/
theorem base_upheldBy_base (hown : ∀ own ∈ i.taskRequirement, own.UpheldBy requirement)
    {before : TaskRequirement} (hbefore : i.baseRequirement = .ok before) :
    before.UpheldBy base := by
  have hexplicit := explicit_upheldBy_base h
  unfold RouteInputs.baseRequirement at h hbefore
  dsimp only at h
  cases hprofile : i.routingProfile with
  | none =>
    rw [hprofile] at hbefore
    cases htask : i.taskRequirement with
    | none =>
      rw [htask] at hbefore
      obtain rfl := Except.ok.inj hbefore
      exact minimalRequirement_upheldBy base
    | some own =>
      rw [htask] at hbefore
      obtain rfl := Except.ok.inj hbefore
      exact (hown own htask).trans hexplicit
  | some profile =>
    rw [hprofile] at h hbefore
    obtain ⟨profileBase, hresolve, htighten⟩ := bind_eq_ok.mp h
    obtain ⟨ht, rfl⟩ := tightenRequirement_eq_ok.mp htighten
    cases htask : i.taskRequirement with
    | none =>
      rw [htask] at hbefore
      obtain rfl := Except.ok.inj (hbefore.symm.trans hresolve)
      exact upheldBy_joined_base ht
    | some own =>
      rw [htask] at hbefore
      obtain ⟨profileBase', hresolve', htighten'⟩ := bind_eq_ok.mp hbefore
      obtain rfl := Except.ok.inj (hresolve.symm.trans hresolve')
      obtain ⟨ht', rfl⟩ := tightenRequirement_eq_ok.mp htighten'
      exact joined_upheldBy ht' (upheldBy_joined_base ht) ((hown own htask).trans hexplicit)

end Bases

/-! ### What a bound request is -/

/-- **A bound request**: its requirement and its binding are as strong as the route's and the
    declaration's in every dimension, and nothing else differs from the route. -/
structure KernelBinds (i : KernelRequirementInterpretation) (route merged : RouteRequest) :
    Prop where
  requirement : ∃ effective, merged.resolveRequirement = .ok effective ∧
    (∀ declared ∈ i.requirement, declared.UpheldBy effective) ∧
    (∀ base, route.baseRequirement = .ok base → base.UpheldBy effective) ∧
    ∀ own, route.resolveRequirement = .ok own → own.UpheldBy effective
  binding : route.request.UpheldBy merged.request ∧
    ∀ declared ∈ i.request, declared.UpheldBy merged.request
  unchanged : ∃ requirement, merged.toRouteInputs = { route.toRouteInputs with
    taskRequirement := some requirement, request := merged.request }

namespace KernelRequirementInterpretation

variable {i : KernelRequirementInterpretation} {route merged : RouteRequest} {digest : Text}

/-- The profile that was interpreted has another policy version or other contents now. -/
def ProfileChanged (i : KernelRequirementInterpretation) (route : RouteRequest) : Prop :=
  ∃ profileId ∈ i.profileId,
    route.profilePolicyVersion.map (fun version => (version : ℤ)) ≠ i.profilePolicyVersion ∨
      ∀ expansion, route.profiles.resolveText profileId = .ok expansion →
        some expansion ≠ i.profileExpansion

theorem not_profileChanged (h : i.sameProfile route.toRouteInputs = true) :
    ¬ i.ProfileChanged route := by
  rintro ⟨profileId, hprofile, hchanged⟩
  unfold sameProfile at h
  rw [Option.mem_def.mp hprofile] at h
  dsimp only at h
  rw [Bool.and_eq_true, decide_eq_true_eq] at h
  rcases hchanged with hversion | hcontents
  · exact hversion h.1
  · cases hresolve : route.profiles.resolveText profileId with
    | error error =>
      rw [hresolve] at h
      exact absurd h.2 Bool.false_ne_true
    | ok expansion =>
      rw [hresolve] at h
      exact hcontents expansion hresolve (of_decide_eq_true h.2)

theorem exceptSelectionContractError_eq_ok {α : Type} {message : String}
    {x : Except KernelRaised α} {a : α} :
    exceptSelectionContractError message x = .ok a ↔ x = .ok a := by
  unfold exceptSelectionContractError
  cases x <;> simp

theorem ends_exceptSelectionContractError {α : Type} {message : String}
    {x : Except KernelRaised α}
    (h : Ends (fun error => error.isSelectionContractError = true) (fun _ => True) x) :
    Ends IsApplicationInput (fun _ => True) (exceptSelectionContractError message x) := by
  cases x with
  | ok a => trivial
  | error error => exact ⟨message, if_pos h⟩

theorem ends_mapError_contract {α : Type} {x : Except ContractError α}
    (h : RaisesSelectionContract x) :
    Ends (fun error => error.isSelectionContractError = true) (fun _ => True)
      (x.mapError KernelRaised.contract) := by
  cases x with
  | ok a => trivial
  | error error => exact h

theorem ends_mapError_config {α : Type} {x : Except ConfigDocument.ConfigRaised α}
    (h : RaisesContract x) :
    Ends (fun error => error.isSelectionContractError = true) (fun _ => True)
      (x.mapError KernelRaised.config) := by
  cases x with
  | ok a => trivial
  | error error =>
    cases error with
    | raised error =>
      obtain ⟨fault, rfl⟩ := h
      rfl
    | routeContractValidation fault => rfl

/-- **Every refusal is an error of the application's input.** -/
theorem ends_bind (i : KernelRequirementInterpretation) (route : RouteRequest) (digest : Text) :
    Ends IsApplicationInput (fun _ => True) (i.bind route digest) := by
  have hrefusal : IsApplicationInput i.refusal := ⟨_, rfl⟩
  unfold bind
  split
  · rename_i requirement request _ _
    unfold bindParts
    refine ends_bind_and.mpr ⟨ends_check.mpr ⟨fun _ => trivial, fun _ => hrefusal⟩, fun _ _ => ?_⟩
    refine ends_bind_and.mpr ⟨ends_check.mpr ⟨fun _ => trivial, fun _ => ⟨_, rfl⟩⟩, fun _ _ => ?_⟩
    refine ends_bind_and.mpr ⟨ends_check.mpr ⟨fun _ => trivial, fun _ => ⟨_, rfl⟩⟩, fun _ _ => ?_⟩
    refine ends_bind_and.mpr ⟨?_, fun tightened _ => ?_⟩
    · unfold tightened
      split
      · trivial
      · exact ends_exceptSelectionContractError
          (ends_mapError_contract (raisesSelection_tightenRequirement _ _))
    rw [foldlM_kernelMember]
    refine ends_bind_and.mpr ⟨ends_kernelMerge _ _, fun current _ => ?_⟩
    refine ends_bind_and.mpr ⟨?_, fun binding _ => ?_⟩
    · exact ends_exceptSelectionContractError
        (ends_mapError_config (raisesContract_requestBinding _))
    · exact ends_exceptSelectionContractError (ends_mapError_contract (raisesSelection_make _))
  · exact hrefusal

/-- **A bound request**, and what it was bound under. -/
theorem kernelBinds_of_bind (h : i.bind route digest = .ok merged) :
    KernelBinds i route merged ∧ digest = i.declarationDigest ∧
      i.sameProfile route.toRouteInputs = true := by
  unfold bind at h
  split at h
  · rename_i requirement request hrequirement hrequest
    unfold bindParts at h
    obtain ⟨-, h⟩ := check_bind_eq_ok.mp h
    obtain ⟨hdigest, h⟩ := check_bind_eq_ok.mp h
    obtain ⟨hprofile, h⟩ := check_bind_eq_ok.mp h
    obtain ⟨explicit, hexplicit, h⟩ := bind_eq_ok.mp h
    obtain ⟨current, hcurrent, h⟩ := bind_eq_ok.mp h
    obtain ⟨binding, hbinding, h⟩ := bind_eq_ok.mp h
    have hmake := mapError_eq_ok.mp (exceptSelectionContractError_eq_ok.mp h)
    have hread := mapError_eq_ok.mp (exceptSelectionContractError_eq_ok.mp hbinding)
    rw [foldlM_kernelMember] at hcurrent
    have hmembers := (mergeEntries_fromDict_iff kernelValue_eq_ok).mp ⟨current, hcurrent, hread⟩
    obtain ⟨hrouteKept, hdeclaredKept⟩ := kernelMerge_upheldBy hmembers
    obtain ⟨hmerged, hkept, base, effective, hbase, heffective, hbaseUp, hstructural⟩ :=
      make_bound hmake
    -- The explicit requirement is as strong as the declared one and as the route's own.
    have hexplicitUp : requirement.UpheldBy explicit ∧
        ∀ own ∈ route.taskRequirement, own.UpheldBy explicit := by
      unfold tightened at hexplicit
      split at hexplicit
      · rename_i hown
        obtain rfl := Except.ok.inj hexplicit
        exact ⟨.refl _, fun own hmem => absurd (hown.symm.trans hmem) nofun⟩
      · rename_i own hown
        have htighten := mapError_eq_ok.mp (exceptSelectionContractError_eq_ok.mp hexplicit)
        obtain ⟨ht, rfl⟩ := tightenRequirement_eq_ok.mp htighten
        refine ⟨upheldBy_joined_explicit ht, fun own' hmem => ?_⟩
        obtain rfl := Option.some.inj (hown.symm.trans hmem)
        exact upheldBy_joined_base ht
    rw [hmerged] at hbase
    have hbefore {before : TaskRequirement} (hbefore : route.baseRequirement = .ok before) :
        before.UpheldBy base := base_upheldBy_base hbase hexplicitUp.2 hbefore
    refine ⟨⟨⟨effective, heffective, fun declared hdeclared => ?_, fun before hbefore' =>
      (hbefore hbefore').trans hbaseUp, fun own hown => ?_⟩, ⟨hrouteKept.trans hkept,
      fun declared hdeclared => ?_⟩, ⟨explicit, hmerged⟩⟩, hdigest, hprofile⟩
    · obtain rfl := Option.some.inj (hrequirement.symm.trans hdeclared)
      exact (hexplicitUp.1.trans (explicit_upheldBy_base hbase)).trans hbaseUp
    · obtain ⟨before, hbefore', htighten⟩ := bind_eq_ok.mp hown
      obtain ⟨ht, rfl⟩ := tightenRequirement_eq_ok.mp htighten
      have hup := hbefore hbefore'
      obtain ⟨level, hlevel, hle⟩ := hup .level before.taskLevel rfl
      obtain rfl : base.taskLevel = level := Option.some.inj hlevel
      exact joined_upheldBy ht (hup.trans hbaseUp)
        ((structuralRequirement_upheldBy (hrouteKept.trans hkept) hle).trans hstructural)
    · obtain rfl := Option.some.inj (hrequest.symm.trans hdeclared)
      exact hdeclaredKept.trans hkept
  · cases h

end KernelRequirementInterpretation

/-- A declaration that asks for tool calls is bound to a request that names only a context. -/
example : (KernelRequirementInterpretation.bind
    ⟨[], some ⟨.l2, {}, {}⟩, some { requiresToolCalls := true }, [], none, none, none⟩
    (readerRequest 300000) []).isOk = true := by
  decide +kernel

/-- **A declaration binds only what was approved.**  Every declaration within the byte bound is
    interpreted; what can be bound comes from an exact document without unknowns and context.  A
    binding either refuses the application's input, and always when the declaration or its profile
    changed, or makes a request that is as strong as the route and the declaration. -/
theorem kernelDeclaration_binds [KernelReadings] :
    (∀ (declaration : Bytes) (profiles : TaskProfileCatalog) (version : Option ℤ),
      declaration.length ≤ 262144 →
        ∃ i, interpretKernelDeclaration declaration profiles version = .ok i ∧
          (i.Bindable → ∃ text fields, decodeDeclaration declaration = .ok text ∧
            loadStrictJson text = .ok (.object fields) ∧ DeclaresExactly fields)) ∧
    ∀ (i : KernelRequirementInterpretation) (route : RouteRequest) (digest : Text),
      ((∃ message, i.bind route digest = .error (.applicationInput message)) ∨
        ∃ merged, i.bind route digest = .ok merged ∧ KernelBinds i route merged) ∧
      (digest ≠ i.declarationDigest ∨ i.ProfileChanged route →
        ∃ message, i.bind route digest = .error (.applicationInput message)) := by
  refine ⟨interpretKernelDeclaration_total, fun i route digest => ?_⟩
  have hends := KernelRequirementInterpretation.ends_bind i route digest
  cases hbind : i.bind route digest with
  | error error =>
    rw [hbind] at hends
    obtain ⟨message, rfl⟩ := hends
    exact ⟨.inl ⟨message, rfl⟩, fun _ => ⟨message, rfl⟩⟩
  | ok merged =>
    obtain ⟨hbinds, hdigest, hprofile⟩ :=
      KernelRequirementInterpretation.kernelBinds_of_bind hbind
    refine ⟨.inr ⟨merged, rfl, hbinds⟩, fun hchanged => ?_⟩
    rcases hchanged with hdiffers | hchanged
    · exact absurd hdigest hdiffers
    · exact absurd hchanged (KernelRequirementInterpretation.not_profileChanged hprofile)

end ScarcityRouter
