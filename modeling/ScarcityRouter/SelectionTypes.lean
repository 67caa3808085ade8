import ScarcityRouter.Ident

namespace ScarcityRouter

open ScarcityRouter.Lib

/-!
# Task requirements and the model catalog

The selection-input contracts of `selection_types.py`.  Each record carries the checks of its
`__post_init__` as proof fields, so that only valid values exist.

* `ModelIdentity`, `identityKey` — the catalog identity and its sort key.
* `TaskRequirement` — task level, six capability minima, nine hard constraints.
* `TaskProfileCatalog.resolve` — exact lookup of a calibrated profile.
* `ModelCatalogEntry`, `ModelCatalog` — calibrated configurations and their container.

Evidence references, review dates and display metadata other than the display name are read by
no modelled function and are left out.
-/

/-! ### Identities -/

/-- A typed required-model constraint. -/
structure ModelRef where
  provider : SafeId
  model : SafeId
  deriving DecidableEq

/-- The stable catalog identity `provider + model + variant`. -/
structure ModelIdentity where
  provider : SafeId
  model : SafeId
  variant : SafeId
  deriving DecidableEq

/-- The sort key of identities: lexicographic in provider, model and variant. -/
abbrev IdentityKey := SafeId ×ₗ SafeId ×ₗ SafeId

/-- `_identity_key`. -/
def identityKey (identity : ModelIdentity) : IdentityKey :=
  toLex (identity.provider, toLex (identity.model, identity.variant))

theorem identityKey_injective : Function.Injective identityKey := by
  rintro ⟨p, m, v⟩ ⟨p', m', v'⟩ h
  simp only [identityKey, EmbeddingLike.apply_eq_iff_eq, Prod.mk.injEq] at h
  obtain ⟨rfl, rfl, rfl⟩ := h
  rfl

/-- The tuple rendering of an identity key in errors. -/
def ModelIdentity.repr (identity : ModelIdentity) : String :=
  "(" ++ identity.provider.repr ++ ", " ++ identity.model.repr ++ ", " ++ identity.variant.repr
    ++ ")"

/-- Reference to one semantic capacity scope. -/
structure CapacityScopeRef where
  provider : SafeId
  scopeId : SafeId
  deriving DecidableEq

/-- The sort key of capacity scopes. -/
def CapacityScopeRef.key (scope : CapacityScopeRef) : SafeId ×ₗ SafeId :=
  toLex (scope.provider, scope.scopeId)

/-! ### Ordinal vocabularies -/

/-- `TASK_LEVELS`. -/
inductive TaskLevel where
  | l0 | l1 | l2 | l3 | l4 | l5
  deriving DecidableEq, Repr

/-- `TASK_LEVELS.index`. -/
def TaskLevel.index : TaskLevel → ℕ
  | .l0 => 0 | .l1 => 1 | .l2 => 2 | .l3 => 3 | .l4 => 4 | .l5 => 5

def TaskLevel.text : TaskLevel → String
  | .l0 => "L0" | .l1 => "L1" | .l2 => "L2" | .l3 => "L3" | .l4 => "L4" | .l5 => "L5"

/-- `REASONING_EFFORTS`, low to high. -/
inductive ReasoningEffort where
  | none | low | medium | high | xhigh | max | ultra
  deriving DecidableEq, Repr

/-- `REASONING_EFFORTS.index`. -/
def ReasoningEffort.index : ReasoningEffort → ℕ
  | .none => 0 | .low => 1 | .medium => 2 | .high => 3 | .xhigh => 4 | .max => 5 | .ultra => 6

/-- The serialized effort; pins carry it as an arbitrary safe identifier. -/
def ReasoningEffort.text : ReasoningEffort → SafeId
  | .none => .lit "none"
  | .low => .lit "low"
  | .medium => .lit "medium"
  | .high => .lit "high"
  | .xhigh => .lit "xhigh"
  | .max => .lit "max"
  | .ultra => .lit "ultra"

/-- A rating on the frozen ordinal scale. -/
structure Rating where
  val : ℕ
  one_le : 1 ≤ val
  le_five : val ≤ 5
  deriving DecidableEq

/-! ### Task requirement -/

/-- `CAPABILITY_DIMENSIONS`. -/
inductive CapabilityDimension where
  | reasoning
  | coding
  | scientificMethodological
  | writingEditorial
  | toolUse
  | translationMultilingual
  deriving DecidableEq, Repr

/-- The dimensions in the order of `_minima_items`. -/
def CapabilityDimension.all : List CapabilityDimension :=
  [.reasoning, .coding, .scientificMethodological, .writingEditorial, .toolUse,
    .translationMultilingual]

theorem CapabilityDimension.mem_all (d : CapabilityDimension) : d ∈ all := by
  cases d <;> decide

def CapabilityDimension.text : CapabilityDimension → String
  | .reasoning => "reasoning"
  | .coding => "coding"
  | .scientificMethodological => "scientific_methodological"
  | .writingEditorial => "writing_editorial"
  | .toolUse => "tool_use"
  | .translationMultilingual => "translation_multilingual"

/-- Fixed six-dimension task minima; `none` means no minimum on the dimension. -/
structure CapabilityMinima where
  reasoning : Option Rating := none
  coding : Option Rating := none
  scientificMethodological : Option Rating := none
  writingEditorial : Option Rating := none
  toolUse : Option Rating := none
  translationMultilingual : Option Rating := none
  deriving DecidableEq

/-- The minimum of one dimension, as `_minima_items` pairs them. -/
def CapabilityMinima.get (m : CapabilityMinima) : CapabilityDimension → Option Rating
  | .reasoning => m.reasoning
  | .coding => m.coding
  | .scientificMethodological => m.scientificMethodological
  | .writingEditorial => m.writingEditorial
  | .toolUse => m.toolUse
  | .translationMultilingual => m.translationMultilingual

/-- `required_provider` and `required_model.provider` agree when both are supplied. -/
def providersAgree : Option SafeId → Option ModelRef → Bool
  | some provider, some ref => ref.provider == provider
  | _, _ => true

/-- The frozen nine-member hard-constraint vocabulary. -/
structure HardConstraints where
  minimumInputContextTokens : Option ℕ+ := none
  minimumOutputTokens : Option ℕ+ := none
  requiresToolUse : Bool := false
  requiresVision : Bool := false
  requiresReasoningMode : Bool := false
  requiredProvider : Option SafeId := none
  requiredModel : Option ModelRef := none
  requiredVariant : Option SafeId := none
  privacyConstraint : Option SafeId := none
  providers_agree : providersAgree requiredProvider requiredModel = true := by exact Eq.refl true
  deriving DecidableEq

/-- A resolved task requirement. -/
structure TaskRequirement where
  taskLevel : TaskLevel
  capabilityMinima : CapabilityMinima
  hardConstraints : HardConstraints
  deriving DecidableEq

/-! ### Calibrated task profiles -/

/-- One calibrated, named task profile. -/
structure TaskProfileDefinition where
  profileId : SafeId
  requirement : TaskRequirement
  deriving DecidableEq

theorem noProfiles_sorted :
    ([] : List TaskProfileDefinition).Pairwise fun a b => a.profileId < b.profileId := .nil

/-- The container of calibrated profiles, stored sorted by unique profile id. -/
structure TaskProfileCatalog where
  definitions : List TaskProfileDefinition
  sorted : definitions.Pairwise fun a b => a.profileId < b.profileId
  deriving DecidableEq

/-- `TaskProfileCatalog.resolve`: exact lookup by profile id. -/
def TaskProfileCatalog.resolve (profiles : TaskProfileCatalog) (profileId : SafeId) :
    Except ContractError TaskRequirement :=
  match profiles.definitions.find? (·.profileId == profileId) with
  | some definition => .ok definition.requirement
  | none => .error (.selectionContractValidation
      ("task_profile_catalog.resolve: unknown profile id " ++ profileId.repr))

/-! ### Model catalog values -/

theorem unknownIds_sorted : ((none : Option (List SafeId)).getD []).Pairwise (· < ·) := .nil

/-- Tri-state model hard properties: `none` means unknown, never `false`. -/
structure ModelHardProperties where
  inputContextTokens : Option ℕ+ := none
  outputTokens : Option ℕ+ := none
  supportsToolUse : Option Bool := none
  supportsVision : Option Bool := none
  supportsReasoningMode : Option Bool := none
  /-- Canonical: sorted without duplicates. -/
  privacyTags : Option (List SafeId) := none
  tags_sorted : (privacyTags.getD []).Pairwise (· < ·) := by
    first | exact unknownIds_sorted | decide
  deriving DecidableEq

theorem noOverride_known : (none : Option Rating).isSome = true →
    (none : Option Rating).isSome = true := id

/-- One dimension's capability assessment; an override requires a known base rating. -/
structure CapabilityAssessment where
  rating : Option Rating := none
  humanOverride : Option Rating := none
  override_known : humanOverride.isSome = true → rating.isSome = true := by
    first | exact noOverride_known | decide
  deriving DecidableEq

/-- `effective_rating`: the override's rating when present, otherwise the assessed rating. -/
def CapabilityAssessment.effectiveRating (a : CapabilityAssessment) : Option Rating :=
  match a.humanOverride with
  | some r => some r
  | none => a.rating

/-- The six dimension assessments of one configuration. -/
structure CapabilityAssessments where
  reasoning : CapabilityAssessment := {}
  coding : CapabilityAssessment := {}
  scientificMethodological : CapabilityAssessment := {}
  writingEditorial : CapabilityAssessment := {}
  toolUse : CapabilityAssessment := {}
  translationMultilingual : CapabilityAssessment := {}
  deriving DecidableEq

/-- The assessment of one dimension, as `_assessment_items` pairs them. -/
def CapabilityAssessments.get (c : CapabilityAssessments) :
    CapabilityDimension → CapabilityAssessment
  | .reasoning => c.reasoning
  | .coding => c.coding
  | .scientificMethodological => c.scientificMethodological
  | .writingEditorial => c.writingEditorial
  | .toolUse => c.toolUse
  | .translationMultilingual => c.translationMultilingual

/-- Known capacity bindings are non-empty, duplicate free and of the model's own provider. -/
def BindingsValid (provider : SafeId) (bindings : List CapacityScopeRef) : Prop :=
  bindings ≠ [] ∧ bindings.Nodup ∧ ∀ b ∈ bindings, b.provider = provider

instance (provider : SafeId) (bindings : List CapacityScopeRef) :
    Decidable (BindingsValid provider bindings) :=
  inferInstanceAs (Decidable (_ ∧ _ ∧ _))

/-- The per-resource bindings of a resource are valid and sorted. -/
def ResourceBindingsValid (provider : SafeId) (scopes : List CapacityScopeRef) : Prop :=
  scopes ≠ [] ∧ scopes.Pairwise (fun a b => a.key < b.key) ∧ ∀ b ∈ scopes, b.provider = provider

instance (provider : SafeId) (scopes : List CapacityScopeRef) :
    Decidable (ResourceBindingsValid provider scopes) :=
  inferInstanceAs (Decidable (_ ∧ _ ∧ _))

theorem ResourceBindingsValid.bindingsValid {provider : SafeId} {scopes : List CapacityScopeRef}
    (h : ResourceBindingsValid provider scopes) : BindingsValid provider scopes :=
  ⟨h.1, h.2.1.imp fun hab heq => absurd (heq ▸ hab) (lt_irrefl _), h.2.2⟩

theorem noEffort_iff : ({} : ModelHardProperties).supportsReasoningMode = some true ↔
    (none : Option ReasoningEffort).isSome = true := by decide

theorem noResourceBindings_sorted :
    (([] : List (SafeId × List CapacityScopeRef)).map Prod.fst).Pairwise (· < ·) := .nil

theorem noResourceBindings_evidenced : ∀ b ∈ ([] : List (SafeId × List CapacityScopeRef)),
    b.1 ∈ (none : Option (List SafeId)).getD [] := fun _ hb => nomatch hb

/-- One invocation identity and its explicitly evidenced properties. -/
structure ModelCatalogEntry where
  identity : ModelIdentity
  displayName : String
  hardProperties : ModelHardProperties := {}
  capabilities : CapabilityAssessments := {}
  /-- `none` means unknown applicability, never "consumes no quota". -/
  capacityBindings : Option (List CapacityScopeRef) := none
  reasoningEffort : Option ReasoningEffort := none
  capacityBindingResources : Option (List SafeId) := none
  resourceCapacityBindings : List (SafeId × List CapacityScopeRef) := []
  name_nonempty : displayName ≠ "" := by decide
  /-- Known reasoning support requires an effort, and nothing else may carry one. -/
  effort_iff : hardProperties.supportsReasoningMode = some true ↔ reasoningEffort.isSome = true := by
    first | exact noEffort_iff | decide
  bindings_valid : ∀ b ∈ capacityBindings, BindingsValid identity.provider b := by decide
  resources_sorted : (capacityBindingResources.getD []).Pairwise (· < ·) := by
    first | exact unknownIds_sorted | decide
  resource_bindings_sorted : (resourceCapacityBindings.map Prod.fst).Pairwise (· < ·) := by
    first | exact noResourceBindings_sorted | decide
  resource_bindings_valid :
    ∀ b ∈ resourceCapacityBindings, ResourceBindingsValid identity.provider b.2 := by decide
  /-- Each per-resource binding has exact source identity evidence. -/
  resource_bindings_evidenced :
    ∀ b ∈ resourceCapacityBindings, b.1 ∈ capacityBindingResources.getD [] := by
    first | exact noResourceBindings_evidenced | decide
  deriving DecidableEq

/-- The display name of the sample entries. -/
theorem atlas_named : "Atlas" ≠ "" := by decide

theorem openai_unbound : ∀ b ∈ ([] : List (SafeId × List CapacityScopeRef)),
    ResourceBindingsValid (.lit "openai") b.2 := fun _ hb => nomatch hb

theorem openai_shared : ∀ b ∈ some [(⟨.lit "openai", .lit "shared"⟩ : CapacityScopeRef)],
    BindingsValid (.lit "openai") b := by decide +kernel

/-- `dict(entry.resource_capacity_bindings).get(resource_id)`. -/
def ModelCatalogEntry.resourceBindings (entry : ModelCatalogEntry) (resourceId : SafeId) :
    Option (List CapacityScopeRef) :=
  (entry.resourceCapacityBindings.find? (·.1 == resourceId)).map Prod.snd

theorem ModelCatalogEntry.resourceBindings_valid (entry : ModelCatalogEntry)
    (resourceId : SafeId) :
    ∀ b ∈ entry.resourceBindings resourceId, BindingsValid entry.identity.provider b := by
  intro b hb
  obtain ⟨p, hp, rfl⟩ := Option.map_eq_some_iff.mp (Option.mem_def.mp hb)
  exact (entry.resource_bindings_valid p (List.mem_of_find?_eq_some hp)).bindingsValid

/-- The model-catalog container: unique identities, and a release date exactly for a
    calibrated version (a runtime inventory has neither). -/
structure ModelCatalog where
  catalogVersion : Option ℕ+
  updatedOn : Option String
  entries : List ModelCatalogEntry
  unique : (entries.map (·.identity)).Nodup
  dated : updatedOn.isSome = catalogVersion.isSome := by
    first | exact Eq.refl true | exact Eq.refl false | rfl
  deriving DecidableEq

/-- The entry of one identity. -/
def ModelCatalog.lookup? (catalog : ModelCatalog) (identity : ModelIdentity) :
    Option ModelCatalogEntry :=
  catalog.entries.find? (·.identity == identity)

theorem ModelCatalog.entry_ext (catalog : ModelCatalog) {a b : ModelCatalogEntry}
    (ha : a ∈ catalog.entries) (hb : b ∈ catalog.entries) (h : a.identity = b.identity) :
    a = b :=
  List.inj_on_of_nodup_map catalog.unique ha hb h

theorem ModelCatalog.lookup?_eq_some {catalog : ModelCatalog} {identity : ModelIdentity}
    {entry : ModelCatalogEntry} :
    catalog.lookup? identity = some entry ↔ entry ∈ catalog.entries ∧ entry.identity = identity := by
  constructor
  · intro h
    have hfind : catalog.entries.find? (·.identity == identity) = some entry := h
    have hident := List.find?_some hfind
    exact ⟨List.mem_of_find?_eq_some hfind, beq_iff_eq.mp hident⟩
  · rintro ⟨hmem, rfl⟩
    refine find?_eq_some_of_unique hmem (beq_self_eq_true _) ?_
    intro b hb hbi
    exact catalog.entry_ext hb hmem (beq_iff_eq.mp hbi)

/-- The identity uniqueness check of `ModelCatalog.__post_init__`. -/
def ModelCatalog.make (catalogVersion : Option ℕ+) (updatedOn : Option String)
    (dated : updatedOn.isSome = catalogVersion.isSome) (entries : List ModelCatalogEntry) :
    Except ContractError ModelCatalog :=
  match hd : duplicate? [] (entries.map (·.identity)) with
  | some identity => .error (.selectionContractValidation
      ("model_catalog.entries: duplicate model identity " ++ identity.repr))
  | none => .ok ⟨catalogVersion, updatedOn, entries, (duplicate?_eq_none.mp hd).1, dated⟩

theorem ModelCatalog.make_eq_ok {catalogVersion : Option ℕ+} {updatedOn : Option String}
    {dated : updatedOn.isSome = catalogVersion.isSome} {entries : List ModelCatalogEntry}
    (h : (entries.map (·.identity)).Nodup) :
    ModelCatalog.make catalogVersion updatedOn dated entries =
      .ok ⟨catalogVersion, updatedOn, entries, h, dated⟩ := by
  unfold ModelCatalog.make
  split
  · rename_i hd
    rw [duplicate?_eq_none.mpr ⟨h, fun _ _ => List.not_mem_nil⟩] at hd
    cases hd
  · rfl

/-- A catalog holds the entries it is made from. -/
theorem ModelCatalog.entries_of_make {catalogVersion : Option ℕ+} {updatedOn : Option String}
    {dated : updatedOn.isSome = catalogVersion.isSome} {entries : List ModelCatalogEntry}
    {catalog : ModelCatalog}
    (h : ModelCatalog.make catalogVersion updatedOn dated entries = .ok catalog) :
    catalog.entries = entries := by
  unfold ModelCatalog.make at h
  split at h
  · cases h
  · obtain rfl := Except.ok.inj h
    rfl

/-- The catalog lookup does not depend on the order of the entries. -/
theorem ModelCatalog.lookup?_eq_of_perm {c c' : ModelCatalog} (h : c.entries.Perm c'.entries)
    (identity : ModelIdentity) : c.lookup? identity = c'.lookup? identity := by
  refine find?_eq_of_perm h ?_
  intro a ha b hb hpa hpb
  exact c.entry_ext ha hb ((beq_iff_eq.mp hpa).trans (beq_iff_eq.mp hpb).symm)

/-- Identities tell the entries of a catalog apart, so sorting them forgets the entry order. -/
theorem ModelCatalog.sorted_eq_of_perm {c c' : ModelCatalog} (h : c.entries.Perm c'.entries) :
    sortBy (fun e => identityKey e.identity) c.entries =
      sortBy (fun e => identityKey e.identity) c'.entries :=
  sortBy_eq_of_perm h fun _ ha _ hb hk => c.entry_ext ha hb (identityKey_injective hk)

end ScarcityRouter
