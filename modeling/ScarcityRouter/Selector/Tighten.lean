import ScarcityRouter.Lib.Tightening
import ScarcityRouter.Selector.Candidate

namespace ScarcityRouter

open ScarcityRouter.Lib

/-!
# What tightening means

* `DemandKind`, `TaskRequirement.demand` — a requirement as one optional demand for each of its
  dimensions, with the order in which a later demand may follow an earlier one.
* `TightensBase`, `Joins` — the explicit requirement follows the base in every dimension, and the
  requirement that joins the two.
* `tightenRequirement_eq_ok` — `tighten_requirement` stores the join exactly when it does.
* `Conflicts` — one dimension of the explicit requirement loosens or contradicts the base.
* `Satisfies` — a catalog entry passes both model predicates of a requirement.
* `tightenRequirement_sound` — **the merge is sound**: the entries of a merged requirement are
  those of both, a conflict is the only refusal, and merging is idempotent and associative.
-/

/-! ### The dimensions of a requirement -/

/-- The dimensions that a merge looks at. -/
inductive DemandKind where
  | level
  | minimum (d : CapabilityDimension)
  | inputContext
  | output
  | toolUse
  | vision
  | reasoningMode
  | provider
  | model
  | variant
  | privacy
  deriving DecidableEq

namespace DemandKind

/-- What a dimension demands, where it demands something; a feature is only demanded or not. -/
def Value : DemandKind → Type
  | level => TaskLevel
  | minimum _ => Rating
  | inputContext | output => ℕ+
  | toolUse | vision | reasoningMode => Unit
  | provider | variant | privacy => SafeId
  | model => ModelRef

/-- The later demand does not loosen or contradict the earlier: levels and minima may rise,
    identities stay. -/
def Below : (k : DemandKind) → k.Value → k.Value → Prop
  | level => fun b e => b.index ≤ e.index
  | minimum _ => fun b e => b.val ≤ e.val
  | inputContext | output => fun b e => @LE.le ℕ+ _ b e
  | toolUse | vision | reasoningMode => fun b e => b = e
  | provider | variant | privacy => fun b e => b = e
  | model => fun b e => b = e

theorem below_refl (k : DemandKind) (x : k.Value) : k.Below x x := by
  cases k <;> first | exact le_refl _ | rfl

theorem below_trans (k : DemandKind) {x y z : k.Value} (h : k.Below x y) (h' : k.Below y z) :
    k.Below x z := by
  cases k <;> first | exact le_trans h h' | exact Eq.trans h h'

/-- An entry meets a demand; no entry is asked for a task level. -/
def Meets (entry : ModelCatalogEntry) : (k : DemandKind) → k.Value → Prop
  | level => fun _ => True
  | minimum d => fun r => ∃ known ∈ (entry.capabilities.get d).effectiveRating, r.val ≤ known.val
  | inputContext => fun r =>
    ∃ amount ∈ entry.hardProperties.inputContextTokens, @LE.le ℕ+ _ r amount
  | output => fun r => ∃ amount ∈ entry.hardProperties.outputTokens, @LE.le ℕ+ _ r amount
  | toolUse => fun _ => entry.hardProperties.supportsToolUse = some true
  | vision => fun _ => entry.hardProperties.supportsVision = some true
  | reasoningMode => fun _ => entry.hardProperties.supportsReasoningMode = some true
  | provider => fun r => entry.identity.provider = r
  | model => fun r => (⟨entry.identity.provider, entry.identity.model⟩ : ModelRef) = r
  | variant => fun r => entry.identity.variant = r
  | privacy => fun r => ∃ known ∈ entry.hardProperties.privacyTags, @Membership.mem SafeId _ _ known r

/-- What meets a demand meets those below it. -/
theorem Meets.of_below {entry : ModelCatalogEntry} {k : DemandKind} {x y : k.Value}
    (h : k.Below x y) (hy : k.Meets entry y) : k.Meets entry x := by
  cases k with
  | level => trivial
  | minimum d =>
    obtain ⟨known, hmem, hle⟩ := hy
    exact ⟨known, hmem, le_trans h hle⟩
  | inputContext =>
    obtain ⟨amount, hmem, hle⟩ := hy
    exact ⟨amount, hmem, le_trans h hle⟩
  | output =>
    obtain ⟨amount, hmem, hle⟩ := hy
    exact ⟨amount, hmem, le_trans h hle⟩
  | toolUse | vision | reasoningMode => exact hy
  | provider | model | variant | privacy =>
    obtain rfl := h
    exact hy

end DemandKind

/-- A required feature as a demand. -/
def demanded (required : Bool) : Option Unit := if required then some () else none

theorem demanded_injective : Function.Injective demanded := by
  rintro (_ | _) (_ | _) h <;> first | rfl | cases h

/-- The demand of a requirement in one dimension. -/
def TaskRequirement.demand (r : TaskRequirement) : (k : DemandKind) → Option k.Value
  | .level => some r.taskLevel
  | .minimum d => r.capabilityMinima.get d
  | .inputContext => r.hardConstraints.minimumInputContextTokens
  | .output => r.hardConstraints.minimumOutputTokens
  | .toolUse => demanded r.hardConstraints.requiresToolUse
  | .vision => demanded r.hardConstraints.requiresVision
  | .reasoningMode => demanded r.hardConstraints.requiresReasoningMode
  | .provider => r.hardConstraints.requiredProvider
  | .model => r.hardConstraints.requiredModel
  | .variant => r.hardConstraints.requiredVariant
  | .privacy => r.hardConstraints.privacyConstraint

/-- A requirement is its demands. -/
theorem TaskRequirement.ext_demand {r r' : TaskRequirement} (h : ∀ k, r.demand k = r'.demand k) :
    r = r' := by
  obtain ⟨level, ⟨m1, m2, m3, m4, m5, m6⟩, ⟨i, o, t, v, e, p, m, x, q, _⟩⟩ := r
  obtain ⟨level', ⟨m1', m2', m3', m4', m5', m6'⟩, ⟨i', o', t', v', e', p', m', x', q', _⟩⟩ := r'
  obtain rfl : level = level' := Option.some.inj (h .level)
  obtain rfl : m1 = m1' := h (.minimum .reasoning)
  obtain rfl : m2 = m2' := h (.minimum .coding)
  obtain rfl : m3 = m3' := h (.minimum .scientificMethodological)
  obtain rfl : m4 = m4' := h (.minimum .writingEditorial)
  obtain rfl : m5 = m5' := h (.minimum .toolUse)
  obtain rfl : m6 = m6' := h (.minimum .translationMultilingual)
  obtain rfl : i = i' := h .inputContext
  obtain rfl : o = o' := h .output
  obtain rfl : t = t' := demanded_injective (h .toolUse)
  obtain rfl : v = v' := demanded_injective (h .vision)
  obtain rfl : e = e' := demanded_injective (h .reasoningMode)
  obtain rfl : p = p' := h .provider
  obtain rfl : m = m' := h .model
  obtain rfl : x = x' := h .variant
  obtain rfl : q = q' := h .privacy
  rfl

/-! ### The agreement and the join -/

section Dimensions

variable (base explicit : TaskRequirement)

/-- The joined demand of one dimension: the explicit one where it is given. -/
def joinedDemand (k : DemandKind) : Option k.Value := (explicit.demand k).or (base.demand k)

/-- The explicit requirement follows the base in every dimension, and the joined provider is that
    of the joined model. -/
structure TightensBase : Prop where
  follows : ∀ k : DemandKind, Follows k.Below (base.demand k) (explicit.demand k)
  providers : ∀ p ∈ joinedDemand base explicit .provider,
    ∀ m ∈ joinedDemand base explicit .model, ModelRef.provider m = p

/-- The requirement that carries the demands of both. -/
def Joins (merged : TaskRequirement) : Prop := ∀ k, merged.demand k = joinedDemand base explicit k

end Dimensions

theorem Joins.unique {base explicit m m' : TaskRequirement} (h : Joins base explicit m)
    (h' : Joins base explicit m') : m = m' :=
  TaskRequirement.ext_demand fun k => (h k).trans (h' k).symm

theorem providersAgree_eq_true {provider : Option SafeId} {model : Option ModelRef} :
    providersAgree provider model = true ↔ ∀ p ∈ provider, ∀ m ∈ model, m.provider = p := by
  cases provider with
  | none => simp [providersAgree]
  | some p =>
    cases model with
    | none => simp [providersAgree]
    | some m => simp [providersAgree]

/-- The join of two requirements of which one tightens the other. -/
def joined (base explicit : TaskRequirement) (h : TightensBase base explicit) : TaskRequirement where
  taskLevel := explicit.taskLevel
  capabilityMinima :=
    { reasoning := joinedDemand base explicit (.minimum .reasoning)
      coding := joinedDemand base explicit (.minimum .coding)
      scientificMethodological := joinedDemand base explicit (.minimum .scientificMethodological)
      writingEditorial := joinedDemand base explicit (.minimum .writingEditorial)
      toolUse := joinedDemand base explicit (.minimum .toolUse)
      translationMultilingual := joinedDemand base explicit (.minimum .translationMultilingual) }
  hardConstraints :=
    { minimumInputContextTokens := joinedDemand base explicit .inputContext
      minimumOutputTokens := joinedDemand base explicit .output
      requiresToolUse :=
        base.hardConstraints.requiresToolUse || explicit.hardConstraints.requiresToolUse
      requiresVision :=
        base.hardConstraints.requiresVision || explicit.hardConstraints.requiresVision
      requiresReasoningMode := base.hardConstraints.requiresReasoningMode
        || explicit.hardConstraints.requiresReasoningMode
      requiredProvider := joinedDemand base explicit .provider
      requiredModel := joinedDemand base explicit .model
      requiredVariant := joinedDemand base explicit .variant
      privacyConstraint := joinedDemand base explicit .privacy
      providers_agree := providersAgree_eq_true.mpr h.providers }

theorem demanded_or (x y : Bool) : demanded (x || y) = (demanded y).or (demanded x) := by
  cases x <;> cases y <;> rfl

theorem joins_joined {base explicit : TaskRequirement} (h : TightensBase base explicit) :
    Joins base explicit (joined base explicit h) := by
  intro k
  cases k with
  | level => rfl
  | minimum d => cases d <;> rfl
  | toolUse | vision | reasoningMode => exact demanded_or _ _
  | inputContext | output | provider | model | variant | privacy => rfl

/-! ### What the merges store -/

theorem tightenIdentity_eq_ok {base explicit merged : Option SafeId} {name : String} :
    tightenIdentity base explicit name = .ok merged ↔
      merged = explicit.or base ∧ Follows (fun b e => b = e) base explicit := by
  unfold tightenIdentity Follows
  cases explicit with
  | none => simp [eq_comm]
  | some e =>
    cases base with
    | none => simp [eq_comm]
    | some b =>
      by_cases h : e = b
      · simp [h, eq_comm]
      · simp [h, Ne.symm h]

theorem tightenModelRef_eq_ok {base explicit merged : Option ModelRef} {name : String} :
    tightenModelRef base explicit name = .ok merged ↔
      merged = explicit.or base ∧ Follows (fun b e => b = e) base explicit := by
  unfold tightenModelRef Follows
  cases explicit with
  | none => simp [eq_comm]
  | some e =>
    cases base with
    | none => simp [eq_comm]
    | some b =>
      by_cases h : b = e
      · simp [h, eq_comm]
      · simp [h]

/-- A feature is demanded alike whenever it is demanded. -/
theorem follows_demanded {x y : Bool} : Follows (fun b e : Unit => b = e) (demanded x) (demanded y) :=
  fun _ _ _ _ => rfl

/-- **`tighten_requirement` stores the join** of the two requirements, and returns exactly when
    the explicit one tightens the base. -/
theorem tightenRequirement_eq_ok {base explicit merged : TaskRequirement} :
    tightenRequirement base explicit = .ok merged ↔
      ∃ h : TightensBase base explicit, merged = joined base explicit h := by
  unfold tightenRequirement tightenMinima tightenHardConstraints
  rw [check_bind_eq_ok]
  simp only [bind_eq_ok, tightenMinimum_eq_ok, tightenIdentity_eq_ok, tightenModelRef_eq_ok]
  constructor
  · rintro ⟨hlevel, minima, ⟨_, ⟨rfl, h1⟩, _, ⟨rfl, h2⟩, _, ⟨rfl, h3⟩, _, ⟨rfl, h4⟩, _, ⟨rfl, h5⟩,
      _, ⟨rfl, h6⟩, hminima⟩, hard, ⟨_, ⟨rfl, hinput⟩, _, ⟨rfl, houtput⟩, _, ⟨rfl, hprovider⟩, _,
      ⟨rfl, hmodel⟩, _, ⟨rfl, hvariant⟩, _, ⟨rfl, hprivacy⟩, hhard⟩, hmerged⟩
    cases hminima
    cases hmerged
    split at hhard
    · rename_i hproviders
      cases hhard
      refine ⟨⟨fun k => ?_, providersAgree_eq_true.mp hproviders⟩, rfl⟩
      cases k with
      | level =>
        intro e he b hb
        cases he
        cases hb
        exact hlevel
      | minimum d => cases d <;> assumption
      | inputContext => exact hinput
      | output => exact houtput
      | toolUse | vision | reasoningMode => exact follows_demanded
      | provider => exact hprovider
      | model => exact hmodel
      | variant => exact hvariant
      | privacy => exact hprivacy
    · cases hhard
  · rintro ⟨h, rfl⟩
    have hminimum d := h.follows (.minimum d)
    exact ⟨h.follows .level _ rfl _ rfl, _, ⟨_, ⟨rfl, hminimum .reasoning⟩, _,
      ⟨rfl, hminimum .coding⟩, _, ⟨rfl, hminimum .scientificMethodological⟩, _,
      ⟨rfl, hminimum .writingEditorial⟩, _, ⟨rfl, hminimum .toolUse⟩, _,
      ⟨rfl, hminimum .translationMultilingual⟩, rfl⟩, _, ⟨_, ⟨rfl, h.follows .inputContext⟩, _,
      ⟨rfl, h.follows .output⟩, _, ⟨rfl, h.follows .provider⟩, _, ⟨rfl, h.follows .model⟩, _,
      ⟨rfl, h.follows .variant⟩, _, ⟨rfl, h.follows .privacy⟩,
      dif_pos (providersAgree_eq_true.mpr h.providers)⟩, rfl⟩

/-- A merge returns the one requirement that joins. -/
theorem tightenRequirement_eq_ok_iff {base explicit merged : TaskRequirement} :
    tightenRequirement base explicit = .ok merged ↔
      TightensBase base explicit ∧ Joins base explicit merged := by
  rw [tightenRequirement_eq_ok]
  constructor
  · rintro ⟨h, rfl⟩
    exact ⟨h, joins_joined h⟩
  · rintro ⟨h, hj⟩
    exact ⟨h, hj.unique (joins_joined h)⟩

/-! ### Conflicts -/

/-- **A conflict**: one dimension of the explicit requirement loosens or contradicts the base, or
    the provider of one contradicts the model of the other. -/
inductive Conflicts (base explicit : TaskRequirement) : Prop
  | dimension (k : DemandKind) (h : Clashes k.Below (base.demand k) (explicit.demand k))
  | modelOfProvider (provider : SafeId) (model : ModelRef)
      (hprovider : base.hardConstraints.requiredProvider = some provider)
      (hmodel : explicit.hardConstraints.requiredModel = some model)
      (h : model.provider ≠ provider)
  | providerOfModel (provider : SafeId) (model : ModelRef)
      (hmodel : base.hardConstraints.requiredModel = some model)
      (hprovider : explicit.hardConstraints.requiredProvider = some provider)
      (h : model.provider ≠ provider)

/-- An explicit requirement tightens the base exactly when nothing of it conflicts. -/
theorem not_tightens_iff {base explicit : TaskRequirement} :
    ¬ TightensBase base explicit ↔ Conflicts base explicit := by
  constructor
  · intro h
    by_contra hno
    refine h ⟨fun k => ?_, fun p hp m hm => ?_⟩
    · by_contra hclash
      exact hno (.dimension k (not_follows_iff.mp hclash))
    · -- A disagreement of the joined pair is within one requirement, or between the two.
      by_contra hne
      rcases Option.or_eq_some_iff.mp hp with hp | ⟨-, hp⟩
      · rcases Option.or_eq_some_iff.mp hm with hm | ⟨-, hm⟩
        · exact hne (providersAgree_eq_true.mp explicit.hardConstraints.providers_agree p hp m hm)
        · exact hno (.providerOfModel p m hm hp hne)
      · rcases Option.or_eq_some_iff.mp hm with hm | ⟨-, hm⟩
        · exact hno (.modelOfProvider p m hp hm hne)
        · exact hne (providersAgree_eq_true.mp base.hardConstraints.providers_agree p hp m hm)
  · intro h ht
    cases h with
    | dimension k h => exact not_follows_iff.mpr h (ht.follows k)
    | modelOfProvider provider model hprovider hmodel h =>
      have hm : joinedDemand base explicit .model = some model :=
        Option.or_eq_some_iff.mpr (.inl hmodel)
      -- An explicit provider next to the model is the base's.
      have hp : joinedDemand base explicit .provider = some provider := by
        cases hexplicit : explicit.hardConstraints.requiredProvider with
        | none => exact Option.or_eq_some_iff.mpr (.inr ⟨hexplicit, hprovider⟩)
        | some p =>
          obtain rfl := ht.follows .provider p hexplicit provider hprovider
          exact Option.or_eq_some_iff.mpr (.inl hexplicit)
      exact h (ht.providers provider hp model hm)
    | providerOfModel provider model hmodel hprovider h =>
      have hp : joinedDemand base explicit .provider = some provider :=
        Option.or_eq_some_iff.mpr (.inl hprovider)
      have hm : joinedDemand base explicit .model = some model := by
        cases hexplicit : explicit.hardConstraints.requiredModel with
        | none => exact Option.or_eq_some_iff.mpr (.inr ⟨hexplicit, hmodel⟩)
        | some m =>
          obtain rfl := ht.follows .model m hexplicit model hmodel
          exact Option.or_eq_some_iff.mpr (.inl hexplicit)
      exact h (ht.providers provider hp model hm)

/-- **A conflict is the only refusal.** -/
theorem tightenRequirement_error_iff {base explicit : TaskRequirement} :
    (∃ e, tightenRequirement base explicit = .error e) ↔ Conflicts base explicit := by
  rw [← not_tightens_iff]
  constructor
  · rintro ⟨e, he⟩ ht
    have hok := tightenRequirement_eq_ok.mpr ⟨ht, rfl⟩
    rw [he] at hok
    cases hok
  · intro ht
    cases h : tightenRequirement base explicit with
    | error e => exact ⟨e, rfl⟩
    | ok merged => exact absurd (tightenRequirement_eq_ok.mp h).1 ht

/-! ### The entries of a requirement -/

/-- The entry passes both model predicates of the requirement. -/
def Satisfies (requirement : TaskRequirement) (entry : ModelCatalogEntry) : Prop :=
  evaluateHardConstraints requirement.hardConstraints entry = [] ∧
    evaluateCapabilitySufficiency requirement.capabilityMinima entry.capabilities = []

theorem featureFailure_eq_nil {name : HardConstraintName} {required : Bool}
    {supported : Option Bool} :
    featureFailure name required supported = [] ↔
      ∀ _u ∈ demanded required, supported = some true := by
  unfold featureFailure demanded
  cases required with
  | false => simp
  | true =>
    match supported with
    | none => simp
    | some false => simp
    | some true => simp

theorem mismatchFailure_eq_nil {name : HardConstraintName} {required : Option SafeId}
    {actual : SafeId} :
    mismatchFailure name required actual = [] ↔ ∀ r ∈ required, actual = r := by
  unfold mismatchFailure
  cases required <;> simp

theorem modelFailure_eq_nil {required : Option ModelRef} {identity : ModelIdentity} :
    modelFailure required identity = [] ↔
      ∀ r ∈ required, (⟨identity.provider, identity.model⟩ : ModelRef) = r := by
  unfold modelFailure
  cases required <;> simp

theorem privacyFailure_eq_nil {required : Option SafeId} {tags : Option (List SafeId)} :
    privacyFailure required tags = [] ↔ ∀ r ∈ required, ∃ known ∈ tags, r ∈ known := by
  unfold privacyFailure
  cases required with
  | none => simp
  | some r => cases tags <;> simp

/-- Sufficiency is a known rating over every minimum. -/
theorem evaluateCapabilitySufficiency_eq_nil {minima : CapabilityMinima}
    {capabilities : CapabilityAssessments} :
    evaluateCapabilitySufficiency minima capabilities = [] ↔
      ∀ d, ∀ r ∈ minima.get d, ∃ known ∈ (capabilities.get d).effectiveRating,
        r.val ≤ known.val := by
  unfold evaluateCapabilitySufficiency
  rw [List.filterMap_eq_nil_iff]
  refine ⟨fun h d => ?_, fun h d _ => ?_⟩
  · have hd := h d d.mem_all
    unfold dimensionFailure at hd
    intro r hr
    rw [Option.mem_def.mp hr] at hd
    cases hrating : (capabilities.get d).effectiveRating with
    | none =>
      rw [hrating] at hd
      cases hd
    | some known =>
      rw [hrating] at hd
      dsimp only at hd
      split at hd
      · cases hd
      · rename_i hle
        exact ⟨known, rfl, not_lt.mp hle⟩
  · unfold dimensionFailure
    cases hminimum : minima.get d with
    | none => rfl
    | some r =>
      obtain ⟨known, hknown, hle⟩ := h d r hminimum
      rw [Option.mem_def.mp hknown]
      dsimp only
      rw [if_neg (not_lt.mpr hle)]

/-- **An entry satisfies a requirement exactly when it meets its every demand.** -/
theorem satisfies_iff {requirement : TaskRequirement} {entry : ModelCatalogEntry} :
    Satisfies requirement entry ↔ ∀ k : DemandKind, ∀ x ∈ requirement.demand k, k.Meets entry x := by
  unfold Satisfies evaluateHardConstraints
  simp only [List.append_eq_nil_iff, numericFailure_eq_nil, featureFailure_eq_nil,
    mismatchFailure_eq_nil, modelFailure_eq_nil, privacyFailure_eq_nil,
    evaluateCapabilitySufficiency_eq_nil]
  constructor
  · rintro ⟨⟨⟨⟨⟨⟨⟨⟨⟨input, output⟩, tool⟩, vision⟩, reasoning⟩, provider⟩, model⟩, variant⟩,
      privacy⟩, rating⟩ k
    cases k with
    | level => exact fun _ _ => trivial
    | minimum d => exact rating d
    | inputContext => exact input
    | output => exact output
    | toolUse => exact tool
    | vision => exact vision
    | reasoningMode => exact reasoning
    | provider => exact provider
    | model => exact model
    | variant => exact variant
    | privacy => exact privacy
  · intro h
    exact ⟨⟨⟨⟨⟨⟨⟨⟨⟨h .inputContext, h .output⟩, h .toolUse⟩, h .vision⟩, h .reasoningMode⟩,
      h .provider⟩, h .model⟩, h .variant⟩, h .privacy⟩, fun d => h (.minimum d)⟩

/-- **The entries of the join** are those of both requirements. -/
theorem Joins.satisfies_iff {base explicit merged : TaskRequirement}
    (hj : Joins base explicit merged) (ht : TightensBase base explicit) (entry : ModelCatalogEntry) :
    Satisfies merged entry ↔ Satisfies base entry ∧ Satisfies explicit entry := by
  rw [ScarcityRouter.satisfies_iff, ScarcityRouter.satisfies_iff, ScarcityRouter.satisfies_iff,
    ← forall_and]
  refine forall_congr' fun k => ?_
  rw [hj k]
  exact forall_mem_or_iff (fun _ _ => .of_below) (ht.follows k)

/-! ### Idempotence and associativity -/

/-- The provider of a requirement is that of its model. -/
theorem TaskRequirement.providers (r : TaskRequirement) :
    ∀ p ∈ r.demand .provider, ∀ m ∈ r.demand .model, ModelRef.provider m = p :=
  providersAgree_eq_true.mp r.hardConstraints.providers_agree

/-- Every requirement tightens itself, to itself. -/
theorem tightenRequirement_self (r : TaskRequirement) : tightenRequirement r r = .ok r := by
  refine tightenRequirement_eq_ok_iff.mpr ⟨⟨fun k => follows_self k.below_refl, ?_⟩, fun k => ?_⟩
  · unfold joinedDemand
    rw [Option.or_self, Option.or_self]
    exact r.providers
  · exact (Option.or_self ..).symm

/-- Tightening by the same requirement again changes nothing. -/
theorem Joins.again {base explicit merged : TaskRequirement} (hj : Joins base explicit merged) :
    tightenRequirement merged explicit = .ok merged := by
  have hagain : ∀ k, joinedDemand merged explicit k = merged.demand k := fun k => by
    unfold joinedDemand
    rw [hj k]
    unfold joinedDemand
    rw [← Option.or_assoc, Option.or_self]
  refine tightenRequirement_eq_ok_iff.mpr ⟨⟨fun k => ?_, ?_⟩, fun k => (hagain k).symm⟩
  · rw [hj k]
    exact .again k.below_refl
  · rw [hagain, hagain]
    exact merged.providers

section Chain

variable {a b c ab bc : TaskRequirement}

/-- Joining from the left is joining from the right. -/
theorem joinedDemand_assoc (jab : Joins a b ab) (jbc : Joins b c bc) (k : DemandKind) :
    joinedDemand ab c k = joinedDemand a bc k := by
  unfold joinedDemand
  rw [jab k, jbc k]
  exact (Option.or_assoc ..).symm

/-- What tightens a join tightens its later part. -/
theorem TightensBase.later (jab : Joins a b ab) (h : TightensBase ab c) : TightensBase b c := by
  refine ⟨fun k => ?_, fun p hp m hm => ?_⟩
  · have hfollows := h.follows k
    rw [jab k] at hfollows
    exact hfollows.of_or_left
  · -- The provider and the model are among those that join all three.
    have hall : ∀ (k : DemandKind), ∀ x ∈ joinedDemand b c k, x ∈ joinedDemand ab c k := by
      intro k x hx
      unfold joinedDemand
      rw [jab k]
      unfold joinedDemand
      rw [← Option.or_assoc]
      exact Option.or_eq_some_iff.mpr (.inl hx)
    exact h.providers p (hall .provider p hp) m (hall .model m hm)

/-- **Associativity from the left.** -/
theorem TightensBase.assoc (hab : TightensBase a b) (jab : Joins a b ab) (h : TightensBase ab c)
    (jbc : Joins b c bc) : TightensBase a bc := by
  refine ⟨fun k => ?_, ?_⟩
  · have hfollows := h.follows k
    rw [jab k] at hfollows
    rw [jbc k]
    exact .assoc k.below_trans (hab.follows k) hfollows
  · rw [← joinedDemand_assoc jab jbc, ← joinedDemand_assoc jab jbc]
    exact h.providers

/-- **Associativity from the right**, where both pairs agree. -/
theorem TightensBase.unassoc (jab : Joins a b ab) (hbc : TightensBase b c) (jbc : Joins b c bc)
    (h : TightensBase a bc) : TightensBase ab c := by
  refine ⟨fun k => ?_, ?_⟩
  · have hfollows := h.follows k
    rw [jbc k] at hfollows
    rw [jab k]
    exact .unassoc (hbc.follows k) hfollows
  · rw [joinedDemand_assoc jab jbc, joinedDemand_assoc jab jbc]
    exact h.providers

end Chain

/-- **The merge is sound.** The entries that satisfy a merged requirement are exactly those that
    satisfy both; the merge raises exactly when some dimension of the explicit requirement loosens
    or contradicts the base; and it is idempotent, also on what it merged before, and associative:
    what merges from the left merges from the right to the same, and the other way where both
    pairs merge. -/
theorem tightenRequirement_sound (a b c : TaskRequirement) :
    (∀ merged, tightenRequirement a b = .ok merged → ∀ entry : ModelCatalogEntry,
      (Satisfies merged entry ↔ Satisfies a entry ∧ Satisfies b entry)) ∧
    ((∃ e, tightenRequirement a b = .error e) ↔ Conflicts a b) ∧
    tightenRequirement a a = .ok a ∧
    (∀ merged, tightenRequirement a b = .ok merged → tightenRequirement merged b = .ok merged) ∧
    (∀ ab abc, tightenRequirement a b = .ok ab → tightenRequirement ab c = .ok abc →
      ∃ bc, tightenRequirement b c = .ok bc ∧ tightenRequirement a bc = .ok abc) ∧
    ∀ ab bc abc, tightenRequirement a b = .ok ab → tightenRequirement b c = .ok bc →
      tightenRequirement a bc = .ok abc → tightenRequirement ab c = .ok abc := by
  refine ⟨fun merged h entry => ?_, tightenRequirement_error_iff, tightenRequirement_self a,
    fun merged h => ?_, fun ab abc hab habc => ?_, fun ab bc abc hab hbc habc => ?_⟩
  · obtain ⟨ht, hj⟩ := tightenRequirement_eq_ok_iff.mp h
    exact hj.satisfies_iff ht entry
  · exact (tightenRequirement_eq_ok_iff.mp h).2.again
  · obtain ⟨htab, jab⟩ := tightenRequirement_eq_ok_iff.mp hab
    obtain ⟨htabc, jabc⟩ := tightenRequirement_eq_ok_iff.mp habc
    have htbc := htabc.later jab
    have jbc := joins_joined htbc
    refine ⟨_, tightenRequirement_eq_ok.mpr ⟨htbc, rfl⟩,
      tightenRequirement_eq_ok_iff.mpr ⟨htab.assoc jab htabc jbc, fun k => ?_⟩⟩
    exact (jabc k).trans (joinedDemand_assoc jab jbc k)
  · obtain ⟨-, jab⟩ := tightenRequirement_eq_ok_iff.mp hab
    obtain ⟨htbc, jbc⟩ := tightenRequirement_eq_ok_iff.mp hbc
    obtain ⟨htabc, jabc⟩ := tightenRequirement_eq_ok_iff.mp habc
    refine tightenRequirement_eq_ok_iff.mpr ⟨.unassoc jab htbc jbc htabc, fun k => ?_⟩
    exact (jabc k).trans (joinedDemand_assoc jab jbc k).symm

end ScarcityRouter
