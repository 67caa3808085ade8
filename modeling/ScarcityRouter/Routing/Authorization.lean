import ScarcityRouter.Routing.Vocabulary

namespace ScarcityRouter

open ScarcityRouter.Lib

/-!
# Authorization

The grant layers of `routing_core.py` and the authorization stage of the resource gate.

* `AdministratorConstraints`, `ClientAuthorization`, `ClientRoutingProfile` — the three layers.
* `effectiveAuthorization` — their combination: allow-lists intersect, block-lists unite, the
  smallest limit governs.
* `authorizationFailureCodes` — the codes of one resource, in the fixed order of the source.
* `GrantedBy` — what it means for one resource to respect every layer, and
  `authorizationFailureCodes_eq_nil` — **no code is reported exactly then**.
* `OrderedFailures` — the combinations of failing checks whose codes come out in text order, and
  `strictlySorted_authorizationFailureCodes` — exactly those form a sorted code list.
-/

/-! ### The layers -/

/-- A spending ceiling in micro-USD per million tokens. -/
abbrev SpendingLimit := ℕ

/-- The administrator's routing constraints; an absent allow-list is unrestricted. -/
structure AdministratorConstraints where
  allowedProviders : Option (List SafeId) := none
  allowedChannels : Option (List Channel) := none
  allowedEntitlements : Option (List Entitlement) := none
  blockedResourceIds : List SafeId := []
  spendLimit : Option SpendingLimit := none
  deriving DecidableEq

/-- One client identity's grant: the same dimensions, and two narrowing flags. -/
structure ClientAuthorization extends AdministratorConstraints where
  inferenceOnly : Bool := false
  strictNoPayg : Bool := false
  deriving DecidableEq

/-- The configured binding of a request to a profile, with optional provider narrowing. -/
structure ClientRoutingProfile where
  profileId : SafeId
  allowedProviders : Option (List SafeId) := none
  deriving DecidableEq

/-! ### The effective authorization -/

/-- `_EffectiveAuthorization`. -/
structure EffectiveAuthorization where
  allowedProviders : Option (Finset SafeId)
  allowedChannels : Option (Finset Channel)
  allowedEntitlements : Option (Finset Entitlement)
  blockedResourceIds : Finset SafeId
  spendLimit : Option SpendingLimit
  strictNoPayg : Bool
  deriving DecidableEq

section Intersect

variable {α : Type} [DecidableEq α]

/-- Narrow an optional allow-set by an optional list; `none` is unrestricted. -/
def narrowAllowed (allowed : Option (Finset α)) (layer : Option (List α)) : Option (Finset α) :=
  match allowed, layer with
  | none, none => none
  | none, some xs => some xs.toFinset
  | some s, none => some s
  | some s, some xs => some (s ∩ xs.toFinset)

/-- `_intersect_optional`. -/
def intersectOptional (a b : Option (List α)) : Option (Finset α) :=
  narrowAllowed (a.map List.toFinset) b

/-- Membership in a narrowed allow-set is membership in both layers. -/
theorem forall_mem_narrowAllowed {allowed : Option (Finset α)} {layer : Option (List α)} {x : α} :
    (∀ s ∈ narrowAllowed allowed layer, x ∈ s) ↔ (∀ s ∈ allowed, x ∈ s) ∧ ∀ xs ∈ layer, x ∈ xs := by
  cases allowed <;> cases layer <;> simp [narrowAllowed]

theorem forall_mem_intersectOptional {a b : Option (List α)} {x : α} :
    (∀ s ∈ intersectOptional a b, x ∈ s) ↔ (∀ xs ∈ a, x ∈ xs) ∧ ∀ xs ∈ b, x ∈ xs := by
  unfold intersectOptional
  rw [forall_mem_narrowAllowed]
  simp

end Intersect

/-- The smallest of the two limits, when any is set. -/
def minLimit : Option SpendingLimit → Option SpendingLimit → Option SpendingLimit
  | none, none => none
  | some a, none => some a
  | none, some b => some b
  | some a, some b => some (min a b)

/-- `_effective_authorization`. -/
def effectiveAuthorization (admin : AdministratorConstraints) (client : ClientAuthorization)
    (profile : Option ClientRoutingProfile) : EffectiveAuthorization where
  allowedProviders :=
    narrowAllowed (intersectOptional admin.allowedProviders client.allowedProviders)
      (profile.bind (·.allowedProviders))
  allowedChannels :=
    narrowAllowed (intersectOptional admin.allowedChannels client.allowedChannels)
      (if client.inferenceOnly then some [.serverDirectHttp] else none)
  allowedEntitlements := intersectOptional admin.allowedEntitlements client.allowedEntitlements
  blockedResourceIds := admin.blockedResourceIds.toFinset ∪ client.blockedResourceIds.toFinset
  spendLimit := minLimit admin.spendLimit client.spendLimit
  strictNoPayg := client.strictNoPayg

/-! ### The authorization stage -/

/-- `METERED_ENTITLEMENTS`. -/
def Entitlement.metered : Entitlement → Bool
  | .paygMetered | .prepaidCredits => true
  | _ => false

/-- `_spend_limit_codes`. -/
def spendLimitCodes (entry : ResourceRegistryEntry) (limit : SpendingLimit) :
    List TargetReason :=
  if !entry.identity.entitlement.metered then
    if entry.identity.entitlement = .unknown then [.spendLimitUnverifiable] else []
  else
    match entry.cost with
    | none => [.spendLimitUnverifiable]
    | some cost =>
      if cost.prices = [] then [.spendLimitUnverifiable]
      else if cost.prices.any (limit < ·) then [.spendLimitExceeded]
      else []

/-- The strict no-PAYG codes: exactly one assurance of the resource must clear it. -/
def noPaygCodes (entry : ResourceRegistryEntry) (assurances : List ExecutionAssurance)
    (assessedAt : Instant) : List TargetReason :=
  if entry.identity.entitlement.metered then [.nonPaid .accessModeForbidden]
  else if entry.identity.entitlement = .unknown then [.nonPaid .pathUnverified]
  else
    match assurances.filter (·.currentScope.resource = entry.identity) with
    | [assurance] =>
      (assurance.refusalCodes entry.identity assessedAt entry.freshnessTtlSeconds).map .nonPaid
    | _ => [.nonPaid .evidenceUnavailable]

/-- One optional code. -/
def codeIf (failed : Bool) (code : TargetReason) : List TargetReason :=
  if failed then [code] else []

@[simp] theorem codeIf_eq_nil {failed : Bool} {code : TargetReason} :
    codeIf failed code = [] ↔ failed = false := by
  cases failed <;> simp [codeIf]

/-- A dimension outside its present allow-set. -/
def outside {α : Type} [DecidableEq α] (allowed : Option (Finset α)) (x : α) : Bool :=
  allowed.any (x ∉ ·)

theorem outside_eq_false {α : Type} [DecidableEq α] {allowed : Option (Finset α)} {x : α} :
    outside allowed x = false ↔ ∀ s ∈ allowed, x ∈ s := by
  cases allowed <;> simp [outside]

/-- `_authorization_failure_codes`: provider, channel, entitlement, block, spend, no-PAYG — the
    order in which the checks run, which is not the order of the texts. -/
def authorizationFailureCodes (entry : ResourceRegistryEntry) (effective : EffectiveAuthorization)
    (assurances : List ExecutionAssurance) (assessedAt : Instant) : List TargetReason :=
  codeIf (outside effective.allowedProviders entry.identity.provider) .unauthorizedProvider ++
  codeIf (outside effective.allowedChannels entry.identity.channel) .unauthorizedChannel ++
  codeIf (outside effective.allowedEntitlements entry.identity.entitlement)
    .unauthorizedEntitlement ++
  codeIf (entry.identity.resourceId ∈ effective.blockedResourceIds) .resourceBlocked ++
  effective.spendLimit.elim [] (spendLimitCodes entry) ++
  (if effective.strictNoPayg then noPaygCodes entry assurances assessedAt else [])

/-! ### What the stage enforces -/

/-- A spending limit admits the resource: its entitlement is known, and a metered one has a known
    price, none above the limit. -/
def WithinLimit (entry : ResourceRegistryEntry) (limit : SpendingLimit) : Prop :=
  entry.identity.entitlement ≠ .unknown ∧
    (entry.identity.entitlement.metered = true →
      ∃ cost ∈ entry.cost, cost.prices ≠ [] ∧ ∀ price ∈ cost.prices, price ≤ limit)

theorem spendLimitCodes_eq_nil {entry : ResourceRegistryEntry} {limit : SpendingLimit} :
    spendLimitCodes entry limit = [] ↔ WithinLimit entry limit := by
  unfold spendLimitCodes WithinLimit
  cases hm : entry.identity.entitlement.metered with
  | false =>
    by_cases hu : entry.identity.entitlement = .unknown <;> simp [hu]
  | true =>
    have hu : entry.identity.entitlement ≠ .unknown := by
      intro hu
      rw [hu] at hm
      cases hm
    cases hc : entry.cost with
    | none => simp
    | some cost =>
      have hne : cost.prices ≠ [] := cost.prices_ne_nil
      by_cases hany : ∃ price ∈ cost.prices, limit < price
      · have : ¬ ∀ price ∈ cost.prices, price ≤ limit := by
          intro hall
          obtain ⟨price, hp, hlt⟩ := hany
          exact absurd (hall price hp) (not_le_of_gt hlt)
        simp [hne, hu, this, hany]
      · have hall : ∀ price ∈ cost.prices, price ≤ limit := fun price hp =>
          not_lt.mp fun hlt => hany ⟨price, hp, hlt⟩
        simp only [hany, Bool.not_true, Bool.false_eq_true, if_false, hne, hu,
          List.any_eq_true, decide_eq_true_eq, ne_eq, not_false_eq_true, true_and]
        exact ⟨fun _ _ => ⟨cost, rfl, hne, hall⟩, fun _ => trivial⟩

/-- Exactly one assurance concerns the resource, and it refuses nothing now. -/
def ProvenNonPaid (entry : ResourceRegistryEntry) (assurances : List ExecutionAssurance)
    (assessedAt : Instant) : Prop :=
  entry.identity.entitlement.metered = false ∧ entry.identity.entitlement ≠ .unknown ∧
    ∃ assurance, assurances.filter (·.currentScope.resource = entry.identity) = [assurance] ∧
      assurance.refusalCodes entry.identity assessedAt entry.freshnessTtlSeconds = []

theorem noPaygCodes_eq_nil {entry : ResourceRegistryEntry} {assurances : List ExecutionAssurance}
    {assessedAt : Instant} :
    noPaygCodes entry assurances assessedAt = [] ↔ ProvenNonPaid entry assurances assessedAt := by
  unfold noPaygCodes ProvenNonPaid
  cases hm : entry.identity.entitlement.metered with
  | true => simp
  | false =>
    by_cases hu : entry.identity.entitlement = .unknown
    · simp [hu]
    · simp only [Bool.false_eq_true, if_false, hu, ne_eq, not_false_eq_true, true_and]
      split
      · rename_i assurance hmatch
        rw [hmatch]
        simp
      · rename_i hmatch
        constructor
        · intro h
          cases h
        · rintro ⟨assurance, hone, -⟩
          exact absurd hone (hmatch assurance)

/-- The limits present in a list of layers all admit the resource. -/
theorem forall_mem_minLimit {a b : Option SpendingLimit} {entry : ResourceRegistryEntry} :
    (∀ limit ∈ minLimit a b, WithinLimit entry limit) ↔
      (∀ limit ∈ a, WithinLimit entry limit) ∧ ∀ limit ∈ b, WithinLimit entry limit := by
  -- A price below the smaller limit is below both.
  have hmin : ∀ m n : SpendingLimit, WithinLimit entry (min m n) ↔
      WithinLimit entry m ∧ WithinLimit entry n := by
    intro m n
    unfold WithinLimit
    constructor
    · rintro ⟨hu, hcost⟩
      refine ⟨⟨hu, fun hm => ?_⟩, hu, fun hm => ?_⟩
      all_goals obtain ⟨cost, hc, hne, hle⟩ := hcost hm
      · exact ⟨cost, hc, hne, fun p hp => (le_min_iff.mp (hle p hp)).1⟩
      · exact ⟨cost, hc, hne, fun p hp => (le_min_iff.mp (hle p hp)).2⟩
    · rintro ⟨⟨hu, hcost⟩, -, hcost'⟩
      refine ⟨hu, fun hm => ?_⟩
      obtain ⟨cost, hc, hne, hle⟩ := hcost hm
      obtain ⟨cost', hc', -, hle'⟩ := hcost' hm
      obtain rfl : cost = cost' := Option.some.inj (hc.symm.trans hc')
      exact ⟨cost, hc, hne, fun p hp => le_min (hle p hp) (hle' p hp)⟩
  cases a <;> cases b <;> simp [minLimit, hmin]

/-- The conjunction of administrator, client and profile policy for one resource. -/
structure GrantedBy (admin : AdministratorConstraints) (client : ClientAuthorization)
    (profile : Option ClientRoutingProfile) (assurances : List ExecutionAssurance)
    (assessedAt : Instant) (entry : ResourceRegistryEntry) : Prop where
  provider_admin : ∀ xs ∈ admin.allowedProviders, entry.identity.provider ∈ xs
  provider_client : ∀ xs ∈ client.allowedProviders, entry.identity.provider ∈ xs
  provider_profile : ∀ p ∈ profile, ∀ xs ∈ p.allowedProviders, entry.identity.provider ∈ xs
  channel_admin : ∀ xs ∈ admin.allowedChannels, entry.identity.channel ∈ xs
  channel_client : ∀ xs ∈ client.allowedChannels, entry.identity.channel ∈ xs
  entitlement_admin : ∀ xs ∈ admin.allowedEntitlements, entry.identity.entitlement ∈ xs
  entitlement_client : ∀ xs ∈ client.allowedEntitlements, entry.identity.entitlement ∈ xs
  unblocked_admin : entry.identity.resourceId ∉ admin.blockedResourceIds
  unblocked_client : entry.identity.resourceId ∉ client.blockedResourceIds
  limit_admin : ∀ limit ∈ admin.spendLimit, WithinLimit entry limit
  limit_client : ∀ limit ∈ client.spendLimit, WithinLimit entry limit
  inference_only : client.inferenceOnly = true → entry.identity.channel = .serverDirectHttp
  no_payg : client.strictNoPayg = true → ProvenNonPaid entry assurances assessedAt

/-- **No code is reported exactly when every layer grants the resource.** -/
theorem authorizationFailureCodes_eq_nil {admin : AdministratorConstraints}
    {client : ClientAuthorization} {profile : Option ClientRoutingProfile}
    {assurances : List ExecutionAssurance} {assessedAt : Instant} {entry : ResourceRegistryEntry} :
    authorizationFailureCodes entry (effectiveAuthorization admin client profile) assurances
      assessedAt = [] ↔ GrantedBy admin client profile assurances assessedAt entry := by
  have hprofile : (∀ xs ∈ profile.bind (·.allowedProviders), entry.identity.provider ∈ xs) ↔
      ∀ p ∈ profile, ∀ xs ∈ p.allowedProviders, entry.identity.provider ∈ xs := by
    cases profile <;> simp
  have hinference : (∀ xs ∈ (if client.inferenceOnly then some [Channel.serverDirectHttp] else none),
      entry.identity.channel ∈ xs) ↔
      (client.inferenceOnly = true → entry.identity.channel = .serverDirectHttp) := by
    cases client.inferenceOnly <;> simp
  have hspend : (minLimit admin.spendLimit client.spendLimit).elim [] (spendLimitCodes entry) = [] ↔
      ∀ limit ∈ minLimit admin.spendLimit client.spendLimit, WithinLimit entry limit := by
    cases minLimit admin.spendLimit client.spendLimit <;> simp [spendLimitCodes_eq_nil]
  have hpayg : (if client.strictNoPayg then noPaygCodes entry assurances assessedAt else []) = [] ↔
      (client.strictNoPayg = true → ProvenNonPaid entry assurances assessedAt) := by
    cases client.strictNoPayg <;> simp [noPaygCodes_eq_nil]
  unfold authorizationFailureCodes effectiveAuthorization
  simp only [List.append_eq_nil_iff, codeIf_eq_nil, outside_eq_false, forall_mem_narrowAllowed,
    forall_mem_intersectOptional, hprofile, hinference, hspend, hpayg, forall_mem_minLimit,
    decide_eq_false_iff_not, Finset.mem_union, List.mem_toFinset, not_or]
  constructor
  · rintro ⟨⟨⟨⟨⟨⟨⟨hpa, hpc⟩, hpp⟩, ⟨hca, hcc⟩, hi⟩, hea, hec⟩, hba, hbc⟩, hla, hlc⟩, hn⟩
    exact ⟨hpa, hpc, hpp, hca, hcc, hea, hec, hba, hbc, hla, hlc, hi, hn⟩
  · rintro ⟨hpa, hpc, hpp, hca, hcc, hea, hec, hba, hbc, hla, hlc, hi, hn⟩
    exact ⟨⟨⟨⟨⟨⟨⟨hpa, hpc⟩, hpp⟩, ⟨hca, hcc⟩, hi⟩, hea, hec⟩, hba, hbc⟩, hla, hlc⟩, hn⟩

/-! ### Which combinations come out sorted -/

/-- The stage lists its codes in checking order.  That is the order of their texts only when the
    provider check fails alone, the no-PAYG check fails alone, and neither the channel nor the
    entitlement check fails together with the block or the spend check. -/
structure OrderedFailures (entry : ResourceRegistryEntry) (effective : EffectiveAuthorization)
    (assurances : List ExecutionAssurance) (assessedAt : Instant) : Prop where
  provider_alone : outside effective.allowedProviders entry.identity.provider = true →
    outside effective.allowedChannels entry.identity.channel = false ∧
    outside effective.allowedEntitlements entry.identity.entitlement = false ∧
    entry.identity.resourceId ∉ effective.blockedResourceIds ∧
    (∀ limit ∈ effective.spendLimit, WithinLimit entry limit) ∧
    (effective.strictNoPayg = true → ProvenNonPaid entry assurances assessedAt)
  surface_without_budget : outside effective.allowedChannels entry.identity.channel = true ∨
    outside effective.allowedEntitlements entry.identity.entitlement = true →
    entry.identity.resourceId ∉ effective.blockedResourceIds ∧
    (∀ limit ∈ effective.spendLimit, WithinLimit entry limit) ∧
    (effective.strictNoPayg = true → ProvenNonPaid entry assurances assessedAt)
  budget_without_no_payg : entry.identity.resourceId ∈ effective.blockedResourceIds ∨
    (∃ limit ∈ effective.spendLimit, ¬ WithinLimit entry limit) →
    effective.strictNoPayg = true → ProvenNonPaid entry assurances assessedAt

/-- The spend check reports nothing or one of its two codes. -/
theorem spendLimitCodes_cases (entry : ResourceRegistryEntry) (limit : SpendingLimit) :
    spendLimitCodes entry limit = [] ∨ spendLimitCodes entry limit = [.spendLimitUnverifiable] ∨
      spendLimitCodes entry limit = [.spendLimitExceeded] := by
  unfold spendLimitCodes
  split_ifs
  · exact .inr (.inl rfl)
  · exact .inl rfl
  · split
    · exact .inr (.inl rfl)
    · split_ifs
      · exact .inr (.inl rfl)
      · exact .inr (.inr rfl)
      · exact .inl rfl

/-- The no-PAYG check reports nothing or one refusal. -/
theorem noPaygCodes_cases (entry : ResourceRegistryEntry) (assurances : List ExecutionAssurance)
    (assessedAt : Instant) : noPaygCodes entry assurances assessedAt = [] ∨
      ∃ refusal, noPaygCodes entry assurances assessedAt = [.nonPaid refusal] := by
  unfold noPaygCodes
  split_ifs
  · exact .inr ⟨_, rfl⟩
  · exact .inr ⟨_, rfl⟩
  · split
    · rename_i assurance _
      have hlen := assurance.refusalCodes_length_le entry.identity assessedAt
        entry.freshnessTtlSeconds
      cases hcodes : assurance.refusalCodes entry.identity assessedAt entry.freshnessTtlSeconds with
      | nil => exact .inl rfl
      | cons refusal rest =>
        rw [hcodes, List.length_cons] at hlen
        obtain rfl : rest = [] := List.length_eq_zero_iff.mp (by omega)
        exact .inr ⟨refusal, rfl⟩
    · exact .inr ⟨_, rfl⟩

/-- Every refusal sorts before every grant code. -/
theorem TargetReason.nonPaid_lt_of_mem_grantCodes (refusal : NonPaidRefusal) {code : TargetReason}
    (h : code ∈ grantCodes) : TargetReason.nonPaid refusal < code := by
  revert code
  cases refusal <;> decide +kernel

/-- The order of the texts among the grant codes: block, spend, channel, entitlement, provider. -/
private theorem grantCodes_order : List.IsChain (· < ·) [TargetReason.resourceBlocked,
    .spendLimitExceeded, .spendLimitUnverifiable, .unauthorizedChannel, .unauthorizedEntitlement,
    .unauthorizedProvider] := by
  decide +kernel

/-- The sortedness of one combination of failing checks, by the order of the texts. -/
private theorem strictlySorted_checks (provider channel entitlement blocked : Bool)
    {spend payg : List TargetReason}
    (hspend : spend = [] ∨ spend = [.spendLimitUnverifiable] ∨ spend = [.spendLimitExceeded])
    (hpayg : payg = [] ∨ ∃ refusal, payg = [.nonPaid refusal]) :
    StrictlySorted (codeIf provider .unauthorizedProvider ++ codeIf channel .unauthorizedChannel ++
      codeIf entitlement .unauthorizedEntitlement ++ codeIf blocked .resourceBlocked ++ spend ++
      payg) ↔
    (provider = true → channel = false ∧ entitlement = false ∧ blocked = false ∧ spend = [] ∧
      payg = []) ∧
    (channel = true ∨ entitlement = true → blocked = false ∧ spend = [] ∧ payg = []) ∧
    (blocked = true ∨ spend ≠ [] → payg = []) := by
  have hpw := grantCodes_order.pairwise
  simp only [List.pairwise_cons, List.mem_cons, List.not_mem_nil, or_false, forall_eq_or_imp,
    forall_eq, List.Pairwise.nil, and_true, false_imp_iff, implies_true] at hpw
  obtain ⟨⟨h12, h13, h14, h15, h16⟩, ⟨h23, h24, h25, h26⟩, ⟨h34, h35, h36⟩, ⟨h45, h46⟩, h56⟩ := hpw
  have hrefusal : ∀ refusal, ∀ code ∈ TargetReason.grantCodes,
      ¬ code < TargetReason.nonPaid refusal := fun refusal code hcode =>
    not_lt_of_gt (TargetReason.nonPaid_lt_of_mem_grantCodes refusal hcode)
  simp only [TargetReason.grantCodes, List.mem_cons, List.not_mem_nil, or_false,
    forall_eq_or_imp, forall_eq] at hrefusal
  have hn := fun {a b : TargetReason} (h : a < b) => not_lt_of_gt h
  rcases hspend with rfl | rfl | rfl <;> rcases hpayg with rfl | ⟨refusal, rfl⟩ <;>
    cases provider <;> cases channel <;> cases entitlement <;> cases blocked <;>
    simp [codeIf, hrefusal, h12, h13, hn h14, hn h15, hn h16, hn h24, hn h25, hn h26,
      hn h34, hn h35, hn h36, h45, hn h46, hn h56]

/-- **The stage's codes are sorted exactly for ordered failures.** -/
theorem strictlySorted_authorizationFailureCodes {entry : ResourceRegistryEntry}
    {effective : EffectiveAuthorization} {assurances : List ExecutionAssurance}
    {assessedAt : Instant} :
    StrictlySorted (authorizationFailureCodes entry effective assurances assessedAt) ↔
      OrderedFailures entry effective assurances assessedAt := by
  have hspend : effective.spendLimit.elim [] (spendLimitCodes entry) = [] ↔
      ∀ limit ∈ effective.spendLimit, WithinLimit entry limit := by
    cases effective.spendLimit <;> simp [spendLimitCodes_eq_nil]
  have hspend_ne : effective.spendLimit.elim [] (spendLimitCodes entry) ≠ [] ↔
      ∃ limit ∈ effective.spendLimit, ¬ WithinLimit entry limit := by
    cases effective.spendLimit <;> simp [spendLimitCodes_eq_nil]
  have hpayg : (if effective.strictNoPayg then noPaygCodes entry assurances assessedAt else []) = []
      ↔ (effective.strictNoPayg = true → ProvenNonPaid entry assurances assessedAt) := by
    cases effective.strictNoPayg <;> simp [noPaygCodes_eq_nil]
  have hspend_cases : effective.spendLimit.elim [] (spendLimitCodes entry) = [] ∨
      effective.spendLimit.elim [] (spendLimitCodes entry) = [.spendLimitUnverifiable] ∨
      effective.spendLimit.elim [] (spendLimitCodes entry) = [.spendLimitExceeded] := by
    cases effective.spendLimit with
    | none => exact .inl rfl
    | some limit => exact spendLimitCodes_cases entry limit
  have hpayg_cases : (if effective.strictNoPayg then noPaygCodes entry assurances assessedAt
      else []) = [] ∨ ∃ refusal, (if effective.strictNoPayg then
        noPaygCodes entry assurances assessedAt else []) = [.nonPaid refusal] := by
    cases effective.strictNoPayg with
    | false => exact .inl rfl
    | true => exact noPaygCodes_cases entry assurances assessedAt
  unfold authorizationFailureCodes
  rw [strictlySorted_checks _ _ _ _ hspend_cases hpayg_cases, hspend, hpayg, hspend_ne,
    decide_eq_false_iff_not, decide_eq_true_iff]
  constructor
  · rintro ⟨hp, hs, hb⟩
    exact ⟨hp, hs, hb⟩
  · rintro ⟨hp, hs, hb⟩
    exact ⟨hp, hs, hb⟩

/-- Every code of the stage is one of its primary codes. -/
theorem mem_reasons_of_mem_authorizationFailureCodes {entry : ResourceRegistryEntry}
    {effective : EffectiveAuthorization} {assurances : List ExecutionAssurance}
    {assessedAt : Instant} {code : TargetReason}
    (h : code ∈ authorizationFailureCodes entry effective assurances assessedAt) :
    code ∈ RouteStage.authorization.reasons := by
  have hcodeIf : ∀ {failed : Bool} {a b : TargetReason}, b ∈ codeIf failed a → b = a := by
    intro failed a b hb
    cases failed
    · cases hb
    · exact List.mem_singleton.mp hb
  unfold authorizationFailureCodes at h
  simp only [List.mem_append] at h
  rcases h with ((((h | h) | h) | h) | h) | h
  · rw [hcodeIf h]; decide
  · rw [hcodeIf h]; decide
  · rw [hcodeIf h]; decide
  · rw [hcodeIf h]; decide
  · cases hlimit : effective.spendLimit with
    | none =>
      rw [hlimit] at h
      cases h
    | some limit =>
      rw [hlimit, Option.elim_some] at h
      rcases spendLimitCodes_cases entry limit with hc | hc | hc <;> rw [hc] at h
      · cases h
      · rw [List.mem_singleton.mp h]; decide
      · rw [List.mem_singleton.mp h]; decide
  · split_ifs at h
    · rcases noPaygCodes_cases entry assurances assessedAt with hc | ⟨refusal, hc⟩ <;> rw [hc] at h
      · cases h
      · rw [List.mem_singleton.mp h]
        exact List.mem_append_right _ (List.mem_map_of_mem refusal.mem_all)
    · cases h

end ScarcityRouter
