import ScarcityRouter.Providers.CodexQuotaSpec
import ScarcityRouter.ResourceState

namespace ScarcityRouter.CodexQuota

open ScarcityRouter.Lib

/-!
# Eligibility for unattended execution

`openai_eligibility.py`: the second reader of the decoded rate limits, next to the capacity parser.

* `eligibilityReasons`, `parseCodexExecutionEligibility` — the reasons against execution, and the
  report that names them.
* `CleanMain` — what the reader demands of a result that it reports eligible.
* `OnlyCapacityReads` — what the capacity parser demands beyond that: members and buckets that the
  eligibility reader does not look at.
* `eligibility_agrees_iff` — **the two readers agree exactly where those members are in order.**
-/

/-! ### The reader -/

/-- The reason codes that a decoded result can have. -/
inductive EligibilityReason where
  | purchasedCreditsPresent | creditsStateUnknown | ordinaryUsageUnknown
  | spendControlStateUnknown | ordinaryUsageNotAllowed | spendControlReached | rateLimitReached
  | individualLimitExhausted | upsellPresent | includedWindowExhausted | telemetryInvalid
  deriving DecidableEq

def EligibilityReason.code : EligibilityReason → SafeId
  | purchasedCreditsPresent => .lit "purchased_credits_present"
  | creditsStateUnknown => .lit "credits_state_unknown"
  | ordinaryUsageUnknown => .lit "ordinary_usage_unknown"
  | spendControlStateUnknown => .lit "spend_control_state_unknown"
  | ordinaryUsageNotAllowed => .lit "ordinary_usage_not_allowed"
  | spendControlReached => .lit "spend_control_reached"
  | rateLimitReached => .lit "rate_limit_reached"
  | individualLimitExhausted => .lit "individual_limit_exhausted"
  | upsellPresent => .lit "upsell_present"
  | includedWindowExhausted => .lit "included_window_exhausted"
  | telemetryInvalid => .lit "telemetry_invalid"

/-- `_WINDOW_MEMBERS`. -/
def windowMembers : List String := ["usedPercent", "windowDurationMins", "resetsAt"]

/-- `_INDIVIDUAL_LIMIT_MEMBERS`. -/
def individualLimitMembers : List String := ["limit", "used", "remainingPercent", "resetsAt"]

/-- `_CREDITS_MEMBERS`. -/
def creditsMembers : List String := ["hasCredits", "unlimited", "balance"]

/-- The credit state: what is not explicitly absent is unknown, or forbidden. -/
def creditsReasons (value : Option Json) : List EligibilityReason :=
  match value.bind asMapping with
  | none => [.creditsStateUnknown]
  | some credits =>
    if !membershipValid credits creditsMembers || !(credits.get? "unlimited").any Json.isBool ||
        !(credits.present "balance").all Json.isText then [.creditsStateUnknown]
    else
      match credits.get? "hasCredits" with
      | some (.bool true) => [.purchasedCreditsPresent]
      | some (.bool false) => []
      | _ => [.creditsStateUnknown]

/-- The ordinary-usage permission, or an invalid one. -/
def ordinaryReasons : Option Json → Option (List EligibilityReason)
  | none | some .null => some [.ordinaryUsageUnknown]
  | some (.bool true) => some []
  | some (.bool false) => some [.ordinaryUsageNotAllowed]
  | some _ => none

/-- The spend control, or an invalid one. -/
def spendControlReasons : Option Json → Option (List EligibilityReason)
  | none | some .null => some [.spendControlStateUnknown]
  | some (.bool true) => some [.spendControlReached]
  | some (.bool false) => some []
  | some _ => none

/-- The reached type, if it is there, or an invalid one. -/
def reachedReasons : Option Json → Option (List EligibilityReason)
  | none => some []
  | some value => if value.isOneOf reachedTypes then some [.rateLimitReached] else none

/-- The individual limit, if it is there, or an invalid one. -/
def individualReasons : Option Json → Option (List EligibilityReason)
  | none => some []
  | some value => do
    let individual ← asMapping value
    guard (membershipValid individual individualLimitMembers)
    guard ((individual.get? "limit").any Json.isText)
    guard ((individual.get? "used").any Json.isText)
    let remaining ← (individual.get? "remainingPercent").bind Json.int?
    guard ((individual.get? "resetsAt").any fun resets => resets.int?.isSome)
    return if remaining = 0 then [.individualLimitExhausted] else []

/-- A main window, if it is there, or an invalid one. -/
def windowReasons : Option Json → Option (List EligibilityReason)
  | none => some []
  | some value => do
    let window ← asMapping value
    guard (membershipValid window windowMembers)
    match window.present "usedPercent" with
    | none => some []
    | some (.int used) =>
      if used < 0 ∨ 100 < used then none
      else if used = 100 then some [.includedWindowExhausted]
      else some []
    | some _ => none

/-- The reasons against execution, or an invalid observation. -/
def eligibilityReasons (result : Json) : Option (List EligibilityReason) := do
  let envelope ← asMapping result
  guard (membershipValid envelope knownEnvelopeMembers)
  let rateLimits ← (envelope.get? "rateLimits").bind asMapping
  guard (membershipValid rateLimits knownSnapshotMembers)
  let ordinary ← ordinaryReasons (envelope.get? "ordinaryUsageAllowed")
  let spendControl ← spendControlReasons (rateLimits.get? "spendControlReached")
  let reached ← reachedReasons (rateLimits.present "rateLimitReachedType")
  let individual ← individualReasons (rateLimits.present "individualLimit")
  let primary ← windowReasons (rateLimits.present "primary")
  let secondary ← windowReasons (rateLimits.present "secondary")
  return creditsReasons (rateLimits.get? "credits") ++ ordinary ++ spendControl ++ reached ++
    individual ++ (if (envelope.present "rateLimitUpsell").isSome then [.upsellPresent] else []) ++
    primary ++ secondary

/-- The state of a report by its reasons, in the order of their precedence. -/
def eligibilityState (reasons : List EligibilityReason) : EligibilityState :=
  if reasons = [] then .eligible
  else if .telemetryInvalid ∈ reasons then .unknown
  else if .purchasedCreditsPresent ∈ reasons then .policyBlocked
  else if .creditsStateUnknown ∈ reasons ∨ .ordinaryUsageUnknown ∈ reasons ∨
      .spendControlStateUnknown ∈ reasons then .unknown
  else .allowanceUnavailable

/-- `_report`. -/
def eligibilityReport (retrievedAt : Timestamp) (reasons : List EligibilityReason) :
    ExecutionEligibility where
  provider
  source
  retrievedAt
  state := eligibilityState reasons
  reasonCodes := sortedSet (reasons.map EligibilityReason.code)
  codes_sorted := strictlySorted_sortedSet _
  codes_iff := by
    have hnil : sortedSet (reasons.map EligibilityReason.code) = [] ↔ reasons = [] := by
      rw [List.eq_nil_iff_forall_not_mem]
      simp only [mem_sortedSet]
      rw [← List.eq_nil_iff_forall_not_mem, List.map_eq_nil_iff]
    rw [hnil]
    unfold eligibilityState
    split_ifs with hempty <;> simp [hempty]

/-- `parse_codex_execution_eligibility`. -/
def parseCodexExecutionEligibility (result : Json) (retrievedAt : Timestamp) :
    ExecutionEligibility :=
  eligibilityReport retrievedAt ((eligibilityReasons result).getD [.telemetryInvalid])

/-! ### What is eligible -/

/-- An individual limit that the reader accepts and that is not exhausted. -/
structure LimitLeft (value : Json) (limit : Record) (remaining : ℤ) : Prop where
  object : value = .object limit
  members : membershipValid limit individualLimitMembers = true
  total : (limit.get? "limit").any Json.isText = true
  spent : (limit.get? "used").any Json.isText = true
  rest : limit.get? "remainingPercent" = some (.int remaining)
  resets : (limit.get? "resetsAt").any (·.int?.isSome) = true
  left : remaining ≠ 0

/-- A main window that the reader accepts and that is not full. -/
structure WindowLeft (value : Json) (window : Record) : Prop where
  object : value = .object window
  members : membershipValid window windowMembers = true
  used : ∀ used, window.present "usedPercent" = some used → ∃ n, used = .int n ∧ 0 ≤ n ∧ n < 100

/-- Credits that are explicitly absent. -/
structure CreditsAbsent (credits : Record) : Prop where
  members : membershipValid credits creditsMembers = true
  unlimited : (credits.get? "unlimited").any Json.isBool = true
  balance : (credits.present "balance").all Json.isText = true
  absent : credits.get? "hasCredits" = some (.bool false)

/-- **A result that is reported eligible**: every mandatory condition holds explicitly, and nothing
    blocks. -/
structure CleanMain (envelope rateLimits : Record) : Prop where
  members : membershipValid envelope knownEnvelopeMembers = true
  snapshotMembers : membershipValid rateLimits knownSnapshotMembers = true
  credits : ∃ credits, rateLimits.get? "credits" = some (.object credits) ∧ CreditsAbsent credits
  ordinary : envelope.get? "ordinaryUsageAllowed" = some (.bool true)
  spendControl : rateLimits.get? "spendControlReached" = some (.bool false)
  reached : rateLimits.present "rateLimitReachedType" = none
  individual : ∀ value, rateLimits.present "individualLimit" = some value →
    ∃ limit remaining, LimitLeft value limit remaining
  upsell : envelope.present "rateLimitUpsell" = none
  windows : ∀ slot : WindowSlot, ∀ value, rateLimits.present slot.text = some value →
    ∃ window, WindowLeft value window

section Eligible

variable {result : Json} {envelope rateLimits : Record}

theorem creditsReasons_eq_nil {value : Option Json} : creditsReasons value = [] ↔
    ∃ credits, value = some (.object credits) ∧ CreditsAbsent credits := by
  unfold creditsReasons
  cases hvalue : value.bind asMapping with
  | none =>
    refine iff_of_false (List.cons_ne_nil _ _) ?_
    rintro ⟨credits, rfl, -⟩
    cases hvalue
  | some credits =>
    obtain ⟨raw, rfl, hobject⟩ := Option.bind_eq_some_iff.mp hvalue
    obtain rfl := asMapping_eq_some.mp hobject
    dsimp only
    constructor
    · intro h
      split_ifs at h with hdrift
      rw [Bool.or_eq_true, Bool.or_eq_true, not_or, not_or, Bool.not_eq_true', Bool.not_eq_true',
        Bool.not_eq_true', Bool.not_eq_false, Bool.not_eq_false, Bool.not_eq_false] at hdrift
      refine ⟨credits, rfl, hdrift.1.1, hdrift.1.2, hdrift.2, ?_⟩
      split at h
      · cases h
      · assumption
      · cases h
    · rintro ⟨_, heq, habsent⟩
      cases heq
      rw [habsent.members, habsent.unlimited, habsent.balance, habsent.absent]
      rfl

theorem ordinaryReasons_eq_nil {value : Option Json} :
    ordinaryReasons value = some [] ↔ value = some (.bool true) := by
  unfold ordinaryReasons
  split <;> simp_all

theorem spendControlReasons_eq_nil {value : Option Json} :
    spendControlReasons value = some [] ↔ value = some (.bool false) := by
  unfold spendControlReasons
  split <;> simp_all

theorem reachedReasons_eq_nil {value : Option Json} :
    reachedReasons value = some [] ↔ value = none := by
  unfold reachedReasons
  split
  · simp
  · split_ifs <;> simp

theorem individualReasons_eq_nil {value : Option Json} : individualReasons value = some [] ↔
    ∀ found, value = some found → ∃ limit remaining, LimitLeft found limit remaining := by
  cases value with
  | none => exact iff_of_true rfl nofun
  | some found =>
    simp only [Option.some.injEq, forall_eq']
    constructor
    · intro h
      obtain ⟨limit, hlimit, h⟩ := Option.bind_eq_some_iff.mp h
      obtain ⟨hmembers, h⟩ := guard_bind_eq_some.mp h
      obtain ⟨htext, h⟩ := guard_bind_eq_some.mp h
      obtain ⟨hused, h⟩ := guard_bind_eq_some.mp h
      obtain ⟨remaining, hremaining, h⟩ := Option.bind_eq_some_iff.mp h
      obtain ⟨hresets, h⟩ := guard_bind_eq_some.mp h
      obtain ⟨raw, hraw, hint⟩ := Option.bind_eq_some_iff.mp hremaining
      obtain rfl := Json.int?_eq_some.mp hint
      refine ⟨limit, remaining, asMapping_eq_some.mp hlimit, hmembers, htext, hused, hraw, hresets,
        ?_⟩
      rintro rfl
      cases h
    · rintro ⟨limit, remaining, hleft⟩
      unfold individualReasons
      dsimp only
      refine Option.bind_eq_some_iff.mpr ⟨limit, asMapping_eq_some.mpr hleft.object, ?_⟩
      refine guard_bind_eq_some.mpr ⟨hleft.members, guard_bind_eq_some.mpr ⟨hleft.total,
        guard_bind_eq_some.mpr ⟨hleft.spent, ?_⟩⟩⟩
      refine Option.bind_eq_some_iff.mpr ⟨remaining, by rw [hleft.rest]; rfl, ?_⟩
      refine guard_bind_eq_some.mpr ⟨hleft.resets, ?_⟩
      rw [if_neg hleft.left]
      rfl

theorem windowReasons_eq_nil {value : Option Json} : windowReasons value = some [] ↔
    ∀ found, value = some found → ∃ window, WindowLeft found window := by
  cases value with
  | none => exact iff_of_true rfl nofun
  | some found =>
    simp only [Option.some.injEq, forall_eq']
    unfold windowReasons
    dsimp only
    rw [Option.bind_eq_bind, Option.bind_eq_some_iff]
    constructor
    · rintro ⟨window, hwindow, h⟩
      obtain ⟨hmembers, h⟩ := guard_bind_eq_some.mp h
      refine ⟨window, asMapping_eq_some.mp hwindow, hmembers, fun used hused => ?_⟩
      rw [hused] at h
      split at h
      · rename_i hnone
        cases hnone
      · rename_i n hint
        obtain rfl := Option.some.inj hint
        split_ifs at h with hrange hfull
        · cases h
        · exact ⟨n, rfl, by omega, by omega⟩
      · cases h
    · rintro ⟨window, hleft⟩
      refine ⟨window, asMapping_eq_some.mpr hleft.object, guard_bind_eq_some.mpr
        ⟨hleft.members, ?_⟩⟩
      cases hpresent : window.present "usedPercent" with
      | none => rfl
      | some used =>
        obtain ⟨n, rfl, hlo, hhi⟩ := hleft.used used hpresent
        dsimp only
        rw [if_neg (by omega), if_neg (by omega)]

/-- **What is reported eligible.** -/
theorem eligible_iff {retrievedAt : Timestamp} :
    (parseCodexExecutionEligibility result retrievedAt).state = .eligible ↔
      ∃ envelope rateLimits : Record, result = .object envelope ∧
        envelope.get? "rateLimits" = some (.object rateLimits) ∧ CleanMain envelope rateLimits := by
  have hstate : (parseCodexExecutionEligibility result retrievedAt).state = .eligible ↔
      eligibilityReasons result = some [] := by
    show eligibilityState ((eligibilityReasons result).getD [.telemetryInvalid]) = _ ↔ _
    cases eligibilityReasons result with
    | none => decide
    | some reasons =>
      rw [Option.getD_some, Option.some.injEq]
      unfold eligibilityState
      split_ifs with hempty <;> simp [hempty]
  rw [hstate]
  unfold eligibilityReasons
  constructor
  · intro h
    obtain ⟨envelope, henvelope, h⟩ := Option.bind_eq_some_iff.mp h
    obtain ⟨hmembers, h⟩ := guard_bind_eq_some.mp h
    obtain ⟨rateLimits, hrateLimits, h⟩ := Option.bind_eq_some_iff.mp h
    obtain ⟨hsnapshot, h⟩ := guard_bind_eq_some.mp h
    obtain ⟨ordinary, hordinary, h⟩ := Option.bind_eq_some_iff.mp h
    obtain ⟨spendControl, hspend, h⟩ := Option.bind_eq_some_iff.mp h
    obtain ⟨reached, hreached, h⟩ := Option.bind_eq_some_iff.mp h
    obtain ⟨individual, hindividual, h⟩ := Option.bind_eq_some_iff.mp h
    obtain ⟨primary, hprimary, h⟩ := Option.bind_eq_some_iff.mp h
    obtain ⟨secondary, hsecondary, h⟩ := Option.bind_eq_some_iff.mp h
    have hnil := Option.some.inj h
    simp only [List.append_eq_nil_iff] at hnil
    obtain ⟨⟨⟨⟨⟨⟨⟨hcredits, rfl⟩, rfl⟩, rfl⟩, rfl⟩, hupsell⟩, rfl⟩, rfl⟩ := hnil
    obtain ⟨raw, hraw, hobject⟩ := Option.bind_eq_some_iff.mp hrateLimits
    obtain rfl := asMapping_eq_some.mp hobject
    refine ⟨envelope, rateLimits, asMapping_eq_some.mp henvelope, hraw,
      { members := hmembers
        snapshotMembers := hsnapshot
        credits := creditsReasons_eq_nil.mp hcredits
        ordinary := ordinaryReasons_eq_nil.mp hordinary
        spendControl := spendControlReasons_eq_nil.mp hspend
        reached := reachedReasons_eq_nil.mp hreached
        individual := individualReasons_eq_nil.mp hindividual
        upsell := ?_
        windows := fun slot => ?_ }⟩
    · split_ifs at hupsell with hsome
      exact Option.not_isSome_iff_eq_none.mp hsome
    · cases slot with
      | primary => exact windowReasons_eq_nil.mp hprimary
      | secondary => exact windowReasons_eq_nil.mp hsecondary
  · rintro ⟨envelope, rateLimits, rfl, hmain, hclean⟩
    refine Option.bind_eq_some_iff.mpr ⟨envelope, rfl, guard_bind_eq_some.mpr ⟨hclean.members, ?_⟩⟩
    refine Option.bind_eq_some_iff.mpr ⟨rateLimits, by rw [hmain]; rfl,
      guard_bind_eq_some.mpr ⟨hclean.snapshotMembers, ?_⟩⟩
    have hprimary : windowReasons (rateLimits.present "primary") = some [] :=
      windowReasons_eq_nil.mpr (hclean.windows .primary)
    have hsecondary : windowReasons (rateLimits.present "secondary") = some [] :=
      windowReasons_eq_nil.mpr (hclean.windows .secondary)
    rw [ordinaryReasons_eq_nil.mpr hclean.ordinary, spendControlReasons_eq_nil.mpr
      hclean.spendControl, reachedReasons_eq_nil.mpr hclean.reached,
      individualReasons_eq_nil.mpr hclean.individual, hprimary, hsecondary,
      creditsReasons_eq_nil.mpr hclean.credits, hclean.upsell]
    rfl

end Eligible

/-! ### What only the capacity parser reads -/

/-- The members of the main snapshot that only the capacity parser reads: the identity, the labels,
    the widths of the individual limit, and the windows with their periods. -/
structure MainInOrder (rateLimits : Record) : Prop where
  identity : (rateLimits.get? "limitId").any (Json.isOneOf [limitId.text]) = true
  name : (rateLimits.present "limitName").all Json.isText = true
  slug : (rateLimits.present "normalModelSlug").all Json.isText = true
  plan : (rateLimits.present "planType").all (Json.isOneOf evidencedPlans) = true
  limit : ∀ limit : Record, rateLimits.get? "individualLimit" = some (.object limit) →
    (∀ remaining, limit.get? "remainingPercent" = some (.int remaining) → FitsI32 remaining) ∧
      (limit.get? "resetsAt").any fitsI64 = true
  windows : ∀ slot : WindowSlot, ∀ entry, rateLimits.get? slot.text = some (.object entry) →
    ∃ facts, parseWindow entry slot.windowId limitId = some facts
  periods : ∀ primary secondary first second, rateLimits.get? "primary" = some (.object primary) →
    rateLimits.get? "secondary" = some (.object secondary) →
    parseWindow primary WindowSlot.primary.windowId limitId = some first →
    parseWindow secondary WindowSlot.secondary.windowId limitId = some second →
      first.window.kind = second.window.kind → first.window.kind = .unknown

/-- An additional bucket is valid, and nothing blocks it. -/
def BucketInOrder (buckets : Record) (key : Text) : Prop :=
  ∃ bucket scope state, valueOf buckets key = .object bucket ∧ bucketScope key = some scope ∧
    quotaSnapshotState bucket true scope (some scope) = some state ∧ state.blocked = false

/-- The buckets mirror the main snapshot, and the additional ones are in order. -/
structure BucketsInOrder (stack : ℕ) (rateLimits buckets mirror : Record) : Prop where
  mirrored : valueOf buckets limitId.toText = .object mirror
  valid : (mainState mirror).isSome = true
  same : strictEqual stack (.object mirror) (.object rateLimits) = .ok true
  others : ∀ key ∈ buckets.map Prod.fst, key ≠ limitId.toText → BucketInOrder buckets key

/-- **What the capacity parser demands and the eligibility reader does not look at.** -/
structure OnlyCapacityReads (stack : ℕ) (envelope rateLimits : Record) : Prop where
  account : (envelope.present "accountId").all Json.isText = true
  credits : (envelope.present "rateLimitResetCredits").all resetCreditsValid = true
  main : MainInOrder rateLimits
  buckets : ∀ value, envelope.present "rateLimitsByLimitId" = some value →
    ∃ buckets mirror, value = .object buckets ∧ BucketsInOrder stack rateLimits buckets mirror

section Agreement

variable {stack : ℕ} {result : Json} {envelope rateLimits buckets : Record}

/-- Individual limits that both readers accept. -/
theorem individualLimitState_of_left {value : Json} {limit : Record} {remaining : ℤ}
    (hleft : LimitLeft value limit remaining) :
    (∃ exhausted, individualLimitState value = some exhausted) ↔
      FitsI32 remaining ∧ (limit.get? "resetsAt").any fitsI64 = true := by
  unfold individualLimitState
  rw [hleft.object]
  constructor
  · rintro ⟨exhausted, h⟩
    obtain ⟨_, hlimit, h⟩ := Option.bind_eq_some_iff.mp h
    cases Option.some.inj hlimit
    obtain ⟨-, h⟩ := guard_bind_eq_some.mp h
    obtain ⟨-, h⟩ := guard_bind_eq_some.mp h
    obtain ⟨-, h⟩ := guard_bind_eq_some.mp h
    obtain ⟨found, hfound, h⟩ := Option.bind_eq_some_iff.mp h
    obtain ⟨hwidth, h⟩ := guard_bind_eq_some.mp h
    obtain ⟨hresets, -⟩ := guard_bind_eq_some.mp h
    rw [hleft.rest] at hfound
    cases Option.some.inj hfound
    exact ⟨hwidth, hresets⟩
  · rintro ⟨hwidth, hresets⟩
    refine ⟨decide (remaining = 0), Option.bind_eq_some_iff.mpr ⟨limit, rfl, ?_⟩⟩
    refine guard_bind_eq_some.mpr ⟨hleft.members, guard_bind_eq_some.mpr ⟨hleft.total,
      guard_bind_eq_some.mpr ⟨hleft.spent, ?_⟩⟩⟩
    refine Option.bind_eq_some_iff.mpr ⟨remaining, by rw [hleft.rest]; rfl, ?_⟩
    exact guard_bind_eq_some.mpr ⟨hwidth, guard_bind_eq_some.mpr ⟨hresets, rfl⟩⟩

/-- The credits that the eligibility reader accepts are valid. -/
theorem creditsValid_of_absent {credits : Record} (h : CreditsAbsent credits) :
    creditsValid (.object credits) = true := by
  show (membershipValid credits creditsMembers && (credits.get? "hasCredits").any Json.isBool &&
    (credits.get? "unlimited").any Json.isBool && (credits.present "balance").all Json.isText) = true
  rw [h.members, h.absent, h.unlimited, h.balance]
  rfl

/-- The two slots, one after another. -/
theorem mapM_windowSlots {α : Type} {f : WindowSlot → Option α} {found : List α} :
    windowSlots.mapM f = some found ↔
      ∃ first second, f .primary = some first ∧ f .secondary = some second ∧
        found = [first, second] := by
  unfold windowSlots
  rw [List.mapM_cons, Option.bind_eq_bind, Option.bind_eq_some_iff]
  refine exists_congr fun first => ?_
  rw [List.mapM_cons, Option.bind_eq_bind, Option.bind_eq_some_iff]
  constructor
  · rintro ⟨hfirst, rest, hrest, h⟩
    obtain ⟨second, hsecond, hrest⟩ := Option.bind_eq_some_iff.mp hrest
    cases hrest
    exact ⟨second, hfirst, hsecond, (Option.some.inj h).symm⟩
  · rintro ⟨second, hfirst, hsecond, rfl⟩
    refine ⟨hfirst, [second], ?_, rfl⟩
    rw [hsecond]
    rfl

/-- Two windows have distinct known periods. -/
theorem nodup_knownKinds {first second : WindowFacts} : (knownKinds [first, second]).Nodup ↔
    (first.window.kind = second.window.kind → first.window.kind = .unknown) := by
  unfold knownKinds
  rw [List.map_cons, List.map_cons, List.map_nil]
  cases first.window.kind <;> cases second.window.kind <;> decide

/-- A slot of a clean main snapshot is read where its window is. -/
theorem parseSlot_eq_some (hclean : CleanMain envelope rateLimits) {slot : WindowSlot}
    {found : Option WindowFacts} : parseSlot rateLimits limitId none slot = some found ↔
      (∀ facts ∈ found, ∃ entry, rateLimits.get? slot.text = some (.object entry) ∧
        parseWindow entry slot.windowId limitId = some facts) ∧
      (found = none → rateLimits.present slot.text = none) := by
  unfold parseSlot
  cases hpresent : rateLimits.present slot.text with
  | none =>
    dsimp only
    rw [Option.some.injEq]
    constructor
    · rintro rfl
      exact ⟨nofun, fun _ => rfl⟩
    · rintro ⟨hfacts, -⟩
      cases found with
      | none => rfl
      | some facts =>
        obtain ⟨entry, hentry, -⟩ := hfacts facts rfl
        rw [present_eq_some.mpr ⟨hentry, rfl⟩] at hpresent
        cases hpresent
  | some value =>
    obtain ⟨entry, hleft⟩ := hclean.windows slot value hpresent
    obtain rfl := hleft.object
    have hget := (present_eq_some.mp hpresent).1
    constructor
    · intro h
      obtain ⟨_, hentry, h⟩ := Option.bind_eq_some_iff.mp h
      cases Option.some.inj hentry
      obtain ⟨windowId, hwindowId, h⟩ := Option.bind_eq_some_iff.mp h
      cases Option.some.inj hwindowId
      obtain ⟨facts, hfacts, h⟩ := Option.bind_eq_some_iff.mp h
      obtain rfl := Option.some.inj h
      exact ⟨fun _ heq => ⟨entry, hget, by rw [← Option.some.inj heq]; exact hfacts⟩, nofun⟩
    · rintro ⟨hfacts, hnone⟩
      cases found with
      | none => cases hnone rfl
      | some facts =>
        obtain ⟨other, hother, hwindow⟩ := hfacts facts rfl
        rw [hget] at hother
        cases hother
        refine Option.bind_eq_some_iff.mpr ⟨entry, rfl, Option.bind_eq_some_iff.mpr
          ⟨slot.windowId, rfl, Option.bind_eq_some_iff.mpr ⟨facts, hwindow, rfl⟩⟩⟩

/-- **A clean main snapshot is valid exactly if it is in order.** -/
theorem mainState_isSome (hclean : CleanMain envelope rateLimits) :
    (∃ state, mainState rateLimits = some state) ↔ MainInOrder rateLimits := by
  unfold mainState quotaSnapshotState
  obtain ⟨credits, hcredits, habsent⟩ := hclean.credits
  constructor
  · rintro ⟨state, h⟩
    obtain ⟨-, h⟩ := guard_bind_eq_some.mp h
    obtain ⟨hidentity, h⟩ := guard_bind_eq_some.mp h
    obtain ⟨hname, h⟩ := guard_bind_eq_some.mp h
    obtain ⟨hslug, h⟩ := guard_bind_eq_some.mp h
    obtain ⟨hplan, h⟩ := guard_bind_eq_some.mp h
    obtain ⟨-, h⟩ := guard_bind_eq_some.mp h
    obtain ⟨spendControl, -, h⟩ := Option.bind_eq_some_iff.mp h
    obtain ⟨-, h⟩ := guard_bind_eq_some.mp h
    obtain ⟨exhausted, hexhausted, h⟩ := Option.bind_eq_some_iff.mp h
    obtain ⟨found, hfound, h⟩ := Option.bind_eq_some_iff.mp h
    obtain ⟨hkinds, -⟩ := guard_bind_eq_some.mp h
    obtain ⟨first, second, hfirst, hsecond, rfl⟩ := mapM_windowSlots.mp hfound
    obtain ⟨hfirst, hnoFirst⟩ := (parseSlot_eq_some hclean).mp hfirst
    obtain ⟨hsecond, hnoSecond⟩ := (parseSlot_eq_some hclean).mp hsecond
    have hone : ∀ {slot : WindowSlot} {facts : Option WindowFacts} {entry : Record},
        (∀ found ∈ facts, ∃ entry, rateLimits.get? slot.text = some (.object entry) ∧
          parseWindow entry slot.windowId limitId = some found) →
        (facts = none → rateLimits.present slot.text = none) →
        rateLimits.get? slot.text = some (.object entry) →
          ∃ found ∈ facts, parseWindow entry slot.windowId limitId = some found := by
      intro slot facts entry hfacts hnone hentry
      cases facts with
      | none =>
        have := hnone rfl
        rw [present_eq_some.mpr ⟨hentry, rfl⟩] at this
        cases this
      | some found =>
        obtain ⟨other, hother, hwindow⟩ := hfacts found rfl
        rw [hentry] at hother
        cases hother
        exact ⟨found, rfl, hwindow⟩
    refine ⟨hidentity, hname, hslug, hplan, fun limit hlimit => ?_, fun slot entry hentry => ?_,
      fun primary secondary one two hprimary hsecondary hone' htwo' => ?_⟩
    · have hpresent : rateLimits.present "individualLimit" = some (.object limit) :=
        present_eq_some.mpr ⟨hlimit, rfl⟩
      obtain ⟨_, remaining, hleft⟩ := hclean.individual _ hpresent
      cases hleft.object
      rw [hpresent] at hexhausted
      obtain ⟨hwidth, hresets⟩ := (individualLimitState_of_left hleft).mp ⟨exhausted, hexhausted⟩
      refine ⟨fun other hother => ?_, hresets⟩
      rw [hleft.rest] at hother
      cases hother
      exact hwidth
    · cases slot with
      | primary =>
        obtain ⟨facts, -, hwindow⟩ := hone hfirst hnoFirst hentry
        exact ⟨facts, hwindow⟩
      | secondary =>
        obtain ⟨facts, -, hwindow⟩ := hone hsecond hnoSecond hentry
        exact ⟨facts, hwindow⟩
    · obtain ⟨_, rfl, hwindow⟩ := @hone .primary _ _ hfirst hnoFirst hprimary
      rw [hone'] at hwindow
      cases hwindow
      obtain ⟨_, rfl, hwindow⟩ := @hone .secondary _ _ hsecond hnoSecond hsecondary
      rw [htwo'] at hwindow
      cases hwindow
      exact nodup_knownKinds.mp hkinds
  · intro horder
    have hspend : spendControlState (rateLimits.present "spendControlReached") = some false := by
      rw [present_eq_some.mpr ⟨hclean.spendControl, rfl⟩]
      rfl
    have hpresent : rateLimits.present "credits" = some (.object credits) :=
      present_eq_some.mpr ⟨hcredits, rfl⟩
    obtain ⟨exhausted, hexhausted⟩ : ∃ exhausted,
        (rateLimits.present "individualLimit").elim (some false) individualLimitState =
          some exhausted := by
      cases hindividual : rateLimits.present "individualLimit" with
      | none => exact ⟨false, rfl⟩
      | some value =>
        obtain ⟨limit, remaining, hleft⟩ := hclean.individual value hindividual
        have hget := (present_eq_some.mp hindividual).1
        rw [hleft.object] at hget
        obtain ⟨hwidth, hresets⟩ := horder.limit limit hget
        exact (individualLimitState_of_left hleft).mpr ⟨hwidth remaining hleft.rest, hresets⟩
    have hslot : ∀ slot, ∃ found, parseSlot rateLimits limitId none slot = some found := by
      intro slot
      cases hfound : rateLimits.present slot.text with
      | none => exact ⟨none, (parseSlot_eq_some hclean).mpr ⟨nofun, fun _ => hfound⟩⟩
      | some value =>
        obtain ⟨entry, hleft⟩ := hclean.windows slot value hfound
        have hget := (present_eq_some.mp hfound).1
        rw [hleft.object] at hget
        obtain ⟨facts, hfacts⟩ := horder.windows slot entry hget
        refine ⟨some facts, (parseSlot_eq_some hclean).mpr ⟨fun _ heq => ?_, nofun⟩⟩
        rw [← Option.some.inj heq]
        exact ⟨entry, hget, hfacts⟩
    obtain ⟨first, hfirst⟩ := hslot .primary
    obtain ⟨second, hsecond⟩ := hslot .secondary
    have hkinds : (knownKinds [first, second].reduceOption).Nodup := by
      have hsingle : ∀ facts : WindowFacts, (knownKinds [facts]).Nodup := fun facts =>
        (List.nodup_singleton _).filter _
      cases first with
      | none =>
        cases second with
        | none => exact List.nodup_nil
        | some second => exact hsingle second
      | some first =>
        cases second with
        | none => exact hsingle first
        | some second =>
          obtain ⟨primary, hprimary, hone⟩ := ((parseSlot_eq_some hclean).mp hfirst).1 first rfl
          obtain ⟨secondary, hsecondary, htwo⟩ :=
            ((parseSlot_eq_some hclean).mp hsecond).1 second rfl
          exact nodup_knownKinds.mpr
            (horder.periods primary secondary first second hprimary hsecondary hone htwo)
    refine ⟨⟨[first, second].reduceOption, (rateLimits.present "rateLimitReachedType").isSome ||
      false || exhausted || (false && [first, second].reduceOption.any
        (·.window.usedPercent = some 100))⟩, ?_⟩
    refine guard_bind_eq_some.mpr ⟨hclean.snapshotMembers, guard_bind_eq_some.mpr
      ⟨horder.identity, guard_bind_eq_some.mpr ⟨horder.name, guard_bind_eq_some.mpr
        ⟨horder.slug, guard_bind_eq_some.mpr ⟨horder.plan, guard_bind_eq_some.mpr
          ⟨by rw [hclean.reached]; rfl, ?_⟩⟩⟩⟩⟩⟩
    refine Option.bind_eq_some_iff.mpr ⟨false, hspend, guard_bind_eq_some.mpr ⟨?_, ?_⟩⟩
    · rw [hpresent]
      exact creditsValid_of_absent habsent
    · refine Option.bind_eq_some_iff.mpr ⟨exhausted, hexhausted, Option.bind_eq_some_iff.mpr
        ⟨[first, second], mapM_windowSlots.mpr ⟨first, second, hfirst, hsecond, rfl⟩, ?_⟩⟩
      exact guard_bind_eq_some.mpr ⟨hkinds, rfl⟩

/-- A comparison of the mirror that succeeds. -/
theorem mirrors_eq_ok {left right : Record} : mirrors stack left right = .ok () ↔
    strictEqual stack (.object left) (.object right) = .ok true := by
  unfold mirrors
  cases strictEqual stack (.object left) (.object right) with
  | ok same => cases same <;> simp
  | error e =>
    cases e
    simp

/-- What the loop over the buckets makes of a key. -/
theorem readBucket_eq_ok {key : Text} {found : Option SnapshotState} :
    readBucket stack rateLimits buckets key = .ok found ↔
      ∃ bucket, valueOf buckets key = .object bucket ∧
        if key = limitId.toText then
          strictEqual stack (.object bucket) (.object rateLimits) = .ok true ∧ found = none
        else ∃ scope state, bucketScope key = some scope ∧
          quotaSnapshotState bucket true scope (some scope) = some state ∧ found = some state := by
  unfold readBucket
  rw [bind_eq_ok]
  simp only [orDrift_eq_ok, asMapping_eq_some]
  refine exists_congr fun bucket => and_congr_right fun _ => ?_
  split_ifs with hkey
  · rw [bind_eq_ok]
    constructor
    · rintro ⟨_, hsame, h⟩
      exact ⟨mirrors_eq_ok.mp hsame, (Except.ok.inj h).symm⟩
    · rintro ⟨hsame, rfl⟩
      exact ⟨(), mirrors_eq_ok.mpr hsame, rfl⟩
  · simp only [bind_eq_ok, orDrift_eq_ok]
    constructor
    · rintro ⟨scope, hscope, state, hstate, h⟩
      exact ⟨scope, state, hscope, hstate, (Except.ok.inj h).symm⟩
    · rintro ⟨scope, state, hscope, hstate, rfl⟩
      exact ⟨scope, hscope, state, hstate, rfl⟩

/-- **The buckets are read, and none is blocked, exactly if they are in order.** -/
theorem readBuckets_clear : (∃ states, readBuckets stack rateLimits buckets = .ok states ∧
    states.any (·.blocked) = false) ↔ ∃ mirror, BucketsInOrder stack rateLimits buckets mirror := by
  unfold readBuckets
  simp only [bind_eq_ok, orDrift_eq_ok, asMapping_eq_some]
  constructor
  · rintro ⟨states, ⟨mirror, hmirror, state, hstate, _, hsame, found, hfound, h⟩, hclear⟩
    obtain rfl := Except.ok.inj h
    refine ⟨mirror, hmirror, by rw [hstate]; rfl, mirrors_eq_ok.mp hsame, fun key hkey hother => ?_⟩
    obtain ⟨read, hread, hbucket⟩ := exists_mem_of_mapM hfound (mem_sortBy.mpr hkey)
    obtain ⟨bucket, hvalue, hrest⟩ := readBucket_eq_ok.mp hbucket
    rw [if_neg hother] at hrest
    obtain ⟨scope, state, hscope, hstate, rfl⟩ := hrest
    refine ⟨bucket, scope, state, hvalue, hscope, hstate, ?_⟩
    rw [List.any_eq_false] at hclear
    have hmem : state ∈ found.reduceOption := List.reduceOption_mem_iff.mpr hread
    exact Bool.not_eq_true _ ▸ hclear state hmem
  · rintro ⟨mirror, horder⟩
    obtain ⟨main, hmain⟩ := Option.isSome_iff_exists.mp horder.valid
    have hloop : ∀ key ∈ sortBy id (buckets.map Prod.fst), ∃ found,
        readBucket stack rateLimits buckets key = .ok found ∧
          ∀ state ∈ found, state.blocked = false := by
      intro key hkey
      by_cases hcodex : key = limitId.toText
      · refine ⟨none, readBucket_eq_ok.mpr ⟨mirror, ?_, ?_⟩, nofun⟩
        · rw [hcodex]
          exact horder.mirrored
        · rw [if_pos hcodex]
          exact ⟨horder.same, rfl⟩
      · obtain ⟨bucket, scope, state, hvalue, hscope, hstate, hfree⟩ :=
          horder.others key (mem_sortBy.mp hkey) hcodex
        refine ⟨some state, readBucket_eq_ok.mpr ⟨bucket, hvalue, ?_⟩, fun _ heq => ?_⟩
        · rw [if_neg hcodex]
          exact ⟨scope, state, hscope, hstate, rfl⟩
        · rw [← Option.some.inj heq]
          exact hfree
    obtain ⟨found, hfound, hsound, -⟩ := mapM_sound
      (R := fun _ found => ∀ state ∈ found, SnapshotState.blocked state = false) hloop
    refine ⟨found.reduceOption, ⟨mirror, horder.mirrored, main, hmain, (),
      mirrors_eq_ok.mpr horder.same, found, hfound, rfl⟩, ?_⟩
    rw [List.any_eq_false]
    intro state hstate
    obtain ⟨_, _, hfree⟩ := hsound _ (List.reduceOption_mem_iff.mp hstate)
    rw [hfree state rfl]
    exact Bool.false_ne_true

/-- **A clean result is accepted by the capacity parser exactly if what only that parser reads is in
    order.** -/
theorem accepted_iff (hclean : CleanMain envelope rateLimits)
    (hmain : envelope.get? "rateLimits" = some (.object rateLimits)) :
    (∃ reading, readQuota stack (.object envelope) = .ok reading ∧ reading.blocked = false) ↔
      OnlyCapacityReads stack envelope rateLimits := by
  have hordinary : envelope.present "ordinaryUsageAllowed" = some (.bool true) :=
    present_eq_some.mpr ⟨hclean.ordinary, rfl⟩
  unfold readQuota
  have hobject : ∀ members : Record, orDrift (asMapping (.object members)) = .ok members :=
    fun _ => rfl
  simp only [hmain, Option.bind_some, hobject, ok_bind, check_bind_eq_ok]
  simp only [bind_eq_ok, orDrift_eq_ok]
  constructor
  · rintro ⟨reading, ⟨-, -, haccount, hcredits, hmapping, buckets, hbuckets, main, hstate, h⟩,
      hfree⟩
    obtain rfl := Except.ok.inj h
    refine ⟨haccount, hcredits, (mainState_isSome hclean).mp ⟨main, hstate⟩, fun value hvalue => ?_⟩
    rw [hvalue] at hmapping hbuckets
    obtain ⟨members, hmembers⟩ := Option.isSome_iff_exists.mp hmapping
    obtain rfl := asMapping_eq_some.mp hmembers
    unfold QuotaReading.blocked at hfree
    simp only [Bool.or_eq_false_iff] at hfree
    obtain ⟨mirror, horder⟩ := readBuckets_clear.mp ⟨buckets, hbuckets, hfree.1.2⟩
    exact ⟨members, mirror, rfl, horder⟩
  · intro horder
    obtain ⟨main, hstate⟩ := (mainState_isSome hclean).mpr horder.main
    have hunblocked : main.blocked = false := by
      rw [Bool.eq_false_iff, Ne, (quotaSnapshotState_spec hstate).2]
      rintro ((hreached | hspend | ⟨limit, hlimit, hzero⟩) | ⟨hfull, -⟩)
      · rw [hclean.reached] at hreached
        cases hreached
      · rw [hclean.spendControl] at hspend
        cases hspend
      · obtain ⟨_, remaining, hleft⟩ := hclean.individual _ (present_eq_some.mpr ⟨hlimit, rfl⟩)
        cases hleft.object
        rw [hleft.rest] at hzero
        cases hzero
        exact hleft.left rfl
      · cases hfull
    obtain ⟨states, hstates, hclear⟩ : ∃ states,
        ((envelope.present "rateLimitsByLimitId").bind asMapping).elim (.ok [])
          (readBuckets stack rateLimits) = .ok states ∧ states.any (·.blocked) = false := by
      cases hpresent : envelope.present "rateLimitsByLimitId" with
      | none => exact ⟨[], rfl, rfl⟩
      | some value =>
        obtain ⟨buckets, mirror, rfl, hbuckets⟩ := horder.buckets value hpresent
        exact readBuckets_clear.mpr ⟨mirror, hbuckets⟩
    refine ⟨_, ⟨hclean.members, by rw [hordinary]; rfl, horder.account, horder.credits, ?_,
      states, hstates, main, hstate, rfl⟩, ?_⟩
    · cases hpresent : envelope.present "rateLimitsByLimitId" with
      | none => rfl
      | some value =>
        obtain ⟨buckets, mirror, rfl, -⟩ := horder.buckets value hpresent
        rfl
    · unfold QuotaReading.blocked QuotaReading.unpermitted
      dsimp only
      rw [hclean.upsell, hunblocked, hclear, hordinary]
      rfl

/-- No report of a reading is a drift. -/
theorem QuotaReading.status_report (reading : QuotaReading) (retrievedAt : Timestamp) :
    (reading.report retrievedAt).status ≠ .schemaChanged := by
  unfold QuotaReading.report
  dsimp only
  split_ifs <;> exact fun h => by cases h

/-- A result that is reported eligible is no drift, and has no blocker, for the capacity parser. -/
def EligibilityAgrees (stack : ℕ) (result : Json) (retrievedAt : Timestamp) : Prop :=
  ∀ snapshot, parseCodexRateLimitsResult stack result retrievedAt = .ok snapshot →
    (parseCodexExecutionEligibility result retrievedAt).state = .eligible →
      snapshot.status ≠ .schemaChanged ∧
        ∀ envelope, result = .object envelope → ¬ EnvelopeBlocked envelope

/-- **The two readers agree on a result exactly if what only the capacity parser reads is in
    order**, in a result that the eligibility reader finds clean. -/
theorem eligibility_agrees_iff (stack : ℕ) (result : Json) (retrievedAt : Timestamp) :
    EligibilityAgrees stack result retrievedAt ↔ (ComparesInStack stack result →
      ∀ envelope rateLimits : Record, result = .object envelope →
        envelope.get? "rateLimits" = some (.object rateLimits) → CleanMain envelope rateLimits →
          OnlyCapacityReads stack envelope rateLimits) := by
  constructor
  · rintro hagrees hcompares envelope rateLimits rfl hmain hclean
    have hends := ends_readQuota.mpr hcompares
    have heligible : (parseCodexExecutionEligibility (.object envelope) retrievedAt).state =
        .eligible := eligible_iff.mpr ⟨envelope, rateLimits, rfl, hmain, hclean⟩
    refine (accepted_iff hclean hmain).mp ?_
    unfold EligibilityAgrees parseCodexRateLimitsResult at hagrees
    cases hread : readQuota stack (.object envelope) with
    | ok reading =>
      rw [hread] at hagrees
      obtain ⟨-, hfree⟩ := hagrees _ rfl heligible
      obtain ⟨_, heq, hreads⟩ := readQuota_spec hread
      cases heq
      refine ⟨reading, rfl, Bool.eq_false_iff.mpr fun hblocked => ?_⟩
      exact hfree envelope rfl (hreads.blocked_iff.mp hblocked)
    | error stop =>
      rw [hread] at hagrees hends
      obtain rfl : stop = .drift := hends
      exact absurd rfl (hagrees _ rfl heligible).1
  · intro h snapshot hparse heligible
    have hends : Ends (· = .drift) (fun _ => True) (readQuota stack result) := by
      unfold parseCodexRateLimitsResult at hparse
      cases hread : readQuota stack result with
      | ok reading => exact trivial
      | error stop =>
        rw [hread] at hparse
        cases stop with
        | drift => rfl
        | recursionError => cases hparse
    obtain ⟨envelope, rateLimits, rfl, hmain, hclean⟩ := eligible_iff.mp heligible
    obtain ⟨reading, hread, hfree⟩ := (accepted_iff hclean hmain).mpr
      (h (ends_readQuota.mp hends) envelope rateLimits rfl hmain hclean)
    unfold parseCodexRateLimitsResult at hparse
    rw [hread] at hparse
    rw [← Except.ok.inj hparse]
    refine ⟨reading.status_report retrievedAt, fun other heq hblock => ?_⟩
    cases heq
    obtain ⟨_, heq, hreads⟩ := readQuota_spec hread
    cases heq
    rw [hreads.blocked_iff.mpr hblock] at hfree
    cases hfree

end Agreement

/-! ### A bucket that the eligibility reader does not see -/

/-- A main snapshot in which every mandatory condition holds explicitly. -/
def cleanSnapshot : Record :=
  [member "limitId" (.string (Text.ofString "codex")),
    member "primary" (.object [member "usedPercent" (.int 40)]),
    member "credits" (.object [member "hasCredits" (.bool false), member "unlimited" (.bool false)]),
    member "spendControlReached" (.bool false)]

/-- A result with a bucket next to the mirror, whose spend control is reached. -/
def spentBucketEnvelope : Record :=
  [member "rateLimits" (.object cleanSnapshot), member "ordinaryUsageAllowed" (.bool true),
    member "rateLimitsByLimitId" (.object [member "codex" (.object cleanSnapshot),
      member "spark" (.object [member "limitId" (.string (Text.ofString "spark")),
        member "primary" (.object [member "usedPercent" (.int 10)]),
        member "spendControlReached" (.bool true)])])]

/-- The capacity parser withholds every percentage of it; the eligibility reader reports it
    eligible. -/
theorem spent_bucket_eligible : ¬ ∀ (result : Json) (retrievedAt : Timestamp),
    EligibilityAgrees 1000 result retrievedAt := by
  intro h
  have hstatus : (parseCodexRateLimitsResult 1000 (.object spentBucketEnvelope) 0).toOption.map
      (·.status) = some .unknown := by decide +kernel
  obtain ⟨snapshot, hsnapshot, -⟩ := Option.map_eq_some_iff.mp hstatus
  have heligible : (parseCodexExecutionEligibility (.object spentBucketEnvelope) 0).state =
      .eligible := by decide +kernel
  refine (h _ 0 snapshot (eq_ok_of_toOption hsnapshot) heligible).2 spentBucketEnvelope rfl ?_
  have hkey : Text.ofString "spark" ∈ bucketKeys spentBucketEnvelope := by decide +kernel
  exact .inr (.inr (.inr ⟨_, hkey, .inl (.inr (.inl rfl))⟩))

end ScarcityRouter.CodexQuota
