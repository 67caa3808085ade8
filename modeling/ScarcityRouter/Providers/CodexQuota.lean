import ScarcityRouter.Providers.Telemetry

namespace ScarcityRouter.CodexQuota

open ScarcityRouter.Lib

/-!
# The Codex rate limits

`openai_codex.py`: the decoded result of `account/rateLimits/read`, normalized into a capacity
snapshot.

* `strictEqual` — `_strict_equal`, which calls itself once for each level of its values: on a stack
  that holds fewer levels it raises `RecursionError`.
* `parseWindow`, `quotaSnapshotState` — one window slot, and one quota snapshot with its blockers.
* `readQuota` — the validation of a whole result, which drifts or raises.
* `parseCodexRateLimitsResult` — the snapshot that is reported.

Diagnostics of a drifted result carry no detail, so that a drift is one outcome of the readers.
-/

/-! ### Vocabulary -/

/-- `PROVIDER`. -/
def provider : SafeId := .lit "openai"

/-- `SOURCE`. -/
def source : SafeId := .lit "codex_app_server"

/-- `_LIMIT_ID`. -/
def limitId : SafeId := .lit "codex"

/-- `_WINDOW_SLOTS`. -/
inductive WindowSlot where
  | primary | secondary
  deriving DecidableEq

def WindowSlot.text : WindowSlot → String
  | .primary => "primary" | .secondary => "secondary"

/-- The slots in the order they are read. -/
def windowSlots : List WindowSlot := [.primary, .secondary]

/-- The identity of a main window. -/
def WindowSlot.windowId : WindowSlot → SafeId
  | .primary => .lit "primary" | .secondary => .lit "secondary"

/-- `KNOWN_SNAPSHOT_MEMBERS`. -/
def knownSnapshotMembers : List String :=
  ["limitId", "limitName", "normalModelSlug", "planType", "rateLimitReachedType",
    "spendControlReached", "credits", "individualLimit", "primary", "secondary"]

/-- `KNOWN_ENVELOPE_MEMBERS`. -/
def knownEnvelopeMembers : List String :=
  ["rateLimits", "rateLimitsByLimitId", "rateLimitResetCredits", "ordinaryUsageAllowed",
    "accountId", "rateLimitUpsell"]

/-- `_EVIDENCED_PLANS`. -/
def evidencedPlans : List String :=
  ["free", "go", "plus", "pro", "prolite", "team", "business", "edu", "edu_plus", "edu_pro",
    "enterprise", "ent26", "enterprise_cbp_automation", "enterprise_cbp_usage_based",
    "self_serve_business_prolite", "self_serve_business_usage_based", "unknown"]

/-- `REACHED_TYPES`. -/
def reachedTypes : List String :=
  ["rate_limit_reached", "workspace_member_credits_depleted", "workspace_owner_credits_depleted",
    "workspace_owner_usage_limit_reached", "workspace_member_usage_limit_reached"]

/-- `_RESET_CREDIT_STATUSES`. -/
def resetCreditStatuses : List String := ["available", "redeeming", "redeemed", "unknown"]

/-- `_RESET_CREDIT_TYPES`. -/
def resetCreditTypes : List String := ["codexRateLimits", "unknown"]

/-! ### Readers of members -/

/-- `_fits_i32`, of an integer. -/
def FitsI32 (n : ℤ) : Prop := -2 ^ 31 ≤ n ∧ n ≤ 2 ^ 31 - 1

/-- `is_signed_i64`, of an integer. -/
def FitsI64 (n : ℤ) : Prop := -2 ^ 63 ≤ n ∧ n ≤ 2 ^ 63 - 1

instance (n : ℤ) : Decidable (FitsI32 n) := inferInstanceAs (Decidable (_ ∧ _))

instance (n : ℤ) : Decidable (FitsI64 n) := inferInstanceAs (Decidable (_ ∧ _))

/-- `_fits_i64`. -/
def fitsI64 (value : Json) : Bool := value.int?.any fun n => FitsI64 n

/-- `membership_valid`: additive members are scalars. -/
def membershipValid (container : Record) (known : List String) : Bool :=
  container.all fun (key, value) =>
    known.any (Text.ofString · = key) || !value.isStructured

/-- `_canonical_from_epoch_s`. -/
def canonicalFromEpochS (value : Json) : Option Timestamp :=
  match value with
  | .int seconds =>
    if 1000000000 ≤ seconds ∧ seconds ≤ 9999999999 then some (seconds * 1000) else none
  | _ => none

/-- `_safe_plan`. -/
def safePlan (planType : Option Json) : Option SafeId :=
  match planType with
  | some (.string plan) => if evidencedPlans.any (Text.ofString · = plan) then safeId? plan else none
  | _ => none

/-- `_bucket_window_id`. -/
def bucketWindowId (limitId : SafeId) (slot : WindowSlot) : Option SafeId :=
  safeId? (limitId.toText ++ Text.ofString (":" ++ slot.text))

/-- The scope of a bucket, if `_valid_bucket_identity` accepts its key. -/
def bucketScope (key : Text) : Option SafeId := do
  let scope ← safeId? key
  guard (windowSlots.all fun slot => (bucketWindowId scope slot).isSome)
  return scope

/-! ### Equality -/

/-- The interpreter's stack does not hold one more call. -/
inductive RecursionError where
  | raised
  deriving DecidableEq

/-- The value of a key. -/
def valueOf (record : Record) (key : Text) : Json :=
  ((record.find? (·.1 = key)).map Prod.snd).getD .null

/-- `_strict_equal`, where the stack holds the given number of nested calls. -/
def strictEqual : ℕ → Json → Json → Except RecursionError Bool
  | 0, _, _ => .error .raised
  | stack + 1, .object left, .object right =>
    if left.map Prod.fst ⊆ right.map Prod.fst ∧ right.map Prod.fst ⊆ left.map Prod.fst then
      left.allM fun member => strictEqual stack member.2 (valueOf right member.1)
    else .ok false
  | stack + 1, .list left, .list right =>
    if left.length = right.length then
      (left.zip right).allM fun pair => strictEqual stack pair.1 pair.2
    else .ok false
  | _ + 1, .null, .null => .ok true
  | _ + 1, .bool a, .bool b => .ok (a = b)
  | _ + 1, .int a, .int b => .ok (a = b)
  | _ + 1, .float a, .float b => .ok ((Json.float a).sameKey (.float b))
  | _ + 1, .string a, .string b => .ok (a = b)
  | _ + 1, _, _ => .ok false

/-! ### Windows -/

/-- `_KNOWN_DURATIONS_MINS`, and what an unknown duration is. -/
def periodOfMins (mins : ℕ+) : WindowPeriod :=
  if mins = 300 then ⟨.fiveHour, some 18000, fiveHour_fixed⟩
  else if mins = 10080 then ⟨.weekly, some 604800, weekly_fixed⟩
  else { kind := .unknown, durationSeconds := some (mins * 60), fixed_duration := nofun }

/-- The period of a window, or a drift: `windowDurationMins` is a positive i64, null or absent. -/
def windowPeriod (entry : Record) : Option WindowPeriod :=
  match entry.present "windowDurationMins" with
  | none => some { kind := .unknown, durationSeconds := none }
  | some value => do
    let mins ← value.int?
    guard (FitsI64 mins)
    (positive? mins.toNat).map periodOfMins

/-- `_WindowFacts`. -/
structure WindowFacts where
  window : CapacityWindow
  diagnostics : List CapacityDiagnostic

/-- `_parse_window`. -/
def parseWindow (entry : Record) (windowId scopeId : SafeId) : Option WindowFacts := do
  let usedRaw ← entry.get? "usedPercent"
  guard (membershipValid entry ["usedPercent", "windowDurationMins", "resetsAt"])
  guard (usedRaw.int?.any fun n => FitsI32 n)
  let resetRaw := (entry.get? "resetsAt").getD .null
  guard (resetRaw.int?.all fun n => FitsI64 n)
  let period ← windowPeriod entry
  let used := usedPair usedRaw
  let resetsAt := canonicalFromEpochS resetRaw
  return {
    window :=
      { resource := .tokens
        kind := period.kind
        scopeId := some scopeId
        remainingPercent := used.map Fin.rev
        windowId := some windowId
        resetsAt
        durationSeconds := period.durationSeconds
        fixed_duration := period.fixed_duration }
    diagnostics :=
      (if period.kind = .unknown then [windowDiagnostic .windowSemanticsUnknown windowId] else []) ++
      (if used = none then [windowDiagnostic .percentageUnknown windowId] else []) ++
      (if resetsAt = none then [windowDiagnostic .resetUnknown windowId] else []) }

/-- `_without_percentages`. -/
def withoutPercentages (window : CapacityWindow) : CapacityWindow × CapacityDiagnostic :=
  ({ window with remainingPercent := none }, windowDiagnostic .percentageUnknown window.windowId)

/-! ### Quota snapshots -/

/-- `_credits_state`: a value that is there is a valid one. -/
def creditsValid (value : Json) : Bool :=
  match asMapping value with
  | none => false
  | some snapshot =>
    membershipValid snapshot ["hasCredits", "unlimited", "balance"] &&
      (snapshot.get? "hasCredits").any Json.isBool && (snapshot.get? "unlimited").any Json.isBool &&
      (snapshot.present "balance").all Json.isText

/-- `_individual_limit_state`: whether a value that is there is exhausted, or a drift. -/
def individualLimitState (value : Json) : Option Bool := do
  let snapshot ← asMapping value
  guard (membershipValid snapshot ["limit", "used", "remainingPercent", "resetsAt"])
  guard ((snapshot.get? "limit").any Json.isText)
  guard ((snapshot.get? "used").any Json.isText)
  let remaining ← (snapshot.get? "remainingPercent").bind Json.int?
  guard (FitsI32 remaining)
  guard ((snapshot.get? "resetsAt").any fitsI64)
  return remaining = 0

/-- A row of the reset-credit summary. -/
def resetCreditRowValid (row : Json) : Bool :=
  match asMapping row with
  | none => false
  | some row =>
    (row.get? "id").any Json.isText && (row.get? "resetType").any (Json.isOneOf resetCreditTypes) &&
      (row.get? "status").any (Json.isOneOf resetCreditStatuses) &&
      (row.get? "grantedAt").any fitsI64 && (row.present "expiresAt").all fitsI64 &&
      (row.present "title").all Json.isText && (row.present "description").all Json.isText &&
      membershipValid row ["id", "resetType", "status", "grantedAt"]

/-- `_reset_credits_state`: a value that is there is a valid one. -/
def resetCreditsValid (value : Json) : Bool :=
  match asMapping value with
  | none => false
  | some summary =>
    membershipValid summary ["availableCount", "credits"] &&
      (summary.get? "availableCount").any fitsI64 &&
      (summary.present "credits").all fun
        | .list rows => rows.all resetCreditRowValid
        | _ => false

/-- The spend-control signal: null and absent are clear, and anything but a boolean is a drift. -/
def spendControlState : Option Json → Option Bool
  | none => some false
  | some (.bool reached) => some reached
  | some _ => none

/-- `_SnapshotState`. -/
structure SnapshotState where
  windows : List WindowFacts
  blocked : Bool

/-- The identity of the window in a slot: a bucket's is composed of its limit id. -/
def slotWindowId (windowIdPrefix : Option SafeId) (slot : WindowSlot) : Option SafeId :=
  match windowIdPrefix with
  | none => some slot.windowId
  | some bucket => bucketWindowId bucket slot

/-- The part of the loop over the slots for one slot: there may be no window in it. -/
def parseSlot (snapshot : Record) (scopeId : SafeId) (windowIdPrefix : Option SafeId)
    (slot : WindowSlot) : Option (Option WindowFacts) :=
  match snapshot.present slot.text with
  | none => some none
  | some value => do
    let entry ← asMapping value
    let windowId ← slotWindowId windowIdPrefix slot
    let facts ← parseWindow entry windowId scopeId
    return some facts

/-- The periods that are known, by window. -/
def knownKinds (windows : List WindowFacts) : List WindowKind :=
  (windows.map (·.window.kind)).filter (· ≠ .unknown)

/-- `_quota_snapshot_state`; the limit id that is expected is the scope in every call. -/
def quotaSnapshotState (snapshot : Record) (fullWindowBlocks : Bool) (scopeId : SafeId)
    (windowIdPrefix : Option SafeId) : Option SnapshotState := do
  guard (membershipValid snapshot knownSnapshotMembers)
  guard ((snapshot.get? "limitId").any (Json.isOneOf [scopeId.text]))
  guard ((snapshot.present "limitName").all Json.isText)
  guard ((snapshot.present "normalModelSlug").all Json.isText)
  guard ((snapshot.present "planType").all (Json.isOneOf evidencedPlans))
  let reached := snapshot.present "rateLimitReachedType"
  guard (reached.all (Json.isOneOf reachedTypes))
  let spendControl ← spendControlState (snapshot.present "spendControlReached")
  guard ((snapshot.present "credits").all creditsValid)
  let exhausted ← ((snapshot.present "individualLimit").elim (some false) individualLimitState)
  let slots ← windowSlots.mapM (parseSlot snapshot scopeId windowIdPrefix)
  let windows := slots.reduceOption
  guard ((knownKinds windows).Nodup)
  return {
    windows
    blocked := reached.isSome || spendControl || exhausted ||
      (fullWindowBlocks && windows.any (·.window.usedPercent = some 100)) }

/-! ### The result -/

/-- Why reading a result stops: the result has drifted, or a call raises. -/
inductive QuotaStop where
  | drift
  | recursionError
  deriving DecidableEq

/-- A reader without a value has drifted. -/
def orDrift {α : Type} (value : Option α) : Except QuotaStop α :=
  match value with
  | some value => .ok value
  | none => .error .drift

/-- A comparison whose values differ has drifted. -/
def mirrors (stack : ℕ) (left right : Record) : Except QuotaStop Unit :=
  match strictEqual stack (.object left) (.object right) with
  | .ok true => .ok ()
  | .ok false => .error .drift
  | .error .raised => .error .recursionError

/-- The part of the loop over the buckets for one key: the mirror adds no bucket. -/
def readBucket (stack : ℕ) (rateLimits buckets : Record) (key : Text) :
    Except QuotaStop (Option SnapshotState) := do
  let bucket ← orDrift (asMapping (valueOf buckets key))
  if key = limitId.toText then
    mirrors stack bucket rateLimits
    return none
  else
    let scope ← orDrift (bucketScope key)
    let state ← orDrift (quotaSnapshotState bucket true scope (some scope))
    return some state

/-- The main snapshot, and its mirror among the buckets. -/
def mainState (snapshot : Record) : Option SnapshotState :=
  quotaSnapshotState snapshot false limitId none

/-- The buckets, with the mirror that has to be among them. -/
def readBuckets (stack : ℕ) (rateLimits buckets : Record) :
    Except QuotaStop (List SnapshotState) := do
  let mirror ← orDrift (asMapping (valueOf buckets limitId.toText))
  let _ ← orDrift (mainState mirror)
  mirrors stack mirror rateLimits
  let states ← (sortBy id (buckets.map Prod.fst)).mapM (readBucket stack rateLimits buckets)
  return states.reduceOption

/-- What a valid result says. -/
structure QuotaReading where
  ordinaryUsageAllowed : Option Json
  legacyGeneration : Bool
  rateLimitUpsellPresent : Bool
  main : SnapshotState
  buckets : List SnapshotState
  plan : Option SafeId

/-- The validation of `parse_codex_rate_limits_result`. -/
def readQuota (stack : ℕ) (result : Json) : Except QuotaStop QuotaReading := do
  let envelope ← orDrift (asMapping result)
  check (membershipValid envelope knownEnvelopeMembers) .drift
  check ((envelope.present "ordinaryUsageAllowed").all Json.isBool) .drift
  check ((envelope.present "accountId").all Json.isText) .drift
  check ((envelope.present "rateLimitResetCredits").all resetCreditsValid) .drift
  check ((envelope.present "rateLimitsByLimitId").all fun value => (asMapping value).isSome) .drift
  let rateLimits ← orDrift ((envelope.get? "rateLimits").bind asMapping)
  let buckets ← ((envelope.present "rateLimitsByLimitId").bind asMapping).elim (.ok [])
    (readBuckets stack rateLimits)
  let main ← orDrift (mainState rateLimits)
  return {
    ordinaryUsageAllowed := envelope.present "ordinaryUsageAllowed"
    legacyGeneration := (envelope.get? "ordinaryUsageAllowed").isNone
    rateLimitUpsellPresent := (envelope.present "rateLimitUpsell").isSome
    main
    buckets
    plan := safePlan (rateLimits.get? "planType") }

namespace QuotaReading

variable (reading : QuotaReading)

/-- The facts that are emitted: main slots first, then the buckets. -/
def facts : List WindowFacts := reading.main.windows ++ reading.buckets.flatMap (·.windows)

/-- The ordinary usage is not permitted: the current generation says so, or does not say. -/
def unpermitted : Bool :=
  match reading.ordinaryUsageAllowed with
  | some (.bool true) => false
  | _ => !reading.legacyGeneration

/-- An explicit blocker. -/
def blocked : Bool :=
  reading.rateLimitUpsellPresent || reading.main.blocked || reading.buckets.any (·.blocked) ||
    reading.unpermitted

/-- The snapshot of a reading with the status that its windows give it. -/
def observed (retrievedAt : Timestamp) (windows : List CapacityWindow)
    (diagnostics : List CapacityDiagnostic) : CapacitySnapshot where
  provider
  source
  retrievedAt
  status := .unknown
  windows
  diagnostics := diagnostics ++ [{ code := .telemetryUnknown, window_scoped := fun h => by cases h }]
  plan := reading.plan
  no_windows := nofun
  explained := by
    rintro code hcode
    rw [← Option.some.inj hcode, List.map_append]
    exact List.mem_append_right _ List.mem_cons_self

/-- The report of a reading. -/
def report (retrievedAt : Timestamp) : CapacitySnapshot :=
  let windows := reading.facts.map (·.window)
  let diagnostics := reading.facts.flatMap (·.diagnostics)
  if reading.facts = [] then
    failureSnapshot provider source .unknown .telemetryUnknown retrievedAt reading.plan
  else if reading.blocked then
    reading.observed retrievedAt (windows.map fun window => (withoutPercentages window).1)
      (diagnostics ++ (windows.filter (·.usedPercent.isSome)).map fun window =>
        (withoutPercentages window).2)
  else if !reading.main.windows.any (·.window.usedPercent.isSome) then
    reading.observed retrievedAt windows diagnostics
  else
    { provider, source, retrievedAt, status := .ok, windows, diagnostics, plan := reading.plan
      no_windows := nofun, explained := nofun }

end QuotaReading

/-- `parse_codex_rate_limits_result`. -/
def parseCodexRateLimitsResult (stack : ℕ) (result : Json) (retrievedAt : Timestamp) :
    Except RecursionError CapacitySnapshot :=
  match readQuota stack result with
  | .ok reading => .ok (reading.report retrievedAt)
  | .error .drift => .ok (failureSnapshot provider source .schemaChanged .schemaChanged retrievedAt)
  | .error .recursionError => .error .raised

end ScarcityRouter.CodexQuota
