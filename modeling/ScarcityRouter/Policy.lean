import ScarcityRouter.Scarcity

namespace ScarcityRouter

open ScarcityRouter.Lib

/-!
# User policy

Unknown-capacity modes, reservations, weekly windows and replenishment visibility, after
`policy.py`.  A decision record carries the checks of its `__post_init__` as a proof field, so
each function below builds only records its source accepts.

* `Platform` — the host facts the modelled code reads and cannot decide: the time-zone database
  and the decision-id digest.
* `WeeklyRule` — the schedule shared by blackout and happy-hour rules.
* `UserPolicy.make` — the policy container; `userPolicy_make_eq_of_perm` says that it forgets the
  order of its rules.
-/

/-! ### Host facts -/

/-- An IANA time-zone name that `ZoneInfo` resolves. -/
abbrev TimeZoneName := String

/-- What the code reads from its host. -/
class Platform where
  /-- `ZoneInfo(name).utcoffset(at)`, in microseconds. -/
  utcOffset : TimeZoneName → Instant → ℤ

/-- The host whose zones are all UTC. -/
@[reducible] def utcPlatform : Platform := ⟨fun _ _ => 0⟩

/-- Microseconds of a civil day. -/
def dayLength : ℤ := 86400000000

section LocalTime

variable [Platform]

/-- The local wall clock: microseconds since the epoch, shifted by the zone offset. -/
def localClock (timezone : TimeZoneName) (at_ : Instant) : ℤ :=
  at_ + Platform.utcOffset timezone at_

/-- `local.hour * 60 + local.minute`. -/
def minuteOfDay (timezone : TimeZoneName) (at_ : Instant) : ℤ :=
  localClock timezone at_ % dayLength / 60000000

/-- `local.date()`, as a day number from the epoch. -/
def localDate (timezone : TimeZoneName) (at_ : Instant) : ℤ := localClock timezone at_ / dayLength

/-- `local.weekday()`: Monday is 0; the epoch fell on a Thursday. -/
def localWeekday (timezone : TimeZoneName) (at_ : Instant) : ℤ :=
  (localDate timezone at_ + 3) % 7

end LocalTime

/-! ### Vocabularies -/

/-- `UNKNOWN_CAPACITY_MODES`. -/
inductive UnknownCapacityMode where
  | degraded | strict
  deriving DecidableEq, Repr

/-- `REPLENISHMENT_MODES`. -/
inductive ReplenishmentMode where
  | ignore | advisory | recoverable
  deriving DecidableEq, Repr

/-- `POLICY_REASON_CODES`. -/
inductive PolicyReason where
  | unknownCapacityDegraded
  | unknownCapacityBlocked
  | capacityExhausted
  | reservationTriggered
  | reservationBlocked
  | reservationPermittedByTaskLevel
  | reservationScopeSnapshotMissing
  | reservationScopeSnapshotNotOk
  | reservationWindowMissing
  | reservationPercentageUnknown
  | policyBlocked
  | replenishmentAvailable
  | replenishmentRecoverable
  | humanActionRequired
  deriving DecidableEq, Repr

/-- `SUPPORTED_PROVIDERS`. -/
def supportedProvider (provider : SafeId) : Bool :=
  provider.text == "openai" || provider.text == "zai"

theorem openai_supported : supportedProvider (.lit "openai") = true := by decide +kernel

/-! ### Unknown-capacity policy -/

/-- The checks of `UnknownCapacityDecision.__post_init__`. -/
def UnknownCapacityDecision.wellFormed (mode : UnknownCapacityMode) (eligible degraded : Bool)
    (codes : List PolicyReason) : Bool :=
  if degraded then
    mode = .degraded && eligible && codes = [.unknownCapacityDegraded]
  else if eligible then codes.isEmpty
  else codes.contains .unknownCapacityBlocked || codes.contains .capacityExhausted

/-- One candidate's eligibility under the active unknown-capacity mode. -/
structure UnknownCapacityDecision where
  mode : UnknownCapacityMode
  eligibleByUnknownPolicy : Bool
  degraded : Bool
  reasonCodes : List PolicyReason
  well_formed :
    UnknownCapacityDecision.wellFormed mode eligibleByUnknownPolicy degraded reasonCodes = true
  deriving DecidableEq

/-- `apply_unknown_capacity_mode`. -/
def applyUnknownCapacityMode (mode : UnknownCapacityMode) (assessment : ScarcityAssessment) :
    UnknownCapacityDecision :=
  match assessment.state with
  | .known => ⟨mode, true, false, [], rfl⟩
  | .unavailable => ⟨mode, false, false, [.capacityExhausted], rfl⟩
  | .unknown =>
    match mode with
    | .degraded => ⟨.degraded, true, true, [.unknownCapacityDegraded], rfl⟩
    | .strict => ⟨.strict, false, false, [.unknownCapacityBlocked], rfl⟩

/-! ### Reservations -/

/-- One preservation rule over a shared capacity scope; its target window is known. -/
structure ReservationRule where
  ruleId : SafeId
  scope : CapacityScopeRef
  resource : CapacityResource
  kind : WindowKind
  whenRemainingBelow : Percent
  minimumTaskLevel : TaskLevel
  resource_known : resource ≠ .unknown := by decide
  kind_known : kind ≠ .unknown := by decide
  threshold_pos : whenRemainingBelow ≠ 0 := by decide
  deriving DecidableEq

/-- `RESERVATION_STATES`. -/
inductive ReservationState where
  | known | unknown
  deriving DecidableEq, Repr

/-- `ReservationDecision._UNKNOWN_CODES`. -/
def PolicyReason.reservationUnknownCause : PolicyReason → Bool
  | .reservationScopeSnapshotMissing | .reservationScopeSnapshotNotOk
  | .reservationWindowMissing | .reservationPercentageUnknown => true
  | _ => false

/-- `ReservationDecision._KNOWN_CODES`. -/
def PolicyReason.reservationKnownCause : PolicyReason → Bool
  | .reservationTriggered | .reservationBlocked | .reservationPermittedByTaskLevel => true
  | _ => false

/-- The checks of `ReservationDecision.__post_init__`. -/
def ReservationDecision.wellFormed (state : ReservationState) (triggered blocked : Option Bool)
    (evidence : Option Percent) (codes : List PolicyReason) : Bool :=
  match state with
  | .unknown =>
    triggered.isNone && blocked.isNone && evidence.isNone && !codes.isEmpty
      && codes.all PolicyReason.reservationUnknownCause
  | .known =>
    evidence.isSome && codes.all PolicyReason.reservationKnownCause &&
    match triggered, blocked with
    | some false, some false => codes.isEmpty
    | some true, some true =>
      codes.contains .reservationTriggered && codes.contains .reservationBlocked
    | some true, some false =>
      codes.contains .reservationTriggered && !codes.contains .reservationBlocked
        && codes.contains .reservationPermittedByTaskLevel
    | _, _ => false

/-- One reservation rule's evaluation against current capacity evidence. -/
structure ReservationDecision where
  ruleId : SafeId
  state : ReservationState
  triggered : Option Bool
  blocked : Option Bool
  evidenceRemainingPercent : Option Percent
  reasonCodes : List PolicyReason
  well_formed : ReservationDecision.wellFormed state triggered blocked evidenceRemainingPercent
    reasonCodes = true
  deriving DecidableEq

/-- `_reservation_unknown`. -/
def reservationUnknown (ruleId : SafeId) (reason : PolicyReason)
    (h : reason.reservationUnknownCause = true := by rfl) : ReservationDecision where
  ruleId := ruleId
  state := .unknown
  triggered := none
  blocked := none
  evidenceRemainingPercent := none
  reasonCodes := [reason]
  well_formed := by simp [ReservationDecision.wellFormed, h]

/-- The decision of an identified target window. -/
def reservationKnown (rule : ReservationRule) (level : TaskLevel) (evidence : Percent) :
    ReservationDecision :=
  if evidence < rule.whenRemainingBelow then
    if level.index < rule.minimumTaskLevel.index then
      ⟨rule.ruleId, .known, some true, some true, some evidence,
        [.reservationBlocked, .reservationTriggered], rfl⟩
    else
      ⟨rule.ruleId, .known, some true, some false, some evidence,
        [.reservationPermittedByTaskLevel, .reservationTriggered], rfl⟩
  else ⟨rule.ruleId, .known, some false, some false, some evidence, [], rfl⟩

/-- The decision of one rule over unambiguous snapshots: the most restrictive matching window
    governs, and any gap in the evidence is explicitly unknown. -/
def reservationDecision (snapshots : List CapacitySnapshot) (level : TaskLevel)
    (rule : ReservationRule) : ReservationDecision :=
  match snapshotOf snapshots rule.scope.provider with
  | none => reservationUnknown rule.ruleId .reservationScopeSnapshotMissing
  | some snapshot =>
    if snapshot.status ≠ .ok then
      reservationUnknown rule.ruleId .reservationScopeSnapshotNotOk
    else
      let matching := snapshot.windows.filter fun w =>
        w.scopeId = some rule.scope.scopeId ∧ w.resource = rule.resource ∧ w.kind = rule.kind
      if matching.any (·.remainingPercent.isNone) then
        reservationUnknown rule.ruleId .reservationPercentageUnknown
      else
        match (matching.filterMap (·.remainingPercent)).min? with
        | none => reservationUnknown rule.ruleId .reservationWindowMissing
        | some evidence => reservationKnown rule level evidence

/-- `evaluate_reservation`. -/
def evaluateReservation (snapshots : List CapacitySnapshot) (level : TaskLevel)
    (rule : ReservationRule) : Except ContractError ReservationDecision := do
  rejectDuplicates (snapshots.map (·.provider)) fun provider => .selectionContractValidation
    ("evaluate_reservation.snapshots: duplicate provider snapshot for " ++ provider.repr
      ++ "; at most one snapshot per provider is permitted per evaluation")
  return reservationDecision snapshots level rule

theorem evaluateReservation_eq_ok {snapshots : List CapacitySnapshot}
    (unique : UniqueProviders snapshots) (level : TaskLevel) (rule : ReservationRule) :
    evaluateReservation snapshots level rule = .ok (reservationDecision snapshots level rule) := by
  unfold evaluateReservation
  rw [rejectDuplicates_of_nodup unique]
  rfl

theorem reservationDecision_eq_of_perm {xs ys : List CapacitySnapshot} (h : xs.Perm ys)
    (unique : UniqueProviders xs) (level : TaskLevel) (rule : ReservationRule) :
    reservationDecision xs level rule = reservationDecision ys level rule := by
  unfold reservationDecision
  rw [snapshotOf_eq_of_perm h unique]

/-! ### Weekly windows -/

theorem noVariant_model : (none : Option SafeId).isSome = true →
    (none : Option SafeId).isSome = true := id

/-- Exact policy target: provider, optional model and variant; a variant requires a model. -/
structure AvailabilityTarget where
  provider : SafeId
  model : Option SafeId := none
  variant : Option SafeId := none
  supported : supportedProvider provider = true := by decide
  variant_model : variant.isSome = true → model.isSome = true := by
    first | exact noVariant_model | decide
  deriving DecidableEq

/-- `AvailabilityTarget.matches`: exact equality on every present dimension. -/
def AvailabilityTarget.targets (target : AvailabilityTarget) (identity : ModelIdentity) : Bool :=
  identity.provider = target.provider &&
  target.model.all (· = identity.model) &&
  target.variant.all (· = identity.variant)

/-- The schedule and identity shared by blackout and happy-hour rules.  Local times are minutes
    of the day; the source compares its two strings, whose pattern admits a trailing newline, so
    equal minutes can occur. -/
structure WeeklyRule where
  ruleId : SafeId
  target : AvailabilityTarget
  timezone : TimeZoneName
  /-- Weekday numbers, Monday first, in canonical order. -/
  weekdays : List (Fin 7)
  startLocal : Fin 1440
  endLocal : Fin 1440
  reasonCode : SafeId
  /-- Inclusive local calendar bounds, as day numbers. -/
  startDate : Option ℤ := none
  endDate : Option ℤ := none
  weekdays_nonempty : weekdays ≠ [] := by decide
  weekdays_sorted : weekdays.Pairwise (· < ·) := by decide
  dates_ordered : ∀ s ∈ startDate, ∀ e ∈ endDate, s ≤ e := by decide
  deriving DecidableEq

/-- `WeeklyBlackoutRule`. -/
abbrev WeeklyBlackoutRule := WeeklyRule

/-- `WeeklyHappyHourRule`. -/
abbrev WeeklyHappyHourRule := WeeklyRule

section Schedule

variable [Platform]

/-- `_weekly_window_contains`: half-open local interval, running across midnight when the start
    is not before the end. -/
def weeklyWindowContains (rule : WeeklyRule) (at_ : Instant) : Bool :=
  let minute := minuteOfDay rule.timezone at_
  let day := localWeekday rule.timezone at_
  let previousDay := (day - 1) % 7
  let configured (d : ℤ) : Bool := rule.weekdays.any fun w => (w.val : ℤ) = d
  if rule.startLocal < rule.endLocal then
    configured day && rule.startLocal.val ≤ minute && minute < rule.endLocal.val
  else
    configured day && minute ≥ rule.startLocal.val
      || configured previousDay && minute < rule.endLocal.val

/-- `_date_bounds_contain`. -/
def dateBoundsContain (rule : WeeklyRule) (at_ : Instant) : Bool :=
  rule.startDate.all (· ≤ localDate rule.timezone at_) &&
  rule.endDate.all (localDate rule.timezone at_ ≤ ·)

/-- `blocks_at` of a blackout rule and `active_at` of a happy-hour rule. -/
def WeeklyRule.coversAt (rule : WeeklyRule) (at_ : Instant) : Bool :=
  weeklyWindowContains rule at_ && dateBoundsContain rule at_

/-- `is_date_expired_at`: the weekly window covers the instant and the date bounds exclude it. -/
def WeeklyRule.isDateExpiredAt (rule : WeeklyRule) (at_ : Instant) : Bool :=
  weeklyWindowContains rule at_ && !dateBoundsContain rule at_

end Schedule

/-- The checks of `BlackoutDecision.__post_init__`. -/
def BlackoutDecision.wellFormed (blocked : Bool) (ruleId reasonCode : Option SafeId)
    (codes : List PolicyReason) : Bool :=
  if blocked then ruleId.isSome && reasonCode.isSome && codes = [.policyBlocked]
  else ruleId.isNone && reasonCode.isNone && codes.isEmpty

/-- The blackout evaluation for one candidate at one instant. -/
structure BlackoutDecision where
  blocked : Bool
  ruleId : Option SafeId
  reasonCode : Option SafeId
  reasonCodes : List PolicyReason
  well_formed : BlackoutDecision.wellFormed blocked ruleId reasonCode reasonCodes = true
  deriving DecidableEq

/-- The checks of `HappyHourDecision.__post_init__`. -/
def HappyHourDecision.wellFormed (preferred : Bool) (ruleId reasonCode : Option SafeId) : Bool :=
  ruleId.isSome = preferred && reasonCode.isSome = preferred

/-- The happy-hour preference evaluation for one candidate at one instant. -/
structure HappyHourDecision where
  preferred : Bool
  ruleId : Option SafeId
  reasonCode : Option SafeId
  well_formed : HappyHourDecision.wellFormed preferred ruleId reasonCode = true
  deriving DecidableEq

section Evaluation

variable [Platform]

/-- The first rule in stored order that targets the candidate and covers the instant. -/
def firstCovering (rules : List WeeklyRule) (identity : ModelIdentity) (at_ : Instant) :
    Option WeeklyRule :=
  rules.find? fun rule => rule.target.targets identity && rule.coversAt at_

/-- `evaluate_blackouts`. -/
def evaluateBlackouts (rules : List WeeklyBlackoutRule) (identity : ModelIdentity)
    (at_ : Instant) : BlackoutDecision :=
  match firstCovering rules identity at_ with
  | some rule => ⟨true, some rule.ruleId, some rule.reasonCode, [.policyBlocked], rfl⟩
  | none => ⟨false, none, none, [], rfl⟩

/-- `evaluate_happy_hours`. -/
def evaluateHappyHours (rules : List WeeklyHappyHourRule) (identity : ModelIdentity)
    (at_ : Instant) : HappyHourDecision :=
  match firstCovering rules identity at_ with
  | some rule => ⟨true, some rule.ruleId, some rule.reasonCode, rfl⟩
  | none => ⟨false, none, none, rfl⟩

end Evaluation

/-! ### Replenishment visibility -/

/-- The normalized replenishment observation. -/
structure ReplenishmentState where
  provider : SafeId
  kind : SafeId
  availableCount : ℕ
  detailsKnown : Bool
  earliestExpiry : Option Timestamp
  retrievedAt : Timestamp
  supported : supportedProvider provider = true := by decide
  expiry_known : earliestExpiry.isSome = true → availableCount ≠ 0 ∧ detailsKnown = true := by decide
  deriving DecidableEq

/-- The uniqueness key of replenishment states. -/
def ReplenishmentState.key (state : ReplenishmentState) : SafeId ×ₗ SafeId :=
  toLex (state.provider, state.kind)

/-- The checks of `ReplenishmentDecision.__post_init__`. -/
def ReplenishmentDecision.wellFormed (mode : ReplenishmentMode) (visible : Bool)
    (availableCount : Option ℕ) (detailsKnown : Option Bool)
    (recoverable humanActionRequired : Bool) (codes : List PolicyReason) : Bool :=
  if visible then
    detailsKnown.isSome && recoverable = humanActionRequired &&
    match availableCount with
    | none => false
    | some count =>
      if recoverable then
        mode = .recoverable && 0 < count
          && codes = [.humanActionRequired, .replenishmentAvailable, .replenishmentRecoverable]
      else if 0 < count then codes = [.replenishmentAvailable]
      else codes.isEmpty
  else
    availableCount.isNone && detailsKnown.isNone && !recoverable && !humanActionRequired
      && codes.isEmpty

/-- One candidate's replenishment visibility under the active mode. -/
structure ReplenishmentDecision where
  mode : ReplenishmentMode
  visible : Bool
  availableCount : Option ℕ
  detailsKnown : Option Bool
  recoverable : Bool
  humanActionRequired : Bool
  reasonCodes : List PolicyReason
  well_formed : ReplenishmentDecision.wellFormed mode visible availableCount detailsKnown
    recoverable humanActionRequired reasonCodes = true
  deriving DecidableEq

/-- `apply_replenishment_mode` on a present observation. -/
def applyReplenishmentMode (mode : ReplenishmentMode) (state : ReplenishmentState) :
    ReplenishmentDecision :=
  match mode with
  | .ignore => ⟨.ignore, false, none, none, false, false, [], rfl⟩
  | .advisory =>
    if h : 0 < state.availableCount then
      ⟨.advisory, true, some state.availableCount, some state.detailsKnown, false, false,
        [.replenishmentAvailable], by simp [ReplenishmentDecision.wellFormed, h]⟩
    else
      ⟨.advisory, true, some state.availableCount, some state.detailsKnown, false, false, [],
        by simp [ReplenishmentDecision.wellFormed, h]⟩
  | .recoverable =>
    if h : 0 < state.availableCount then
      ⟨.recoverable, true, some state.availableCount, some state.detailsKnown, true, true,
        [.humanActionRequired, .replenishmentAvailable, .replenishmentRecoverable],
        by simp [ReplenishmentDecision.wellFormed, h]⟩
    else
      ⟨.recoverable, true, some state.availableCount, some state.detailsKnown, false, false, [],
        by simp [ReplenishmentDecision.wellFormed, h]⟩

/-! ### The policy container -/

theorem noReservations_sorted :
    ([] : List ReservationRule).Pairwise (fun a b => a.ruleId < b.ruleId) := .nil

theorem noWindows_sorted : ([] : List WeeklyRule).Pairwise (fun a b => a.ruleId < b.ruleId) := .nil

theorem noRules_unique : (([] : List ReservationRule).map (·.ruleId) ++
    ([] : List WeeklyRule).map (·.ruleId) ++ ([] : List WeeklyRule).map (·.ruleId)).Nodup := .nil

/-- The compact user-policy container: rule ids unique across the whole policy, rules stored
    sorted by id. -/
structure UserPolicy where
  policyVersion : ℕ+
  unknownCapacityMode : UnknownCapacityMode
  replenishmentMode : ReplenishmentMode
  reservations : List ReservationRule
  blackouts : List WeeklyBlackoutRule
  happyHours : List WeeklyHappyHourRule := []
  reservations_sorted : reservations.Pairwise (fun a b => a.ruleId < b.ruleId) := by
    first | exact noReservations_sorted | decide
  blackouts_sorted : blackouts.Pairwise (fun a b => a.ruleId < b.ruleId) := by
    first | exact noWindows_sorted | decide
  happyHours_sorted : happyHours.Pairwise (fun a b => a.ruleId < b.ruleId) := by
    first | exact noWindows_sorted | decide
  unique_ids : (reservations.map (·.ruleId) ++ blackouts.map (·.ruleId)
    ++ happyHours.map (·.ruleId)).Nodup := by first | exact noRules_unique | decide
  deriving DecidableEq

/-- The rule ids of a policy, in the order its constructor visits them. -/
def policyRuleIds (reservations : List ReservationRule) (blackouts happyHours : List WeeklyRule) :
    List SafeId :=
  reservations.map (·.ruleId) ++ blackouts.map (·.ruleId) ++ happyHours.map (·.ruleId)

/-- `UserPolicy.__post_init__`: reject repeated rule ids, store the rules sorted by id. -/
def UserPolicy.make (policyVersion : ℕ+) (unknownCapacityMode : UnknownCapacityMode)
    (replenishmentMode : ReplenishmentMode) (reservations : List ReservationRule)
    (blackouts happyHours : List WeeklyRule) : Except ContractError UserPolicy :=
  match hd : duplicate? [] (policyRuleIds reservations blackouts happyHours) with
  | some ruleId => .error (.selectionContractValidation
      ("user_policy: duplicate rule id " ++ ruleId.repr ++ " across the policy"))
  | none =>
    have hnd := (duplicate?_eq_none.mp hd).1
    have hparts := List.nodup_append.mp hnd
    have hfirst := List.nodup_append.mp hparts.1
    .ok
      { policyVersion, unknownCapacityMode, replenishmentMode
        reservations := sortBy (·.ruleId) reservations
        blackouts := sortBy (·.ruleId) blackouts
        happyHours := sortBy (·.ruleId) happyHours
        reservations_sorted := pairwise_lt_sortBy hfirst.1
        blackouts_sorted := pairwise_lt_sortBy hfirst.2.1
        happyHours_sorted := pairwise_lt_sortBy hparts.2.1
        unique_ids := by
          refine (List.Perm.nodup_iff ?_).mpr hnd
          exact ((((sortBy_perm _ reservations).map _).append
            ((sortBy_perm _ blackouts).map _)).append ((sortBy_perm _ happyHours).map _)) }

/-- **Order independence.** A policy built from distinct rules forgets their order. -/
theorem userPolicy_make_eq_of_perm {version : ℕ+} {unknownMode : UnknownCapacityMode}
    {replenishment : ReplenishmentMode} {rs rs' : List ReservationRule}
    {bs bs' hs hs' : List WeeklyRule} (hr : rs.Perm rs') (hb : bs.Perm bs') (hh : hs.Perm hs')
    {policy : UserPolicy}
    (hmake : UserPolicy.make version unknownMode replenishment rs bs hs = .ok policy) :
    UserPolicy.make version unknownMode replenishment rs' bs' hs' = .ok policy := by
  have hnd : (policyRuleIds rs bs hs).Nodup := by
    unfold UserPolicy.make at hmake
    split at hmake
    · cases hmake
    · rename_i hd
      exact (duplicate?_eq_none.mp hd).1
  have hparts := List.nodup_append.mp hnd
  have hfirst := List.nodup_append.mp hparts.1
  have hnd' : (policyRuleIds rs' bs' hs').Nodup :=
    (((hr.map _).append (hb.map _)).append (hh.map _)).nodup_iff.mp hnd
  have hr' : sortBy (·.ruleId) rs = sortBy (·.ruleId) rs' :=
    sortBy_eq_of_perm hr fun a ha b hb => List.inj_on_of_nodup_map hfirst.1 ha hb
  have hb' : sortBy (·.ruleId) bs = sortBy (·.ruleId) bs' :=
    sortBy_eq_of_perm hb fun a ha b hb => List.inj_on_of_nodup_map hfirst.2.1 ha hb
  have hh' : sortBy (·.ruleId) hs = sortBy (·.ruleId) hs' :=
    sortBy_eq_of_perm hh fun a ha b hb => List.inj_on_of_nodup_map hparts.2.1 ha hb
  unfold UserPolicy.make at hmake ⊢
  split at hmake
  · cases hmake
  · split
    · rename_i hdup
      rw [duplicate?_eq_none.mpr ⟨hnd', fun _ _ => List.not_mem_nil⟩] at hdup
      cases hdup
    · rw [← hmake]
      simp only [Except.ok.injEq, UserPolicy.mk.injEq, true_and]
      exact ⟨hr'.symm, hb'.symm, hh'.symm⟩

/-- A policy as its author lists the rules. -/
structure PolicyListing where
  policyVersion : ℕ+
  unknownCapacityMode : UnknownCapacityMode
  replenishmentMode : ReplenishmentMode
  reservations : List ReservationRule
  blackouts : List WeeklyBlackoutRule
  happyHours : List WeeklyHappyHourRule

namespace PolicyListing

/-- The policy a listing constructs. -/
def policy (l : PolicyListing) : Except ContractError UserPolicy :=
  UserPolicy.make l.policyVersion l.unknownCapacityMode l.replenishmentMode l.reservations
    l.blackouts l.happyHours

/-- Two listings of the same rules. -/
structure Reorders (l l' : PolicyListing) : Prop where
  version : l.policyVersion = l'.policyVersion
  unknown : l.unknownCapacityMode = l'.unknownCapacityMode
  replenishment : l.replenishmentMode = l'.replenishmentMode
  reservations : l.reservations.Perm l'.reservations
  blackouts : l.blackouts.Perm l'.blackouts
  happyHours : l.happyHours.Perm l'.happyHours

theorem Reorders.symm {l l' : PolicyListing} (h : l.Reorders l') : l'.Reorders l :=
  ⟨h.version.symm, h.unknown.symm, h.replenishment.symm, h.reservations.symm, h.blackouts.symm,
    h.happyHours.symm⟩

/-- **Two listings of the same rules construct the same policy.** -/
theorem Reorders.policy_eq_ok {l l' : PolicyListing} (h : l.Reorders l') {policy : UserPolicy}
    (hpolicy : l.policy = .ok policy) : l'.policy = .ok policy := by
  unfold PolicyListing.policy at hpolicy ⊢
  rw [← h.version, ← h.unknown, ← h.replenishment]
  exact userPolicy_make_eq_of_perm h.reservations h.blackouts h.happyHours hpolicy

end PolicyListing

end ScarcityRouter
