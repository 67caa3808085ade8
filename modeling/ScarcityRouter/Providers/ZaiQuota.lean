import ScarcityRouter.Providers.Telemetry

namespace ScarcityRouter.ZaiQuota

open ScarcityRouter.Lib

/-!
# The Z.ai quota response

`zai.py`: a decoded quota response, normalized into a capacity snapshot.

* `LimitType`, `knownTokenWindow` — the evidenced limit types, and the evidenced periods of tokens.
* `parseLimit` — one entry of `data.limits`: its window, and a diagnostic for each omitted fact.
* `parseZaiQuotaResponse` — the snapshot that is reported.
* `LimitReported`, `QuotaFaithful` — what a window says of its entry, and a snapshot of its payload.
* `parseZaiQuotaResponse_faithful` — **every payload is reported faithfully.**
-/

/-! ### Vocabulary -/

/-- `PROVIDER`. -/
def provider : SafeId := .lit "zai"

/-- `SOURCE`. -/
def source : SafeId := .lit "zai_usage_endpoint"

/-- `_CAPACITY_SCOPE_ID`. -/
def capacityScopeId : SafeId := .lit "coding_plan"

/-- `_EVIDENCED_PLANS`. -/
def evidencedPlans : List String := ["pro"]

/-- `_TOKENS_LIMIT` and `_TIME_LIMIT`. -/
inductive LimitType where
  | tokens | time
  deriving DecidableEq

def LimitType.text : LimitType → String
  | .tokens => "TOKENS_LIMIT" | .time => "TIME_LIMIT"

/-- `type_token`. -/
def LimitType.token : LimitType → String
  | .tokens => "tokens_limit" | .time => "time_limit"

def LimitType.resource : LimitType → CapacityResource
  | .tokens => .tokens | .time => .time

/-- The evidenced type that a text names. -/
def limitType? (text : Text) : Option LimitType :=
  if text = Text.ofString LimitType.tokens.text then some .tokens
  else if text = Text.ofString LimitType.time.text then some .time
  else none

/-- `_IDENTITY_PART_MAX`. -/
def identityPartMax : ℤ := 99999

/-- `_RESET_PLAUSIBILITY_MARGIN_SECONDS`. -/
def resetPlausibilityMarginSeconds : ℤ := 60

/-! ### Identities -/

/-- `_identity_part`. -/
def identityPart (value : Option Json) : String :=
  match value with
  | some (.int n) => if 0 ≤ n ∧ n ≤ identityPartMax then toString n.toNat else "x"
  | _ => "x"

/-- The text of `_window_identity_id`. -/
def windowIdentityText (limitType : LimitType) (entry : Record) : String :=
  limitType.token ++ "-" ++ identityPart (entry.get? "unit") ++ "-" ++
    identityPart (entry.get? "number")

/-- A part of an identity is short and safe. -/
theorem identityPart_safe (value : Option Json) :
    (∀ c ∈ (identityPart value).toList, isSafeIdChar c = true) ∧
      (identityPart value).toList.length ≤ 5 := by
  have hplaceholder : (∀ c ∈ "x".toList, isSafeIdChar c = true) ∧ "x".toList.length ≤ 5 :=
    ⟨List.all_eq_true.mp (by decide), by decide⟩
  unfold identityPart
  split
  · rename_i n
    split_ifs with hrange
    · have hsmall : n.toNat < 10 ^ 5 := by
        have hle := hrange.2
        unfold identityPartMax at hle
        omega
      rw [Nat.toString_eq_repr, Nat.toList_repr]
      refine ⟨fun c hc => ?_, (Nat.length_toDigits_le_iff (by decide) (by decide)).mpr hsmall⟩
      have hdigit := Nat.isDigit_of_mem_toDigits (by decide) (by decide) hc
      simp [isSafeIdChar, hdigit]
    · exact hplaceholder
  · exact hplaceholder

/-- The identity of a window always is an identifier. -/
theorem matchesSafeId_windowIdentityText (limitType : LimitType) (entry : Record) :
    matchesSafeId (windowIdentityText limitType entry).toList = true := by
  obtain ⟨hunit, hunitLength⟩ := identityPart_safe (entry.get? "unit")
  obtain ⟨hnumber, hnumberLength⟩ := identityPart_safe (entry.get? "number")
  have htoken : (∃ c ∈ limitType.token.toList.head?, isSafeIdHead c = true) ∧
      (∀ c ∈ limitType.token.toList, isSafeIdChar c = true) ∧
      limitType.token.toList.length ≤ 12 := by
    cases limitType <;>
      exact ⟨⟨_, rfl, by decide⟩, List.all_eq_true.mp (by decide), by decide⟩
  obtain ⟨⟨c, hhead, hsafeHead⟩, htokenSafe, htokenLength⟩ := htoken
  have htext : (windowIdentityText limitType entry).toList = limitType.token.toList ++ '-' ::
      ((identityPart (entry.get? "unit")).toList ++ '-' ::
        (identityPart (entry.get? "number")).toList) := by
    simp [windowIdentityText]
  have hsafe : ∀ c ∈ (windowIdentityText limitType entry).toList, isSafeIdChar c = true := by
    rw [htext]
    simp only [List.mem_append, List.mem_cons]
    rintro c (hc | rfl | hc | rfl | hc)
    · exact htokenSafe c hc
    · decide
    · exact hunit c hc
    · decide
    · exact hnumber c hc
  rw [matchesSafeId_plain (newline_notMem_of_safe hsafe)]
  refine ⟨⟨c, ?_, hsafeHead⟩, hsafe, ?_⟩
  · rw [htext, List.head?_append, hhead]
    rfl
  · rw [htext]
    simp only [List.length_append, List.length_cons]
    omega

/-- `_window_identity_id`. -/
def windowIdentityId (limitType : LimitType) (entry : Record) : SafeId :=
  ⟨windowIdentityText limitType entry, matchesSafeId_windowIdentityText limitType entry⟩

/-! ### Entries -/

/-- The type of an entry: a text. -/
def entryType (entry : Record) : Option Text :=
  match entry.get? "type" with
  | some (.string limitType) => some limitType
  | _ => none

/-- `_KNOWN_TOKEN_WINDOWS`. -/
def knownTokenWindow (unit number : ℤ) : Option WindowPeriod :=
  if unit = 3 ∧ number = 5 then some ⟨.fiveHour, some 18000, fiveHour_fixed⟩
  else if unit = 6 ∧ number = 1 then some ⟨.weekly, some 604800, weekly_fixed⟩
  else none

/-- The period of a window: that of an evidenced token window, or unknown. -/
def limitPeriod (limitType : LimitType) (entry : Record) : WindowPeriod :=
  let known := do
    guard (limitType = LimitType.tokens)
    let unit ← (entry.get? "unit").bind Json.int?
    let number ← (entry.get? "number").bind Json.int?
    knownTokenWindow unit number
  known.getD { kind := .unknown, durationSeconds := none }

/-- `_canonical_from_epoch_ms`. -/
def canonicalFromEpochMs (value : Option Json) : Option Timestamp :=
  match value with
  | some (.int ms) => if 1000000000000 ≤ ms ∧ ms ≤ 9999999999999 then some ms else none
  | _ => none

/-- `_reset_implausible`: the reset lies more than the duration and the margin ahead. -/
def resetImplausible (resetsAt retrievedAt : Timestamp) (durationSeconds : Option ℕ+) : Bool :=
  durationSeconds.any fun seconds =>
    (seconds + resetPlausibilityMarginSeconds) * 1000 < resetsAt - retrievedAt

/-- The window of an unevidenced type, of which nothing is known. -/
def unevidencedLimit : CapacityWindow × List CapacityDiagnostic :=
  ({ resource := .unknown, kind := .unknown },
    [windowDiagnostic .windowSemanticsUnknown none, windowDiagnostic .percentageUnknown none,
      windowDiagnostic .resetUnknown none])

/-- The window of an evidenced type. -/
def evidencedLimit (limitType : LimitType) (entry : Record) (retrievedAt : Timestamp) :
    CapacityWindow × List CapacityDiagnostic :=
  let windowId := windowIdentityId limitType entry
  let period := limitPeriod limitType entry
  let used := (entry.get? "percentage").bind usedPair
  let resetsAt := (canonicalFromEpochMs (entry.get? "nextResetTime")).filter fun resetsAt =>
    ! resetImplausible resetsAt retrievedAt period.durationSeconds
  ({ resource := limitType.resource
     kind := period.kind
     scopeId := some capacityScopeId
     remainingPercent := used.map Fin.rev
     windowId := some windowId
     resetsAt
     durationSeconds := period.durationSeconds
     fixed_duration := period.fixed_duration },
    (if period.kind = .unknown then [windowDiagnostic .windowSemanticsUnknown windowId] else []) ++
    (if used = none then [windowDiagnostic .percentageUnknown windowId] else []) ++
    (if resetsAt = none then [windowDiagnostic .resetUnknown windowId] else []))

/-- `_parse_limit`. -/
def parseLimit (entry : Record) (retrievedAt : Timestamp) :
    CapacityWindow × List CapacityDiagnostic :=
  match (entryType entry).bind limitType? with
  | some limitType => evidencedLimit limitType entry retrievedAt
  | none => unevidencedLimit

/-! ### Responses -/

/-- An envelope of the evidenced shape. -/
structure Envelope where
  code : ℤ
  success : Bool
  data : Json

/-- `isinstance(value, bool)`, and which one it is. -/
def bool? : Json → Option Bool
  | .bool b => some b
  | _ => none

/-- `_as_mapping` of a payload, with `_envelope_valid`. -/
def readEnvelope (payload : Json) : Option Envelope := do
  let envelope ← asMapping payload
  let code ← (envelope.get? "code").bind Json.int?
  let success ← (envelope.get? "success").bind bool?
  guard ((envelope.get? "msg").any Json.isText)
  let data ← envelope.get? "data"
  return { code, success, data }

/-- `_safe_plan`. -/
def safePlan (level : Json) : Option SafeId :=
  match level with
  | .string plan => if evidencedPlans.any (Text.ofString · = plan) then safeId? plan else none
  | _ => none

/-- One entry of the limits: an object with a type. -/
def readEntry (item : Json) : Option Record := do
  let entry ← asMapping item
  guard (entryType entry).isSome
  return entry

/-- The data of a successful response: its limits and its plan. -/
def readData (data : Json) : Option (List Record × Option SafeId) := do
  let data ← asMapping data
  let level ← data.get? "level"
  match data.get? "limits" with
  | some (.list limits) =>
    let entries ← limits.mapM readEntry
    return (entries, safePlan level)
  | _ => none

/-- `_failure`. -/
def failure (status : HealthStatus) (code : DiagnosticCode) (retrievedAt : Timestamp)
    (h : status.requiredCode = some code := by
      first
        | exact HealthStatus.requiredCode_unavailable
        | exact HealthStatus.requiredCode_authRequired
        | exact HealthStatus.requiredCode_schemaChanged
        | exact HealthStatus.requiredCode_unknown) :
    CapacitySnapshot :=
  failureSnapshot provider source status code retrievedAt none h

/-- The snapshot of a successful response. -/
def observed (entries : List Record) (plan : Option SafeId) (retrievedAt : Timestamp) :
    CapacitySnapshot :=
  let parsed := entries.map (parseLimit · retrievedAt)
  { provider, source, retrievedAt, status := .ok
    windows := parsed.map Prod.fst
    diagnostics := parsed.flatMap Prod.snd
    plan
    no_windows := nofun, explained := nofun }

/-- `parse_zai_quota_response`. -/
def parseZaiQuotaResponse (payload : Json) (retrievedAt : Timestamp) : CapacitySnapshot :=
  match readEnvelope payload with
  | none => failure .schemaChanged .schemaChanged retrievedAt
  | some envelope =>
    if envelope.code = 401 then failure .authRequired .authRequired retrievedAt
    else if envelope.code ≠ 200 ∨ envelope.success = false then
      failure .unknown .telemetryUnknown retrievedAt
    else
      match readData envelope.data with
      | none => failure .schemaChanged .schemaChanged retrievedAt
      | some (entries, plan) => observed entries plan retrievedAt

/-! ### Faithful reports -/

/-- An entry of an evidenced type. -/
def EvidencedType (entry : Record) : Prop :=
  ∃ limitType : LimitType, entry.get? "type" = some (.string (Text.ofString limitType.text))

/-- A token entry with the given unit and number. -/
def TokenPeriod (entry : Record) (unit number : ℤ) : Prop :=
  entry.get? "type" = some (.string (Text.ofString LimitType.tokens.text)) ∧
    entry.get? "unit" = some (.int unit) ∧ entry.get? "number" = some (.int number)

/-- A window and its diagnostics report an entry. -/
structure EntryReported (retrievedAt : Timestamp) (entry : Record) (window : CapacityWindow)
    (diagnostics : List CapacityDiagnostic) : Prop where
  fiveHour : window.kind = .fiveHour ↔ TokenPeriod entry 3 5
  weekly : window.kind = .weekly ↔ TokenPeriod entry 6 1
  duration : window.durationSeconds = window.kind.duration
  percentage : ∀ used : Percent, window.usedPercent = some used ↔
    EvidencedType entry ∧ entry.get? "percentage" = some (.int used.val)
  pair : ∀ used ∈ window.usedPercent, ∃ remaining ∈ window.remainingPercent,
    remaining.val = 100 - used.val
  reset : ∀ resetsAt ∈ window.resetsAt, EvidencedType entry ∧
    entry.get? "nextResetTime" = some (.int resetsAt) ∧ 1000000000000 ≤ resetsAt ∧ resetsAt ≤ 9999999999999 ∧
      ∀ seconds ∈ window.durationSeconds, resetsAt ≤ retrievedAt + (seconds + 60) * 1000
  periodOmitted : window.kind = .unknown ↔
    windowDiagnostic .windowSemanticsUnknown window.windowId ∈ diagnostics
  percentageOmitted : window.usedPercent = none ↔
    windowDiagnostic .percentageUnknown window.windowId ∈ diagnostics
  resetOmitted : window.resetsAt = none ↔
    windowDiagnostic .resetUnknown window.windowId ∈ diagnostics

/-- A limit is an object that a window and its diagnostics report. -/
def LimitReported (retrievedAt : Timestamp) (limit : Json)
    (report : CapacityWindow × List CapacityDiagnostic) : Prop :=
  ∃ entry : Record, limit = .object entry ∧ EntryReported retrievedAt entry report.1 report.2

/-- A payload is a successful response with these limits. -/
def HasLimits (payload : Json) (limits : List Json) : Prop :=
  ∃ envelope data : Record, payload = .object envelope ∧
    envelope.get? "code" = some (.int 200) ∧ envelope.get? "success" = some (.bool true) ∧
      envelope.get? "data" = some (.object data) ∧ data.get? "limits" = some (.list limits)

/-- A snapshot is faithful to its payload: it is a failure without windows, or every limit has its
    window, in order. -/
def QuotaFaithful (payload : Json) (retrievedAt : Timestamp) (snapshot : CapacitySnapshot) : Prop :=
  (snapshot.status ≠ .ok ∧ snapshot.windows = []) ∨
    snapshot.status = .ok ∧ ∃ limits reports, HasLimits payload limits ∧
      List.Forall₂ (LimitReported retrievedAt) limits reports ∧
        snapshot.windows = reports.map Prod.fst ∧ snapshot.diagnostics = reports.flatMap Prod.snd

/-! ### Entries are reported -/

theorem bool?_eq_some {value : Json} {b : Bool} : bool? value = some b ↔ value = .bool b := by
  cases value <;> simp [bool?]

theorem entryType_eq_some {entry : Record} {text : Text} :
    entryType entry = some text ↔ entry.get? "type" = some (.string text) := by
  unfold entryType
  split
  · rename_i found hfound
    simp [hfound]
  · rename_i hother
    simp only [reduceCtorEq, false_iff]
    exact hother text

theorem limitType?_eq_some {text : Text} {limitType : LimitType} :
    limitType? text = some limitType ↔ text = Text.ofString limitType.text := by
  have hne : Text.ofString LimitType.time.text ≠ Text.ofString LimitType.tokens.text := by
    rw [Ne, Text.ofString_inj]
    decide
  unfold limitType?
  split_ifs with htokens htime
  · subst htokens
    cases limitType with
    | tokens => simp
    | time => simpa using hne.symm
  · subst htime
    cases limitType with
    | tokens => simpa using hne
    | time => simp
  · cases limitType with
    | tokens => simpa using htokens
    | time => simpa using htime

/-- The evidenced type of an entry. -/
theorem evidenced_eq_some {entry : Record} {limitType : LimitType} :
    (entryType entry).bind limitType? = some limitType ↔
      entry.get? "type" = some (.string (Text.ofString limitType.text)) := by
  rw [Option.bind_eq_some_iff]
  constructor
  · rintro ⟨text, htext, htype⟩
    rw [limitType?_eq_some] at htype
    rw [← htype]
    exact entryType_eq_some.mp htext
  · intro h
    exact ⟨_, entryType_eq_some.mpr h, limitType?_eq_some.mpr rfl⟩

theorem int_of_bind {value : Option Json} {n : ℤ} :
    value.bind Json.int? = some n ↔ value = some (.int n) := by
  cases value <;> simp [Json.int?_eq_some]

/-- What the period of an entry is. -/
theorem limitPeriod_spec (limitType : LimitType) (entry : Record) :
    ((limitPeriod limitType entry).kind = .fiveHour ↔ limitType = .tokens ∧
      entry.get? "unit" = some (.int 3) ∧ entry.get? "number" = some (.int 5)) ∧
    ((limitPeriod limitType entry).kind = .weekly ↔ limitType = .tokens ∧
      entry.get? "unit" = some (.int 6) ∧ entry.get? "number" = some (.int 1)) ∧
    (limitPeriod limitType entry).durationSeconds = (limitPeriod limitType entry).kind.duration := by
  simp only [← int_of_bind, limitPeriod]
  cases limitType with
  | time => simp [guard, WindowKind.duration]
  | tokens =>
    cases (entry.get? "unit").bind Json.int? with
    | none => simp [guard, WindowKind.duration]
    | some unit =>
      cases (entry.get? "number").bind Json.int? with
      | none => simp [guard, WindowKind.duration]
      | some number =>
        simp only [guard, if_true, pure_bind, Option.bind_eq_bind, Option.bind_some,
          Option.some.injEq, true_and, knownTokenWindow]
        by_cases hfive : unit = 3 ∧ number = 5
        · simp [hfive, WindowKind.duration]
        · by_cases hweek : unit = 6 ∧ number = 1
          · simp [hweek, WindowKind.duration]
          · simp [hfive, hweek, WindowKind.duration]

theorem canonicalFromEpochMs_eq_some {value : Option Json} {ms : Timestamp} :
    canonicalFromEpochMs value = some ms ↔
      value = some (.int ms) ∧ 1000000000000 ≤ ms ∧ ms ≤ 9999999999999 := by
  unfold canonicalFromEpochMs
  split
  · rename_i found
    simp only [Option.some.injEq, Json.int.injEq, ite_eq_iff, reduceCtorEq, and_false, or_false]
    constructor
    · rintro ⟨hband, rfl⟩
      exact ⟨rfl, hband⟩
    · rintro ⟨rfl, hband⟩
      exact ⟨hband, rfl⟩
  · rename_i hother
    simp only [reduceCtorEq, false_iff, not_and]
    intro hvalue
    exact absurd hvalue (hother ms)

/-- What a reset that is reported is. -/
theorem reset_of_filter {value : Option Json} {resetsAt retrievedAt : Timestamp}
    {durationSeconds : Option ℕ+}
    (h : (canonicalFromEpochMs value).filter (fun resetsAt =>
      ! resetImplausible resetsAt retrievedAt durationSeconds) = some resetsAt) :
    value = some (.int resetsAt) ∧ 1000000000000 ≤ resetsAt ∧ resetsAt ≤ 9999999999999 ∧
      ∀ seconds ∈ durationSeconds, resetsAt ≤ retrievedAt + (seconds + 60) * 1000 := by
  rw [Option.filter_eq_some_iff] at h
  obtain ⟨hvalue, hplausible⟩ := h
  obtain ⟨hvalue, hlo, hhi⟩ := canonicalFromEpochMs_eq_some.mp hvalue
  refine ⟨hvalue, hlo, hhi, ?_⟩
  intro seconds hseconds
  have hnot : ¬((seconds : ℤ) + resetPlausibilityMarginSeconds) * 1000 < resetsAt - retrievedAt := by
    intro hbeyond
    rw [Option.mem_def.mp hseconds] at hplausible
    simp [ resetImplausible, hbeyond] at hplausible
  exact sub_le_iff_le_add'.mp (not_lt.mp hnot)

/-- An entry of an evidenced type is reported. -/
theorem evidencedLimit_reported {entry : Record} {limitType : LimitType} {retrievedAt : Timestamp}
    (htype : entry.get? "type" = some (.string (Text.ofString limitType.text))) :
    EntryReported retrievedAt entry (evidencedLimit limitType entry retrievedAt).1
      (evidencedLimit limitType entry retrievedAt).2 := by
  have htokens : entry.get? "type" = some (.string (Text.ofString LimitType.tokens.text)) ↔
      limitType = .tokens := by
    rw [htype]
    cases limitType <;> simp [LimitType.text]
  have hused : (evidencedLimit limitType entry retrievedAt).1.usedPercent =
      (entry.get? "percentage").bind usedPair := by
    show (((entry.get? "percentage").bind usedPair).map Fin.rev).map Fin.rev = _
    rw [Option.map_map, Fin.rev_involutive.comp_self, Option.map_id]
    rfl
  obtain ⟨hfive, hweekly, hduration⟩ := limitPeriod_spec limitType entry
  constructor
  case fiveHour => exact hfive.trans (and_congr_left' htokens.symm)
  case weekly => exact hweekly.trans (and_congr_left' htokens.symm)
  case duration => exact hduration
  case percentage =>
    intro used
    rw [hused, Option.bind_eq_some_iff]
    simp only [usedPair_eq_some, exists_eq_right]
    exact ⟨fun h => ⟨⟨limitType, htype⟩, h⟩, And.right⟩
  case pair =>
    intro used hmem
    obtain ⟨remaining, hremaining, rfl⟩ := Option.map_eq_some_iff.mp hmem
    refine ⟨remaining, hremaining, ?_⟩
    have := remaining.isLt
    rw [Fin.val_rev]
    omega
  case reset =>
    intro resetsAt hmem
    exact ⟨⟨limitType, htype⟩, reset_of_filter hmem⟩
  case periodOmitted => simp [evidencedLimit, windowDiagnostic]
  case percentageOmitted =>
    rw [hused]
    simp [evidencedLimit, windowDiagnostic]
  case resetOmitted => simp [evidencedLimit, windowDiagnostic]

/-- An entry of another type is reported. -/
theorem unevidencedLimit_reported {entry : Record} {retrievedAt : Timestamp}
    (htype : ¬EvidencedType entry) :
    EntryReported retrievedAt entry unevidencedLimit.1 unevidencedLimit.2 := by
  have hnot : ∀ unit number, ¬TokenPeriod entry unit number := fun _ _ h =>
    htype ⟨.tokens, h.1⟩
  constructor
  case fiveHour => simp [unevidencedLimit, hnot]
  case weekly => simp [unevidencedLimit, hnot]
  case duration => rfl
  case percentage => simp [unevidencedLimit, CapacityWindow.usedPercent, htype]
  case pair => simp [unevidencedLimit, CapacityWindow.usedPercent]
  case reset => simp [unevidencedLimit]
  case periodOmitted => simp [unevidencedLimit]
  case percentageOmitted => simp [unevidencedLimit, CapacityWindow.usedPercent]
  case resetOmitted => simp [unevidencedLimit]

/-- **Every entry is reported.** -/
theorem parseLimit_reported (entry : Record) (retrievedAt : Timestamp) :
    EntryReported retrievedAt entry (parseLimit entry retrievedAt).1
      (parseLimit entry retrievedAt).2 := by
  unfold parseLimit
  cases hfound : (entryType entry).bind limitType? with
  | some limitType => exact evidencedLimit_reported (evidenced_eq_some.mp hfound)
  | none =>
    apply unevidencedLimit_reported
    rintro ⟨limitType, htype⟩
    rw [evidenced_eq_some.mpr htype] at hfound
    cases hfound

/-! ### Responses are reported -/

/-- The entries of a list of limits are its items. -/
theorem readEntries_spec {limits : List Json} {entries : List Record}
    (h : limits.mapM readEntry = some entries) : limits = entries.map Json.object := by
  have hentry : ∀ item entry, readEntry item = some entry → item = .object entry := by
    intro item entry hread
    obtain ⟨record, hrecord, hread⟩ := Option.bind_eq_some_iff.mp hread
    obtain ⟨-, hread⟩ := guard_bind_eq_some.mp hread
    obtain rfl := Option.some.inj hread
    exact asMapping_eq_some.mp hrecord
  induction limits generalizing entries with
  | nil =>
    obtain rfl := Option.some.inj h
    rfl
  | cons item limits ih =>
    rw [List.mapM_cons] at h
    obtain ⟨entry, hread, h⟩ := Option.bind_eq_some_iff.mp h
    obtain ⟨rest, hrest, h⟩ := Option.bind_eq_some_iff.mp h
    obtain rfl := Option.some.inj h
    rw [List.map_cons, ← ih hrest, hentry item entry hread]

/-- What a successful response holds. -/
theorem readData_spec {data : Json} {entries : List Record} {plan : Option SafeId}
    (h : readData data = some (entries, plan)) : ∃ record : Record, data = .object record ∧
      record.get? "limits" = some (.list (entries.map Json.object)) := by
  unfold readData at h
  obtain ⟨record, hrecord, h⟩ := Option.bind_eq_some_iff.mp h
  obtain ⟨level, -, h⟩ := Option.bind_eq_some_iff.mp h
  refine ⟨record, asMapping_eq_some.mp hrecord, ?_⟩
  split at h
  · rename_i limits hlimits
    obtain ⟨found, hfound, h⟩ := Option.bind_eq_some_iff.mp h
    obtain ⟨rfl, -⟩ := Prod.mk.inj (Option.some.inj h)
    rw [hlimits, readEntries_spec hfound]
  · cases h

/-- What an envelope holds. -/
theorem readEnvelope_spec {payload : Json} {envelope : Envelope}
    (h : readEnvelope payload = some envelope) : ∃ record : Record, payload = .object record ∧
      record.get? "code" = some (.int envelope.code) ∧
      record.get? "success" = some (.bool envelope.success) ∧
      record.get? "data" = some envelope.data := by
  unfold readEnvelope at h
  obtain ⟨record, hrecord, h⟩ := Option.bind_eq_some_iff.mp h
  obtain ⟨code, hcode, h⟩ := Option.bind_eq_some_iff.mp h
  obtain ⟨success, hsuccess, h⟩ := Option.bind_eq_some_iff.mp h
  obtain ⟨-, h⟩ := guard_bind_eq_some.mp h
  obtain ⟨data, hdata, h⟩ := Option.bind_eq_some_iff.mp h
  obtain rfl := Option.some.inj h
  obtain ⟨value, hvalue, hsuccess⟩ := Option.bind_eq_some_iff.mp hsuccess
  obtain rfl := bool?_eq_some.mp hsuccess
  exact ⟨record, asMapping_eq_some.mp hrecord, int_of_bind.mp hcode, hvalue, hdata⟩

/-- **Every payload is reported faithfully**: without windows, or with a window for each limit. -/
theorem parseZaiQuotaResponse_faithful (payload : Json) (retrievedAt : Timestamp) :
    QuotaFaithful payload retrievedAt (parseZaiQuotaResponse payload retrievedAt) := by
  unfold parseZaiQuotaResponse
  cases hread : readEnvelope payload with
  | none => exact .inl ⟨nofun, rfl⟩
  | some envelope =>
    obtain ⟨record, hpayload, hcode, hsuccess, hdata⟩ := readEnvelope_spec hread
    by_cases hauth : envelope.code = 401
    · simp only [hauth, if_true]
      exact .inl ⟨nofun, rfl⟩
    by_cases hfailed : envelope.code ≠ 200 ∨ envelope.success = false
    · simp only [hauth, hfailed, if_true, if_false]
      exact .inl ⟨nofun, rfl⟩
    simp only [hauth, hfailed, if_false]
    obtain ⟨hok, htrue⟩ := not_or.mp hfailed
    rw [not_not.mp hok] at hcode
    rw [Bool.not_eq_false _ |>.mp htrue] at hsuccess
    cases hentries : readData envelope.data with
    | none => exact .inl ⟨nofun, rfl⟩
    | some found =>
      obtain ⟨entries, plan⟩ := found
      obtain ⟨data, hobject, hlimits⟩ := readData_spec hentries
      rw [hobject] at hdata
      refine .inr ⟨rfl, entries.map Json.object, entries.map (parseLimit · retrievedAt),
        ⟨record, data, hpayload, hcode, hsuccess, hdata, hlimits⟩, ?_, rfl, rfl⟩
      rw [List.forall₂_map_left_iff, List.forall₂_map_right_iff, List.forall₂_same]
      exact fun entry _ => ⟨entry, rfl, parseLimit_reported entry retrievedAt⟩

end ScarcityRouter.ZaiQuota
