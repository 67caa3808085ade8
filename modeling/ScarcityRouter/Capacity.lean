import ScarcityRouter.SelectionTypes

namespace ScarcityRouter

open ScarcityRouter.Lib

/-!
# Capacity observations

The normalized capacity contract (v3) of `capacity.py`: quota windows and provider snapshots.

* `CapacityWindow` — one quota window; the percentage pair is stored as its remaining half,
  since the source admits only `used + remaining = 100`.
* `CapacitySnapshot.make` — the cross-field checks of `CapacitySnapshot.__post_init__`.
-/

/-- An integer percentage `0..100`. -/
abbrev Percent := Fin 101

/-- `_RESOURCE_VALUES`. -/
inductive CapacityResource where
  | tokens | time | unknown
  deriving DecidableEq, Repr

def CapacityResource.text : CapacityResource → String
  | .tokens => "tokens" | .time => "time" | .unknown => "unknown"

/-- `_KIND_VALUES`. -/
inductive WindowKind where
  | fiveHour | weekly | unknown
  deriving DecidableEq, Repr

def WindowKind.text : WindowKind → String
  | .fiveHour => "five_hour" | .weekly => "weekly" | .unknown => "unknown"

/-- `_KIND_DURATION`, in seconds. -/
def WindowKind.duration : WindowKind → Option ℕ+
  | .fiveHour => some 18000
  | .weekly => some 604800
  | .unknown => none

theorem noDuration_fixed (kind : WindowKind) :
    ∀ seconds ∈ (none : Option ℕ+), ∀ fixed ∈ kind.duration, seconds = fixed :=
  fun _ h => nomatch h

theorem fiveHour_fixed : ∀ seconds ∈ some (18000 : ℕ+),
    ∀ fixed ∈ WindowKind.fiveHour.duration, seconds = fixed := by decide

theorem weekly_fixed : ∀ seconds ∈ some (604800 : ℕ+),
    ∀ fixed ∈ WindowKind.weekly.duration, seconds = fixed := by decide

/-- One normalized quota/limit window. -/
structure CapacityWindow where
  resource : CapacityResource
  kind : WindowKind
  scopeId : Option SafeId := none
  remainingPercent : Option Percent := none
  windowId : Option SafeId := none
  resetsAt : Option Timestamp := none
  durationSeconds : Option ℕ+ := none
  fixed_duration : ∀ seconds ∈ durationSeconds, ∀ fixed ∈ kind.duration, seconds = fixed := by
    first | exact noDuration_fixed _ | simp
  deriving DecidableEq

/-- The used half of the percentage pair. -/
def CapacityWindow.usedPercent (window : CapacityWindow) : Option Percent :=
  window.remainingPercent.map Fin.rev

/-- `_STATUS_VALUES`, shared with the health status of resource observations. -/
inductive HealthStatus where
  | ok | unavailable | authRequired | unsupported | schemaChanged | unknown
  deriving DecidableEq, Repr

def HealthStatus.text : HealthStatus → String
  | .ok => "ok"
  | .unavailable => "unavailable"
  | .authRequired => "auth_required"
  | .unsupported => "unsupported"
  | .schemaChanged => "schema_changed"
  | .unknown => "unknown"

/-- `_DIAGNOSTIC_CODES`. -/
inductive DiagnosticCode where
  | sourceUnavailable
  | authRequired
  | unsupportedSource
  | schemaChanged
  | telemetryUnknown
  | windowSemanticsUnknown
  | percentageUnknown
  | resetUnknown
  deriving DecidableEq, Repr

def DiagnosticCode.text : DiagnosticCode → String
  | .sourceUnavailable => "source_unavailable"
  | .authRequired => "auth_required"
  | .unsupportedSource => "unsupported_source"
  | .schemaChanged => "schema_changed"
  | .telemetryUnknown => "telemetry_unknown"
  | .windowSemanticsUnknown => "window_semantics_unknown"
  | .percentageUnknown => "percentage_unknown"
  | .resetUnknown => "reset_unknown"

/-- `_WINDOW_SCOPED_CODES`. -/
def DiagnosticCode.windowScoped : DiagnosticCode → Bool
  | .windowSemanticsUnknown | .percentageUnknown | .resetUnknown => true
  | _ => false

theorem DiagnosticCode.windowScoped_windowSemanticsUnknown :
    DiagnosticCode.windowSemanticsUnknown.windowScoped = true := rfl

theorem DiagnosticCode.windowScoped_percentageUnknown :
    DiagnosticCode.percentageUnknown.windowScoped = true := rfl

theorem DiagnosticCode.windowScoped_resetUnknown :
    DiagnosticCode.resetUnknown.windowScoped = true := rfl

/-- One allowlisted diagnostic record. -/
structure CapacityDiagnostic where
  code : DiagnosticCode
  windowId : Option SafeId := none
  window_scoped : windowId.isSome = true → code.windowScoped = true := by decide
  deriving DecidableEq

/-- `_STATUSES_WITHOUT_WINDOWS`. -/
def HealthStatus.withoutWindows : HealthStatus → Bool
  | .unavailable | .authRequired | .unsupported | .schemaChanged => true
  | .ok | .unknown => false

/-- `_STATUS_REQUIRED_CODE`. -/
def HealthStatus.requiredCode : HealthStatus → Option DiagnosticCode
  | .ok => none
  | .unavailable => some .sourceUnavailable
  | .authRequired => some .authRequired
  | .unsupported => some .unsupportedSource
  | .schemaChanged => some .schemaChanged
  | .unknown => some .telemetryUnknown

theorem HealthStatus.requiredCode_unavailable :
    HealthStatus.unavailable.requiredCode = some .sourceUnavailable := rfl

theorem HealthStatus.requiredCode_authRequired :
    HealthStatus.authRequired.requiredCode = some .authRequired := rfl

theorem HealthStatus.requiredCode_schemaChanged :
    HealthStatus.schemaChanged.requiredCode = some .schemaChanged := rfl

theorem HealthStatus.requiredCode_unknown :
    HealthStatus.unknown.requiredCode = some .telemetryUnknown := rfl

theorem HealthStatus.ok_explained : ∀ code ∈ HealthStatus.ok.requiredCode,
    code ∈ ([] : List CapacityDiagnostic).map (·.code) := fun _ h => nomatch h

/-- One normalized capacity observation (v3). -/
structure CapacitySnapshot where
  provider : SafeId
  source : SafeId
  retrievedAt : Timestamp
  status : HealthStatus
  windows : List CapacityWindow
  diagnostics : List CapacityDiagnostic
  plan : Option SafeId := none
  no_windows : status.withoutWindows = true → windows = [] := by decide
  explained : ∀ code ∈ status.requiredCode, code ∈ diagnostics.map (·.code) := by
    first | exact HealthStatus.ok_explained | decide
  deriving DecidableEq

/-- The cross-field invariants of `CapacitySnapshot.__post_init__`, for a snapshot without a
    plan. -/
def CapacitySnapshot.make (provider source : SafeId) (retrievedAt : Timestamp)
    (status : HealthStatus) (windows : List CapacityWindow)
    (diagnostics : List CapacityDiagnostic) : Except ContractError CapacitySnapshot :=
  if hw : status.withoutWindows = true → windows = [] then
    if hd : ∀ code ∈ status.requiredCode, code ∈ diagnostics.map (·.code) then
      .ok ⟨provider, source, retrievedAt, status, windows, diagnostics, none, hw, hd⟩
    else .error (.capacityValidation
      ("snapshot: status='" ++ status.text ++ "' requires diagnostic code '"
        ++ (status.requiredCode.elim "" DiagnosticCode.text) ++ "' in diagnostics"))
  else .error (.capacityValidation
    ("snapshot: status='" ++ status.text ++ "' requires an empty windows array, got "
      ++ toString windows.length ++ " window(s)"))

/-- A snapshot of status `ok` is always well formed. -/
theorem CapacitySnapshot.make_ok (provider source : SafeId) (retrievedAt : Timestamp)
    (windows : List CapacityWindow) (diagnostics : List CapacityDiagnostic) :
    CapacitySnapshot.make provider source retrievedAt .ok windows diagnostics
      = .ok { provider, source, retrievedAt, status := .ok, windows, diagnostics
              no_windows := nofun, explained := nofun } := by
  unfold CapacitySnapshot.make
  rw [dif_pos nofun, dif_pos nofun]

/-- At most one snapshot per provider: the condition the selector demands of its input. -/
def UniqueProviders (snapshots : List CapacitySnapshot) : Prop :=
  (snapshots.map (·.provider)).Nodup

instance (snapshots : List CapacitySnapshot) : Decidable (UniqueProviders snapshots) :=
  inferInstanceAs (Decidable (List.Nodup _))

/-- `snapshot_by_provider.get(provider)`. -/
def snapshotOf (snapshots : List CapacitySnapshot) (provider : SafeId) : Option CapacitySnapshot :=
  snapshots.find? (·.provider == provider)

/-- The snapshot of a provider does not depend on the order of the snapshots. -/
theorem snapshotOf_eq_of_perm {xs ys : List CapacitySnapshot} (h : xs.Perm ys)
    (unique : UniqueProviders xs) (provider : SafeId) :
    snapshotOf xs provider = snapshotOf ys provider := by
  refine find?_eq_of_perm h ?_
  intro a ha b hb hpa hpb
  refine List.inj_on_of_nodup_map unique ha hb ?_
  exact (beq_iff_eq.mp hpa).trans (beq_iff_eq.mp hpb).symm

end ScarcityRouter
