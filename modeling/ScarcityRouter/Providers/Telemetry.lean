import ScarcityRouter.Capacity
import ScarcityRouter.Gateway.Validation

namespace ScarcityRouter

open ScarcityRouter.Lib

/-!
# Reading provider telemetry

What the quota parsers of the providers share: narrowing of decoded JSON values, the used-oriented
percentage, and the snapshot of an observation that failed.

* `asMapping`, `Json.int?` — `_as_mapping` and `_is_int`.
* `usedPair` — the percentage pair of a provider's integer percentage.
* `failureSnapshot` — a snapshot without windows that carries the code its status requires.
* `WindowPeriod` — a period with the duration it is fixed to.

A canonical UTC timestamp is the instant it denotes, in milliseconds from the Unix epoch: within the
bands that the parsers accept, an epoch value is always rendered, and rendered canonically.
-/

/-! ### Decoded values -/

/-- `_as_mapping`: the keys of a decoded object are always texts. -/
def asMapping : Json → Option Record
  | .object members => some members
  | _ => none

/-- `_is_int`: a boolean is no integer. -/
def Lib.Json.int? : Json → Option ℤ
  | .int n => some n
  | _ => none

/-- `isinstance(value, str)`. -/
def Lib.Json.isText : Json → Bool
  | .string _ => true
  | _ => false

/-- `isinstance(value, bool)`. -/
def Lib.Json.isBool : Json → Bool
  | .bool _ => true
  | _ => false

/-- `isinstance(value, (Mapping, list))`. -/
def Lib.Json.isStructured : Json → Bool
  | .list _ | .object _ => true
  | _ => false

/-- A text of a closed vocabulary. -/
def Lib.Json.isOneOf (names : List String) : Json → Bool
  | .string text => names.any (Text.ofString · = text)
  | _ => false

theorem asMapping_eq_some {value : Json} {record : Record} :
    asMapping value = some record ↔ value = .object record := by
  cases value <;> simp [asMapping]

theorem Lib.Json.int?_eq_some {value : Json} {n : ℤ} : value.int? = some n ↔ value = .int n := by
  cases value <;> simp [Lib.Json.int?]

/-! ### Guards -/

/-- A guard, and what follows it. -/
theorem guard_bind_eq_some {α : Type} {p : Prop} [Decidable p] {f : Unit → Option α} {a : α} :
    (guard p >>= f) = some a ↔ p ∧ f () = some a := by
  by_cases h : p <;> simp [guard, h]

/-! ### Percentages -/

/-- `_used_pair`: the used half of the pair; the other half is what remains of 100. -/
def usedPair (percentage : Json) : Option Percent :=
  match percentage with
  | .int used => if h : 0 ≤ used ∧ used ≤ 100 then some ⟨used.toNat, by omega⟩ else none
  | _ => none

/-- A pair is that of an integer percentage. -/
theorem usedPair_eq_some {percentage : Json} {used : Percent} :
    usedPair percentage = some used ↔ percentage = .int used.val := by
  cases percentage with
  | int n =>
    simp only [usedPair, Json.int.injEq]
    constructor
    · intro h
      split_ifs at h with hrange
      rw [← Option.some.inj h]
      simp [hrange.1]
    · rintro rfl
      have hle := used.isLt
      rw [dif_pos ⟨by omega, by omega⟩]
      simp
  | _ => simp [usedPair]

/-! ### Windows and snapshots -/

/-- The period of a window: its kind, and its duration where that is known. -/
@[ext] structure WindowPeriod where
  kind : WindowKind
  durationSeconds : Option ℕ+
  fixed_duration : ∀ seconds ∈ durationSeconds, ∀ fixed ∈ kind.duration, seconds = fixed := by
    first | exact noDuration_fixed _ | simp

instance : DecidableEq WindowPeriod := fun _ _ => decidable_of_iff _ WindowPeriod.ext_iff.symm

/-- A diagnostic about one window. -/
def windowDiagnostic (code : DiagnosticCode) (windowId : Option SafeId)
    (h : code.windowScoped = true := by
      first
        | with_reducible exact DiagnosticCode.windowScoped_windowSemanticsUnknown
        | with_reducible exact DiagnosticCode.windowScoped_percentageUnknown
        | with_reducible exact DiagnosticCode.windowScoped_resetUnknown) : CapacityDiagnostic where
  code
  windowId
  window_scoped := fun _ => h

/-- `_failure`. -/
def failureSnapshot (provider source : SafeId) (status : HealthStatus) (code : DiagnosticCode)
    (retrievedAt : Timestamp) (plan : Option SafeId := none)
    (h : status.requiredCode = some code := by
      first
        | exact HealthStatus.requiredCode_unavailable
        | exact HealthStatus.requiredCode_authRequired
        | exact HealthStatus.requiredCode_schemaChanged
        | exact HealthStatus.requiredCode_unknown) :
    CapacitySnapshot where
  provider
  source
  retrievedAt
  status
  windows := []
  diagnostics := [{ code, window_scoped := fun hnone => by cases hnone }]
  plan
  no_windows := fun _ => rfl
  explained := by
    rw [h]
    rintro required hrequired
    rw [Option.mem_some.mp hrequired]
    exact List.mem_cons_self

end ScarcityRouter
