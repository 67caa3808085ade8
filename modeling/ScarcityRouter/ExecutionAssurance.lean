import Mathlib.Data.Finset.Basic
import ScarcityRouter.ResourceState

namespace ScarcityRouter

open ScarcityRouter.Lib

/-!
# Execution assurance

The strict no-PAYG proof records of `execution_assurance.py`.

* `NonPaidRefusal` — the closed refusal vocabulary.
* `ExecutionAssurance.refusalCodes` — why one assurance does not cover one resource now; empty
  exactly for a current, complete, verified control of that resource.
-/

/-- `NON_PAID_MODES`. -/
def nonPaidModes : Finset String :=
  {"payg", "purchased_credit", "paid_overflow", "unaccounted_paid_helper"}

/-- `NON_PAID_REFUSAL_CODES`. -/
inductive NonPaidRefusal where
  | sourceMismatch
  | evidenceUnavailable
  | bindingChanged
  | pathUnverified
  | pathIncomplete
  | evidenceInvalid
  | evidenceExpired
  | accessModeForbidden
  | evidenceStale
  deriving DecidableEq, Repr

/-- Exact resource and adapter/control incarnation. -/
structure ExecutionControlScope where
  resource : ResourceIdentity
  adapterName : String
  adapterVersion : String
  instanceToken : String
  controlRevision : Option String
  deriving DecidableEq

/-- Conclusion from inspected control code.  The two instants are absent when `_utc` cannot parse
    the recorded string. -/
structure NonPaidControlEvidence where
  scope : ExecutionControlScope
  evidenceClass : String
  observedAt : Option Instant
  validUntil : Option Instant
  controlReference : String
  controlledModes : Finset String
  deriving DecidableEq

/-- The current scope of a resource's adapter and the evidence received for it. -/
structure ExecutionAssurance where
  currentScope : ExecutionControlScope
  evidence : Option NonPaidControlEvidence
  deriving DecidableEq

/-- The validity-interval part of `refusal_codes`. -/
def intervalRefusal (proof : NonPaidControlEvidence) (now : Instant) (maxAgeSeconds : ℕ+) :
    List NonPaidRefusal :=
  match proof.observedAt, proof.validUntil with
  | some observed, some expires =>
    if now < observed ∨ expires ≤ observed then [.evidenceInvalid]
    else if expires ≤ now then [.evidenceExpired]
    else if (maxAgeSeconds : ℤ) * 1000000 < now - observed then [.evidenceStale]
    else []
  | _, _ => [.evidenceInvalid]

/-- `ExecutionAssurance.refusal_codes`. -/
def ExecutionAssurance.refusalCodes (assurance : ExecutionAssurance) (resource : ResourceIdentity)
    (now : Instant) (maxAgeSeconds : ℕ+) : List NonPaidRefusal :=
  if assurance.currentScope.resource ≠ resource then [.sourceMismatch]
  else
    match assurance.currentScope.controlRevision, assurance.evidence with
    | some _, some proof =>
      if proof.scope ≠ assurance.currentScope then [.bindingChanged]
      else if proof.evidenceClass ≠ "verified_control" then [.pathUnverified]
      else if proof.controlReference = "" ∨ proof.scope.controlRevision = some "" then
        [.evidenceUnavailable]
      else if ¬ proof.controlledModes ⊆ nonPaidModes then [.evidenceInvalid]
      else if proof.controlledModes ≠ nonPaidModes then [.pathIncomplete]
      else intervalRefusal proof now maxAgeSeconds
    | _, _ => [.evidenceUnavailable]

theorem intervalRefusal_length_le (proof : NonPaidControlEvidence) (now : Instant)
    (maxAgeSeconds : ℕ+) : (intervalRefusal proof now maxAgeSeconds).length ≤ 1 := by
  unfold intervalRefusal
  split
  · split_ifs <;> simp
  · simp

/-- At most one refusal is reported. -/
theorem ExecutionAssurance.refusalCodes_length_le (assurance : ExecutionAssurance)
    (resource : ResourceIdentity) (now : Instant) (maxAgeSeconds : ℕ+) :
    (assurance.refusalCodes resource now maxAgeSeconds).length ≤ 1 := by
  unfold ExecutionAssurance.refusalCodes
  split_ifs
  · simp
  · split
    · split_ifs
      all_goals first | exact intervalRefusal_length_le _ _ _ | exact le_rfl
    · simp

end ScarcityRouter
