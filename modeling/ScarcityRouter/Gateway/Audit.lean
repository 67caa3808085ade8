import ScarcityRouter.Gateway.Outcomes
import ScarcityRouter.Routing.Contracts

namespace ScarcityRouter

open ScarcityRouter.Lib

/-!
# The audit record

`gateway_audit.py`: what is recorded about one execution request.

* `ExecutedTarget`, `auditTarget` — the audit form of a route target.
* `AuditContent`, `AuditRecord` — the record; its constructor checks that the fields agree.
* `AuditRecord.make_eq_ok` — when they do.
-/

/-- `RESULT_STATUSES` of the audit. -/
inductive AuditStatus where
  | completed | cancelled | failed | failedAmbiguous | timedOut | rejected
  deriving DecidableEq, Repr

def AuditStatus.text : AuditStatus → String
  | .completed => "completed"
  | .cancelled => "cancelled"
  | .failed => "failed"
  | .failedAmbiguous => "failed_ambiguous"
  | .timedOut => "timed_out"
  | .rejected => "rejected"

/-- The statuses that address a real dispatch. -/
def AuditStatus.dispatched : AuditStatus → Bool
  | .completed | .cancelled | .timedOut => true
  | .failed | .failedAmbiguous | .rejected => false

/-- The target addressed by one execution. -/
structure ExecutedTarget where
  resourceId : SafeId
  provider : SafeId
  model : SafeId
  variant : SafeId
  contextEvidence : Option TargetContextEvidence := none
  reasoningEffort : Option SafeId := none
  deriving DecidableEq

/-- `_audit_target`. -/
def auditTarget (target : RouteTarget) : ExecutedTarget where
  resourceId := target.resource.resourceId
  provider := target.resource.provider
  model := target.model.model
  variant := target.model.variant
  contextEvidence := target.contextEvidence
  reasoningEffort := target.evidencedReasoningEffort

/-- The schema version of a record: a target with evidence is of the second version. -/
def expectedSchema (selected : Option ExecutedTarget) : ℕ :=
  if selected.any fun target => target.contextEvidence.isSome || target.reasoningEffort.isSome
    then 2 else 1

/-- The fields of a record. -/
structure AuditContent where
  requestId : SafeId
  startedAt : Timestamp
  endedAt : Timestamp
  resultStatus : AuditStatus
  reasonCodes : List SafeId
  clientId : SafeId
  decisionId : Option SafeId := none
  routingProfile : Option SafeId := none
  routingPolicyVersion : Option ℕ+ := none
  registryRevision : Option ℕ := none
  registryGeneratedAt : Option Timestamp := none
  selectedTarget : Option ExecutedTarget := none
  executedTarget : Option ExecutedTarget := none
  adapterName : Option SafeId := none
  adapterVersion : Option (BoundedText 128) := none
  providerReportedUsage : Option UsageTokens := none
  estimatedUsage : Option UsageTokens := none
  callCount : ℕ := 0
  schemaVersion : ℕ := 1

namespace AuditContent

/-- What `AuditRecord.__post_init__` establishes. -/
structure WellFormed (r : AuditContent) : Prop where
  schema : r.schemaVersion = expectedSchema r.selectedTarget
  selected : r.executedTarget ≠ none → r.selectedTarget ≠ none
  dispatched : r.executedTarget = none → r.resultStatus.dispatched = false
  called : r.resultStatus = .completed → r.callCount ≠ 0
  addressed : 0 < r.callCount → r.executedTarget ≠ none

/-- The cross-field checks of `AuditRecord.__post_init__`, in order. -/
def checks (r : AuditContent) : Except Fault Unit := do
  check (r.schemaVersion = expectedSchema r.selectedTarget)
    (.stated (s!"audit_record.schema_version: expected {expectedSchema r.selectedTarget}, " ++
      s!"got {r.schemaVersion}"))
  check (r.executedTarget ≠ none → r.selectedTarget ≠ none)
    (.stated "audit_record: an executed target requires a selected target")
  check (r.executedTarget = none → r.resultStatus.dispatched = false)
    (.stated ("audit_record: result_status '" ++ r.resultStatus.text ++
      "' requires an executed target"))
  check (r.resultStatus = .completed → r.callCount ≠ 0)
    (.stated "audit_record: a completed execution has at least one call")
  check (0 < r.callCount → r.executedTarget ≠ none)
    (.stated "audit_record: a call count requires an executed target")

theorem checks_eq_ok {r : AuditContent} {u : Unit} : r.checks = .ok u ↔ r.WellFormed := by
  unfold checks
  simp only [check_bind_eq_ok, check_eq_ok]
  constructor
  · rintro ⟨hschema, hselected, hdispatched, hcalled, haddressed⟩
    exact ⟨hschema, hselected, hdispatched, hcalled, haddressed⟩
  · rintro ⟨hschema, hselected, hdispatched, hcalled, haddressed⟩
    exact ⟨hschema, hselected, hdispatched, hcalled, haddressed⟩

end AuditContent

/-- One executed or rejected request's audit record. -/
structure AuditRecord extends AuditContent where
  well_formed : toAuditContent.WellFormed

/-- The identifier that a reason code has to be. -/
def reasonCode (code : String) : Except Fault SafeId :=
  if h : matchesSafeId code.toList = true then .ok ⟨code, h⟩
  else .error (.unsafeIdentifier "audit_record.reason_codes" (Text.ofString code))

/-- The constructor of `AuditRecord`: the reason codes become a sorted set. -/
def AuditRecord.make (content : AuditContent) (codes : List String) : Except Fault AuditRecord := do
  let codes ← codes.mapM reasonCode
  let content := { content with reasonCodes := sortedSet codes }
  (fun p => { toAuditContent := content, well_formed := p.down }) <$>
    certify content.checks AuditContent.checks_eq_ok.mp

/-- The reason codes of a record do not matter to its checks. -/
theorem AuditContent.WellFormed.withReasons {content : AuditContent} (h : content.WellFormed)
    (codes : List SafeId) : { content with reasonCodes := codes : AuditContent }.WellFormed :=
  ⟨h.schema, h.selected, h.dispatched, h.called, h.addressed⟩

/-- **A record is made exactly of safe codes and fields that agree**, and it keeps them. -/
theorem AuditRecord.make_eq_ok {content : AuditContent} {codes : List SafeId}
    {record : AuditRecord} : make content (codes.map SafeId.text) = .ok record ↔
      record.toAuditContent = { content with reasonCodes := sortedSet codes } ∧
        content.WellFormed := by
  have hcodes : (codes.map SafeId.text).mapM reasonCode = .ok codes := by
    rw [mapM_eq_ok, List.forall₂_map_left_iff]
    exact List.forall₂_same.mpr fun code _ => dif_pos code.2
  unfold make
  rw [hcodes, ok_bind, certify_map_eq_ok, AuditContent.checks_eq_ok]
  constructor
  · rintro ⟨hwell, p, rfl⟩
    exact ⟨rfl, hwell.withReasons content.reasonCodes⟩
  · rintro ⟨hcontent, hwell⟩
    refine ⟨hwell.withReasons _, hwell.withReasons _, ?_⟩
    cases record
    cases hcontent
    rfl

/-- The constructor accepts fields that agree. -/
theorem AuditRecord.returns_make {content : AuditContent} (h : content.WellFormed)
    (codes : List SafeId) : Returns (make content (codes.map SafeId.text)) :=
  ⟨⟨{ content with reasonCodes := sortedSet codes }, h.withReasons _⟩,
    make_eq_ok.mpr ⟨rfl, h⟩⟩

end ScarcityRouter
