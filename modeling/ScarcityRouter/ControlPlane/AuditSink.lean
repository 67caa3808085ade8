import ScarcityRouter.ControlPlane.Configuration
import ScarcityRouter.Gateway.Audit

namespace ScarcityRouter

open ScarcityRouter.Lib

/-!
# The durable audit sink

`DurableAuditSink` of `control_api.py`, with the in-memory trail of `gateway_audit.py` and the audit
table of `server_store.py`.

* `BoundedAuditTrail.append`, `appendAuditRecord` — the two appends, each with its own retention.
* `DurableAuditSink.step` — an append to both, or an update of the retention.
* `RetainedRecords` — what is to be retained: the records within the current age, and of these the
  newest ones within the current count.
* `retention_kept` — **both retain it in every run whose steps meet `Retains`**.

The trail keeps the retention that it was made with, drops by count before it drops by age, and
keeps a record of exactly the maximum age; the store deletes that record, and counts last.
-/

/-! ### The trail -/

/-- The first instant that a `datetime` represents. -/
def firstInstant : Timestamp := -62135596800000

/-- An instant that many seconds earlier. -/
def secondsBefore (t : Timestamp) (seconds : ℕ+) : Timestamp := t - 1000 * (seconds : ℕ)

/-- `_instant_minus_seconds`, `_utc_now_minus`: none stands for the `OverflowError`. -/
def instantMinusSeconds (t : Timestamp) (seconds : ℕ+) : Option Timestamp :=
  if firstInstant ≤ secondsBefore t seconds then some (secondsBefore t seconds) else none

/-- `BoundedAuditTrail`. -/
structure BoundedAuditTrail where
  maxRecords : ℕ+
  maxAgeSeconds : ℕ+
  records : List AuditRecord := []

/-- `BoundedAuditTrail.append`, and whether it returned.  An exception leaves the trail with its new
    record, unpruned. -/
def BoundedAuditTrail.append (trail : BoundedAuditTrail) (record : AuditRecord) :
    BoundedAuditTrail × Bool :=
  let records := (trail.records ++ [record]).rtake trail.maxRecords
  match instantMinusSeconds record.endedAt trail.maxAgeSeconds with
  | none => ({ trail with records }, false)
  | some cutoff => ({ trail with records := records.filter fun r => cutoff ≤ r.endedAt }, true)

/-! ### The store -/

/-- `_AUDIT_HARD_CAP`. -/
def auditHardCap : ℕ := 100000

/-- The numbers of the payload of a record. -/
def AuditRecord.numbers (record : AuditRecord) : List ℕ :=
  let evidence (target : Option ExecutedTarget) : List ℕ :=
    ((target.bind (·.contextEvidence)).map fun e => (e.contextLimitTokens : ℕ)).toList
  let usage (tokens : Option UsageTokens) : List ℕ :=
    tokens.toList.flatMap fun t => [t.promptTokens.1.toNat, t.completionTokens.1.toNat]
  [record.schemaVersion, record.callCount] ++
    (record.routingPolicyVersion.map fun n : ℕ+ => (n : ℕ)).toList ++ record.registryRevision.toList ++
    evidence record.selectedTarget ++ evidence record.executedTarget ++
    usage record.providerReportedUsage ++ usage record.estimatedUsage

/-- `json.dumps` writes the payload: no number has too many digits. -/
def AuditRecord.storable (record : AuditRecord) : Bool :=
  record.numbers.all fun n => (Json.int n).writable

/-- `append_audit_record`: none stands for an exception, which changes nothing. -/
def appendAuditRecord (records : List AuditRecord) (record : AuditRecord)
    (retention : AuditRetention) : Option (List AuditRecord) :=
  if (retention.maxRecords : ℕ) ≤ auditHardCap ∧ record.storable then
    (instantMinusSeconds record.endedAt retention.maxAgeSeconds).map fun cutoff =>
      ((records ++ [record]).filter fun r => ¬ r.endedAt ≤ cutoff).rtake retention.maxRecords
  else none

/-! ### The sink -/

/-- `DurableAuditSink`, with the audit table of its store. -/
structure DurableAuditSink where
  trail : BoundedAuditTrail
  retention : AuditRetention
  stored : List AuditRecord := []

/-- `DurableAuditSink.__init__`, on a trail that was given the records of the store. -/
def DurableAuditSink.new (stored : List AuditRecord) (retention : AuditRetention) :
    DurableAuditSink where
  trail :=
    { maxRecords := retention.maxRecords
      maxAgeSeconds := retention.maxAgeSeconds
      records := stored }
  retention := retention
  stored := stored

/-- What is done to the sink. -/
inductive AuditAction where
  | append (record : AuditRecord)
  | updateRetention (retention : AuditRetention)

namespace DurableAuditSink

/-- `append`. -/
def append (s : DurableAuditSink) (record : AuditRecord) : DurableAuditSink :=
  let appended := s.trail.append record
  if appended.2 then
    { s with
      trail := appended.1
      stored := (appendAuditRecord s.stored record s.retention).getD s.stored }
  else { s with trail := appended.1 }

/-- One action. -/
def step (s : DurableAuditSink) : AuditAction → DurableAuditSink
  | .append record => s.append record
  | .updateRetention retention => { s with retention }

end DurableAuditSink

/-- **The sink as a machine**: the log is what was done. -/
def auditMachine : Machine DurableAuditSink AuditAction AuditAction :=
  ⟨fun s action => some (s.step action, [action])⟩

/-! ### What is to be retained -/

/-- The records to retain, and the current retention. -/
structure RetainedRecords where
  retention : AuditRetention
  records : List AuditRecord := []

/-- The record is within the age, inclusive. -/
def withinAge (cutoff : Timestamp) (record : AuditRecord) : Bool := cutoff ≤ record.endedAt

/-- Of the records within the current maximum age, the newest within the current maximum count. -/
def RetainedRecords.step (r : RetainedRecords) : AuditAction → RetainedRecords
  | .append record =>
    { r with
      records := ((r.records ++ [record]).filter
        (withinAge (secondsBefore record.endedAt r.retention.maxAgeSeconds))).rtake
          r.retention.maxRecords }
  | .updateRetention retention => { r with retention }

/-- **The steps after which both retain the same**: the retention is not changed; an appended record
    is one that the store accepts, no record within the count is of exactly the maximum age, and no
    record within the count is too old while one beyond it is not. -/
def Retains (s : DurableAuditSink) : AuditAction → Prop
  | .append record =>
    let records := s.stored ++ [record]
    let cutoff := secondsBefore record.endedAt s.retention.maxAgeSeconds
    ((s.retention.maxRecords : ℕ) ≤ auditHardCap ∧ record.storable = true ∧ firstInstant ≤ cutoff) ∧
      (∀ r ∈ records.rtake s.retention.maxRecords, r.endedAt ≠ cutoff) ∧
      ((∀ r ∈ records.rtake s.retention.maxRecords, withinAge cutoff r = true) ∨
        ∀ r ∈ records.rdrop s.retention.maxRecords, withinAge cutoff r = false)
  | .updateRetention retention => retention = s.retention

/-! ### Lists within bounds -/

section Lists

variable {α : Type*} {p q : α → Bool} {xs : List α} {n : ℕ}

theorem rdrop_append_rtake (xs : List α) (n : ℕ) : xs.rdrop n ++ xs.rtake n = xs := by
  unfold List.rdrop List.rtake
  exact List.take_append_drop _ _

theorem length_rtake_le (xs : List α) (n : ℕ) : (xs.rtake n).length ≤ n := by
  unfold List.rtake
  rw [List.length_drop]
  omega

/-- The last entries of a list that has no more of them. -/
theorem rtake_of_length_le (h : xs.length ≤ n) : xs.rtake n = xs := by
  unfold List.rtake
  rw [Nat.sub_eq_zero_of_le h, List.drop_zero]

/-- The order of the two bounds does not matter where every one of the last entries is kept, or none
    of the others is. -/
theorem rtake_filter (h : (∀ x ∈ xs.rtake n, p x = true) ∨ ∀ x ∈ xs.rdrop n, p x = false) :
    (xs.filter p).rtake n = (xs.rtake n).filter p := by
  have hsplit : xs.filter p = (xs.rdrop n).filter p ++ (xs.rtake n).filter p := by
    rw [← List.filter_append, rdrop_append_rtake]
  rcases h with h | h
  · have hkept : (xs.rtake n).filter p = xs.rtake n := List.filter_eq_self.mpr h
    rw [hsplit, hkept]
    by_cases hlength : n ≤ xs.length
    · -- All `n` last entries are kept, and they are the last ones of the rest.
      have hn : (xs.rtake n).length = n := by
        unfold List.rtake
        rw [List.length_drop]
        omega
      generalize xs.rtake n = last at hn
      unfold List.rtake
      rw [List.length_append, hn, Nat.add_sub_cancel, List.drop_left]
    · have hall : xs.rtake n = xs := rtake_of_length_le (by omega)
      have hnone : xs.rdrop n = [] := by
        unfold List.rdrop
        rw [Nat.sub_eq_zero_of_le (by omega), List.take_zero]
      rw [hnone, List.filter_nil, List.nil_append, hall, hall]
  · have hnone : (xs.rdrop n).filter p = [] := List.filter_eq_nil_iff.mpr fun x hx => by
      rw [h x hx]
      exact Bool.false_ne_true
    rw [hsplit, hnone, List.nil_append]
    exact rtake_of_length_le ((List.length_filter_le _ _).trans (length_rtake_le xs n))

end Lists

/-! ### Runs -/

/-- What both retain after an append. -/
theorem append_retains {s : DurableAuditSink} {record : AuditRecord}
    (hsame : s.trail.records = s.stored) (hcount : s.trail.maxRecords = s.retention.maxRecords)
    (hage : s.trail.maxAgeSeconds = s.retention.maxAgeSeconds) (h : Retains s (.append record)) :
    (s.append record).trail.records =
        (RetainedRecords.step ⟨s.retention, s.stored⟩ (.append record)).records ∧
      (s.append record).stored =
        (RetainedRecords.step ⟨s.retention, s.stored⟩ (.append record)).records ∧
      (s.append record).trail.maxRecords = s.trail.maxRecords ∧
      (s.append record).trail.maxAgeSeconds = s.trail.maxAgeSeconds ∧
      (s.append record).retention = s.retention := by
  obtain ⟨⟨hcap, hstorable, hfirst⟩, hexact, hbounds⟩ := h
  set cutoff := secondsBefore record.endedAt s.retention.maxAgeSeconds with hcutoff
  have hshift : instantMinusSeconds record.endedAt s.retention.maxAgeSeconds = some cutoff :=
    if_pos hfirst
  have htrail : s.trail.append record = (⟨s.retention.maxRecords, s.retention.maxAgeSeconds,
      ((s.stored ++ [record]).rtake s.retention.maxRecords).filter (withinAge cutoff)⟩, true) := by
    unfold BoundedAuditTrail.append
    rw [hage, hshift, hsame, hcount]
    rfl
  have hstore : appendAuditRecord s.stored record s.retention =
      some (((s.stored ++ [record]).filter fun r => ¬ r.endedAt ≤ cutoff).rtake
        s.retention.maxRecords) := by
    unfold appendAuditRecord
    rw [if_pos ⟨hcap, hstorable⟩, hshift]
    rfl
  have hexpected : (RetainedRecords.step ⟨s.retention, s.stored⟩ (.append record)).records =
      ((s.stored ++ [record]).rtake s.retention.maxRecords).filter (withinAge cutoff) :=
    rtake_filter hbounds
  -- The strict bound of the store keeps the same records, as none is at the cutoff.
  have hstrict : ((s.stored ++ [record]).filter fun r => ¬ r.endedAt ≤ cutoff).rtake
      s.retention.maxRecords =
      ((s.stored ++ [record]).rtake s.retention.maxRecords).filter (withinAge cutoff) := by
    rw [rtake_filter]
    · refine List.filter_congr fun r hr => ?_
      have hne := hexact r hr
      unfold withinAge
      rw [decide_eq_decide]
      exact ⟨fun h => (not_le.mp h).le, fun h => not_le.mpr (lt_of_le_of_ne h hne.symm)⟩
    · refine hbounds.imp (fun hkept r hr => ?_) fun holder r hr => ?_
      · have hle : cutoff ≤ r.endedAt := of_decide_eq_true (hkept r hr)
        have hne := hexact r hr
        rw [decide_eq_true_eq]
        exact not_le.mpr (lt_of_le_of_ne hle hne.symm)
      · have hlt : ¬ cutoff ≤ r.endedAt := of_decide_eq_false (holder r hr)
        rw [decide_eq_false_iff_not]
        exact not_not.mpr (not_le.mp hlt).le
  unfold DurableAuditSink.append
  rw [htrail, hstore, hexpected]
  exact ⟨rfl, hstrict, hcount.symm, hage.symm, rfl⟩

/-- What is to be retained after a run. -/
def retainedBy (start : RetainedRecords) (log : List AuditAction) : RetainedRecords :=
  log.foldl RetainedRecords.step start

/-- The invariant: the trail has the current retention, and both hold what is to be retained. -/
structure Agree (start : RetainedRecords) (s : DurableAuditSink) (log : List AuditAction) :
    Prop where
  count : s.trail.maxRecords = s.retention.maxRecords
  age : s.trail.maxAgeSeconds = s.retention.maxAgeSeconds
  retention : (retainedBy start log).retention = s.retention
  trail : s.trail.records = (retainedBy start log).records
  stored : s.stored = (retainedBy start log).records

/-- **One step keeps the agreement.** -/
theorem Agree.step {start : RetainedRecords} {s : DurableAuditSink} {log : List AuditAction}
    {action : AuditAction} (h : Agree start s log) (hretains : Retains s action) :
    Agree start (s.step action) (log ++ [action]) := by
  have hlog : retainedBy start (log ++ [action]) = (retainedBy start log).step action := by
    unfold retainedBy
    rw [List.foldl_append]
    rfl
  have hstart : retainedBy start log = ⟨s.retention, s.stored⟩ := by
    rw [← h.retention, h.stored]
  cases action with
  | append record =>
    obtain ⟨htrail, hstored, hcount, hage, hretention⟩ :=
      append_retains (h.trail.trans h.stored.symm) h.count h.age hretains
    rw [← hstart, ← hlog] at htrail hstored
    refine ⟨hcount.trans (h.count.trans ?_), hage.trans (h.age.trans ?_), ?_, htrail, hstored⟩
    · exact congrArg AuditRetention.maxRecords hretention.symm
    · exact congrArg AuditRetention.maxAgeSeconds hretention.symm
    · rw [hlog]
      exact h.retention.trans hretention.symm
  | updateRetention retention =>
    have hsame : retention = s.retention := hretains
    subst hsame
    refine ⟨h.count, h.age, ?_, ?_, ?_⟩
    · rw [hlog]
      rfl
    · rw [hlog]
      exact h.trail
    · rw [hlog]
      exact h.stored

/-- **In every run whose steps meet the condition**, the trail and the store retain the same
    records, and these are the ones to retain. -/
theorem retention_kept {stored : List AuditRecord} {retention : AuditRetention}
    {s : DurableAuditSink} {log : List AuditAction}
    (run : auditMachine.Run Retains (.new stored retention) s log) :
    s.trail.records = (retainedBy ⟨retention, stored⟩ log).records ∧
      s.stored = (retainedBy ⟨retention, stored⟩ log).records := by
  have hagree : Agree ⟨retention, stored⟩ s log := by
    refine run.invariant (I := Agree ⟨retention, stored⟩) ⟨rfl, rfl, rfl, rfl, rfl⟩ ?_
    rintro s s' log events action - hagree hretains hstep
    cases hstep
    exact hagree.step hretains
  exact ⟨hagree.trail, hagree.stored⟩

/-- A request that was rejected at an instant. -/
def rejectedAt (t : Timestamp) : AuditRecord where
  requestId := .lit "chatcmpl-1"
  startedAt := t
  endedAt := t
  resultStatus := .rejected
  reasonCodes := []
  clientId := .lit "app"
  well_formed := ⟨rfl, fun h => absurd rfl h, fun _ => rfl, fun h => (by cases h),
    fun h => absurd h (lt_irrefl 0)⟩

/-- One minute, and two records. -/
def minuteRetention : AuditRetention where
  maxRecords := 2
  maxAgeSeconds := 60

/-- Two requests within a minute, and a third one. -/
def threeRequests : List AuditAction :=
  [.append (rejectedAt 0), .append (rejectedAt 30000), .append (rejectedAt 40000)]

/-- The last two are retained by both. -/
theorem two_retained : ∃ s : DurableAuditSink,
    s.trail.records = (retainedBy ⟨minuteRetention, []⟩ threeRequests).records ∧
      s.stored = (retainedBy ⟨minuteRetention, []⟩ threeRequests).records ∧ s.stored.length = 2 := by
  have hfirst : Retains (.new [] minuteRetention) (.append (rejectedAt 0)) :=
    ⟨⟨by decide, by decide +kernel, by decide +kernel⟩, by decide +kernel, .inl (by decide +kernel)⟩
  have run₁ : auditMachine.Run Retains (.new [] minuteRetention) _ _ :=
    Machine.Run.refl.step (.append (rejectedAt 0)) hfirst rfl
  have run₂ := run₁.step (.append (rejectedAt 30000))
    ⟨⟨by decide, by decide +kernel, by decide +kernel⟩, by decide +kernel, .inl (by decide +kernel)⟩ rfl
  have run₃ := run₂.step (.append (rejectedAt 40000))
    ⟨⟨by decide, by decide +kernel, by decide +kernel⟩, by decide +kernel, .inl (by decide +kernel)⟩ rfl
  exact ⟨_, (retention_kept run₃).1, (retention_kept run₃).2, by decide +kernel⟩

/-- **A record of exactly the maximum age** stays in the trail, and is deleted from the store. -/
theorem cutoff_differs : ¬ ∀ (stored : List AuditRecord) (retention : AuditRetention)
    (s : DurableAuditSink) (log : List AuditAction),
    auditMachine.Run (fun _ _ => True) (.new stored retention) s log →
      s.trail.records = (retainedBy ⟨retention, stored⟩ log).records ∧
        s.stored = (retainedBy ⟨retention, stored⟩ log).records := by
  intro h
  have run : auditMachine.Run (fun _ _ => True) (.new [rejectedAt 0] minuteRetention) _ _ :=
    Machine.Run.refl.step (.append (rejectedAt 60000)) trivial rfl
  have hboth := h _ _ _ _ run
  have hlength := congrArg List.length (hboth.1.trans hboth.2.symm)
  exact absurd hlength (by decide +kernel)

end ScarcityRouter
