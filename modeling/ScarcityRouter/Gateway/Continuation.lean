import ScarcityRouter.Ident
import ScarcityRouter.Lib.Machine

namespace ScarcityRouter

open ScarcityRouter.Lib

/-!
# The continuation registry

`gateway_continuation.py`: the records of suspended backend turns and the critical sections of
`ContinuationRegistry`.

* `PendingContinuation`, `ContinuationRegistry` — the records, the registry and its tombstone ring.
* `insert`, `claimSection`, `closeSection`, `reap` — what each method does under the registry lock.
* `claim`, `close` — the whole methods, for a caller that runs alone.

How the sections of concurrent calls interleave is in `Gateway.ContinuationRuns`.
-/

/-! ### Vocabulary -/

/-- `CONTINUATION_STATES`. -/
inductive ContinuationState where
  | waiting | resuming | completed | cancelled | expired | lost
  deriving DecidableEq, Repr

/-- The states `close` accepts. -/
def ContinuationState.terminal : ContinuationState → Bool
  | .waiting | .resuming => false
  | .completed | .cancelled | .expired | .lost => true

/-- `REJECTION_REASONS`: the reason of a `ContinuationRejected`. -/
inductive ContinuationRejection where
  | notFound | expired | alreadyResolved
  deriving DecidableEq, Repr

/-- `MAX_PENDING_CONTINUATIONS`. -/
def maxPendingContinuations : ℕ+ := 64

/-- `MAX_TERMINAL_TOMBSTONES`. -/
@[irreducible] def maxTerminalTombstones : ℕ := 256

/-! ### Records -/

/-- One suspended backend turn: the members of a record that are fixed when it is constructed.
    `identity` is the identity of the record object; its mutable state is kept by the registry. -/
structure PendingContinuation where
  identity : ℕ
  continuationToken : String
  deadline : Instant
  clientId : String
  modelEcho : String
  reasoningEffort : Option String := none
  toolsFingerprint : Option String := none
  toolChoiceJson : Option String := none
  prefixFingerprint : String := ""
  assistantToolCallsDigest : String := ""
  hasHandle : Bool := false
  hasAdapter : Bool := false
  executionRequirementsDigest : Option String := none
  executionOutputCeiling : Option ℕ := none
  channel : String := ""
  hasCancelCallback : Bool := false
  deriving DecidableEq

/-- `expired_at`. -/
def PendingContinuation.expiredAt (record : PendingContinuation) (now : Instant) : Bool :=
  record.deadline ≤ now

/-- The key of a record in the tombstone ring. -/
def PendingContinuation.tombstone (record : PendingContinuation) : String × String :=
  (record.continuationToken, record.clientId)

/-- The checks `register` makes of a new record: a safe client id and a bounded model name. -/
def PendingContinuation.registrable (record : PendingContinuation) : Bool :=
  matchesSafeId record.clientId.toList && record.modelEcho ≠ "" && record.modelEcho.length ≤ 512

/-! ### The registry -/

/-- `ContinuationRegistry`: the pending records by token, in insertion order, the tombstone ring,
    and the mutable state of every record object. -/
structure ContinuationRegistry where
  maxPending : ℕ+
  records : List (String × PendingContinuation) := []
  tombstones : List (String × String) := []
  states : ℕ → ContinuationState := fun _ => .waiting

namespace ContinuationRegistry

variable (r : ContinuationRegistry)

/-- The pending records. -/
def pending : List PendingContinuation := r.records.map Prod.snd

/-- `detect`: the live record of a token. -/
def detect (token : String) : Option PendingContinuation :=
  (r.records.find? (·.1 = token)).map Prod.snd

/-- `was_terminal_for`. -/
def wasTerminalFor (token clientId : String) : Bool := (token, clientId) ∈ r.tombstones

/-- `pending_count`. -/
def pendingCount : ℕ := r.records.length

/-- `self._records.pop(token, None)`. -/
def pop (token : String) : ContinuationRegistry :=
  { r with records := r.records.filter (·.1 ≠ token) }

/-- `self._terminal_tombstones.append(..)`. -/
def bury (tombstone : String × String) : ContinuationRegistry :=
  { r with tombstones := pushRing maxTerminalTombstones r.tombstones tombstone }

/-- The assignment of a record's state. -/
def setState (identity : ℕ) (state : ContinuationState) : ContinuationRegistry :=
  { r with states := Function.update r.states identity state }

/-! ### Critical sections -/

/-- The bound and the token are free for a new record. -/
def admits (record : PendingContinuation) : Bool :=
  r.records.length < r.maxPending && !r.records.any (·.1 = record.continuationToken)

/-- The locked section of `register`, for an admitted record. -/
def insert (record : PendingContinuation) : ContinuationRegistry :=
  { r with records := r.records ++ [(record.continuationToken, record)] }

/-- What the locked section of a claim finds. -/
inductive Claim where
  | rejected (reason : ContinuationRejection)
  | expired (record : PendingContinuation)
  | claimed (record : PendingContinuation)
  deriving DecidableEq

/-- The locked section of `claim`, with `claim_transition` in it. -/
def claimSection (token clientId : String) (now : Instant) : ContinuationRegistry × Claim :=
  match r.detect token with
  | none => (r, .rejected (if r.wasTerminalFor token clientId then .alreadyResolved else .notFound))
  | some record =>
    if record.clientId ≠ clientId then (r, .rejected .notFound)
    else if r.states record.identity ≠ .waiting then (r, .rejected .alreadyResolved)
    else if record.expiredAt now then
      (((r.setState record.identity .expired).pop token).bury (token, clientId), .expired record)
    else (r.setState record.identity .resuming, .claimed record)

/-- `restore_waiting`: only a claimed record returns to `waiting`. -/
def restoreWaiting (identity : ℕ) : ContinuationRegistry :=
  if r.states identity = .resuming then r.setState identity .waiting else r

/-- The locked section of `close`: the popped record, and one tombstone in any case. -/
def closeSection (token : String) : ContinuationRegistry × Option PendingContinuation :=
  match r.detect token with
  | none => ((r.pop token).bury (token, ""), none)
  | some record => ((r.pop token).bury (token, record.clientId), some record)

/-- One iteration of `expire_due` on a due record: only a record found resuming is buried. -/
def reap (record : PendingContinuation) : ContinuationRegistry :=
  let popped := r.pop record.continuationToken
  let marked := popped.setState record.identity .expired
  if popped.states record.identity = .waiting then marked else marked.bury record.tombstone

/-! ### Projections -/

section Projections

variable {r} {token : String} {tombstone : String × String} {identity : ℕ}
  {state : ContinuationState} {record : PendingContinuation}

@[simp] theorem pop_tombstones : (r.pop token).tombstones = r.tombstones := rfl
@[simp] theorem pop_states : (r.pop token).states = r.states := rfl
@[simp] theorem pop_maxPending : (r.pop token).maxPending = r.maxPending := rfl
@[simp] theorem pop_records : (r.pop token).records = r.records.filter (·.1 ≠ token) := rfl
@[simp] theorem bury_records : (r.bury tombstone).records = r.records := rfl
@[simp] theorem bury_states : (r.bury tombstone).states = r.states := rfl
@[simp] theorem bury_maxPending : (r.bury tombstone).maxPending = r.maxPending := rfl
@[simp] theorem bury_tombstones : (r.bury tombstone).tombstones =
    pushRing maxTerminalTombstones r.tombstones tombstone := rfl
@[simp] theorem setState_records : (r.setState identity state).records = r.records := rfl
@[simp] theorem setState_tombstones : (r.setState identity state).tombstones = r.tombstones := rfl
@[simp] theorem setState_maxPending : (r.setState identity state).maxPending = r.maxPending := rfl
@[simp] theorem setState_states : (r.setState identity state).states =
    Function.update r.states identity state := rfl
@[simp] theorem insert_records : (r.insert record).records =
    r.records ++ [(record.continuationToken, record)] := rfl
@[simp] theorem insert_tombstones : (r.insert record).tombstones = r.tombstones := rfl
@[simp] theorem insert_states : (r.insert record).states = r.states := rfl
@[simp] theorem insert_maxPending : (r.insert record).maxPending = r.maxPending := rfl

@[simp] theorem restoreWaiting_tombstones :
    (r.restoreWaiting identity).tombstones = r.tombstones := by
  unfold restoreWaiting
  split <;> rfl

@[simp] theorem reap_records :
    (r.reap record).records = r.records.filter (·.1 ≠ record.continuationToken) := by
  unfold reap
  dsimp only
  split <;> rfl

@[simp] theorem reap_states :
    (r.reap record).states = Function.update r.states record.identity .expired := by
  unfold reap
  dsimp only
  split <;> rfl

@[simp] theorem reap_maxPending : (r.reap record).maxPending = r.maxPending := by
  unfold reap
  dsimp only
  split <;> rfl

end Projections

/-! ### Keys -/

/-- Every record is filed under its own token, and no token twice. -/
structure Keyed : Prop where
  own_token : ∀ p ∈ r.records, p.1 = p.2.continuationToken
  unique : (r.records.map Prod.fst).Nodup

variable {r}

/-- A token nobody holds pops nothing. -/
theorem pop_of_none {token : String} (h : r.detect token = none) : r.pop token = r := by
  unfold detect at h
  rw [Option.map_eq_none_iff, List.find?_eq_none] at h
  have hkeep : r.records.filter (·.1 ≠ token) = r.records :=
    List.filter_eq_self.mpr fun p hp => by simpa using h p hp
  unfold pop
  rw [hkeep]

/-- Filing reads the pending records only. -/
theorem Keyed.congr {r' : ContinuationRegistry} (h : r.Keyed) (hrecords : r'.records = r.records) :
    r'.Keyed := by
  constructor
  · rw [hrecords]
    exact h.own_token
  · rw [hrecords]
    exact h.unique

namespace Keyed

variable {token : String} {record other : PendingContinuation}

theorem pop (h : r.Keyed) (token : String) : (r.pop token).Keyed where
  own_token p hp := h.own_token p (List.mem_filter.mp hp).1
  unique := h.unique.sublist (List.filter_sublist.map _)

theorem insert (h : r.Keyed) (hadmits : r.admits record = true) : (r.insert record).Keyed := by
  unfold admits at hadmits
  simp only [Bool.and_eq_true, Bool.not_eq_true', List.any_eq_false, decide_eq_true_eq] at hadmits
  constructor
  · intro p hp
    rcases List.mem_append.mp hp with hp | hp
    · exact h.own_token p hp
    · rw [List.mem_singleton.mp hp]
  · rw [insert_records, List.map_append, List.nodup_append']
    refine ⟨h.unique, List.nodup_singleton _, ?_⟩
    intro key hkey hsingle
    obtain ⟨p, hp, rfl⟩ := List.mem_map.mp hkey
    exact hadmits.2 p hp (List.mem_singleton.mp hsingle)

/-- A pending record is found under its token. -/
theorem detect_eq_some (h : r.Keyed) : r.detect token = some record ↔
    record ∈ r.pending ∧ record.continuationToken = token := by
  unfold detect
  rw [Option.map_eq_some_iff]
  constructor
  · rintro ⟨p, hfind, rfl⟩
    have hp := List.mem_of_find?_eq_some hfind
    refine ⟨List.mem_map_of_mem hp, ?_⟩
    rw [← h.own_token p hp]
    exact of_decide_eq_true (List.find?_some hfind :)
  · rintro ⟨hpending, rfl⟩
    obtain ⟨p, hp, rfl⟩ := List.mem_map.mp hpending
    have hsome : (r.records.find? fun q => decide (q.1 = p.2.continuationToken)).isSome := by
      rw [List.find?_isSome]
      exact ⟨p, hp, decide_eq_true (h.own_token p hp)⟩
    obtain ⟨q, hq⟩ := Option.isSome_iff_exists.mp hsome
    have hkey : q.1 = p.1 := (of_decide_eq_true (List.find?_some hq :)).trans (h.own_token p hp).symm
    rw [List.inj_on_of_nodup_map h.unique (List.mem_of_find?_eq_some hq) hp hkey] at hq
    exact ⟨p, hq, rfl⟩

/-- Pending records with one token are one record. -/
theorem eq_of_token (h : r.Keyed) (hrecord : record ∈ r.pending) (hother : other ∈ r.pending)
    (htoken : record.continuationToken = other.continuationToken) : record = other := by
  have hfound := h.detect_eq_some.mpr ⟨hrecord, htoken⟩
  have hfound' := h.detect_eq_some.mpr ⟨hother, rfl⟩
  exact Option.some.inj (hfound.symm.trans hfound')

/-- Popping the token of a pending record removes that record only. -/
theorem pending_pop (h : r.Keyed) (hrecord : record ∈ r.pending) :
    r.pending.Perm (record :: (r.pop record.continuationToken).pending) := by
  obtain ⟨p, hp, rfl⟩ := List.mem_map.mp hrecord
  have hown : p.1 = p.2.continuationToken := h.own_token p hp
  have hsingle : r.records.filter (fun q => decide (q.1 = p.2.continuationToken)) = [p] := by
    have hnodup : r.records.Nodup := List.Nodup.of_map _ h.unique
    refine List.perm_singleton.mp ((List.perm_ext_iff_of_nodup (hnodup.filter _)
      (List.nodup_singleton p)).mpr fun q => ?_)
    simp only [List.mem_filter, decide_eq_true_eq, List.mem_singleton]
    constructor
    · rintro ⟨hq, hkey⟩
      exact List.inj_on_of_nodup_map h.unique hq hp (hkey.trans hown.symm)
    · rintro rfl
      exact ⟨hp, hown⟩
  have hsplit := (List.filter_append_perm (fun q => decide (q.1 = p.2.continuationToken))
    r.records).symm
  rw [hsingle] at hsplit
  have hmap := hsplit.map Prod.snd
  rw [List.map_append] at hmap
  refine hmap.trans (.of_eq ?_)
  simp [ContinuationRegistry.pending, ContinuationRegistry.pop]

/-- Pending records are pairwise distinct. -/
theorem nodup_pending (h : r.Keyed) : r.pending.Nodup := by
  refine List.Nodup.of_map (·.continuationToken) ?_
  have hkeys : r.pending.map (·.continuationToken) = r.records.map Prod.fst := by
    unfold ContinuationRegistry.pending
    rw [List.map_map]
    exact List.map_congr_left fun p hp => (h.own_token p hp).symm
  rw [hkeys]
  exact h.unique

/-- The records that popping a pending one leaves. -/
theorem mem_pending_pop (h : r.Keyed) (hrecord : record ∈ r.pending) :
    other ∈ (r.pop record.continuationToken).pending ↔ other ∈ r.pending ∧ other ≠ record := by
  have hperm := h.pending_pop hrecord
  have hnodup := hperm.nodup_iff.mp h.nodup_pending
  rw [hperm.mem_iff, List.mem_cons]
  constructor
  · intro hother
    refine ⟨.inr hother, ?_⟩
    rintro rfl
    exact (List.nodup_cons.mp hnodup).1 hother
  · rintro ⟨rfl | hother, hne⟩
    · exact absurd rfl hne
    · exact hother

end Keyed

/-! ### What the sections find -/

section Sections

variable {r' : ContinuationRegistry} {token clientId : String} {now : Instant}
  {record : PendingContinuation}

theorem claimSection_rejected {reason : ContinuationRejection}
    (h : r.claimSection token clientId now = (r', .rejected reason)) : r' = r := by
  unfold claimSection at h
  split at h
  · cases h
    rfl
  · split_ifs at h <;> cases h <;> rfl

/-- An expired claim is of the owner's waiting record, which it removes and buries. -/
theorem claimSection_expired (hkeyed : r.Keyed)
    (h : r.claimSection token clientId now = (r', .expired record)) :
    record ∈ r.pending ∧ r.states record.identity = .waiting ∧ record.expiredAt now = true ∧
      r' = ((r.setState record.identity .expired).pop record.continuationToken).bury
        record.tombstone := by
  unfold claimSection at h
  split at h
  · cases h
  · rename_i found hfound
    split_ifs at h with hclient hstate hexpired
    · cases h
    · cases h
    · cases h
      obtain ⟨hpending, rfl⟩ := hkeyed.detect_eq_some.mp hfound
      obtain rfl := not_not.mp hclient
      exact ⟨hpending, not_not.mp hstate, hexpired, rfl⟩
    · cases h

/-- A successful claim is of the owner's waiting record, which it resumes. -/
theorem claimSection_claimed (hkeyed : r.Keyed)
    (h : r.claimSection token clientId now = (r', .claimed record)) :
    record ∈ r.pending ∧ record.continuationToken = token ∧ record.clientId = clientId ∧
      r.states record.identity = .waiting ∧ record.expiredAt now = false ∧
      r' = r.setState record.identity .resuming := by
  unfold claimSection at h
  split at h
  · cases h
  · rename_i found hfound
    split_ifs at h with hclient hstate hexpired
    · cases h
    · cases h
    · cases h
    · cases h
      obtain ⟨hpending, htoken⟩ := hkeyed.detect_eq_some.mp hfound
      exact ⟨hpending, htoken, not_not.mp hclient, not_not.mp hstate,
        Bool.eq_false_iff.mpr hexpired, rfl⟩

/-- A close that finds a record removes and buries it. -/
theorem closeSection_some (hkeyed : r.Keyed) (h : r.closeSection token = (r', some record)) :
    record ∈ r.pending ∧ record.continuationToken = token ∧
      r' = (r.pop record.continuationToken).bury record.tombstone := by
  unfold closeSection at h
  split at h
  · cases h
  · rename_i found hfound
    cases h
    obtain ⟨hpending, rfl⟩ := hkeyed.detect_eq_some.mp hfound
    exact ⟨hpending, rfl, rfl⟩

/-- A close that finds nothing removes nothing, and buries the token under no client. -/
theorem closeSection_none (h : r.closeSection token = (r', none)) :
    r.detect token = none ∧ r' = r.bury (token, "") := by
  unfold closeSection at h
  split at h
  · rename_i hnone
    cases h
    refine ⟨hnone, ?_⟩
    rw [pop_of_none hnone]
  · cases h

end Sections

/-! ### Foreign and unknown tokens -/

/-- **A claim by another client changes nothing and is rejected as not found.** -/
theorem claimSection_foreign {token clientId : String} {record : PendingContinuation}
    (now : Instant) (hlive : r.detect token = some record) (hforeign : record.clientId ≠ clientId) :
    r.claimSection token clientId now = (r, .rejected .notFound) := by
  unfold claimSection
  rw [hlive]
  exact if_pos hforeign

/-- A claim of an unknown token changes nothing and is rejected as not found. -/
theorem claimSection_unknown {token clientId : String} (now : Instant)
    (hunknown : r.detect token = none) (hfresh : r.wasTerminalFor token clientId = false) :
    r.claimSection token clientId now = (r, .rejected .notFound) := by
  unfold claimSection
  rw [hunknown, hfresh]
  rfl

end ContinuationRegistry

end ScarcityRouter
