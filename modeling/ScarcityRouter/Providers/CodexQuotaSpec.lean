import Mathlib.Data.List.ReduceOption
import ScarcityRouter.Providers.CodexQuota

namespace ScarcityRouter.CodexQuota

open ScarcityRouter.Lib

/-!
# What the Codex rate limits say

* `presentSlots`, `ResultBlocked` — the window slots of a decoded result in the order they are
  reported, and the blockers in it, read off the document.
* `QuotaFaithful` — a snapshot reports every slot once and in order, and no percentage of a result
  with a blocker.
* `codex_quota_faithful_iff` — **the parser returns a faithful snapshot exactly if it can compare
  the mirror.**
-/

/-! ### The document -/

/-- The members of an object, and none of another value. -/
def membersOf (value : Option Json) : Record := (value.bind asMapping).getD []

/-- The main snapshot. -/
def rateLimitsOf (envelope : Record) : Record := membersOf (envelope.get? "rateLimits")

/-- The buckets by key, the mirror among them. -/
def bucketsOf (envelope : Record) : Record := membersOf (envelope.present "rateLimitsByLimitId")

/-- The additional bucket of a key. -/
def bucketOf (envelope : Record) (key : Text) : Record := membersOf (valueOf (bucketsOf envelope) key)

/-- The keys of the additional buckets, sorted. -/
def bucketKeys (envelope : Record) : List Text :=
  (sortBy id ((bucketsOf envelope).map Prod.fst)).filter (· ≠ limitId.toText)

/-- The window slots of a snapshot that are present, with the scope they are in. -/
def snapshotSlots (scope : Text) (snapshot : Record) : List (Text × Json) :=
  windowSlots.filterMap fun slot => (snapshot.present slot.text).map (scope, ·)

/-- The window slots of an envelope: main slots first, then the buckets by key. -/
def presentSlots (envelope : Record) : List (Text × Json) :=
  snapshotSlots limitId.toText (rateLimitsOf envelope) ++
    (bucketKeys envelope).flatMap fun key => snapshotSlots key (bucketOf envelope key)

/-- A blocker of a quota snapshot: a reached type, the spend control, or an exhausted individual
    limit. -/
def SnapshotBlocked (snapshot : Record) : Prop :=
  (snapshot.present "rateLimitReachedType").isSome ∨
    snapshot.get? "spendControlReached" = some (.bool true) ∨
    ∃ limit : Record, snapshot.get? "individualLimit" = some (.object limit) ∧
      limit.get? "remainingPercent" = some (.int 0)

/-- A window slot that is full. -/
def FullWindow (snapshot : Record) : Prop :=
  ∃ slot : WindowSlot, ∃ entry : Record, snapshot.get? slot.text = some (.object entry) ∧
    entry.get? "usedPercent" = some (.int 100)

/-- The current generation of the response does not permit ordinary usage. -/
def Unpermitted (envelope : Record) : Prop :=
  ∃ allowed, envelope.get? "ordinaryUsageAllowed" = some allowed ∧ allowed ≠ .bool true

/-- A blocker anywhere in an envelope. -/
def EnvelopeBlocked (envelope : Record) : Prop :=
  (envelope.present "rateLimitUpsell").isSome ∨ Unpermitted envelope ∨
    SnapshotBlocked (rateLimitsOf envelope) ∨
    ∃ key ∈ bucketKeys envelope,
      SnapshotBlocked (bucketOf envelope key) ∨ FullWindow (bucketOf envelope key)

/-- A window reports a slot: under the slot's scope, and with the slot's percentage if with any. -/
structure ReportsSlot (slot : Text × Json) (window : CapacityWindow) : Prop where
  scope : window.scopeId.map SafeId.toText = some slot.1
  percentage : ∀ used ∈ window.usedPercent, ∃ entry : Record, slot.2 = .object entry ∧
    entry.get? "usedPercent" = some (.int used.val)

/-- A snapshot is faithful to the result it reports. -/
structure QuotaFaithful (result : Json) (snapshot : CapacitySnapshot) : Prop where
  slots : snapshot.status ≠ .schemaChanged → ∃ envelope, result = .object envelope ∧
    List.Forall₂ ReportsSlot (presentSlots envelope) snapshot.windows
  blocked : snapshot.status ≠ .schemaChanged →
    ∀ envelope, result = .object envelope → EnvelopeBlocked envelope →
      snapshot.status = .unknown ∧ ∀ window ∈ snapshot.windows, window.remainingPercent = none

/-! ### Readers -/

section Readers

variable {snapshot : Record} {scopeId windowId : SafeId} {windowIdPrefix : Option SafeId}

/-- What a window slot gives. -/
theorem parseWindow_spec {entry : Record} {facts : WindowFacts}
    (h : parseWindow entry windowId scopeId = some facts) :
    ∃ usedRaw, entry.get? "usedPercent" = some usedRaw ∧ facts.window.scopeId = some scopeId ∧
      facts.window.usedPercent = usedPair usedRaw := by
  unfold parseWindow at h
  obtain ⟨usedRaw, hused, h⟩ := Option.bind_eq_some_iff.mp h
  obtain ⟨-, h⟩ := guard_bind_eq_some.mp h
  obtain ⟨-, h⟩ := guard_bind_eq_some.mp h
  obtain ⟨-, h⟩ := guard_bind_eq_some.mp h
  obtain ⟨period, -, h⟩ := Option.bind_eq_some_iff.mp h
  obtain rfl := Option.some.inj h
  refine ⟨usedRaw, hused, rfl, ?_⟩
  show ((usedPair usedRaw).map Fin.rev).map Fin.rev = usedPair usedRaw
  rw [Option.map_map, Fin.rev_involutive.comp_self, Option.map_id]
  rfl

/-- A member that is there and not null. -/
theorem present_eq_some {record : Record} {key : String} {value : Json} :
    record.present key = some value ↔ record.get? key = some value ∧ value.isNull = false := by
  unfold Record.present
  rw [Option.filter_eq_some_iff]
  simp

/-- What the facts of a snapshot's slot say of it. -/
structure SlotFacts (snapshot : Record) (scopeId : SafeId) (slot : WindowSlot)
    (facts : WindowFacts) : Prop where
  present : ∃ entry : Record, snapshot.get? slot.text = some (.object entry) ∧
    snapshot.present slot.text = some (.object entry) ∧
    ∃ usedRaw, entry.get? "usedPercent" = some usedRaw ∧ facts.window.usedPercent = usedPair usedRaw
  scope : facts.window.scopeId = some scopeId

theorem parseSlot_spec {slot : WindowSlot} {found : Option WindowFacts}
    (h : parseSlot snapshot scopeId windowIdPrefix slot = some found) :
    (found = none ↔ snapshot.present slot.text = none) ∧
      ∀ facts ∈ found, SlotFacts snapshot scopeId slot facts := by
  unfold parseSlot at h
  cases hpresent : snapshot.present slot.text with
  | none =>
    rw [hpresent] at h
    obtain rfl := Option.some.inj h
    exact ⟨iff_of_true rfl rfl, nofun⟩
  | some value =>
    rw [hpresent] at h
    obtain ⟨entry, hentry, h⟩ := Option.bind_eq_some_iff.mp h
    obtain ⟨windowId, -, h⟩ := Option.bind_eq_some_iff.mp h
    obtain ⟨facts, hfacts, h⟩ := Option.bind_eq_some_iff.mp h
    obtain rfl := Option.some.inj h
    obtain rfl := asMapping_eq_some.mp hentry
    obtain ⟨usedRaw, hused, hscope, hpercent⟩ := parseWindow_spec hfacts
    refine ⟨by simp, fun _ heq => ?_⟩
    obtain rfl := Option.some.inj heq
    exact ⟨⟨entry, (present_eq_some.mp hpresent).1, hpresent, usedRaw, hused, hpercent⟩, hscope⟩

/-- The facts of a slot report it. -/
theorem SlotFacts.reports {slot : WindowSlot} {facts : WindowFacts} {value : Json}
    (h : SlotFacts snapshot scopeId slot facts) (hvalue : snapshot.present slot.text = some value) :
    ReportsSlot (scopeId.toText, value) facts.window := by
  obtain ⟨entry, -, hpresent, usedRaw, hused, hpercent⟩ := h.present
  refine ⟨by rw [h.scope]; rfl, fun used hmem => ⟨entry, ?_, ?_⟩⟩
  · rw [hpresent] at hvalue
    exact (Option.some.inj hvalue).symm
  · rw [hpercent] at hmem
    rw [hused, usedPair_eq_some.mp hmem]

/-- What the slots of a snapshot give. -/
theorem parseSlots_spec {slots : List WindowSlot} {found : List (Option WindowFacts)}
    (h : slots.mapM (parseSlot snapshot scopeId windowIdPrefix) = some found) :
    List.Forall₂ ReportsSlot
        (slots.filterMap fun slot => (snapshot.present slot.text).map (scopeId.toText, ·))
        (found.reduceOption.map (·.window)) ∧
      ((∃ facts ∈ found.reduceOption, facts.window.usedPercent = some 100) ↔
        ∃ slot ∈ slots, ∃ entry : Record, snapshot.get? slot.text = some (.object entry) ∧
          entry.get? "usedPercent" = some (.int 100)) := by
  induction slots generalizing found with
  | nil =>
    obtain rfl := Option.some.inj h
    exact ⟨.nil, by simp⟩
  | cons slot slots ih =>
    rw [List.mapM_cons] at h
    obtain ⟨first, hfirst, h⟩ := Option.bind_eq_some_iff.mp h
    obtain ⟨rest, hrest, h⟩ := Option.bind_eq_some_iff.mp h
    obtain rfl := Option.some.inj h
    obtain ⟨hslots, hfull⟩ := ih hrest
    obtain ⟨hnone, hfacts⟩ := parseSlot_spec hfirst
    cases first with
    | none =>
      have habsent := hnone.mp rfl
      rw [List.filterMap_cons, habsent, Option.map_none, List.reduceOption_cons_of_none]
      refine ⟨hslots, hfull.trans ?_⟩
      constructor
      · rintro ⟨slot, hslot, hfound⟩
        exact ⟨slot, List.mem_cons_of_mem _ hslot, hfound⟩
      · rintro ⟨other, hslot, entry, hentry, hused⟩
        rcases List.mem_cons.mp hslot with rfl | hslot
        · -- An object in the slot would be there.
          rw [present_eq_some.mpr ⟨hentry, rfl⟩] at habsent
          cases habsent
        · exact ⟨other, hslot, entry, hentry, hused⟩
    | some facts =>
      have hslot := hfacts facts rfl
      obtain ⟨entry, hentry, hpresent, usedRaw, hused, hpercent⟩ := hslot.present
      rw [List.filterMap_cons, hpresent, Option.map_some, List.reduceOption_cons_of_some,
        List.map_cons]
      refine ⟨.cons (hslot.reports hpresent) hslots, ?_⟩
      rw [List.exists_mem_cons_iff, List.exists_mem_cons_iff, hfull]
      refine or_congr ?_ Iff.rfl
      rw [hpercent, usedPair_eq_some]
      constructor
      · intro hfull
        exact ⟨entry, hentry, by rw [hused, hfull]; rfl⟩
      · rintro ⟨other, hother, hfull⟩
        rw [hentry] at hother
        cases hother
        rw [hused] at hfull
        rw [Option.some.inj hfull]
        rfl

/-- The spend control blocks exactly if it says so. -/
theorem spendControlState_spec {key : String} {reached : Bool}
    (h : spendControlState (snapshot.present key) = some reached) :
    reached = true ↔ snapshot.get? key = some (.bool true) := by
  cases hpresent : snapshot.present key with
  | none =>
    rw [hpresent] at h
    obtain rfl := Option.some.inj h
    refine iff_of_false Bool.false_ne_true fun hget => ?_
    rw [present_eq_some.mpr ⟨hget, rfl⟩] at hpresent
    cases hpresent
  | some value =>
    rw [hpresent] at h
    rw [(present_eq_some.mp hpresent).1]
    cases value with
    | bool b =>
      obtain rfl := Option.some.inj h
      simp
    | _ => cases h

/-- The blockers that a valid individual limit has. -/
theorem individualLimitState_spec {value : Json} {exhausted : Bool}
    (h : individualLimitState value = some exhausted) :
    ∃ limit : Record, value = .object limit ∧
      (exhausted = true ↔ limit.get? "remainingPercent" = some (.int 0)) := by
  unfold individualLimitState at h
  obtain ⟨limit, hlimit, h⟩ := Option.bind_eq_some_iff.mp h
  obtain ⟨-, h⟩ := guard_bind_eq_some.mp h
  obtain ⟨-, h⟩ := guard_bind_eq_some.mp h
  obtain ⟨-, h⟩ := guard_bind_eq_some.mp h
  obtain ⟨remaining, hremaining, h⟩ := Option.bind_eq_some_iff.mp h
  obtain ⟨-, h⟩ := guard_bind_eq_some.mp h
  obtain ⟨-, h⟩ := guard_bind_eq_some.mp h
  obtain rfl := Option.some.inj h
  obtain ⟨raw, hraw, hint⟩ := Option.bind_eq_some_iff.mp hremaining
  obtain rfl := Json.int?_eq_some.mp hint
  refine ⟨limit, asMapping_eq_some.mp hlimit, ?_⟩
  rw [hraw]
  simp

/-- **What a valid quota snapshot gives**: a window for each slot that is present, and its
    blockers. -/
theorem quotaSnapshotState_spec {full : Bool} {state : SnapshotState}
    (h : quotaSnapshotState snapshot full scopeId windowIdPrefix = some state) :
    List.Forall₂ ReportsSlot (snapshotSlots scopeId.toText snapshot)
        (state.windows.map (·.window)) ∧
      (state.blocked = true ↔
        SnapshotBlocked snapshot ∨ full = true ∧ FullWindow snapshot) := by
  unfold quotaSnapshotState at h
  obtain ⟨-, h⟩ := guard_bind_eq_some.mp h
  obtain ⟨-, h⟩ := guard_bind_eq_some.mp h
  obtain ⟨-, h⟩ := guard_bind_eq_some.mp h
  obtain ⟨-, h⟩ := guard_bind_eq_some.mp h
  obtain ⟨-, h⟩ := guard_bind_eq_some.mp h
  obtain ⟨-, h⟩ := guard_bind_eq_some.mp h
  obtain ⟨spendControl, hspend, h⟩ := Option.bind_eq_some_iff.mp h
  obtain ⟨-, h⟩ := guard_bind_eq_some.mp h
  obtain ⟨exhausted, hexhausted, h⟩ := Option.bind_eq_some_iff.mp h
  obtain ⟨found, hfound, h⟩ := Option.bind_eq_some_iff.mp h
  obtain ⟨-, h⟩ := guard_bind_eq_some.mp h
  obtain rfl := Option.some.inj h
  obtain ⟨hslots, hfull⟩ := parseSlots_spec hfound
  refine ⟨hslots, ?_⟩
  have hspend' := spendControlState_spec hspend
  have hexhausted' : exhausted = true ↔ ∃ limit : Record,
      snapshot.get? "individualLimit" = some (.object limit) ∧
        limit.get? "remainingPercent" = some (.int 0) := by
    cases hpresent : snapshot.present "individualLimit" with
    | none =>
      rw [hpresent] at hexhausted
      obtain rfl := Option.some.inj hexhausted
      refine iff_of_false Bool.false_ne_true ?_
      rintro ⟨limit, hget, -⟩
      rw [present_eq_some.mpr ⟨hget, rfl⟩] at hpresent
      cases hpresent
    | some value =>
      rw [hpresent] at hexhausted
      obtain ⟨limit, rfl, hzero⟩ := individualLimitState_spec hexhausted
      rw [hzero, (present_eq_some.mp hpresent).1]
      simp
  have hfull' : found.reduceOption.any (·.window.usedPercent = some 100) = true ↔
      FullWindow snapshot := by
    rw [List.any_eq_true]
    simp only [decide_eq_true_eq]
    rw [hfull]
    refine exists_congr fun slot => and_iff_right ?_
    cases slot <;> decide
  show (_ || _ || _ || _) = true ↔ _
  rw [Bool.or_eq_true, Bool.or_eq_true, Bool.or_eq_true, Bool.and_eq_true, hspend', hexhausted',
    hfull']
  exact or_congr or_assoc Iff.rfl

end Readers

/-! ### Validation -/

section Validation

variable {stack : ℕ} {result : Json} {envelope buckets mirror rateLimits : Record}

/-- The parser comes to compare a mirror with the main snapshot: the members that it reads before
    are valid, and so is the mirror. -/
structure Compared (envelope buckets mirror rateLimits : Record) : Prop where
  members : membershipValid envelope knownEnvelopeMembers = true
  ordinary : (envelope.present "ordinaryUsageAllowed").all Json.isBool = true
  account : (envelope.present "accountId").all Json.isText = true
  credits : (envelope.present "rateLimitResetCredits").all resetCreditsValid = true
  main : envelope.get? "rateLimits" = some (.object rateLimits)
  mapped : envelope.get? "rateLimitsByLimitId" = some (.object buckets)
  mirrored : valueOf buckets limitId.toText = .object mirror
  valid : (mainState mirror).isSome = true

/-- The stack holds every comparison of a mirror that the parser comes to. -/
def ComparesInStack (stack : ℕ) (result : Json) : Prop :=
  ∀ envelope buckets mirror rateLimits : Record, result = .object envelope →
    Compared envelope buckets mirror rateLimits →
      Returns (strictEqual stack (.object mirror) (.object rateLimits))

/-- A reader that has no value has drifted. -/
theorem ends_orDrift {α : Type} {V : α → Prop} {value : Option α} :
    Ends (· = .drift) V (orDrift value) ↔ ∀ a, value = some a → V a := by
  cases value <;> simp [orDrift]

theorem orDrift_eq_ok {α : Type} {value : Option α} {a : α} :
    orDrift value = .ok a ↔ value = some a := by
  cases value <;> simp [orDrift]

theorem ends_mirrors {V : Unit → Prop} {left right : Record} :
    Ends (· = .drift) V (mirrors stack left right) ↔
      Returns (strictEqual stack (.object left) (.object right)) ∧
        (strictEqual stack (.object left) (.object right) = .ok true → V ()) := by
  unfold mirrors
  cases h : strictEqual stack (.object left) (.object right) with
  | ok same => cases same <;> simp
  | error e =>
    cases e
    simp

/-- The loop over the buckets compares the mirror again, and nothing else. -/
theorem ends_readBuckets : Ends (· = .drift) (fun _ => True) (readBuckets stack rateLimits buckets) ↔
    ∀ mirror, valueOf buckets limitId.toText = .object mirror → (mainState mirror).isSome = true →
      Returns (strictEqual stack (.object mirror) (.object rateLimits)) := by
  unfold readBuckets
  simp only [ends_bind, ends_orDrift, ends_mirrors, asMapping_eq_some]
  refine forall₂_congr fun mirror hmirror => ?_
  rw [Option.isSome_iff_exists, forall_exists_index]
  refine forall₂_congr fun state _ => and_iff_left_of_imp fun hreturns hsame => ?_
  refine (ends_mapM fun key _ => ?_).mono (fun _ he => he) fun _ _ _ => trivial
  unfold readBucket
  rw [ends_bind, ends_orDrift]
  intro bucket hbucket
  split_ifs with hkey
  · rw [hkey, hmirror] at hbucket
    obtain rfl := Option.some.inj hbucket
    rw [ends_bind, ends_mirrors]
    exact ⟨hreturns, fun _ => trivial⟩
  · simp only [ends_bind, ends_orDrift]
    exact fun _ _ _ _ => trivial

/-- **The validation raises exactly if the comparison of the mirror does.** -/
theorem ends_readQuota : Ends (· = .drift) (fun _ => True) (readQuota stack result) ↔
    ComparesInStack stack result := by
  unfold readQuota ComparesInStack
  simp only [ends_bind, ends_orDrift, ends_check, asMapping_eq_some, implies_true, and_true,
    pure_eq_ok, ends_ok]
  constructor
  · intro h envelope buckets mirror rateLimits hresult hcompared
    have hpresent : envelope.present "rateLimitsByLimitId" = some (.object buckets) :=
      present_eq_some.mpr ⟨hcompared.mapped, rfl⟩
    have hbuckets := h envelope hresult hcompared.members hcompared.ordinary hcompared.account
      hcompared.credits (by rw [hpresent]; rfl) rateLimits (by rw [hcompared.main]; rfl)
    rw [hpresent] at hbuckets
    exact ends_readBuckets.mp hbuckets mirror hcompared.mirrored hcompared.valid
  · intro h envelope hresult hmembers hordinary haccount hcredits _ rateLimits hrateLimits
    obtain ⟨main, hmain, hobject⟩ := Option.bind_eq_some_iff.mp hrateLimits
    obtain rfl := asMapping_eq_some.mp hobject
    cases hbuckets : (envelope.present "rateLimitsByLimitId").bind asMapping with
    | none => exact trivial
    | some buckets =>
      obtain ⟨value, hpresent, hvalue⟩ := Option.bind_eq_some_iff.mp hbuckets
      obtain rfl := asMapping_eq_some.mp hvalue
      refine ends_readBuckets.mpr fun mirror hmirror hvalid => ?_
      exact h envelope buckets mirror rateLimits hresult ⟨hmembers, hordinary, haccount, hcredits,
        hmain, (present_eq_some.mp hpresent).1, hmirror, hvalid⟩

/-- A valid key is the text of its scope. -/
theorem toText_bucketScope {key : Text} {scope : SafeId} (h : bucketScope key = some scope) :
    scope.toText = key := by
  unfold bucketScope at h
  obtain ⟨found, hfound, h⟩ := Option.bind_eq_some_iff.mp h
  obtain ⟨-, h⟩ := guard_bind_eq_some.mp h
  obtain rfl := Option.some.inj h
  exact toText_of_safeId? hfound

/-- What a reading says of an additional bucket. -/
def ReadsBucket (buckets : Record) (key : Text) (state : SnapshotState) : Prop :=
  ∃ scope : SafeId, scope.toText = key ∧
    quotaSnapshotState (membersOf (valueOf buckets key)) true scope (some scope) = some state

theorem readBucket_spec {key : Text} {found : Option SnapshotState}
    (h : readBucket stack rateLimits buckets key = .ok found) :
    (key = limitId.toText ∧ found = none) ∨
      (key ≠ limitId.toText ∧ ∃ state, found = some state ∧ ReadsBucket buckets key state) := by
  unfold readBucket at h
  obtain ⟨bucket, hbucket, h⟩ := bind_eq_ok.mp h
  have hmembers : membersOf (valueOf buckets key) = bucket := by
    show (asMapping (valueOf buckets key)).getD [] = bucket
    rw [orDrift_eq_ok.mp hbucket]
    rfl
  split_ifs at h with hkey
  · obtain ⟨_, _, h⟩ := bind_eq_ok.mp h
    exact .inl ⟨hkey, (Except.ok.inj h).symm⟩
  · obtain ⟨scope, hscope, h⟩ := bind_eq_ok.mp h
    obtain ⟨state, hstate, h⟩ := bind_eq_ok.mp h
    refine .inr ⟨hkey, state, (Except.ok.inj h).symm, scope,
      toText_bucketScope (orDrift_eq_ok.mp hscope), ?_⟩
    rw [hmembers]
    exact orDrift_eq_ok.mp hstate

/-- The loop over the keys, the mirror's left out. -/
theorem readKeys_spec {keys : List Text} {found : List (Option SnapshotState)}
    (h : List.Forall₂ (fun key state => readBucket stack rateLimits buckets key = .ok state)
      keys found) :
    List.Forall₂ (ReadsBucket buckets) (keys.filter (· ≠ limitId.toText)) found.reduceOption := by
  induction h with
  | nil => exact .nil
  | cons hkey _ ih =>
    rcases readBucket_spec hkey with ⟨rfl, rfl⟩ | ⟨hne, state, rfl, hreads⟩
    · rw [List.filter_cons_of_neg (by simp), List.reduceOption_cons_of_none]
      exact ih
    · rw [List.filter_cons_of_pos (by simpa using hne), List.reduceOption_cons_of_some]
      exact .cons hreads ih

/-- **The additional buckets are read in the order of their keys.** -/
theorem readBuckets_spec {states : List SnapshotState}
    (h : readBuckets stack rateLimits buckets = .ok states) :
    List.Forall₂ (ReadsBucket buckets)
      ((sortBy id (buckets.map Prod.fst)).filter (· ≠ limitId.toText)) states := by
  unfold readBuckets at h
  obtain ⟨_, _, h⟩ := bind_eq_ok.mp h
  obtain ⟨_, _, h⟩ := bind_eq_ok.mp h
  obtain ⟨_, _, h⟩ := bind_eq_ok.mp h
  obtain ⟨found, hfound, h⟩ := bind_eq_ok.mp h
  obtain rfl := Except.ok.inj h
  exact readKeys_spec (mapM_eq_ok.mp hfound)

/-- What a reading says of an envelope. -/
structure ReadsEnvelope (envelope : Record) (reading : QuotaReading) : Prop where
  main : mainState (rateLimitsOf envelope) = some reading.main
  buckets : List.Forall₂ (ReadsBucket (bucketsOf envelope)) (bucketKeys envelope) reading.buckets
  upsell : reading.rateLimitUpsellPresent = (envelope.present "rateLimitUpsell").isSome
  unpermitted : reading.unpermitted = true ↔ Unpermitted envelope

/-- **What a valid result says.** -/
theorem readQuota_spec {reading : QuotaReading} (h : readQuota stack result = .ok reading) :
    ∃ envelope, result = .object envelope ∧ ReadsEnvelope envelope reading := by
  unfold readQuota at h
  obtain ⟨envelope, henvelope, h⟩ := bind_eq_ok.mp h
  obtain ⟨-, h⟩ := check_bind_eq_ok.mp h
  obtain ⟨-, h⟩ := check_bind_eq_ok.mp h
  obtain ⟨-, h⟩ := check_bind_eq_ok.mp h
  obtain ⟨-, h⟩ := check_bind_eq_ok.mp h
  obtain ⟨-, h⟩ := check_bind_eq_ok.mp h
  obtain ⟨rateLimits, hrateLimits, h⟩ := bind_eq_ok.mp h
  obtain ⟨buckets, hbuckets, h⟩ := bind_eq_ok.mp h
  obtain ⟨main, hmain, h⟩ := bind_eq_ok.mp h
  obtain rfl := Except.ok.inj h
  refine ⟨envelope, asMapping_eq_some.mp (orDrift_eq_ok.mp henvelope), ?_, ?_, rfl, ?_⟩
  · unfold rateLimitsOf membersOf
    rw [orDrift_eq_ok.mp hrateLimits]
    exact orDrift_eq_ok.mp hmain
  · unfold bucketKeys bucketsOf membersOf
    cases hmap : (envelope.present "rateLimitsByLimitId").bind asMapping with
    | none =>
      rw [hmap] at hbuckets
      obtain rfl := Except.ok.inj hbuckets
      exact .nil
    | some members =>
      rw [hmap] at hbuckets
      exact readBuckets_spec hbuckets
  · unfold QuotaReading.unpermitted Unpermitted Record.present
    dsimp only
    cases hget : envelope.get? "ordinaryUsageAllowed" with
    | none => simp
    | some allowed =>
      simp only [Option.some.injEq, exists_eq_left']
      cases allowed with
      | bool b => cases b <;> simp [Option.filter, Json.isNull]
      | _ => simp [Option.filter, Json.isNull]

end Validation

/-! ### The report -/

section Report

variable {envelope : Record} {reading : QuotaReading} {retrievedAt : Timestamp}

/-- The windows of a reading report the slots of its envelope. -/
theorem ReadsEnvelope.reports (h : ReadsEnvelope envelope reading) :
    List.Forall₂ ReportsSlot (presentSlots envelope) (reading.facts.map (·.window)) := by
  unfold presentSlots QuotaReading.facts
  rw [List.map_append, List.map_flatMap]
  refine List.rel_append (quotaSnapshotState_spec h.main).1 ?_
  have hbuckets := h.buckets
  unfold bucketOf
  generalize bucketKeys envelope = keys at hbuckets
  generalize reading.buckets = states at hbuckets
  induction hbuckets with
  | nil => exact .nil
  | cons hreads _ ih =>
    obtain ⟨scope, rfl, hstate⟩ := hreads
    rw [List.flatMap_cons, List.flatMap_cons]
    exact List.rel_append (quotaSnapshotState_spec hstate).1 ih

/-- A bucket is blocked exactly if one of the keys says so. -/
theorem blocked_buckets {buckets : Record} {keys : List Text} {states : List SnapshotState}
    (h : List.Forall₂ (ReadsBucket buckets) keys states) :
    states.any (·.blocked) = true ↔ ∃ key ∈ keys,
      SnapshotBlocked (membersOf (valueOf buckets key)) ∨
        FullWindow (membersOf (valueOf buckets key)) := by
  induction h with
  | nil => simp
  | cons hreads _ ih =>
    obtain ⟨scope, rfl, hstate⟩ := hreads
    rw [List.any_cons, Bool.or_eq_true, ih, (quotaSnapshotState_spec hstate).2]
    simp

/-- A reading is blocked exactly if its envelope is. -/
theorem ReadsEnvelope.blocked_iff (h : ReadsEnvelope envelope reading) :
    reading.blocked = true ↔ EnvelopeBlocked envelope := by
  have hmain := (quotaSnapshotState_spec h.main).2
  have hbuckets : reading.buckets.any (·.blocked) = true ↔ ∃ key ∈ bucketKeys envelope,
      SnapshotBlocked (bucketOf envelope key) ∨ FullWindow (bucketOf envelope key) :=
    blocked_buckets h.buckets
  unfold QuotaReading.blocked EnvelopeBlocked
  rw [Bool.or_eq_true, Bool.or_eq_true, Bool.or_eq_true, h.upsell, hmain, hbuckets, h.unpermitted]
  simp only [Bool.false_eq_true, false_and, or_false]
  constructor
  · rintro (((hupsell | hmain) | hbucket) | hunpermitted)
    · exact .inl hupsell
    · exact .inr (.inr (.inl hmain))
    · exact .inr (.inr (.inr hbucket))
    · exact .inr (.inl hunpermitted)
  · rintro (hupsell | hunpermitted | hmain | hbucket)
    · exact .inl (.inl (.inl hupsell))
    · exact .inr hunpermitted
    · exact .inl (.inl (.inr hmain))
    · exact .inl (.inr hbucket)

/-- A window without its percentages reports the slot as well. -/
theorem ReportsSlot.withoutPercentages {slot : Text × Json} {window : CapacityWindow}
    (h : ReportsSlot slot window) : ReportsSlot slot (withoutPercentages window).1 :=
  ⟨h.scope, nofun⟩

/-- **The report of a reading is faithful to its envelope.** -/
theorem ReadsEnvelope.faithful (h : ReadsEnvelope envelope reading) :
    QuotaFaithful (.object envelope) (reading.report retrievedAt) := by
  have hreports := h.reports
  unfold QuotaReading.report
  dsimp only
  split_ifs with hempty hblocked hmain
  · rw [hempty] at hreports
    exact ⟨fun _ => ⟨envelope, rfl, hreports⟩, fun _ _ _ _ => ⟨rfl, nofun⟩⟩
  · refine ⟨fun _ => ⟨envelope, rfl, ?_⟩, fun _ _ _ _ => ⟨rfl, fun window hwindow => ?_⟩⟩
    · show List.Forall₂ ReportsSlot _ (List.map _ _)
      rw [List.forall₂_map_right_iff]
      exact hreports.imp fun _ _ hslot => hslot.withoutPercentages
    · obtain ⟨_, _, rfl⟩ := List.mem_map.mp hwindow
      rfl
  · refine ⟨fun _ => ⟨envelope, rfl, hreports⟩, fun _ other hother hblock => ?_⟩
    cases hother
    exact absurd (h.blocked_iff.mpr hblock) hblocked
  · refine ⟨fun _ => ⟨envelope, rfl, hreports⟩, fun _ other hother hblock => ?_⟩
    cases hother
    exact absurd (h.blocked_iff.mpr hblock) hblocked

theorem QuotaReading.retrievedAt_report : (reading.report retrievedAt).retrievedAt = retrievedAt := by
  unfold QuotaReading.report
  dsimp only
  split_ifs <;> rfl

end Report

/-- The parser returns a faithful snapshot of an instant. -/
def ParsesFaithfully (stack : ℕ) (result : Json) (retrievedAt : Timestamp) : Prop :=
  ∃ snapshot, parseCodexRateLimitsResult stack result retrievedAt = .ok snapshot ∧
    snapshot.retrievedAt = retrievedAt ∧ QuotaFaithful result snapshot

/-- The parser returns, faithfully, where its validation raises nothing. -/
theorem parsesFaithfully_iff {stack : ℕ} {result : Json} {retrievedAt : Timestamp} :
    ParsesFaithfully stack result retrievedAt ↔
      Ends (· = .drift) (fun _ => True) (readQuota stack result) := by
  unfold ParsesFaithfully parseCodexRateLimitsResult
  cases hread : readQuota stack result with
  | ok reading =>
    obtain ⟨envelope, rfl, hreads⟩ := readQuota_spec hread
    exact iff_of_true ⟨_, rfl, QuotaReading.retrievedAt_report, hreads.faithful⟩ trivial
  | error stop =>
    cases stop with
    | drift =>
      exact iff_of_true ⟨_, rfl, rfl, fun hne => absurd rfl hne, fun hne => absurd rfl hne⟩ rfl
    | recursionError => simp

/-- **Quota parsing is faithful and fail-closed, and raises exactly if the comparison of the mirror
    does.** -/
theorem codex_quota_faithful_iff (stack : ℕ) (result : Json) (retrievedAt : Timestamp) :
    ParsesFaithfully stack result retrievedAt ↔ ComparesInStack stack result :=
  parsesFaithfully_iff.trans ends_readQuota

/-! ### A mirror that is nested too deeply -/

/-- A list in a list, and so on. -/
def nestedList : ℕ → Json
  | 0 => .list []
  | depth + 1 => .list [nestedList depth]

/-- A snapshot whose one window resets at a value. -/
def resetSnapshot (resetsAt : Json) : Record :=
  [member "limitId" (.string (Text.ofString "codex")),
    member "primary" (.object [member "usedPercent" (.int 40), member "resetsAt" resetsAt])]

/-- The result with the snapshot and its mirror. -/
def resetEnvelope (resetsAt : Json) : Record :=
  [member "rateLimits" (.object (resetSnapshot resetsAt)),
    member "rateLimitsByLimitId" (.object [member "codex" (.object (resetSnapshot resetsAt))])]

theorem strictEqual_nestedList {stack depth : ℕ} (h : stack ≤ depth) :
    strictEqual stack (nestedList depth) (nestedList depth) = .error .raised := by
  induction stack generalizing depth with
  | zero => rfl
  | succ stack ih =>
    obtain ⟨depth, rfl⟩ := Nat.exists_eq_succ_of_ne_zero (Nat.ne_of_gt (Nat.lt_of_lt_of_le
      (Nat.succ_pos stack) h))
    have hinner : strictEqual stack (nestedList depth) (nestedList depth) = .error .raised :=
      ih (by omega)
    simp [nestedList, strictEqual, hinner]

theorem resetEnvelope_compared (items : List Json) :
    Compared (resetEnvelope (.list items))
      [member "codex" (.object (resetSnapshot (.list items)))] (resetSnapshot (.list items))
      (resetSnapshot (.list items)) where
  members := rfl
  ordinary := rfl
  account := rfl
  credits := rfl
  main := rfl
  mapped := rfl
  mirrored := rfl
  valid := rfl

/-- The comparison of the snapshots goes on into the value. -/
theorem strictEqual_resetSnapshot {stack : ℕ} {items : List Json}
    (h : strictEqual stack (.list items) (.list items) = .error .raised) :
    strictEqual (stack + 2) (.object (resetSnapshot (.list items)))
      (.object (resetSnapshot (.list items))) = .error .raised := by
  have hstack : 0 < stack ∨ stack = 0 := Nat.eq_zero_or_pos stack |>.symm
  have hname : strictEqual (stack + 1) (.string (Text.ofString "codex"))
      (.string (Text.ofString "codex")) = .ok true := by
    simp [strictEqual]
  have hentry : strictEqual (stack + 1)
      (.object [member "usedPercent" (.int 40), member "resetsAt" (.list items)])
      (.object [member "usedPercent" (.int 40), member "resetsAt" (.list items)]) =
        .error .raised := by
    rcases hstack with hpos | rfl
    · obtain ⟨stack, rfl⟩ := Nat.exists_eq_succ_of_ne_zero hpos.ne'
      show (if _ then _ else _) = _
      rw [if_pos ⟨List.Subset.refl _, List.Subset.refl _⟩, List.allM_cons]
      show (do if (← strictEqual (stack + 1) (.int 40) (.int 40)) then _ else _) = _
      rw [show strictEqual (stack + 1) (.int 40) (.int 40) = .ok true from rfl, ok_bind, if_pos rfl,
        List.allM_cons]
      show (do if (← strictEqual (stack + 1) (.list items) (.list items)) then _ else _) = _
      rw [h]
      rfl
    · rfl
  show (if _ then _ else _) = _
  rw [if_pos ⟨List.Subset.refl _, List.Subset.refl _⟩]
  show List.allM _ [_, _] = _
  rw [List.allM_cons]
  show (do if (← strictEqual (stack + 1) (.string (Text.ofString "codex"))
      (.string (Text.ofString "codex"))) then _ else _) = _
  rw [hname, ok_bind, if_pos rfl, List.allM_cons]
  show (do if (← strictEqual (stack + 1)
      (.object [member "usedPercent" (.int 40), member "resetsAt" (.list items)])
      (.object [member "usedPercent" (.int 40), member "resetsAt" (.list items)])) then _ else _) = _
  rw [hentry]
  rfl

/-- A window may reset at any value that is no integer; where it is a list of a thousand levels, the
    comparison of the mirror raises on a stack of a thousand calls. -/
theorem nested_reset_raises : ¬ ∀ (result : Json) (retrievedAt : Timestamp),
    ParsesFaithfully 1000 result retrievedAt := by
  intro h
  obtain ⟨items, hitems⟩ : ∃ items, nestedList 1000 = .list items := ⟨_, rfl⟩
  have hreturns := ends_readQuota.mp (parsesFaithfully_iff.mp
    (h (.object (resetEnvelope (.list items))) 0)) _ _ _ _ rfl (resetEnvelope_compared items)
  have hdeep := strictEqual_nestedList (show 998 ≤ 1000 by omega)
  rw [hitems] at hdeep
  obtain ⟨same, hsame⟩ := hreturns
  rw [strictEqual_resetSnapshot hdeep] at hsame
  cases hsame

end ScarcityRouter.CodexQuota
