import Mathlib.Algebra.Order.Ring.Unbundled.Rat
import ScarcityRouter.MiConsumer

namespace ScarcityRouter

open ScarcityRouter.Lib

/-!
# The evidence under an admission

`explained_catalog` and `MIAdmission.prepare` of `mi_consumer.py`, on the records that the evidence
package gives for a cut at an instant.  Those are arbitrary: a claim or a notice may refer to an
observation that is not among them, and looking that up raises `KeyError`.

* `EvidenceView` — what the package gives.
* `withdrawals`, `ReviewedBinding.verdict` — the chain of conditions under which a claim is
  believed.
* `EvidenceAdmission.prepare` — the two passes over the catalog.
* `Supports` — what it takes to admit a limit, without the order in which the source asks.
* `EvidenceAdmission.prepare_refines` — on a verdict for each binding, the two passes are
  `MIAdmission.prepare`.
* `evidence_only_narrows` — **admission only narrows.**
-/

/-! ### What the package gives -/

/-- `Model`: the subject of a claim, whose other members count for equality alone. -/
structure EvidenceSubject where
  providerId : String
  providerModelId : String
  channel : Option String
  configuration : Option (List (String × String))
  otherMembers : String
  deriving DecidableEq

/-- `NativeLimit`: an amount is a finite decimal. -/
structure NativeLimit where
  dimension : String
  meaning : String
  basis : Option String
  amount : Option ℚ
  unit : Option String
  assertion : String
  deriving DecidableEq

/-- `ModelClaim`: the payload is none where it is no `NativeLimit`. -/
structure EvidenceClaim where
  claimId : String
  subject : EvidenceSubject
  observationId : String
  effectiveFrom : Instant
  payload : Option NativeLimit
  deriving DecidableEq

/-- An observation, with what `stale` says of it at the instant. -/
structure EvidenceObservation where
  observationId : String
  distribution : String
  retrievedAt : Instant
  observedAt : Option Instant
  publishedAt : Option Instant
  freshUntil : Option Instant
  stale : Bool
  deriving DecidableEq

/-- `SourceNotice`. -/
structure EvidenceNotice where
  noticeId : String
  observationId : String
  targets : List String
  effectiveFrom : Instant
  action : String
  reportedCritical : Option Bool
  revises : Option String
  deriving DecidableEq

/-- `Applicability`. -/
structure EvidenceScope where
  channel : Option String
  configuration : Option (List (String × String))
  deriving DecidableEq

/-- A cut at an instant: the retained records, and the models and conflicts of `effective_at`. -/
structure EvidenceView where
  producedAt : Instant
  applicability : EvidenceScope
  claims : List EvidenceClaim
  observations : List EvidenceObservation
  notices : List EvidenceNotice
  models : List EvidenceClaim
  conflicts : List (List String)

/-- The evidence package. -/
abbrev EvidencePackage := FrozenCut → Instant → EvidenceView

/-! ### Observations and notices -/

/-- `observed.get(...)`: of two observations with one id, the dictionary holds the later one. -/
def EvidenceView.observed? (view : EvidenceView) (observationId : String) :
    Option EvidenceObservation :=
  view.observations.reverse.find? (·.observationId = observationId)

/-- `observed[...]`. -/
def EvidenceView.observed (view : EvidenceView) (observationId : String) :
    Except ContractError EvidenceObservation :=
  match view.observed? observationId with
  | some observation => .ok observation
  | none => .error (.other observationId)

/-- An origin that has not come about at the instant. -/
def EvidenceObservation.future (origin : EvidenceObservation) (at_ : Instant) : Bool :=
  at_ < origin.retrievedAt || origin.observedAt.any (at_ < ·) || origin.publishedAt.any (at_ < ·)

/-- A public origin that is fresh at the instant. -/
def EvidenceObservation.publicFresh (origin : EvidenceObservation) (at_ : Instant) : Bool :=
  origin.distribution = "public" && !origin.future at_ && origin.freshUntil.isSome && !origin.stale

/-- The condition of `admissible_notices`: a revocation needs no fresh origin. -/
def EvidenceView.noticeAdmissible (view : EvidenceView) (at_ : Instant) (notice : EvidenceNotice) :
    Except ContractError Bool :=
  if ¬notice.effectiveFrom ≤ at_ then .ok false
  else if notice.action = "revocation" then .ok true
  else (view.observed notice.observationId).map (·.publicFresh at_)

/-- The targets of the revocations in force, and of the critical ones among them. -/
structure Withdrawals where
  withdrawn : List String
  critical : List String

/-- The notices in force: an admissible notice replaces the one that it revises. -/
def EvidenceView.withdrawals (view : EvidenceView) (at_ : Instant) :
    Except ContractError Withdrawals := do
  let judged ← view.notices.mapM fun notice => do
    let admissible ← view.noticeAdmissible at_ notice
    return (notice, admissible)
  let admissible := (judged.filter Prod.snd).map Prod.fst
  let replaced := admissible.filterMap (·.revises)
  let notices := admissible.filter fun notice =>
    notice.action = "revocation" && !replaced.contains notice.noticeId
  return {
    withdrawn := notices.flatMap (·.targets)
    critical := (notices.filter (·.reportedCritical = some true)).flatMap (·.targets) }

/-! ### Bindings -/

/-- `ModelBinding`, with all its members. -/
structure ReviewedBinding where
  identity : ModelIdentity
  subject : EvidenceSubject
  dimension : String
  meaning : String
  basis : String
  deriving DecidableEq

/-- A binding, with the members that a request looks at. -/
def ReviewedBinding.toModelBinding (binding : ReviewedBinding) : ModelBinding :=
  ⟨binding.identity, binding.subject.channel, ""⟩

/-- `dict(configuration).get(key)`: the last value of a key. -/
def configured (configuration : List (String × String)) (key : String) : Option String :=
  (configuration.reverse.find? (·.1 = key)).map Prod.snd

/-- `ModelBinding.matches`. -/
def ReviewedBinding.matchesEntry (binding : ReviewedBinding) (entry : ModelCatalogEntry)
    (scope : EvidenceScope) : Bool :=
  entry.identity = binding.identity &&
    entry.identity.provider.text = binding.subject.providerId &&
    entry.identity.model.text = binding.subject.providerModelId &&
    entry.reasoningEffort.any (fun effort =>
      binding.subject.configuration.bind (configured · "reasoning_effort") = some effort.text.text) &&
    binding.subject.channel.isSome && binding.subject.channel = scope.channel &&
    binding.subject.configuration = scope.configuration

/-- `current_native`. -/
def ReviewedBinding.currentNative (binding : ReviewedBinding) (view : EvidenceView) :
    List EvidenceClaim :=
  view.models.filter fun claim => claim.subject = binding.subject &&
    claim.payload.any (·.dimension = binding.dimension)

/-- The current claims of the meaning and basis of a binding. -/
def ReviewedBinding.currentClaims (binding : ReviewedBinding) (view : EvidenceView) :
    List EvidenceClaim :=
  (binding.currentNative view).filter fun claim => claim.payload.any fun value =>
    value.meaning = binding.meaning && value.basis = some binding.basis

/-- `f"statement:{item.claim_id}"`. -/
def EvidenceClaim.statement (claim : EvidenceClaim) : String := "statement:" ++ claim.claimId

/-! ### Verdicts -/

/-- A label that admits nothing. -/
def labelled (label : String) : EvidenceVerdict := ⟨label, none⟩

/-- The meaning of a limit that is admitted: `"input-allowance"`, or else that of an output. -/
def ReviewedBinding.limitMeaning (binding : ReviewedBinding) : LimitMeaning :=
  if binding.meaning = "input-allowance" then .inputAllowance else .outputAllowance

/-- A value that says nothing. -/
def NativeLimit.unsaid (value : NativeLimit) : Bool :=
  value.amount.isNone || value.unit.isNone || value.assertion = "unknown"

/-- A whole number of tokens up to a billion, as an input or output allowance. -/
def NativeLimit.wholeTokens (value : NativeLimit) : Bool :=
  value.unit = some "tokens" &&
    (value.meaning = "input-allowance" || value.meaning = "output-allowance") &&
    value.assertion ≠ "unknown" &&
    value.amount.any fun amount => 0 < amount && amount ≤ 1000000000 && amount.den = 1

/-- The end of the chain: what the values of the claims admit. -/
def ReviewedBinding.valuesVerdict (binding : ReviewedBinding) (values : List NativeLimit) :
    EvidenceVerdict :=
  if values.any (·.unsaid) then labelled "unknown"
  else if values.all (·.wholeTokens) then
    match values.head?.bind (·.amount) with
    | some amount =>
      ⟨"public " ++ (binding.meaning.splitOn "-").headD "" ++ " " ++ toString amount.num ++ " tokens",
        (positive? amount.num.toNat).map (binding.limitMeaning, ·)⟩
    | none => labelled "unsupported"
  else labelled "unsupported"

/-- The part of the chain on the origins of the claims. -/
def ReviewedBinding.originsVerdict (binding : ReviewedBinding) (at_ : Instant)
    (claims : List EvidenceClaim) (origins : List EvidenceObservation) : EvidenceVerdict :=
  if origins.any (·.future at_) then labelled "future"
  else if origins.any (·.stale) then labelled "stale"
  else if origins.any (·.freshUntil.isNone) then labelled "freshness unknown"
  else if origins.any (·.distribution ≠ "public") then labelled "rights unknown"
  else binding.valuesVerdict (claims.filterMap (·.payload))

/-- The label where there is no current claim. -/
def ReviewedBinding.absentLabel (binding : ReviewedBinding) (view : EvidenceView) (at_ : Instant) :
    String :=
  if binding.currentNative view ≠ [] then
    if (binding.currentNative view).any fun claim => claim.payload.any (·.basis.isNone) then "unknown"
    else "unsupported"
  else if view.claims.any fun claim => claim.subject = binding.subject &&
      claim.payload.any (·.dimension = binding.dimension) && at_ < claim.effectiveFrom then "future"
  else "unknown"

/-- The chain of conditions for an entry that its binding matches. -/
def ReviewedBinding.claimsVerdict (binding : ReviewedBinding) (view : EvidenceView)
    (withdrawals : Withdrawals) (at_ : Instant) : Except ContractError EvidenceVerdict :=
  let claims := binding.currentClaims view
  if at_ < view.producedAt then .ok (labelled "future")
  else if claims.any (withdrawals.critical.contains ·.statement) then
    .ok (labelled "critical withdrawal")
  else if claims.any (withdrawals.withdrawn.contains ·.statement) then .ok (labelled "withdrawn")
  else if claims.any (view.conflicts.flatten.contains ·.claimId) then .ok (labelled "conflict")
  else if claims = [] then .ok (labelled (binding.absentLabel view at_))
  else (claims.mapM fun claim => view.observed claim.observationId).map
    (binding.originsVerdict at_ claims)

/-- The verdict on a bound entry. -/
def ReviewedBinding.verdict (binding : ReviewedBinding) (view : EvidenceView)
    (withdrawals : Withdrawals) (at_ : Instant) (entry : ModelCatalogEntry) :
    Except ContractError EvidenceVerdict :=
  if binding.matchesEntry entry view.applicability then
    binding.claimsVerdict view withdrawals at_
  else .ok (labelled "unsupported")

/-! ### The two passes -/

/-- `MIAdmission`, with the records of its bindings. -/
structure EvidenceAdmission where
  cut : Option FrozenCut
  bindings : List ReviewedBinding
  expected : String
  evaluatedAt : Instant

namespace EvidenceAdmission

variable (mi : EvidenceAdmission)

/-- `next((item for item in bindings if item.identity == entry.identity), None)`. -/
def bindingOf (entry : ModelCatalogEntry) : Option ReviewedBinding :=
  mi.bindings.find? (·.identity = entry.identity)

/-- One entry of `explained_catalog`, with the limit that is admitted for it. -/
def explain (view : EvidenceView) (withdrawals : Withdrawals) (at_ : Instant)
    (entry : ModelCatalogEntry) :
    Except ContractError (ModelCatalogEntry × Option (LimitMeaning × ℕ+)) :=
  match mi.bindingOf entry with
  | none => .ok (entry, none)
  | some binding => (binding.verdict view withdrawals at_ entry).map fun verdict =>
    (annotateEntry verdict.label entry, verdict.admitted)

/-- `bound`. -/
def bound : Finset ModelIdentity := (mi.bindings.map (·.identity)).toFinset

/-- One entry of the second pass. -/
def intersect (trusted : Bool) (explained : ModelCatalogEntry × Option (LimitMeaning × ℕ+)) :
    ModelCatalogEntry :=
  if trusted then
    match explained.2 with
    | none => explained.1
    | some (meaning, amount) =>
      match storedLimit meaning explained.1 with
      | none => annotateEntry "bootstrap limit unknown" explained.1
      | some previous => tightenLimit meaning amount previous explained.1
  else if explained.1.identity ∈ mi.bound then annotateEntry "untrusted cut" explained.1
  else explained.1

/-- An admitted limit that has no bootstrap limit to intersect. -/
def lacksBootstrap (explained : ModelCatalogEntry × Option (LimitMeaning × ℕ+)) : Bool :=
  explained.2.any fun (meaning, _) => (storedLimit meaning explained.1).isNone

/-- `blocked`. -/
def blocked (trusted : Bool) (explained : List (ModelCatalogEntry × Option (LimitMeaning × ℕ+))) :
    Finset ModelIdentity :=
  if trusted then
    mi.bound.filter (fun identity => ∀ e ∈ explained, e.1.identity = identity → e.2 = none) ∪
      ((explained.filter lacksBootstrap).map (·.1.identity)).toFinset
  else mi.bound

/-- Explaining an entry keeps its identity. -/
theorem explain_identity {view : EvidenceView} {withdrawals : Withdrawals} {at_ : Instant}
    {entry : ModelCatalogEntry} {explained : ModelCatalogEntry × Option (LimitMeaning × ℕ+)}
    (h : mi.explain view withdrawals at_ entry = .ok explained) :
    explained.1.identity = entry.identity := by
  unfold explain at h
  split at h
  · rw [← Except.ok.inj h]
  · rename_i binding _
    cases hverdict : binding.verdict view withdrawals at_ entry with
    | error e =>
      rw [hverdict] at h
      cases h
    | ok verdict =>
      rw [hverdict] at h
      rw [← Except.ok.inj h]
      rfl

/-- So does the second pass. -/
theorem intersect_identity (trusted : Bool)
    (explained : ModelCatalogEntry × Option (LimitMeaning × ℕ+)) :
    (mi.intersect trusted explained).identity = explained.1.identity := by
  unfold intersect
  split_ifs
  · split
    · rfl
    · split <;> simp
  · rfl
  · rfl

/-- `MIAdmission.prepare`. -/
def prepare (package : EvidencePackage) (catalog : ModelCatalog) (at_ : Instant) :
    Except ContractError (ModelCatalog × Finset ModelIdentity) := do
  check (at_ = mi.evaluatedAt) (.other "mi_evaluation_instant_mismatch")
  match mi.cut with
  | none => return (catalog, ∅)
  | some cut =>
    let view := package cut at_
    let withdrawals ← view.withdrawals at_
    match h : catalog.entries.mapM (mi.explain view withdrawals at_) with
    | .error e => .error e
    | .ok explained =>
      let trusted := cut.reference = mi.expected
      return ({ catalog with
        entries := explained.map (mi.intersect trusted)
        unique := by
          have hidentity : (explained.map (mi.intersect trusted)).map (·.identity) =
              catalog.entries.map (·.identity) := by
            rw [List.map_map, ← map_eq_of_mapM h fun _ _ he => mi.explain_identity he]
            exact List.map_congr_left fun e _ => mi.intersect_identity _ e
          rw [hidentity]
          exact catalog.unique },
        mi.blocked trusted explained)

end EvidenceAdmission

/-! ### What it takes -/

/-- A public origin, come about and fresh at the instant. -/
structure PublicFresh (origin : EvidenceObservation) (at_ : Instant) : Prop where
  distribution : origin.distribution = "public"
  retrieved : origin.retrievedAt ≤ at_
  observed : ∀ t ∈ origin.observedAt, t ≤ at_
  published : ∀ t ∈ origin.publishedAt, t ≤ at_
  freshUntil : origin.freshUntil.isSome = true
  fresh : origin.stale = false

/-- A notice that counts: a revocation, or another notice with a public and fresh origin. -/
structure AdmissibleNotice (view : EvidenceView) (at_ : Instant) (notice : EvidenceNotice) :
    Prop where
  effective : notice.effectiveFrom ≤ at_
  attested : notice.action = "revocation" ∨ ∃ origin,
    view.observed? notice.observationId = some origin ∧ PublicFresh origin at_

/-- A claim is withdrawn by an effective revocation that no admissible notice replaces. -/
def Withdrawn (view : EvidenceView) (at_ : Instant) (claim : EvidenceClaim) : Prop :=
  ∃ notice ∈ view.notices, notice.effectiveFrom ≤ at_ ∧ notice.action = "revocation" ∧
    claim.statement ∈ notice.targets ∧
      ∀ other ∈ view.notices, AdmissibleNotice view at_ other → other.revises ≠ some notice.noticeId

/-- **A binding supports a limit**: it matches the entry exactly, and its claims are current,
    public, fresh, unconflicted and not withdrawn, and each a whole number of tokens. -/
structure Supports (view : EvidenceView) (at_ : Instant) (binding : ReviewedBinding)
    (entry : ModelCatalogEntry) (limit : LimitMeaning × ℕ+) : Prop where
  matched : binding.matchesEntry entry view.applicability = true
  produced : view.producedAt ≤ at_
  current : binding.currentClaims view ≠ []
  origins : ∀ claim ∈ binding.currentClaims view, ∃ origin,
    view.observed? claim.observationId = some origin ∧ PublicFresh origin at_
  unconflicted : ∀ claim ∈ binding.currentClaims view, ∀ conflict ∈ view.conflicts,
    claim.claimId ∉ conflict
  inForce : ∀ claim ∈ binding.currentClaims view, ¬Withdrawn view at_ claim
  whole : ∀ claim ∈ binding.currentClaims view, ∃ value ∈ claim.payload, value.wholeTokens = true
  amount : ∃ claim ∈ (binding.currentClaims view).head?, ∃ value ∈ claim.payload,
    value.amount = some ((limit.2 : ℕ) : ℚ)
  meaning : limit.1 = binding.limitMeaning

section Chain

variable {view : EvidenceView} {at_ : Instant} {withdrawals : Withdrawals}
  {binding : ReviewedBinding} {entry : ModelCatalogEntry} {limit : LimitMeaning × ℕ+}
  {verdict : EvidenceVerdict} {claims : List EvidenceClaim} {values : List NativeLimit}

theorem observed_eq_ok {observationId : String} {origin : EvidenceObservation} :
    view.observed observationId = .ok origin ↔ view.observed? observationId = some origin := by
  unfold EvidenceView.observed
  cases view.observed? observationId <;> simp

theorem future_eq_false {origin : EvidenceObservation} : origin.future at_ = false ↔
    origin.retrievedAt ≤ at_ ∧ (∀ t ∈ origin.observedAt, t ≤ at_) ∧
      ∀ t ∈ origin.publishedAt, t ≤ at_ := by
  unfold EvidenceObservation.future
  cases origin.observedAt <;> cases origin.publishedAt <;> simp [and_assoc]

theorem publicFresh_eq_true {origin : EvidenceObservation} :
    origin.publicFresh at_ = true ↔ PublicFresh origin at_ := by
  unfold EvidenceObservation.publicFresh
  simp only [Bool.and_eq_true, decide_eq_true_eq, Bool.not_eq_true', future_eq_false]
  constructor
  · rintro ⟨⟨⟨hpublic, hretrieved, hobserved, hpublished⟩, hknown⟩, hfresh⟩
    exact ⟨hpublic, hretrieved, hobserved, hpublished, hknown, hfresh⟩
  · rintro ⟨hpublic, hretrieved, hobserved, hpublished, hknown, hfresh⟩
    exact ⟨⟨⟨hpublic, hretrieved, hobserved, hpublished⟩, hknown⟩, hfresh⟩

theorem noticeAdmissible_eq_true {notice : EvidenceNotice} :
    view.noticeAdmissible at_ notice = .ok true ↔ AdmissibleNotice view at_ notice := by
  unfold EvidenceView.noticeAdmissible
  split_ifs with heffective hrevocation
  · exact iff_of_true rfl ⟨heffective, .inl hrevocation⟩
  · constructor
    · intro h
      cases horigin : view.observed notice.observationId with
      | error e =>
        rw [horigin] at h
        cases h
      | ok origin =>
        rw [horigin] at h
        exact ⟨heffective, .inr ⟨origin, observed_eq_ok.mp horigin,
          publicFresh_eq_true.mp (Except.ok.inj h)⟩⟩
    · rintro ⟨-, hattested⟩
      obtain ⟨origin, horigin, hfresh⟩ := hattested.resolve_left hrevocation
      rw [observed_eq_ok.mpr horigin]
      exact congrArg Except.ok (publicFresh_eq_true.mpr hfresh)
  · exact iff_of_false nofun fun h => heffective h.effective

/-- **The targets in force are the withdrawn statements**, and the critical ones are among them. -/
theorem withdrawals_spec (h : view.withdrawals at_ = .ok withdrawals) :
    (∀ claim, claim.statement ∈ withdrawals.withdrawn ↔ Withdrawn view at_ claim) ∧
      withdrawals.critical ⊆ withdrawals.withdrawn := by
  unfold EvidenceView.withdrawals at h
  obtain ⟨judged, hjudged, h⟩ := bind_eq_ok.mp h
  obtain rfl := Except.ok.inj h
  have hadmissible : ∀ notice, notice ∈ (judged.filter Prod.snd).map Prod.fst ↔
      notice ∈ view.notices ∧ AdmissibleNotice view at_ notice := by
    intro notice
    rw [List.mem_map]
    constructor
    · rintro ⟨⟨_, admissible⟩, hmem, rfl⟩
      obtain ⟨hmem, htrue⟩ := List.mem_filter.mp hmem
      obtain ⟨other, hother, hjudge⟩ := exists_of_mem_mapM hjudged hmem
      obtain ⟨found, hfound, hjudge⟩ := bind_eq_ok.mp hjudge
      obtain ⟨rfl, rfl⟩ := Prod.mk.inj (Except.ok.inj hjudge)
      obtain rfl : found = true := htrue
      exact ⟨hother, noticeAdmissible_eq_true.mp hfound⟩
    · rintro ⟨hmem, hadmissible⟩
      obtain ⟨result, hresult, hjudge⟩ := exists_mem_of_mapM hjudged hmem
      rw [noticeAdmissible_eq_true.mpr hadmissible] at hjudge
      obtain rfl := Except.ok.inj hjudge
      exact ⟨(notice, true), List.mem_filter.mpr ⟨hresult, rfl⟩, rfl⟩
  constructor
  · intro claim
    simp only [List.mem_flatMap, List.mem_filter, hadmissible, Bool.and_eq_true, decide_eq_true_eq,
      Bool.not_eq_true', List.contains_eq_mem, decide_eq_false_iff_not, List.mem_filterMap,
      not_exists]
    constructor
    · rintro ⟨notice, ⟨⟨hmem, hadm⟩, hrevocation, hreplaced⟩, htarget⟩
      exact ⟨notice, hmem, hadm.effective, hrevocation, htarget, fun other hother hother' hrevises =>
        hreplaced other ⟨⟨hother, hother'⟩, hrevises⟩⟩
    · rintro ⟨notice, hmem, heffective, hrevocation, htarget, hunreplaced⟩
      exact ⟨notice, ⟨⟨hmem, heffective, .inl hrevocation⟩, hrevocation, fun other hother =>
        hunreplaced other hother.1.1 hother.1.2 hother.2⟩, htarget⟩
  · intro target htarget
    obtain ⟨notice, hnotice, htarget⟩ := List.mem_flatMap.mp htarget
    exact List.mem_flatMap.mpr ⟨notice, (List.mem_filter.mp hnotice).1, htarget⟩

/-- What is a whole number of tokens does say something. -/
theorem not_unsaid_of_wholeTokens {value : NativeLimit} (h : value.wholeTokens = true) :
    value.unsaid = false := by
  simp only [NativeLimit.wholeTokens, Bool.and_eq_true, decide_eq_true_eq, Option.any_eq_true] at h
  obtain ⟨⟨⟨hunit, -⟩, hassertion⟩, amount, hamount, -⟩ := h
  simp [NativeLimit.unsaid, hunit, hamount, hassertion]

theorem positive?_eq_some {m : ℕ} {n : ℕ+} : positive? m = some n ↔ m = n := by
  constructor
  · intro h
    rw [← orZero_positive? m, h, orZero_some]
  · rintro rfl
    exact positive?_orZero (some n)

/-- The number of a whole amount. -/
theorem positive?_of_whole {amount : ℚ} {n : ℕ+} (hpositive : 0 < amount) (hwhole : amount.den = 1) :
    positive? amount.num.toNat = some n ↔ amount = ((n : ℕ) : ℚ) := by
  have hnum : 0 < amount.num := Rat.num_pos.mpr hpositive
  rw [positive?_eq_some]
  constructor
  · intro h
    refine Rat.ext ?_ hwhole
    rw [Rat.num_natCast]
    omega
  · rintro rfl
    rw [Rat.num_natCast, Int.toNat_natCast]

/-- What the values admit. -/
theorem valuesVerdict_admitted : (binding.valuesVerdict values).admitted = some limit ↔
    (∀ value ∈ values, value.wholeTokens = true) ∧
      (∃ value ∈ values.head?, value.amount = some ((limit.2 : ℕ) : ℚ)) ∧
        limit.1 = binding.limitMeaning := by
  unfold ReviewedBinding.valuesVerdict
  by_cases hwhole : ∀ value ∈ values, value.wholeTokens = true
  · have hsaid : values.any (·.unsaid) = false :=
      List.any_eq_false.mpr fun value hvalue =>
        Bool.not_eq_true _ ▸ not_unsaid_of_wholeTokens (hwhole value hvalue)
    have hall : values.all (·.wholeTokens) = true := List.all_eq_true.mpr hwhole
    rw [hsaid, hall, if_neg Bool.false_ne_true, if_pos rfl]
    cases values with
    | nil => simp [labelled]
    | cons value values =>
      have hvalue := hwhole value List.mem_cons_self
      simp only [NativeLimit.wholeTokens, Bool.and_eq_true, Option.any_eq_true, decide_eq_true_eq]
        at hvalue
      obtain ⟨-, amount, hamount, ⟨hpositive, -⟩, hden⟩ := hvalue
      simp only [List.head?_cons, Option.bind_some, hamount, Option.map_eq_some_iff,
        positive?_of_whole hpositive hden, Option.mem_def, Option.some.injEq, exists_eq_left']
      constructor
      · rintro ⟨n, hn, rfl⟩
        exact ⟨hwhole, hn, rfl⟩
      · rintro ⟨-, hn, hmeaning⟩
        exact ⟨limit.2, hn, by rw [← hmeaning]⟩
  · have hall : values.all (·.wholeTokens) = false := by
      rw [← Bool.not_eq_true, List.all_eq_true]
      exact hwhole
    rw [hall, if_neg Bool.false_ne_true]
    refine iff_of_false ?_ fun h => hwhole h.1
    split_ifs <;> exact nofun

/-- What the origins and the values admit. -/
theorem originsVerdict_admitted {origins : List EvidenceObservation} :
    (binding.originsVerdict at_ claims origins).admitted = some limit ↔
      (∀ origin ∈ origins, PublicFresh origin at_) ∧
        (binding.valuesVerdict (claims.filterMap (·.payload))).admitted = some limit := by
  unfold ReviewedBinding.originsVerdict
  have hfalse : ∀ label, (labelled label).admitted ≠ some limit := fun _ => nofun
  split_ifs with hfuture hstale hunknown hprivate
  · refine iff_of_false (hfalse _) fun h => ?_
    obtain ⟨origin, horigin, hfuture⟩ := List.any_eq_true.mp hfuture
    have hfresh := h.1 origin horigin
    rw [future_eq_false.mpr ⟨hfresh.retrieved, hfresh.observed, hfresh.published⟩] at hfuture
    cases hfuture
  · refine iff_of_false (hfalse _) fun h => ?_
    obtain ⟨origin, horigin, hstale⟩ := List.any_eq_true.mp hstale
    rw [(h.1 origin horigin).fresh] at hstale
    cases hstale
  · refine iff_of_false (hfalse _) fun h => ?_
    obtain ⟨origin, horigin, hunknown⟩ := List.any_eq_true.mp hunknown
    rw [Option.isNone_iff_eq_none] at hunknown
    have hknown := (h.1 origin horigin).freshUntil
    rw [hunknown] at hknown
    cases hknown
  · refine iff_of_false (hfalse _) fun h => ?_
    obtain ⟨origin, horigin, hprivate⟩ := List.any_eq_true.mp hprivate
    exact of_decide_eq_true hprivate (h.1 origin horigin).distribution
  · refine (and_iff_right fun origin horigin => ?_).symm
    simp only [Bool.not_eq_true, List.any_eq_false] at hfuture hstale hunknown hprivate
    obtain ⟨hretrieved, hobserved, hpublished⟩ := future_eq_false.mp (hfuture origin horigin)
    refine ⟨?_, hretrieved, hobserved, hpublished, ?_, ?_⟩
    · simpa using hprivate origin horigin
    · simpa using hunknown origin horigin
    · simpa using hstale origin horigin

/-- Every current claim has the limit that it is a claim of. -/
theorem payload_of_current {claim : EvidenceClaim} (h : claim ∈ binding.currentClaims view) :
    ∃ value, claim.payload = some value := by
  have hpayload := (List.mem_filter.mp h).2
  obtain ⟨value, hvalue, -⟩ := (Option.any_eq_true _ _).mp hpayload
  exact ⟨value, hvalue⟩

/-- The first value is that of the first claim. -/
theorem head?_payloads : ((binding.currentClaims view).filterMap (·.payload)).head? =
    (binding.currentClaims view).head?.bind (·.payload) := by
  have hpayload : ∀ claim ∈ binding.currentClaims view, ∃ value, claim.payload = some value :=
    fun _ h => payload_of_current h
  cases hclaims : binding.currentClaims view with
  | nil => rfl
  | cons first rest =>
    rw [hclaims] at hpayload
    obtain ⟨value, hvalue⟩ := hpayload first List.mem_cons_self
    simp [hvalue]

/-- **What a verdict admits is what the binding supports.** -/
theorem verdict_admitted_iff (hw : view.withdrawals at_ = .ok withdrawals)
    (h : binding.verdict view withdrawals at_ entry = .ok verdict) :
    verdict.admitted = some limit ↔ Supports view at_ binding entry limit := by
  obtain ⟨hwithdrawn, hcritical⟩ := withdrawals_spec hw
  have hrefused : ∀ label, verdict = labelled label → ¬Supports view at_ binding entry limit →
      (verdict.admitted = some limit ↔ Supports view at_ binding entry limit) := by
    rintro label rfl hnot
    exact iff_of_false nofun hnot
  unfold ReviewedBinding.verdict at h
  split_ifs at h with hmatched
  swap
  · exact hrefused _ (Except.ok.inj h).symm fun hs => hmatched hs.matched
  unfold ReviewedBinding.claimsVerdict at h
  dsimp only at h
  split_ifs at h with hproduced hcrit hwith hconflict hempty
  · exact hrefused _ (Except.ok.inj h).symm fun hs => absurd hs.produced (not_le.mpr hproduced)
  · refine hrefused _ (Except.ok.inj h).symm fun hs => ?_
    obtain ⟨claim, hclaim, htarget⟩ := List.any_eq_true.mp hcrit
    exact hs.inForce claim hclaim ((hwithdrawn claim).mp (hcritical (by simpa using htarget)))
  · refine hrefused _ (Except.ok.inj h).symm fun hs => ?_
    obtain ⟨claim, hclaim, htarget⟩ := List.any_eq_true.mp hwith
    exact hs.inForce claim hclaim ((hwithdrawn claim).mp (by simpa using htarget))
  · refine hrefused _ (Except.ok.inj h).symm fun hs => ?_
    obtain ⟨claim, hclaim, hmem⟩ := List.any_eq_true.mp hconflict
    obtain ⟨conflict, hmem, hin⟩ := List.mem_flatten.mp (by simpa using hmem)
    exact hs.unconflicted claim hclaim conflict hmem hin
  · exact hrefused _ (Except.ok.inj h).symm fun hs => hs.current hempty
  · cases horigins : (binding.currentClaims view).mapM fun claim =>
        view.observed claim.observationId with
    | error e =>
      rw [horigins] at h
      cases h
    | ok origins =>
      rw [horigins] at h
      obtain rfl := Except.ok.inj h
      rw [originsVerdict_admitted, valuesVerdict_admitted, head?_payloads]
      constructor
      · rintro ⟨hfresh, hwhole, ⟨value, hvalue, hamount⟩, hmeaning⟩
        obtain ⟨first, hfirst, hpayload⟩ := Option.bind_eq_some_iff.mp hvalue
        refine ⟨hmatched, not_lt.mp hproduced, hempty, fun claim hclaim => ?_,
          fun claim hclaim conflict hmem hin => hconflict ?_,
          fun claim hclaim hwithdrawn' => hwith ?_, fun claim hclaim => ?_,
          ⟨first, hfirst, value, hpayload, hamount⟩, hmeaning⟩
        · obtain ⟨origin, horigin, hobserved⟩ := exists_mem_of_mapM horigins hclaim
          exact ⟨origin, observed_eq_ok.mp hobserved, hfresh origin horigin⟩
        · exact List.any_eq_true.mpr ⟨claim, hclaim, by simpa using ⟨conflict, hmem, hin⟩⟩
        · exact List.any_eq_true.mpr ⟨claim, hclaim, by
            simpa using (hwithdrawn claim).mpr hwithdrawn'⟩
        · obtain ⟨value, hvalue⟩ := payload_of_current hclaim
          exact ⟨value, hvalue, hwhole value (List.mem_filterMap.mpr ⟨claim, hclaim, hvalue⟩)⟩
      · intro hs
        refine ⟨fun origin horigin => ?_, fun value hvalue => ?_, ?_, hs.meaning⟩
        · obtain ⟨claim, hclaim, hobserved⟩ := exists_of_mem_mapM horigins horigin
          obtain ⟨found, hfound, hfresh⟩ := hs.origins claim hclaim
          rw [observed_eq_ok, hfound] at hobserved
          exact Option.some.inj hobserved ▸ hfresh
        · obtain ⟨claim, hclaim, hpayload⟩ := List.mem_filterMap.mp hvalue
          obtain ⟨found, hfound, hwhole⟩ := hs.whole claim hclaim
          rw [Option.mem_def.mp hfound] at hpayload
          exact Option.some.inj hpayload ▸ hwhole
        · obtain ⟨first, hfirst, value, hvalue, hamount⟩ := hs.amount
          exact ⟨value, Option.bind_eq_some_iff.mpr ⟨first, hfirst, hvalue⟩, hamount⟩

end Chain

/-! ### Narrowing -/

namespace EvidenceAdmission

variable {mi : EvidenceAdmission} {view : EvidenceView} {at_ : Instant} {withdrawals : Withdrawals}
  {entry : ModelCatalogEntry} {explained : ModelCatalogEntry × Option (LimitMeaning × ℕ+)}
  {trusted : Bool} {catalog prepared : ModelCatalog} {blocked : Finset ModelIdentity}

/-- An entry with another name and other limits. -/
structure SameButLimits (entry entry' : ModelCatalogEntry) : Prop where
  identity : entry'.identity = entry.identity
  toolUse : entry'.hardProperties.supportsToolUse = entry.hardProperties.supportsToolUse
  vision : entry'.hardProperties.supportsVision = entry.hardProperties.supportsVision
  reasoning : entry'.hardProperties.supportsReasoningMode =
    entry.hardProperties.supportsReasoningMode
  privacyTags : entry'.hardProperties.privacyTags = entry.hardProperties.privacyTags
  capabilities : entry'.capabilities = entry.capabilities
  capacityBindings : entry'.capacityBindings = entry.capacityBindings
  reasoningEffort : entry'.reasoningEffort = entry.reasoningEffort
  bindingResources : entry'.capacityBindingResources = entry.capacityBindingResources
  resourceBindings : entry'.resourceCapacityBindings = entry.resourceCapacityBindings

/-- **An entry is narrowed**: without a binding it is untouched, and a limit stays or is intersected
    with one that the binding supports under the expected cut. -/
structure EntryNarrowed (mi : EvidenceAdmission) (view : EvidenceView) (at_ : Instant)
    (trusted : Bool) (entry entry' : ModelCatalogEntry) : Prop where
  same : SameButLimits entry entry'
  untouched : (∀ binding ∈ mi.bindings, binding.identity ≠ entry.identity) → entry' = entry
  limits : ∀ meaning, storedLimit meaning entry' = storedLimit meaning entry ∨
    ∃ previous amount, storedLimit meaning entry = some previous ∧
      storedLimit meaning entry' = some (min previous amount) ∧ trusted = true ∧
        ∃ binding, mi.bindingOf entry = some binding ∧ Supports view at_ binding entry (meaning, amount)

/-- **A prepared catalog is narrowed**: its entries are, in order, and a bound entry without support
    is blocked. -/
structure OnlyNarrows (mi : EvidenceAdmission) (view : EvidenceView) (at_ : Instant) (trusted : Bool)
    (catalog prepared : ModelCatalog) (blocked : Finset ModelIdentity) : Prop where
  entries : List.Forall₂ (EntryNarrowed mi view at_ trusted) catalog.entries prepared.entries
  blocked : ∀ entry ∈ catalog.entries, ∀ binding, mi.bindingOf entry = some binding →
    (trusted = true → ∀ limit, ¬Supports view at_ binding entry limit) → entry.identity ∈ blocked

theorem bindingOf_eq_none :
    mi.bindingOf entry = none ↔ ∀ binding ∈ mi.bindings, binding.identity ≠ entry.identity := by
  simp [bindingOf, List.find?_eq_none]

theorem mem_of_bindingOf {binding : ReviewedBinding} (h : mi.bindingOf entry = some binding) :
    binding ∈ mi.bindings ∧ binding.identity = entry.identity := by
  unfold bindingOf at h
  have hidentity := List.find?_some h
  exact ⟨List.mem_of_find?_eq_some h, of_decide_eq_true hidentity⟩

theorem mem_bound {identity : ModelIdentity} :
    identity ∈ mi.bound ↔ ∃ binding ∈ mi.bindings, binding.identity = identity := by
  simp [bound]

/-- What an entry is explained as. -/
theorem explain_eq_ok : mi.explain view withdrawals at_ entry = .ok explained ↔
    (mi.bindingOf entry = none ∧ explained = (entry, none)) ∨
      ∃ binding verdict, mi.bindingOf entry = some binding ∧
        binding.verdict view withdrawals at_ entry = .ok verdict ∧
          explained = (annotateEntry verdict.label entry, verdict.admitted) := by
  unfold explain
  cases mi.bindingOf entry with
  | none => simp [eq_comm]
  | some binding =>
    cases hverdict : binding.verdict view withdrawals at_ entry with
    | error e => simp [Except.map, hverdict]
    | ok verdict => simp [Except.map, hverdict, eq_comm]

theorem sameButLimits_annotate (label : String) {entry' : ModelCatalogEntry}
    (h : SameButLimits entry entry') : SameButLimits entry (annotateEntry label entry') :=
  ⟨h.identity, h.toolUse, h.vision, h.reasoning, h.privacyTags, h.capabilities, h.capacityBindings,
    h.reasoningEffort, h.bindingResources, h.resourceBindings⟩

theorem sameButLimits_tighten (meaning : LimitMeaning) (amount previous : ℕ+)
    {entry' : ModelCatalogEntry} (h : SameButLimits entry entry') :
    SameButLimits entry (tightenLimit meaning amount previous entry') := by
  cases meaning <;>
    exact ⟨h.identity, h.toolUse, h.vision, h.reasoning, h.privacyTags, h.capabilities,
      h.capacityBindings, h.reasoningEffort, h.bindingResources, h.resourceBindings⟩

@[simp] theorem storedLimit_annotate (meaning : LimitMeaning) (label : String)
    (entry : ModelCatalogEntry) :
    storedLimit meaning (annotateEntry label entry) = storedLimit meaning entry := by
  cases meaning <;> rfl

/-- Tightening one limit replaces it and keeps the other. -/
theorem storedLimit_tighten (meaning other : LimitMeaning) (amount previous : ℕ+)
    (entry : ModelCatalogEntry) :
    storedLimit other (tightenLimit meaning amount previous entry) =
      if other = meaning then some (min previous amount) else storedLimit other entry := by
  cases meaning <;> cases other <;> rfl

/-- An explained entry differs in its name. -/
theorem explain_same (h : mi.explain view withdrawals at_ entry = .ok explained) :
    SameButLimits entry explained.1 ∧
      ∀ meaning, storedLimit meaning explained.1 = storedLimit meaning entry := by
  have hself : SameButLimits entry entry := ⟨rfl, rfl, rfl, rfl, rfl, rfl, rfl, rfl, rfl, rfl⟩
  rcases explain_eq_ok.mp h with ⟨-, rfl⟩ | ⟨binding, verdict, -, -, rfl⟩
  · exact ⟨hself, fun _ => rfl⟩
  · exact ⟨sameButLimits_annotate _ hself, fun meaning => storedLimit_annotate meaning _ entry⟩

/-- The limit that is admitted is one that the binding supports. -/
theorem explain_admitted (hw : view.withdrawals at_ = .ok withdrawals)
    (h : mi.explain view withdrawals at_ entry = .ok explained) {limit : LimitMeaning × ℕ+} :
    explained.2 = some limit ↔
      ∃ binding, mi.bindingOf entry = some binding ∧ Supports view at_ binding entry limit := by
  rcases explain_eq_ok.mp h with ⟨hbinding, rfl⟩ | ⟨binding, verdict, hbinding, hverdict, rfl⟩
  · simp [hbinding]
  · rw [hbinding]
    simpa using verdict_admitted_iff hw hverdict

/-- **The two passes narrow an entry.** -/
theorem intersect_narrowed (hw : view.withdrawals at_ = .ok withdrawals)
    (h : mi.explain view withdrawals at_ entry = .ok explained) :
    EntryNarrowed mi view at_ trusted entry (mi.intersect trusted explained) := by
  obtain ⟨hsame, hlimits⟩ := explain_same h
  have huntouched : (∀ binding ∈ mi.bindings, binding.identity ≠ entry.identity) →
      explained = (entry, none) := by
    intro hunbound
    rcases explain_eq_ok.mp h with ⟨-, hexplained⟩ | ⟨binding, _, hbinding, -⟩
    · exact hexplained
    · rw [bindingOf_eq_none.mpr hunbound] at hbinding
      cases hbinding
  unfold intersect
  cases trusted with
  | false =>
    by_cases hbound : explained.1.identity ∈ mi.bound
    · simp only [Bool.false_eq_true, if_false, hbound, if_true]
      refine ⟨sameButLimits_annotate _ hsame, fun hunbound => ?_, fun meaning => .inl ?_⟩
      · obtain ⟨binding, hbinding, hidentity⟩ := mem_bound.mp hbound
        exact absurd (hidentity.trans hsame.identity) (hunbound binding hbinding)
      · rw [storedLimit_annotate, hlimits]
    · simp only [Bool.false_eq_true, if_false, hbound]
      exact ⟨hsame, fun hunbound => by rw [huntouched hunbound], fun meaning => .inl (hlimits meaning)⟩
  | true =>
    simp only [if_true]
    cases hadmitted : explained.2 with
    | none =>
      exact ⟨hsame, fun hunbound => by rw [huntouched hunbound], fun meaning => .inl (hlimits meaning)⟩
    | some limit =>
      obtain ⟨meaning, amount⟩ := limit
      have hbound : ¬∀ binding ∈ mi.bindings, binding.identity ≠ entry.identity := by
        intro hunbound
        rw [huntouched hunbound] at hadmitted
        cases hadmitted
      cases hprevious : storedLimit meaning explained.1 with
      | none =>
        simp only [hprevious]
        exact ⟨sameButLimits_annotate _ hsame, fun hunbound => absurd hunbound hbound,
          fun meaning => .inl (by rw [storedLimit_annotate, hlimits])⟩
      | some previous =>
        simp only [hprevious]
        refine ⟨sameButLimits_tighten _ _ _ hsame, fun hunbound => absurd hunbound hbound,
          fun other => ?_⟩
        rw [storedLimit_tighten]
        split_ifs with hother
        · subst hother
          rw [hlimits] at hprevious
          exact .inr ⟨previous, amount, hprevious, rfl, rfl, (explain_admitted hw h).mp hadmitted⟩
        · exact .inl (hlimits other)

/-- What `prepare` returns under a cut. -/
theorem prepare_eq_ok {package : EvidencePackage} {cut : FrozenCut} (hcut : mi.cut = some cut)
    (h : mi.prepare package catalog at_ = .ok (prepared, blocked)) :
    at_ = mi.evaluatedAt ∧ ∃ withdrawals explained,
      (package cut at_).withdrawals at_ = .ok withdrawals ∧
      catalog.entries.mapM (mi.explain (package cut at_) withdrawals at_) = .ok explained ∧
      prepared.entries = explained.map (mi.intersect (cut.reference = mi.expected)) ∧
      prepared.catalogVersion = catalog.catalogVersion ∧ prepared.updatedOn = catalog.updatedOn ∧
      blocked = mi.blocked (cut.reference = mi.expected) explained := by
  unfold prepare at h
  obtain ⟨hat, h⟩ := check_bind_eq_ok.mp h
  rw [hcut] at h
  obtain ⟨withdrawals, hw, h⟩ := bind_eq_ok.mp h
  refine ⟨hat, withdrawals, ?_⟩
  split at h
  · cases h
  · rename_i explained hexplained
    obtain ⟨hprepared, hblocked⟩ := Prod.mk.inj (Except.ok.inj h)
    rw [← hprepared]
    exact ⟨explained, hw, hexplained, rfl, rfl, rfl, hblocked.symm⟩

/-- **Whatever `prepare` returns is narrowed.** -/
theorem prepare_onlyNarrows {package : EvidencePackage} {cut : FrozenCut}
    (hcut : mi.cut = some cut) (h : mi.prepare package catalog at_ = .ok (prepared, blocked)) :
    OnlyNarrows mi (package cut at_) at_ (cut.reference = mi.expected) catalog prepared blocked := by
  obtain ⟨-, withdrawals, explained, hw, hexplained, hentries, -, -, rfl⟩ := prepare_eq_ok hcut h
  constructor
  · rw [hentries, List.forall₂_map_right_iff]
    exact (mapM_eq_ok.mp hexplained).imp fun _ _ he => intersect_narrowed hw he
  · intro entry hmem binding hbinding hunsupported
    have hbound : entry.identity ∈ mi.bound := mem_bound.mpr ⟨binding, mem_of_bindingOf hbinding⟩
    unfold EvidenceAdmission.blocked
    split_ifs with htrusted
    · refine Finset.mem_union_left _ (Finset.mem_filter.mpr ⟨hbound, fun e he hidentity => ?_⟩)
      obtain ⟨other, hother, hexplain⟩ := exists_of_mem_mapM hexplained he
      have hsame : other = entry := catalog.entry_ext hother hmem
        ((mi.explain_identity hexplain).symm.trans hidentity)
      subst hsame
      rw [Option.eq_none_iff_forall_ne_some]
      intro limit hadmitted
      obtain ⟨found, hfound, hsupports⟩ := (explain_admitted hw hexplain).mp hadmitted
      rw [hbinding] at hfound
      exact hunsupported htrusted limit (Option.some.inj hfound ▸ hsupports)
    · exact hbound

/-! ### Returning -/

/-- The view holds the observations that its claims and notices refer to. -/
structure Closed (view : EvidenceView) : Prop where
  claims : ∀ claim ∈ view.models, (view.observed? claim.observationId).isSome = true
  notices : ∀ notice ∈ view.notices, (view.observed? notice.observationId).isSome = true

theorem returns_observed {observationId : String}
    (h : (view.observed? observationId).isSome = true) : Returns (view.observed observationId) := by
  obtain ⟨origin, horigin⟩ := Option.isSome_iff_exists.mp h
  exact ⟨origin, observed_eq_ok.mpr horigin⟩

theorem Closed.returns_withdrawals (h : Closed view) : Returns (view.withdrawals at_) := by
  unfold EvidenceView.withdrawals
  rw [returns_bind]
  obtain ⟨judged, hjudged⟩ := returns_mapM.mpr fun notice (hnotice : notice ∈ view.notices) =>
    show Returns (do
      let admissible ← view.noticeAdmissible at_ notice
      return (notice, admissible)) by
    have hreturns : Returns (view.noticeAdmissible at_ notice) := by
      unfold EvidenceView.noticeAdmissible
      split_ifs
      · exact ⟨_, rfl⟩
      · exact returns_map.mpr (returns_observed (h.notices notice hnotice))
      · exact ⟨_, rfl⟩
    exact returns_map.mpr hreturns
  exact ⟨judged, hjudged, _, rfl⟩

theorem Closed.returns_explain (h : Closed view) (entry : ModelCatalogEntry) :
    Returns (mi.explain view withdrawals at_ entry) := by
  unfold explain
  split
  · exact ⟨_, rfl⟩
  · rename_i binding _
    refine returns_map.mpr ?_
    unfold ReviewedBinding.verdict
    split_ifs
    · unfold ReviewedBinding.claimsVerdict
      dsimp only
      split_ifs
      all_goals first
        | exact ⟨_, rfl⟩
        | skip
      refine returns_map.mpr (returns_mapM.mpr fun claim hclaim => ?_)
      refine returns_observed (h.claims claim ?_)
      exact (List.mem_filter.mp (List.mem_filter.mp hclaim).1).1
    · exact ⟨_, rfl⟩

/-- **At its own instant and on a closed view, `prepare` returns**; at another it never does. -/
theorem prepare_returns (package : EvidencePackage) {cut : FrozenCut} (hcut : mi.cut = some cut)
    (catalog : ModelCatalog) :
    (at_ ≠ mi.evaluatedAt → ¬Returns (mi.prepare package catalog at_)) ∧
      (at_ = mi.evaluatedAt → Closed (package cut at_) →
        Returns (mi.prepare package catalog at_)) := by
  unfold prepare
  constructor
  · intro hat h
    exact hat (returns_check_bind.mp h).1
  · intro hat hclosed
    refine returns_check_bind.mpr ⟨hat, ?_⟩
    rw [hcut]
    obtain ⟨withdrawals, hw⟩ : Returns ((package cut at_).withdrawals at_) :=
      hclosed.returns_withdrawals
    refine returns_bind.mpr ⟨withdrawals, hw, ?_⟩
    obtain ⟨explained, hexplained⟩ :
        Returns (catalog.entries.mapM (mi.explain (package cut at_) withdrawals at_)) :=
      returns_mapM.mpr fun entry _ => hclosed.returns_explain entry
    split
    · rename_i e herror
      rw [hexplained] at herror
      cases herror
    · exact ⟨_, rfl⟩

/-! ### The admission of verdicts -/

/-- The verdicts of the chain, as the admission of verdicts takes them. -/
@[reducible] def host (mi : EvidenceAdmission) (package : EvidencePackage) : EvidenceHost where
  verdict cut bound entry at_ :=
    (do
      let binding ← mi.bindings.find? fun (binding : ReviewedBinding) => binding.identity = bound.identity
      let withdrawals ← ((package cut at_).withdrawals at_).toOption
      (binding.verdict (package cut at_) withdrawals at_ entry).toOption).getD (labelled "unsupported")

/-- The admission of verdicts. -/
def admission (mi : EvidenceAdmission) : MIAdmission where
  cut := mi.cut
  bindings := mi.bindings.map ReviewedBinding.toModelBinding
  expected := mi.expected
  evaluatedAt := mi.evaluatedAt

section Refinement

variable {package : EvidencePackage} {cut : FrozenCut}

/-- The verdict on an explained entry. -/
theorem verdict?_of_explain (hw : (package cut at_).withdrawals at_ = .ok withdrawals)
    (h : mi.explain (package cut at_) withdrawals at_ entry = .ok explained) :
    @MIAdmission.explainEntry (mi.host package) mi.admission cut at_ entry = explained.1 ∧
      @MIAdmission.admittedLimit (mi.host package) mi.admission cut entry at_ = explained.2 := by
  have hfind : mi.admission.bindings.find? (·.identity = entry.identity) =
      (mi.bindingOf entry).map ReviewedBinding.toModelBinding := by
    show (mi.bindings.map _).find? _ = _
    rw [List.find?_map]
    rfl
  unfold MIAdmission.explainEntry MIAdmission.admittedLimit MIAdmission.verdict?
  rw [hfind]
  rcases explain_eq_ok.mp h with ⟨hbinding, rfl⟩ | ⟨binding, verdict, hbinding, hverdict, rfl⟩
  · rw [hbinding]
    exact ⟨rfl, rfl⟩
  · have hhost : (mi.host package).verdict cut binding.toModelBinding entry at_ = verdict := by
      have hsame : (mi.bindings.find? fun other =>
          other.identity = binding.toModelBinding.identity) = some binding := by
        show (mi.bindings.find? fun other => other.identity = binding.identity) = _
        rw [(mem_of_bindingOf hbinding).2]
        exact hbinding
      show Option.getD (Option.bind (mi.bindings.find? _) _) _ = verdict
      rw [hsame, Option.bind_some, hw]
      show Option.getD (binding.verdict (package cut at_) withdrawals at_ entry).toOption _ = verdict
      rw [hverdict]
      rfl
    rw [hbinding]
    simp [hhost]

/-- The second pass prepares an explained entry. -/
theorem prepareEntry_of_explain (hw : (package cut at_).withdrawals at_ = .ok withdrawals)
    (h : mi.explain (package cut at_) withdrawals at_ entry = .ok explained) :
    @MIAdmission.prepareEntry (mi.host package) mi.admission cut at_ entry =
      mi.intersect (cut.reference = mi.expected) explained := by
  obtain ⟨hexplain, hadmitted⟩ := verdict?_of_explain hw h
  obtain ⟨hsame, hlimits⟩ := explain_same h
  have hbound : (mi.admission.bindings.map (·.identity)).contains entry.identity = true ↔
      explained.1.identity ∈ mi.bound := by
    rw [hsame.identity, mem_bound]
    simp [admission, ReviewedBinding.toModelBinding]
  unfold MIAdmission.prepareEntry intersect
  rw [hexplain, hadmitted]
  simp only [decide_eq_true_eq]
  refine if_congr Iff.rfl ?_ (if_congr hbound rfl rfl)
  cases explained.2 with
  | none => rfl
  | some limit =>
    obtain ⟨meaning, amount⟩ := limit
    cases hstored : storedLimit meaning entry <;> simp [hlimits, hstored]

/-- The identities that are blocked are those that the admission of verdicts blocks. -/
theorem blockedIdentities_of_explained
    (hw : (package cut at_).withdrawals at_ = .ok withdrawals)
    {explained : List (ModelCatalogEntry × Option (LimitMeaning × ℕ+))}
    (h : catalog.entries.mapM (mi.explain (package cut at_) withdrawals at_) = .ok explained) :
    @MIAdmission.blockedIdentities (mi.host package) mi.admission cut catalog at_ =
      mi.blocked (cut.reference = mi.expected) explained := by
  have hbound : (mi.admission.bindings.map (·.identity)).toFinset = mi.bound := by
    show ((mi.bindings.map _).map _).toFinset = _
    rw [List.map_map]
    rfl
  have hlimit : ∀ identity, (∀ entry ∈ catalog.entries, entry.identity = identity →
      @MIAdmission.admittedLimit (mi.host package) mi.admission cut entry at_ = none) ↔
        ∀ e ∈ explained, e.1.identity = identity → e.2 = none := by
    intro identity
    constructor
    · intro hnone e he hidentity
      obtain ⟨entry, hentry, hexplain⟩ := exists_of_mem_mapM h he
      rw [← (verdict?_of_explain hw hexplain).2]
      exact hnone entry hentry ((mi.explain_identity hexplain).symm.trans hidentity)
    · intro hnone entry hentry hidentity
      obtain ⟨e, he, hexplain⟩ := exists_mem_of_mapM h hentry
      rw [(verdict?_of_explain hw hexplain).2]
      exact hnone e he ((mi.explain_identity hexplain).trans hidentity)
  have hlacks : ∀ {entry : ModelCatalogEntry} {e : ModelCatalogEntry × Option (LimitMeaning × ℕ+)},
      mi.explain (package cut at_) withdrawals at_ entry = .ok e →
        @MIAdmission.limitUnknown (mi.host package) mi.admission cut entry at_ = lacksBootstrap e := by
    intro entry e hexplain
    unfold MIAdmission.limitUnknown lacksBootstrap
    rw [(verdict?_of_explain hw hexplain).2]
    simp only [(explain_same hexplain).2]
  have hunknown : ((catalog.entries.filter
      (@MIAdmission.limitUnknown (mi.host package) mi.admission cut · at_)).map (·.identity)).toFinset =
      ((explained.filter lacksBootstrap).map (·.1.identity)).toFinset := by
    ext identity
    simp only [List.mem_toFinset, List.mem_map, List.mem_filter]
    constructor
    · rintro ⟨entry, ⟨hentry, hunknown⟩, rfl⟩
      obtain ⟨e, he, hexplain⟩ := exists_mem_of_mapM h hentry
      exact ⟨e, ⟨he, hlacks hexplain ▸ hunknown⟩, mi.explain_identity hexplain⟩
    · rintro ⟨e, ⟨he, hunknown⟩, rfl⟩
      obtain ⟨entry, hentry, hexplain⟩ := exists_of_mem_mapM h he
      exact ⟨entry, ⟨hentry, (hlacks hexplain).trans hunknown⟩, (mi.explain_identity hexplain).symm⟩
  unfold MIAdmission.blockedIdentities EvidenceAdmission.blocked
  simp only [hbound, hlimit, hunknown, decide_eq_true_eq]
  rfl

/-- **The two passes are the admission of the verdicts of the chain.** -/
theorem prepare_refines (h : mi.prepare package catalog at_ = .ok (prepared, blocked)) :
    @MIAdmission.prepare (mi.host package) mi.admission catalog at_ = .ok (prepared, blocked) := by
  unfold MIAdmission.prepare
  cases hcut : mi.cut with
  | none =>
    unfold prepare at h
    obtain ⟨hat, h⟩ := check_bind_eq_ok.mp h
    rw [hcut] at h
    rw [if_neg (show ¬at_ ≠ mi.admission.evaluatedAt from not_not.mpr hat),
      show mi.admission.cut = none from hcut]
    exact h
  | some cut =>
    obtain ⟨hat, withdrawals, explained, hw, hexplained, hentries, hversion, hupdated, rfl⟩ :=
      prepare_eq_ok hcut h
    rw [if_neg (show ¬at_ ≠ mi.admission.evaluatedAt from not_not.mpr hat),
      show mi.admission.cut = some cut from hcut]
    refine congrArg Except.ok (Prod.ext ?_ (blockedIdentities_of_explained hw hexplained))
    have hmap : explained.map (mi.intersect (cut.reference = mi.expected)) =
        catalog.entries.map (@MIAdmission.prepareEntry (mi.host package) mi.admission cut at_) :=
      map_eq_of_mapM hexplained fun _ _ he => (prepareEntry_of_explain hw he).symm
    obtain ⟨version, updatedOn, entries, _, _⟩ := prepared
    obtain rfl : entries = _ := hentries
    obtain rfl : version = _ := hversion
    obtain rfl : updatedOn = _ := hupdated
    simp only [ModelCatalog.mapEntries, hmap]

end Refinement

end EvidenceAdmission

/-! ### Admission only narrows -/

/-- **Admission only narrows.**  At its own instant an admission prepares every catalog on a closed
    view, and at another none; whatever it returns has the same entries in the same order, with
    limits narrowed where a binding supports it, and blocks every bound entry that is not
    supported. -/
theorem evidence_only_narrows (package : EvidencePackage) (cut : FrozenCut)
    (bindings : List ReviewedBinding) (expected : String) (evaluatedAt at_ : Instant)
    (catalog : ModelCatalog) :
    let mi : EvidenceAdmission := ⟨some cut, bindings, expected, evaluatedAt⟩
    (at_ ≠ evaluatedAt → ¬Returns (mi.prepare package catalog at_)) ∧
    (at_ = evaluatedAt → EvidenceAdmission.Closed (package cut at_) →
      Returns (mi.prepare package catalog at_)) ∧
    ∀ prepared blocked, mi.prepare package catalog at_ = .ok (prepared, blocked) →
      mi.OnlyNarrows (package cut at_) at_ (cut.reference = expected) catalog prepared blocked := by
  intro mi
  have hcut : mi.cut = some cut := rfl
  obtain ⟨hother, hown⟩ : _ ∧ (at_ = evaluatedAt → _) :=
    EvidenceAdmission.prepare_returns package hcut catalog
  exact ⟨hother, hown, fun _ _ => EvidenceAdmission.prepare_onlyNarrows rfl⟩

/-- A cut and the subject of its one claim. -/
def tokenCut : FrozenCut := ⟨"bytes", "reference"⟩

def tokenSubject : EvidenceSubject :=
  ⟨"openai", "atlas", some "api", some [("reasoning_effort", "low")], ""⟩

/-- The view of a cut with one claim: 4096 tokens of input, fresh and public. -/
def tokenView : EvidenceView where
  producedAt := 0
  applicability := ⟨some "api", some [("reasoning_effort", "low")]⟩
  claims := []
  observations := [⟨"seen", "public", 0, none, none, some 9, false⟩]
  notices := []
  models := [⟨"claim", tokenSubject, "seen", 0,
    some ⟨"context", "input-allowance", some "documented", some 4096, some "tokens", "stated"⟩⟩]
  conflicts := []

def tokenBinding : ReviewedBinding :=
  ⟨⟨.lit "openai", .lit "atlas", .lit "base"⟩, tokenSubject, "context", "input-allowance", "documented"⟩

/-- A catalog with one entry, of 8192 tokens of input. -/
def tokenCatalog : ModelCatalog where
  catalogVersion := none
  updatedOn := none
  entries := [{
    identity := ⟨.lit "openai", .lit "atlas", .lit "base"⟩
    displayName := "Atlas"
    hardProperties := { inputContextTokens := some 8192, supportsReasoningMode := some true }
    reasoningEffort := some .low
    name_nonempty := atlas_named
    bindings_valid := by
      intro _ h
      cases h
    resource_bindings_valid := openai_unbound }]
  unique := List.nodup_singleton _

/-- The limit of its entry is narrowed to the claim's. -/
theorem evidence_only_narrows_token : ∃ prepared blocked,
    (⟨some tokenCut, [tokenBinding], "reference", 5⟩ : EvidenceAdmission).prepare
      (fun _ _ => tokenView) tokenCatalog 5 = .ok (prepared, blocked) ∧
    prepared.entries.map (·.hardProperties.inputContextTokens) = [some 4096] ∧
    (⟨some tokenCut, [tokenBinding], "reference", 5⟩ : EvidenceAdmission).OnlyNarrows tokenView 5
      (tokenCut.reference = "reference") tokenCatalog prepared blocked := by
  obtain ⟨⟨prepared, blocked⟩, hprepared, hlimits⟩ := Option.map_eq_some_iff.mp
    (show ((⟨some tokenCut, [tokenBinding], "reference", 5⟩ : EvidenceAdmission).prepare
      (fun _ _ => tokenView) tokenCatalog 5).toOption.map
        (fun result => result.1.entries.map (·.hardProperties.inputContextTokens)) =
          some [some 4096] by decide +kernel)
  exact ⟨prepared, blocked, eq_ok_of_toOption hprepared, hlimits,
    (evidence_only_narrows (fun _ _ => tokenView) tokenCut [tokenBinding] "reference" 5 5
      tokenCatalog).2.2 prepared blocked (eq_ok_of_toOption hprepared)⟩

/-- The view of a cut whose one notice refers to an observation that is not there. -/
def danglingView : EvidenceView where
  producedAt := 0
  applicability := ⟨none, none⟩
  claims := []
  observations := []
  notices := [⟨"notice", "unseen", [], 0, "retraction", none, none⟩]
  models := []
  conflicts := []

/-- **An admission does not prepare at every instant, nor on every view.** -/
theorem admission_not_total :
    ¬Returns ((⟨some tokenCut, [tokenBinding], "reference", 5⟩ : EvidenceAdmission).prepare
      (fun _ _ => tokenView) tokenCatalog 6) ∧
    ¬Returns ((⟨some tokenCut, [tokenBinding], "reference", 5⟩ : EvidenceAdmission).prepare
      (fun _ _ => danglingView) tokenCatalog 5) := by
  have hraises : ∀ {x : Except ContractError (ModelCatalog × Finset ModelIdentity)},
      x.toOption.isSome = false → ¬Returns x := by
    rintro _ h ⟨result, rfl⟩
    cases h
  exact ⟨hraises (by decide +kernel), hraises (by decide +kernel)⟩

/-- The cut is admitted alike on both levels. -/
theorem prepare_refines_token : ∃ result, @MIAdmission.prepare
    (EvidenceAdmission.host ⟨some tokenCut, [tokenBinding], "reference", 5⟩ fun _ _ => tokenView)
    (EvidenceAdmission.admission ⟨some tokenCut, [tokenBinding], "reference", 5⟩) tokenCatalog 5 =
      .ok result := by
  obtain ⟨result, hprepared⟩ := Option.isSome_iff_exists.mp
    (show ((⟨some tokenCut, [tokenBinding], "reference", 5⟩ : EvidenceAdmission).prepare
      (fun _ _ => tokenView) tokenCatalog 5).toOption.isSome = true by decide +kernel)
  exact ⟨result, EvidenceAdmission.prepare_refines (eq_ok_of_toOption hprepared)⟩

end ScarcityRouter
