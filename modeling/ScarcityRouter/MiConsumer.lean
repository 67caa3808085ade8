import Mathlib.Data.Finset.Dedup
import Mathlib.Data.Finset.Filter
import Mathlib.Data.Finset.Lattice.Basic
import ScarcityRouter.SelectionTypes

namespace ScarcityRouter

open ScarcityRouter.Lib

/-!
# The model-intelligence consumer

The explicit admission of published model limits, after `mi_consumer.py`.

* `EvidenceHost` — the optional evidence package: what it says about one reviewed binding.
* `explainedCatalog` — the display annotations of bound entries.
* `MIAdmission.prepare` — the catalog with admitted limits, and the identities it blocks.

The package itself is not part of the repository; its conclusion about one binding at one instant
is a parameter.  Everything the repository does with that conclusion is modelled.
-/

/-- A retained publication and the reference under which it was validated. -/
structure FrozenCut where
  data : String
  reference : String
  deriving DecidableEq

/-- A reviewed association of a catalog identity with a subject of the publication. -/
structure ModelBinding where
  identity : ModelIdentity
  /-- `subject.channel`, validated only when a request stores it. -/
  subjectChannel : Option String
  /-- The remaining members of the subject, and the dimension, meaning and basis. -/
  subject : String
  deriving DecidableEq

/-- The two meanings of an admitted limit. -/
inductive LimitMeaning where
  | inputAllowance | outputAllowance
  deriving DecidableEq, Repr

/-- The conclusion about one binding: a bounded label, and the limit it admits, if any. -/
structure EvidenceVerdict where
  label : String
  admitted : Option (LimitMeaning × ℕ+)
  deriving DecidableEq

/-- The evidence package. -/
class EvidenceHost where
  verdict : FrozenCut → ModelBinding → ModelCatalogEntry → Instant → EvidenceVerdict

/-- Map the entries of a catalog, keeping every identity. -/
def ModelCatalog.mapEntries (catalog : ModelCatalog) (f : ModelCatalogEntry → ModelCatalogEntry)
    (hf : ∀ entry, (f entry).identity = entry.identity) : ModelCatalog where
  catalogVersion := catalog.catalogVersion
  updatedOn := catalog.updatedOn
  entries := catalog.entries.map f
  unique := by
    rw [List.map_map, show (fun e : ModelCatalogEntry => e.identity) ∘ f = (·.identity) from
      funext hf]
    exact catalog.unique
  dated := catalog.dated

/-- `f"{entry.display_name[:64]} [MI {label}]"`. -/
def annotateEntry (label : String) (entry : ModelCatalogEntry) : ModelCatalogEntry :=
  { entry with
    displayName := String.ofList (entry.displayName.toList.take 64) ++ (" [MI " ++ label ++ "]")
    name_nonempty := by
      intro h
      have hsuffix := (String.append_eq_empty_iff.mp h).2
      have hopen := (String.append_eq_empty_iff.mp (String.append_eq_empty_iff.mp hsuffix).1).1
      exact absurd hopen (by decide) }

@[simp] theorem annotateEntry_identity (label : String) (entry : ModelCatalogEntry) :
    (annotateEntry label entry).identity = entry.identity := rfl

/-- The stored input limit tightened to an admitted one; an unknown limit is never filled. -/
def tightenLimit (meaning : LimitMeaning) (amount previous : ℕ+) (entry : ModelCatalogEntry) :
    ModelCatalogEntry :=
  match meaning with
  | .inputAllowance =>
    { entry with
      hardProperties :=
        { entry.hardProperties with inputContextTokens := some (min previous amount) }
      effort_iff := entry.effort_iff }
  | .outputAllowance =>
    { entry with
      hardProperties := { entry.hardProperties with outputTokens := some (min previous amount) }
      effort_iff := entry.effort_iff }

/-- The stored limit of one meaning. -/
def storedLimit (meaning : LimitMeaning) (entry : ModelCatalogEntry) : Option ℕ+ :=
  match meaning with
  | .inputAllowance => entry.hardProperties.inputContextTokens
  | .outputAllowance => entry.hardProperties.outputTokens

@[simp] theorem tightenLimit_identity (meaning : LimitMeaning) (amount previous : ℕ+)
    (entry : ModelCatalogEntry) :
    (tightenLimit meaning amount previous entry).identity = entry.identity := by
  cases meaning <;> rfl

/-- Immutable explicit opt-in for one reviewed cut and its bindings. -/
structure MIAdmission where
  cut : Option FrozenCut
  bindings : List ModelBinding
  expected : String
  evaluatedAt : Instant
  deriving DecidableEq

namespace MIAdmission

variable [EvidenceHost] (mi : MIAdmission)

/-- The verdict on one catalog entry; an unbound entry has none. -/
def verdict? (cut : FrozenCut) (entry : ModelCatalogEntry) (at_ : Instant) :
    Option EvidenceVerdict :=
  (mi.bindings.find? (·.identity = entry.identity)).map fun binding =>
    EvidenceHost.verdict cut binding entry at_

/-- The admitted limit of one entry, `_admitted_limits.get(entry.identity)`. -/
def admittedLimit (cut : FrozenCut) (entry : ModelCatalogEntry) (at_ : Instant) :
    Option (LimitMeaning × ℕ+) :=
  (mi.verdict? cut entry at_).bind (·.admitted)

/-- One entry of `explained_catalog`. -/
def explainEntry (cut : FrozenCut) (at_ : Instant) (entry : ModelCatalogEntry) :
    ModelCatalogEntry :=
  match mi.verdict? cut entry at_ with
  | none => entry
  | some verdict => annotateEntry verdict.label entry

/-- The admitted limit has no bootstrap limit to intersect. -/
def limitUnknown (cut : FrozenCut) (entry : ModelCatalogEntry) (at_ : Instant) : Bool :=
  (mi.admittedLimit cut entry at_).any fun (meaning, _) => (storedLimit meaning entry).isNone

/-- The identities `prepare` blocks: bound without an admitted limit, admitted without a bootstrap
    limit, and every bound one under an untrusted cut. -/
def blockedIdentities (cut : FrozenCut) (catalog : ModelCatalog) (at_ : Instant) :
    Finset ModelIdentity :=
  let bound := (mi.bindings.map (·.identity)).toFinset
  if cut.reference = mi.expected then
    bound.filter (fun identity => ∀ entry ∈ catalog.entries, entry.identity = identity →
      mi.admittedLimit cut entry at_ = none) ∪
    ((catalog.entries.filter (mi.limitUnknown cut · at_)).map (·.identity)).toFinset
  else bound

/-- One entry of the prepared catalog. -/
def prepareEntry (cut : FrozenCut) (at_ : Instant) (entry : ModelCatalogEntry) :
    ModelCatalogEntry :=
  let explained := mi.explainEntry cut at_ entry
  if cut.reference = mi.expected then
    match mi.admittedLimit cut entry at_ with
    | none => explained
    | some (meaning, amount) =>
      match storedLimit meaning entry with
      | none => annotateEntry "bootstrap limit unknown" explained
      | some previous => tightenLimit meaning amount previous explained
  else if (mi.bindings.map (·.identity)).contains entry.identity then
    annotateEntry "untrusted cut" explained
  else explained

theorem prepareEntry_identity (cut : FrozenCut) (at_ : Instant) (entry : ModelCatalogEntry) :
    (mi.prepareEntry cut at_ entry).identity = entry.identity := by
  have hexplain : (mi.explainEntry cut at_ entry).identity = entry.identity := by
    unfold explainEntry
    split <;> rfl
  unfold prepareEntry
  dsimp only
  split_ifs
  · split
    · exact hexplain
    · split <;> simp [hexplain]
  · simp [hexplain]
  · exact hexplain

/-- Preparation never configures an effort. -/
theorem prepareEntry_effort (cut : FrozenCut) (at_ : Instant) (entry : ModelCatalogEntry) :
    (mi.prepareEntry cut at_ entry).reasoningEffort = entry.reasoningEffort := by
  have hexplain : (mi.explainEntry cut at_ entry).reasoningEffort = entry.reasoningEffort := by
    unfold explainEntry
    split <;> rfl
  have htighten : ∀ meaning amount previous (e : ModelCatalogEntry),
      (tightenLimit meaning amount previous e).reasoningEffort = e.reasoningEffort := by
    intro meaning amount previous e
    cases meaning <;> rfl
  unfold prepareEntry
  dsimp only
  split_ifs
  · split
    · exact hexplain
    · split
      · exact hexplain
      · exact (htighten _ _ _ _).trans hexplain
  · exact hexplain
  · exact hexplain

/-- `MIAdmission.prepare`: without a cut nothing is attested and nothing revoked. -/
def prepare (catalog : ModelCatalog) (at_ : Instant) :
    Except ContractError (ModelCatalog × Finset ModelIdentity) :=
  if at_ ≠ mi.evaluatedAt then .error (.other "mi_evaluation_instant_mismatch")
  else
    match mi.cut with
    | none => .ok (catalog, ∅)
    | some cut =>
      .ok (catalog.mapEntries (mi.prepareEntry cut at_) (mi.prepareEntry_identity cut at_),
        mi.blockedIdentities cut catalog at_)

/-- **Preparation keeps the identities and efforts** of the entries, and their order. -/
theorem prepare_eq_ok {catalog prepared : ModelCatalog} {at_ : Instant}
    {blocked : Finset ModelIdentity} (h : mi.prepare catalog at_ = .ok (prepared, blocked)) :
    prepared.catalogVersion = catalog.catalogVersion ∧
      prepared.entries.map (fun e => (e.identity, e.reasoningEffort)) =
        catalog.entries.map fun e => (e.identity, e.reasoningEffort) := by
  unfold prepare at h
  split_ifs at h
  split at h
  · cases h
    exact ⟨rfl, rfl⟩
  · cases h
    refine ⟨rfl, ?_⟩
    simp only [ModelCatalog.mapEntries, List.map_map]
    exact List.map_congr_left fun entry _ => Prod.ext (mi.prepareEntry_identity _ _ entry)
      (mi.prepareEntry_effort _ _ entry)

/-- The blocked identities do not depend on the order of the entries. -/
theorem blockedIdentities_of_perm {catalog catalog' : ModelCatalog}
    (h : catalog.entries.Perm catalog'.entries) (cut : FrozenCut) (at_ : Instant) :
    mi.blockedIdentities cut catalog at_ = mi.blockedIdentities cut catalog' at_ := by
  have hunadmitted : ∀ identity, (∀ entry ∈ catalog.entries, entry.identity = identity →
      mi.admittedLimit cut entry at_ = none) ↔ ∀ entry ∈ catalog'.entries,
        entry.identity = identity → mi.admittedLimit cut entry at_ = none := by
    intro identity
    exact forall_congr' fun entry => by rw [h.mem_iff]
  have hunknown : ((catalog.entries.filter (mi.limitUnknown cut · at_)).map (·.identity)).toFinset =
      ((catalog'.entries.filter (mi.limitUnknown cut · at_)).map (·.identity)).toFinset :=
    List.toFinset_eq_of_perm _ _ ((h.filter _).map _)
  unfold blockedIdentities
  simp only [hunadmitted, hunknown]

/-- Preparing a reordered catalog gives the prepared catalog in another order. -/
theorem prepare_of_perm {catalog catalog' prepared : ModelCatalog} {at_ : Instant}
    {blocked : Finset ModelIdentity} (hentries : catalog.entries.Perm catalog'.entries)
    (hversion : catalog.catalogVersion = catalog'.catalogVersion)
    (hupdated : catalog.updatedOn = catalog'.updatedOn)
    (h : mi.prepare catalog at_ = .ok (prepared, blocked)) :
    ∃ prepared', mi.prepare catalog' at_ = .ok (prepared', blocked) ∧
      prepared.entries.Perm prepared'.entries ∧
      prepared.catalogVersion = prepared'.catalogVersion ∧
      prepared.updatedOn = prepared'.updatedOn := by
  unfold prepare at h ⊢
  by_cases hat : at_ ≠ mi.evaluatedAt
  · rw [if_pos hat] at h
    cases h
  · rw [if_neg hat] at h ⊢
    cases hcut : mi.cut with
    | none =>
      rw [hcut] at h
      cases h
      exact ⟨catalog', rfl, hentries, hversion, hupdated⟩
    | some cut =>
      rw [hcut] at h
      cases h
      refine ⟨catalog'.mapEntries (mi.prepareEntry cut at_) (mi.prepareEntry_identity cut at_), ?_,
        hentries.map _, hversion, hupdated⟩
      rw [mi.blockedIdentities_of_perm hentries]

end MIAdmission

end ScarcityRouter
