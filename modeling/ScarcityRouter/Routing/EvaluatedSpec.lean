import ScarcityRouter.Routing.Admit
import ScarcityRouter.Routing.RouteSpec

namespace ScarcityRouter

open ScarcityRouter.Lib

/-!
# The evaluated request

Routing and admission evaluate the request itself or, under an MI admission, the request over the
prepared catalog.

* `evaluatedRequest`, `Evaluates` — the evaluated request, and what it shares with the original:
  everything but the catalog and the MI members.
* `routeRequest_eq_ok`, `admitPinnedTarget_eq_ok` — both decisions are those of the same evaluated
  request, next to a receipt.
-/

/-! ### The prepared catalog -/

/-- The identities of a view. -/
theorem mem_narrowedCatalog_identities {i : RouteInputs} {routable : List ModelIdentity}
    {serving : ModelIdentity → List GatedResource} {identity : ModelIdentity} :
    identity ∈ (narrowedCatalog i routable serving).entries.map (·.identity) ↔
      ∃ entry ∈ i.catalog.entries, inView i routable entry = true ∧ entry.identity = identity := by
  unfold narrowedCatalog
  simp only [List.mem_map, mem_sortBy, List.mem_filter]
  constructor
  · rintro ⟨_, ⟨entry, ⟨hentry, hview⟩, rfl⟩, rfl⟩
    exact ⟨entry, hentry, hview, (viewEntry_identity _ _ _).symm⟩
  · rintro ⟨entry, hentry, hview, rfl⟩
    exact ⟨_, ⟨entry, ⟨hentry, hview⟩, rfl⟩, viewEntry_identity _ _ _⟩

/-- The local catalog keeps the version, only known identities, and every candidate. -/
theorem miLocalCatalog_spec {r : RouteRequest} {local_ : ModelCatalog}
    (h : miLocalCatalog r = .ok local_) :
    local_.catalogVersion = r.catalog.catalogVersion ∧
      (∀ identity ∈ local_.entries.map (·.identity), identity ∈ r.catalog.entries.map (·.identity)) ∧
      (∀ candidates ∈ r.candidateIdentities, candidates ⊆ local_.entries.map (·.identity)) ∧
      (r.isRuntime = false → local_ = r.catalog) := by
  unfold miLocalCatalog at h
  split at h
  · rename_i hruntime
    obtain ⟨requirement, -, h⟩ := bind_eq_ok.mp h
    obtain rfl := Except.ok.inj h
    refine ⟨rfl, fun identity hmem => ?_, fun candidates hcandidates identity hmem => ?_, ?_⟩
    · obtain ⟨entry, hentry, -, rfl⟩ := mem_narrowedCatalog_identities.mp hmem
      exact List.mem_map_of_mem hentry
    · have hknown := (r.valid.candidates_calibrated candidates hcandidates).2 hmem
      obtain ⟨entry, hentry, rfl⟩ := List.mem_map.mp hknown
      refine mem_narrowedCatalog_identities.mpr ⟨entry, hentry, ?_, rfl⟩
      have hsome : r.candidateIdentities = some candidates := hcandidates
      simp only [inView, hsome, Option.all_some, Bool.and_eq_true, decide_eq_true_eq]
      exact ⟨hknown, hmem⟩
    · intro hversioned
      exact absurd (hruntime.symm.trans hversioned) (by simp)
  · obtain rfl := Except.ok.inj h
    exact ⟨rfl, fun _ h => h, fun candidates hcandidates =>
      (r.valid.candidates_calibrated candidates hcandidates).2, fun _ => rfl⟩

/-- Evidence members take no part in validity. -/
theorem RouteInputs.Valid.withEvidence {i : RouteInputs} (h : i.Valid)
    (miAdmission : Option MIAdmission) (miBlocked : Finset ModelIdentity)
    (miChannels : List (ModelIdentity × Option SafeId)) :
    ({ i with miAdmission, miBlocked, miChannels } : RouteInputs).Valid :=
  ⟨h.candidates_calibrated, h.runtime_states, h.reports_sorted, h.cells_sorted, h.alias_profile,
    h.after_snapshot, h.binding_merged⟩

section Evaluated

variable [RouteHost]

/-! ### The prepared request -/

/-- The request that is evaluated. -/
def evaluatedRequest (r : RouteRequest) : Except ContractError RouteRequest :=
  match r.miAdmission with
  | none => .ok r
  | some mi => Prod.fst <$> miInputs r mi none

/-- What the evaluated request shares with the original. -/
structure Evaluates (r e : RouteRequest) : Prop where
  inputs_eq : e.toRouteInputs =
    { r.toRouteInputs with
      catalog := e.catalog
      miAdmission := none
      miBlocked := e.miBlocked
      miChannels := e.miChannels }
  version_eq : e.catalog.catalogVersion = r.catalog.catalogVersion
  identity_mem : ∀ entry ∈ e.catalog.entries, ∃ original ∈ r.catalog.entries,
    entry.identity = original.identity
  versioned_entries : r.isRuntime = false →
    e.catalog.entries.map (fun entry => (entry.identity, entry.reasoningEffort)) =
      r.catalog.entries.map fun entry => (entry.identity, entry.reasoningEffort)

omit [RouteHost] in
/-- The evaluated request is of the same catalog mode. -/
theorem Evaluates.isRuntime_eq {r e : RouteRequest} (h : Evaluates r e) :
    e.isRuntime = r.isRuntime := by
  unfold RouteInputs.isRuntime
  rw [h.version_eq]

/-- The prepared inputs are valid, and share everything but the catalog and the MI members. -/
theorem prepared_valid {r : RouteRequest} {mi : MIAdmission} {local_ catalog : ModelCatalog}
    {blocked : Finset ModelIdentity} (hlocal : miLocalCatalog r = .ok local_)
    (hprepare : mi.prepare local_ r.evaluatedAt = .ok (catalog, blocked))
    (admitted : List (ModelIdentity × Option SafeId)) :
    ∃ hvalid : ({ r.toRouteInputs with
        catalog
        miAdmission := none
        miBlocked := r.miBlocked ∪ blocked
        miChannels := r.miChannels ++ admitted } : RouteInputs).Valid, Evaluates r ⟨_, hvalid⟩ := by
  obtain ⟨hlocalVersion, hknown, hcandidates, hversioned⟩ := miLocalCatalog_spec hlocal
  obtain ⟨hversion, hentries⟩ := mi.prepare_eq_ok hprepare
  have hidentities : catalog.entries.map (·.identity) = local_.entries.map (·.identity) := by
    have hfst := congrArg (List.map Prod.fst) hentries
    rwa [List.map_map, List.map_map] at hfst
  have hvalid := (r.valid.withCatalog catalog
    (by rwa [hidentities]) (hversion.trans hlocalVersion)).withEvidence none
    (r.miBlocked ∪ blocked) (r.miChannels ++ admitted)
  refine ⟨hvalid, rfl, hversion.trans hlocalVersion, fun entry hentry => ?_, fun hr => ?_⟩
  · have hmem := hknown entry.identity (hidentities ▸ List.mem_map_of_mem hentry)
    obtain ⟨original, horiginal, hident⟩ := List.mem_map.mp hmem
    exact ⟨original, horiginal, hident.symm⟩
  · rw [← hversioned hr]
    exact hentries

/-- **What MI preparation establishes.** -/
theorem miInputs_spec {r : RouteRequest} {mi : MIAdmission} {pin : Option PinnedTarget}
    {prepared : RouteRequest × MIContext} (h : miInputs r mi pin = .ok prepared) :
    Evaluates r prepared.1 := by
  unfold miInputs at h
  obtain ⟨local_, hlocal, h⟩ := bind_eq_ok.mp h
  obtain ⟨⟨catalog, blocked⟩, hprepare, h⟩ := bind_eq_ok.mp h
  obtain ⟨admitted, -, h⟩ := bind_eq_ok.mp h
  obtain ⟨effective, hmake, h⟩ := bind_eq_ok.mp h
  obtain rfl := Except.ok.inj h
  obtain ⟨hvalid, hevaluates⟩ := prepared_valid hlocal hprepare admitted
  obtain rfl := Except.ok.inj ((RouteRequest.make_of_valid hvalid).symm.trans hmake)
  exact hevaluates

/-! ### The evaluated request -/

section Modes

variable {r : RouteRequest} {mi : MIAdmission} {pin : PinnedTarget}

theorem evaluatedRequest_of_none (h : r.miAdmission = none) : evaluatedRequest r = .ok r := by
  unfold evaluatedRequest
  rw [h]

theorem evaluatedRequest_of_some (h : r.miAdmission = some mi) :
    evaluatedRequest r = Prod.fst <$> miInputs r mi none := by
  unfold evaluatedRequest
  rw [h]

theorem routeRequest_of_none (h : r.miAdmission = none) : routeRequest r = routeCore r := by
  unfold routeRequest
  rw [h]

theorem admitPinnedTarget_of_none (h : r.miAdmission = none) :
    admitPinnedTarget r pin = admitCore r pin := by
  unfold admitPinnedTarget
  rw [h]

/-- The receipt of a route under an MI admission. -/
def routeReceipt (r : RouteRequest) (mi : MIAdmission) (context : MIContext)
    (decision : RouteDecision) : RouteDecision :=
  { decision with
    miUse := some
      { cut := mi.cut
        evaluatedAt := r.evaluatedAt
        context
        decision := (decision.toRouteContent, decision.decisionId) } }

theorem routeRequest_of_some (h : r.miAdmission = some mi) : routeRequest r = (do
    let prepared ← miInputs r mi none
    let decision ← routeCore prepared.1
    return routeReceipt r mi prepared.2 decision) := by
  unfold routeRequest
  rw [h]
  rfl

/-- The receipt of a pinned admission under an MI admission. -/
def admissionReceipt (r : RouteRequest) (mi : MIAdmission) (context : MIContext)
    (decision : AdmissionDecision) : AdmissionDecision :=
  { decision with
    miUse := some
      { cut := mi.cut
        evaluatedAt := r.evaluatedAt
        context
        decision := decision.toAdmissionContent } }

theorem admitPinnedTarget_of_some (h : r.miAdmission = some mi) : admitPinnedTarget r pin = (do
    let prepared ← miInputs r mi (some pin)
    let decision ← admitCore prepared.1 pin
    return admissionReceipt r mi prepared.2 decision) := by
  unfold admitPinnedTarget
  rw [h]
  rfl

end Modes

/-- The prepared request does not depend on the pin. -/
theorem miInputs_fst (r : RouteRequest) (mi : MIAdmission) (pin : Option PinnedTarget) :
    Prod.fst <$> miInputs r mi pin = Prod.fst <$> miInputs r mi none := by
  unfold miInputs
  simp only [map_bind, map_pure]

/-- The evaluated request shares everything but the catalog and the MI members. -/
theorem evaluatedRequest_spec {r e : RouteRequest} (h : evaluatedRequest r = .ok e) :
    Evaluates r e := by
  cases hmi : r.miAdmission with
  | none =>
    rw [evaluatedRequest_of_none hmi] at h
    obtain rfl := Except.ok.inj h
    refine ⟨?_, rfl, fun entry hentry => ⟨entry, hentry, rfl⟩, fun _ => rfl⟩
    rw [← hmi]
  | some mi =>
    rw [evaluatedRequest_of_some hmi] at h
    obtain ⟨prepared, hprepared, rfl⟩ := map_eq_ok.mp h
    exact miInputs_spec hprepared

/-- **The route is the route of the evaluated request**, next to a receipt. -/
theorem routeRequest_eq_ok {r : RouteRequest} {d : RouteDecision} (h : routeRequest r = .ok d) :
    ∃ e core, evaluatedRequest r = .ok e ∧ routeCore e = .ok core ∧
      d.toRouteContent = core.toRouteContent ∧ d.decisionId = core.decisionId := by
  cases hmi : r.miAdmission with
  | none =>
    rw [routeRequest_of_none hmi] at h
    exact ⟨r, d, evaluatedRequest_of_none hmi, h, rfl, rfl⟩
  | some mi =>
    rw [routeRequest_of_some hmi] at h
    obtain ⟨prepared, hprepared, h⟩ := bind_eq_ok.mp h
    obtain ⟨core, hcore, h⟩ := bind_eq_ok.mp h
    obtain rfl := Except.ok.inj h
    refine ⟨prepared.1, core, ?_, hcore, rfl, rfl⟩
    rw [evaluatedRequest_of_some hmi]
    exact map_eq_ok.mpr ⟨prepared, hprepared, rfl⟩

/-- A decision of the evaluated request is one of the request. -/
theorem routeRequest_of_core {r e : RouteRequest} {core : RouteDecision}
    (he : evaluatedRequest r = .ok e) (hcore : routeCore e = .ok core) :
    ∃ d, routeRequest r = .ok d ∧ d.toRouteContent = core.toRouteContent := by
  cases hmi : r.miAdmission with
  | none =>
    rw [evaluatedRequest_of_none hmi] at he
    obtain rfl := Except.ok.inj he
    rw [routeRequest_of_none hmi]
    exact ⟨core, hcore, rfl⟩
  | some mi =>
    rw [evaluatedRequest_of_some hmi] at he
    obtain ⟨prepared, hprepared, rfl⟩ := map_eq_ok.mp he
    rw [routeRequest_of_some hmi]
    exact ⟨_, bind_eq_ok.mpr ⟨prepared, hprepared, bind_eq_ok.mpr ⟨core, hcore, rfl⟩⟩, rfl⟩

theorem routeRequest_returns_iff (r : RouteRequest) : Returns (routeRequest r) ↔
    ∃ e, evaluatedRequest r = .ok e ∧ Returns (routeCore e) := by
  constructor
  · rintro ⟨d, h⟩
    obtain ⟨e, core, he, hcore, -⟩ := routeRequest_eq_ok h
    exact ⟨e, he, core, hcore⟩
  · rintro ⟨e, he, core, hcore⟩
    obtain ⟨d, hd, -⟩ := routeRequest_of_core he hcore
    exact ⟨d, hd⟩

/-- **The admission is the admission of the evaluated request**, next to a receipt. -/
theorem admitPinnedTarget_eq_ok {r : RouteRequest} {pin : PinnedTarget} {d : AdmissionDecision}
    (h : admitPinnedTarget r pin = .ok d) :
    ∃ e core, evaluatedRequest r = .ok e ∧ admitCore e pin = .ok core ∧
      d.toAdmissionContent = core.toAdmissionContent := by
  cases hmi : r.miAdmission with
  | none =>
    rw [admitPinnedTarget_of_none hmi] at h
    exact ⟨r, d, evaluatedRequest_of_none hmi, h, rfl⟩
  | some mi =>
    rw [admitPinnedTarget_of_some hmi] at h
    obtain ⟨prepared, hprepared, h⟩ := bind_eq_ok.mp h
    obtain ⟨core, hcore, h⟩ := bind_eq_ok.mp h
    obtain rfl := Except.ok.inj h
    refine ⟨prepared.1, core, ?_, hcore, rfl⟩
    rw [evaluatedRequest_of_some hmi]
    exact (miInputs_fst r mi (some pin)).symm.trans (map_eq_ok.mpr ⟨prepared, hprepared, rfl⟩)

/-- An admission of the evaluated request is one of the request. -/
theorem admitPinnedTarget_of_core {r e : RouteRequest} {pin : PinnedTarget}
    {core : AdmissionDecision} (he : evaluatedRequest r = .ok e) (hcore : admitCore e pin = .ok core) :
    ∃ d, admitPinnedTarget r pin = .ok d ∧ d.toAdmissionContent = core.toAdmissionContent := by
  cases hmi : r.miAdmission with
  | none =>
    rw [evaluatedRequest_of_none hmi] at he
    obtain rfl := Except.ok.inj he
    rw [admitPinnedTarget_of_none hmi]
    exact ⟨core, hcore, rfl⟩
  | some mi =>
    rw [evaluatedRequest_of_some hmi, ← miInputs_fst r mi (some pin)] at he
    obtain ⟨prepared, hprepared, rfl⟩ := map_eq_ok.mp he
    rw [admitPinnedTarget_of_some hmi]
    exact ⟨_, bind_eq_ok.mpr ⟨prepared, hprepared, bind_eq_ok.mpr ⟨core, hcore, rfl⟩⟩, rfl⟩

end Evaluated

end ScarcityRouter
