import ScarcityRouter.Routing.GateSpec
import ScarcityRouter.Routing.Route

namespace ScarcityRouter

open ScarcityRouter.Lib

/-!
# The runtime branch

What ranking a runtime inventory model by model and resource by resource establishes.

* `narrowedCatalog_singleton` — the one-entry request sees the same view as the whole request.
* `Accepts`, `evaluateTarget_spec` — a resource is a candidate exactly when the selector accepts
  the narrowed entry on the resource's own telemetry.
* `SoundOutcome`, `evaluateModel_returns_iff` — what one model's outcome says, and when there is
  one.
* `SoundRanking`, `rankRuntime_spec` — **the branch returns exactly when no routable model has a
  foreign candidate**: every model is validated again over its one-entry catalog.
-/

/-! ### One-identity views -/

/-- The view of one identity: its entry, unless the candidate set leaves it out. -/
theorem narrowedCatalog_one {i : RouteInputs} {identity : ModelIdentity}
    {entry : ModelCatalogEntry} (serving : ModelIdentity → List GatedResource)
    (hentry : i.catalog.lookup? identity = some entry) :
    (narrowedCatalog i [identity] serving).entries =
      if i.candidateIdentities.all (identity ∈ ·) then [viewEntry i serving entry] else [] := by
  obtain ⟨hmem, hident⟩ := ModelCatalog.lookup?_eq_some.mp hentry
  have hfilter : i.catalog.entries.filter (inView i [identity]) =
      if i.candidateIdentities.all (identity ∈ ·) then [entry] else [] := by
    split
    · rename_i hcandidate
      refine filter_eq_singleton (List.Nodup.of_map _ i.catalog.unique) hmem ?_ ?_
      · simp [inView, hident, hcandidate]
      · intro b hb hview
        simp only [inView, List.mem_singleton, Bool.and_eq_true, decide_eq_true_eq] at hview
        exact i.catalog.entry_ext hb hmem (hview.1.trans hident.symm)
    · rename_i hcandidate
      refine List.filter_eq_nil_iff.mpr fun b _ hview => hcandidate ?_
      simp only [inView, List.mem_singleton, Bool.and_eq_true, decide_eq_true_eq] at hview
      rw [hview.1] at hview
      exact hview.2
  unfold narrowedCatalog
  dsimp only
  rw [hfilter]
  split <;> rfl

/-- A runtime inventory has no release date. -/
theorem RouteInputs.updatedOn_of_runtime {i : RouteInputs} (h : i.isRuntime = true) :
    i.catalog.catalogVersion = none ∧ i.catalog.updatedOn = none := by
  have hversion : i.catalog.catalogVersion = none := Option.isNone_iff_eq_none.mp h
  refine ⟨hversion, ?_⟩
  have hdated := i.catalog.dated
  rw [hversion] at hdated
  exact Option.not_isSome_iff_eq_none.mp (by rw [hdated]; decide)

/-- **The one-entry request sees the same view** of its model as the whole request. -/
theorem narrowedCatalog_singleton {i : RouteInputs} {identity : ModelIdentity}
    {entry : ModelCatalogEntry} (serving : ModelIdentity → List GatedResource)
    (hruntime : i.isRuntime = true) (hentry : i.catalog.lookup? identity = some entry) :
    narrowedCatalog { i with catalog := singletonCatalog entry } [identity] serving =
      narrowedCatalog i [identity] serving := by
  obtain ⟨hversion, hupdated⟩ := RouteInputs.updatedOn_of_runtime hruntime
  have hident := (ModelCatalog.lookup?_eq_some.mp hentry).2
  have hone : (singletonCatalog entry).lookup? identity = some entry :=
    ModelCatalog.lookup?_eq_some.mpr ⟨List.mem_singleton_self _, hident⟩
  have hview : viewEntry { i with catalog := singletonCatalog entry } serving entry =
      viewEntry i serving entry := by
    have hflag : ({ i with catalog := singletonCatalog entry } : RouteInputs).isRuntime =
        i.isRuntime := by
      rw [hruntime]
      rfl
    unfold viewEntry
    rw [hflag]
  have hentries := (narrowedCatalog_one (i := { i with catalog := singletonCatalog entry }) serving
    hone).trans ((narrowedCatalog_one serving hentry).trans (by rw [hview])).symm
  unfold narrowedCatalog at hentries ⊢
  dsimp only at hentries ⊢
  simp only [ModelCatalog.mk.injEq]
  exact ⟨hversion.symm, hupdated.symm, hentries⟩

/-- The entries of a one-identity view carry the identity. -/
theorem identity_of_mem_view {i : RouteInputs} {identity : ModelIdentity}
    {serving : ModelIdentity → List GatedResource} {entry : ModelCatalogEntry}
    (h : entry ∈ (narrowedCatalog i [identity] serving).entries) : entry.identity = identity := by
  obtain ⟨original, horiginal, rfl⟩ := List.mem_map.mp (mem_sortBy.mp h)
  have hview := (List.mem_filter.mp horiginal).2
  simp only [inView, List.mem_singleton, Bool.and_eq_true, decide_eq_true_eq] at hview
  rw [viewEntry_identity]
  exact hview.1

/-- An identity with a view is a candidate. -/
theorem candidate_of_mem_view {i : RouteInputs} {identity : ModelIdentity}
    {serving : ModelIdentity → List GatedResource} {entry : ModelCatalogEntry}
    (h : entry ∈ (narrowedCatalog i [identity] serving).entries) :
    ∀ candidates ∈ i.candidateIdentities, identity ∈ candidates := by
  obtain ⟨original, horiginal, rfl⟩ := List.mem_map.mp (mem_sortBy.mp h)
  have hview := (List.mem_filter.mp horiginal).2
  simp only [inView, List.mem_singleton, Bool.and_eq_true, decide_eq_true_eq,
    Option.all_eq_true] at hview
  obtain ⟨rfl, hcandidate⟩ := hview
  exact hcandidate

/-- The view of one identity has at most one entry. -/
theorem view_eq_singleton {i : RouteInputs} {identity : ModelIdentity}
    {serving : ModelIdentity → List GatedResource} {entry : ModelCatalogEntry}
    {rest : List ModelCatalogEntry}
    (h : (narrowedCatalog i [identity] serving).entries = entry :: rest) : rest = [] := by
  have hunique := (narrowedCatalog i [identity] serving).unique
  have hident : ∀ e ∈ (narrowedCatalog i [identity] serving).entries, e.identity = identity :=
    fun e he => identity_of_mem_view he
  rw [h] at hunique hident
  cases rest with
  | nil => rfl
  | cons other rest =>
    exfalso
    rw [List.map_cons, List.nodup_cons] at hunique
    refine hunique.1 ?_
    rw [hident entry List.mem_cons_self, ← hident other (List.mem_cons_of_mem _ List.mem_cons_self)]
    exact List.mem_map_of_mem List.mem_cons_self

/-! ### The telemetry of one resource -/

/-- A healthy resource always yields its scoped snapshot, and at most one. -/
theorem resourceSnapshots_of_healthy {resource : ResourceRegistryEntry}
    (hhealth : ∀ o ∈ resource.observation, o.health.status = .ok) (entry : ModelCatalogEntry) :
    ∃ snapshots, resourceSnapshots resource entry = .ok snapshots ∧ snapshots.length ≤ 1 := by
  unfold resourceSnapshots
  split
  · rename_i observation bindings hobservation _
    dsimp only
    rw [hhealth observation hobservation, CapacitySnapshot.make_ok]
    exact ⟨_, rfl, le_rfl⟩
  · exact ⟨[], rfl, Nat.zero_le _⟩

/-! ### Exclusions of the runtime branch -/

/-- The exclusion of an unverified effort is well formed. -/
theorem refusal_wellFormed (resource : ResourceIdentity) (identity : ModelIdentity) :
    (runtimeExclusion resource identity .binding [.reasoningEffortUnverified]).WellFormed :=
  ⟨List.pairwise_singleton _ _, ⟨_, List.mem_singleton_self _, List.mem_cons_of_mem _
    List.mem_cons_self⟩, nofun, nofun⟩

/-- **A model-level rejection always has its exclusion**, on the resource. -/
theorem rejectionExclusion_returns (resource : ResourceIdentity) (identity : ModelIdentity)
    (evaluation : CandidateEvaluation) :
    ∃ exclusion, rejectionExclusion resource identity evaluation = .ok exclusion ∧
      ∀ x ∈ exclusion, x.resourceId = resource.resourceId := by
  unfold rejectionExclusion
  split
  · exact ⟨none, rfl, fun _ h => nomatch h⟩
  · rename_i stage _
    split
    · exact ⟨none, rfl, fun _ h => nomatch h⟩
    · rename_i hne
      obtain ⟨code, hcode⟩ := List.exists_mem_of_ne_nil _ hne
      have hreason : code ∈ stage.reasons := by
        unfold rejectionCodes at hcode
        exact of_decide_eq_true (List.mem_filter.mp (mem_sortedSet.mp hcode)).2
      obtain ⟨x, hx⟩ := TargetExclusion.make_returns_iff.mpr
        (⟨strictlySorted_sortedSet _, ⟨code, hcode, hreason⟩, nofun, nofun⟩ :
          (runtimeExclusion resource identity stage (rejectionCodes evaluation stage)).WellFormed)
      refine ⟨some x, map_eq_ok.mpr ⟨x, hx, rfl⟩, ?_⟩
      rintro _ ⟨⟩
      rw [(TargetExclusion.make_eq_ok.mp hx).2]
      rfl

/-! ### Outcomes by identity -/

/-- The outcomes of distinct models, looked up by identity. -/
private theorem servingOf_eq {outcomes : List ModelOutcome} {o : ModelOutcome}
    (hunique : (outcomes.map (·.identity)).Nodup) (ho : o ∈ outcomes) :
    servingOf outcomes o.identity = o.eligible := by
  have hfind : outcomes.find? (·.identity = o.identity) = some o := by
    refine find?_eq_some_of_unique ho (by simp) fun b hb hbi => ?_
    exact List.inj_on_of_nodup_map hunique hb ho (of_decide_eq_true hbi)
  unfold servingOf
  rw [hfind]
  rfl

section Runtime

variable [RouteHost]

/-! ### One resource -/

/-- The selector accepts the model on the resource: the narrowed entry has the pinned effort and
    is selected over the resource's own telemetry. -/
def Accepts (i : RouteInputs) (requirement : TaskRequirement) (identity : ModelIdentity)
    (resource : GatedResource) : Prop :=
  matchesPin i.request resource = true ∧ ∃ entry,
    (narrowedCatalog i [identity] fun _ => [resource]).entries = [entry] ∧
    honoursEffort (pinnedEffort i.request) entry = true ∧
    ∃ snapshots, resourceSnapshots resource.entry entry = .ok snapshots ∧
    ∃ evaluated, runSelection i (narrowedCatalog i [identity] fun _ => [resource]) requirement
      (some snapshots) = .ok evaluated ∧ evaluated.selected ≠ none

/-- What one evaluated gate says: a candidate is an accepted resource, and a rejection carries its
    evaluation. -/
structure SoundTarget (i : RouteInputs) (requirement : TaskRequirement)
    (identity : ModelIdentity) (resource : GatedResource) (outcome : TargetOutcome) : Prop where
  candidate_iff : outcome.candidate? ≠ none ↔ Accepts i requirement identity resource
  candidate_spec : ∀ c ∈ outcome.candidate?, c.resource = resource ∧ c.entry.identity = identity ∧
    c.evaluation.identity = identity ∧ c.evaluation.eligible = true
  rejection_spec : ∀ p ∈ outcome.rejection?, p.1.identity = identity ∧
    ∃ e ∈ p.2, e.identity = identity ∧ e.eligible = false
  present : outcome.candidate? ≠ none ∨ outcome.rejection? ≠ none →
    ∀ candidates ∈ i.candidateIdentities, identity ∈ candidates
  exclusion_resource : ∀ x ∈ outcome.exclusion?,
    x.resourceId = resource.entry.identity.resourceId

section Outcomes

variable {i : RouteInputs} {requirement : TaskRequirement} {identity : ModelIdentity}
  {resource : GatedResource}

/-- A gate that contributes nothing is not accepted. -/
private theorem SoundTarget.skipped (hno : ¬ Accepts i requirement identity resource) :
    SoundTarget i requirement identity resource .skipped where
  candidate_iff := iff_of_false (fun h => h rfl) hno
  candidate_spec := fun _ h => nomatch h
  rejection_spec := fun _ h => nomatch h
  present := fun h => (h.elim (fun h => h rfl) fun h => h rfl).elim
  exclusion_resource := fun _ h => nomatch h

/-- A gate whose effort is unverified is not accepted. -/
private theorem SoundTarget.refused (hno : ¬ Accepts i requirement identity resource)
    {exclusion : TargetExclusion}
    (hresource : exclusion.resourceId = resource.entry.identity.resourceId) :
    SoundTarget i requirement identity resource (.refused exclusion) where
  candidate_iff := iff_of_false (fun h => h rfl) hno
  candidate_spec := fun _ h => nomatch h
  rejection_spec := fun _ h => nomatch h
  present := fun h => (h.elim (fun h => h rfl) fun h => h rfl).elim
  exclusion_resource := by
    rintro _ ⟨⟩
    exact hresource

/-- A selected gate is a candidate. -/
private theorem SoundTarget.candidate (hyes : Accepts i requirement identity resource)
    {c : TargetCandidate} (hresource : c.resource = resource)
    (hentry : c.entry.identity = identity) (hident : c.evaluation.identity = identity)
    (heligible : c.evaluation.eligible = true)
    (hpresent : ∀ candidates ∈ i.candidateIdentities, identity ∈ candidates) :
    SoundTarget i requirement identity resource (.candidate c) where
  candidate_iff := iff_of_true (fun h => Option.some_ne_none _ h) hyes
  candidate_spec := by
    rintro _ ⟨⟩
    exact ⟨hresource, hentry, hident, heligible⟩
  rejection_spec := fun _ h => nomatch h
  present := fun _ => hpresent
  exclusion_resource := fun _ h => nomatch h

/-- A rejected gate carries its evaluation. -/
private theorem SoundTarget.rejected (hno : ¬ Accepts i requirement identity resource)
    {entry : ModelCatalogEntry} (hentry : entry.identity = identity)
    {evaluation : CandidateEvaluation} (hident : evaluation.identity = identity)
    (hineligible : evaluation.eligible = false)
    (hpresent : ∀ candidates ∈ i.candidateIdentities, identity ∈ candidates)
    {exclusion : Option TargetExclusion}
    (hresource : ∀ x ∈ exclusion, x.resourceId = resource.entry.identity.resourceId) :
    SoundTarget i requirement identity resource (.rejected entry (some evaluation) exclusion) where
  candidate_iff := iff_of_false (fun h => h rfl) hno
  candidate_spec := fun _ h => nomatch h
  rejection_spec := by
    rintro _ ⟨⟩
    exact ⟨hentry, evaluation, rfl, hident, hineligible⟩
  present := fun _ => hpresent
  exclusion_resource := hresource

/-- Acceptance read at the one entry of the view. -/
theorem accepts_iff_of_view (hpin : matchesPin i.request resource = true)
    {entry : ModelCatalogEntry}
    (hentries : (narrowedCatalog i [identity] fun _ => [resource]).entries = [entry])
    (heffort : honoursEffort (pinnedEffort i.request) entry = true)
    {snapshots : List CapacitySnapshot}
    (hsnapshots : resourceSnapshots resource.entry entry = .ok snapshots)
    {evaluated : SelectionDecision}
    (hevaluated : runSelection i (narrowedCatalog i [identity] fun _ => [resource]) requirement
      (some snapshots) = .ok evaluated) :
    Accepts i requirement identity resource ↔ evaluated.selected ≠ none := by
  constructor
  · rintro ⟨-, entry', hentry', -, snapshots', hsnapshots', evaluated', hevaluated', hne⟩
    obtain rfl : entry = entry' := by
      rw [hentries] at hentry'
      exact (List.cons.inj hentry').1
    obtain rfl := Except.ok.inj (hsnapshots.symm.trans hsnapshots')
    obtain rfl := Except.ok.inj (hevaluated.symm.trans hevaluated')
    exact hne
  · intro hne
    exact ⟨hpin, entry, hentries, heffort, snapshots, hsnapshots, evaluated, hevaluated, hne⟩

/-- The selected and the excluded evaluations of a one-identity view are of the identity. -/
theorem view_evaluations {snapshots : Option (List CapacitySnapshot)}
    {evaluated : SelectionDecision} {serving : ModelIdentity → List GatedResource}
    (hevaluated : runSelection i (narrowedCatalog i [identity] serving) requirement snapshots =
      .ok evaluated) :
    (∀ e ∈ evaluated.selected, e.identity = identity ∧ e.eligible = true) ∧
    (∀ e ∈ evaluated.excluded, e.identity = identity ∧ e.eligible = false) := by
  refine ⟨fun e he => ?_, fun e he => ?_⟩
  · obtain ⟨heligible, source, hsource, hspec⟩ := exists_entry_of_selected hevaluated (.inl he)
    exact ⟨hspec.identity_eq.trans (identity_of_mem_view hsource), heligible⟩
  · obtain ⟨-, evaluations, heval, rfl⟩ := selectModel_eq_ok.mp hevaluated
    obtain ⟨hmem, hineligible⟩ := mem_excludedEvaluations.mp he
    obtain ⟨source, hsource, hspec⟩ := exists_of_mem_mapM heval hmem
    exact ⟨(evaluateCandidate_spec hspec).identity_eq.trans
      (identity_of_mem_view (mem_sortBy.mp hsource)), hineligible⟩

end Outcomes

/-- **One gate always evaluates**, soundly. -/
theorem evaluateTarget_spec {i : RouteInputs} (hvalid : i.Valid) (hruntime : i.isRuntime = true)
    (requirement : TaskRequirement) (identity : ModelIdentity) {resource : GatedResource}
    (hhealth : ∀ o ∈ resource.entry.observation, o.health.status = .ok) :
    ∃ outcome, evaluateTarget i i requirement identity resource = .ok outcome ∧
      SoundTarget i requirement identity resource outcome := by
  unfold evaluateTarget
  split
  · rename_i hpin
    exact ⟨_, rfl, .skipped fun ha => by simp [ha.1] at hpin⟩
  rename_i hpin
  replace hpin : matchesPin i.request resource = true := by simpa using hpin
  dsimp only
  split
  · rename_i hentries
    refine ⟨_, rfl, .skipped ?_⟩
    rintro ⟨-, entry, hentry, -⟩
    rw [hentries] at hentry
    cases hentry
  rename_i entry rest hentries
  obtain rfl := view_eq_singleton hentries
  have hview : entry ∈ (narrowedCatalog i [identity] fun _ => [resource]).entries :=
    hentries ▸ List.mem_cons_self
  have hident : entry.identity = identity := identity_of_mem_view hview
  have hpresent := candidate_of_mem_view hview
  split
  · rename_i heffort
    obtain ⟨exclusion, hmake⟩ := TargetExclusion.make_returns_iff.mpr
      (refusal_wellFormed resource.entry.identity entry.identity)
    refine ⟨.refused exclusion, map_eq_ok.mpr ⟨exclusion, hmake, rfl⟩, .refused ?_ ?_⟩
    · rintro ⟨-, entry', hentry', heffort', -⟩
      rw [hentries] at hentry'
      obtain rfl := (List.cons.inj hentry').1
      simp [heffort'] at heffort
    · rw [(TargetExclusion.make_eq_ok.mp hmake).2]
      rfl
  rename_i heffort
  replace heffort : honoursEffort (pinnedEffort i.request) entry = true := by simpa using heffort
  obtain ⟨snapshots, hsnapshots, hlength⟩ := resourceSnapshots_of_healthy hhealth entry
  obtain ⟨evaluated, hevaluated⟩ := runSelection_resource_returns hvalid hruntime
    (narrowedCatalog i [identity] fun _ => [resource]) requirement hlength
  have haccepts : Accepts i requirement identity resource ↔ evaluated.selected ≠ none :=
    accepts_iff_of_view hpin hentries heffort hsnapshots hevaluated
  obtain ⟨hselected, hexcluded⟩ := view_evaluations hevaluated
  rw [hsnapshots, ok_bind, hevaluated, ok_bind]
  split
  · rename_i evaluation hsome
    obtain ⟨hevident, heligible⟩ := hselected evaluation hsome
    exact ⟨_, rfl, .candidate (haccepts.mpr (by simp [hsome])) rfl hident hevident heligible
      hpresent⟩
  · rename_i hnone
    have hno : ¬ Accepts i requirement identity resource := fun ha => haccepts.mp ha hnone
    have hne := excluded_ne_nil_of_selected_none hevaluated (by simp [hentries]) hnone
    split
    · rename_i hnil
      exact absurd hnil hne
    · rename_i rejected others hcons
      obtain ⟨hevident, hineligible⟩ := hexcluded rejected (hcons ▸ List.mem_cons_self)
      obtain ⟨exclusion, hexclusion, hresource⟩ := rejectionExclusion_returns
        resource.entry.identity entry.identity rejected
      rw [hexclusion, ok_bind]
      exact ⟨_, rfl, .rejected hno hident hevident hineligible hpresent hresource⟩

/-! ### One model -/

/-- What one model's outcome says: its eligible resources are the accepted ones, and the evaluation
    that stands for it is eligible exactly when there is one. -/
structure SoundOutcome (i : RouteInputs) (requirement : TaskRequirement)
    (identity : ModelIdentity) (resources : List GatedResource) (outcome : ModelOutcome) :
    Prop where
  identity_eq : outcome.identity = identity
  chosen_identity : ∀ p ∈ outcome.chosen, p.1.identity = identity ∧ p.2.identity = identity
  chosen_candidate : outcome.chosen ≠ none →
    ∀ candidates ∈ i.candidateIdentities, identity ∈ candidates
  chosen_eligible : (∃ p ∈ outcome.chosen, p.2.eligible = true) ↔ outcome.eligible ≠ []
  mem_eligible : ∀ resource, resource ∈ outcome.eligible ↔
    resource ∈ resources ∧ Accepts i requirement identity resource
  exclusion_resource : ∀ x ∈ outcome.exclusions, ∃ resource ∈ resources,
    x.resourceId = resource.entry.identity.resourceId

/-- **A model always has its summary**, when its gates evaluate soundly. -/
theorem summarizeModel_spec {i : RouteInputs} {requirement : TaskRequirement}
    {identity : ModelIdentity} {resources : List GatedResource} {outcomes : List TargetOutcome}
    (hback : ∀ o ∈ outcomes, ∃ resource ∈ resources,
      SoundTarget i requirement identity resource o)
    (hforth : ∀ resource ∈ resources, ∃ o ∈ outcomes,
      SoundTarget i requirement identity resource o) :
    ∃ outcome, summarizeModel identity outcomes = .ok outcome ∧
      SoundOutcome i requirement identity resources outcome := by
  have hexclusions : ∀ x ∈ outcomes.filterMap TargetOutcome.exclusion?, ∃ resource ∈ resources,
      x.resourceId = resource.entry.identity.resourceId := by
    intro x hx
    obtain ⟨o, ho, hox⟩ := List.mem_filterMap.mp hx
    obtain ⟨resource, hresource, hsound⟩ := hback o ho
    exact ⟨resource, hresource, hsound.exclusion_resource x hox⟩
  have hcandidate : ∀ c ∈ outcomes.filterMap TargetOutcome.candidate?,
      c.resource ∈ resources ∧ Accepts i requirement identity c.resource ∧
        c.entry.identity = identity ∧ c.evaluation.identity = identity ∧
        c.evaluation.eligible = true := by
    intro c hc
    obtain ⟨o, ho, hoc⟩ := List.mem_filterMap.mp hc
    obtain ⟨resource, hresource, hsound⟩ := hback o ho
    obtain ⟨rfl, hspec⟩ := hsound.candidate_spec c hoc
    exact ⟨hresource, hsound.candidate_iff.mp (by simp [hoc]), hspec⟩
  have haccepted : ∀ resource ∈ resources, Accepts i requirement identity resource →
      ∃ c ∈ outcomes.filterMap TargetOutcome.candidate?, c.resource = resource := by
    intro resource hresource haccepts
    obtain ⟨o, ho, hsound⟩ := hforth resource hresource
    obtain ⟨c, hc⟩ := Option.ne_none_iff_exists'.mp (hsound.candidate_iff.mpr haccepts)
    exact ⟨c, List.mem_filterMap.mpr ⟨o, ho, hc⟩, (hsound.candidate_spec c hc).1⟩
  unfold summarizeModel
  dsimp only
  split
  · rename_i best rest hsorted
    have hbest : best ∈ outcomes.filterMap TargetOutcome.candidate? :=
      mem_sortBy.mp (hsorted ▸ List.mem_cons_self)
    obtain ⟨-, -, hentry, hident, heligible⟩ := hcandidate best hbest
    obtain ⟨o, ho, hob⟩ := List.mem_filterMap.mp hbest
    obtain ⟨_, -, hsound⟩ := hback o ho
    refine ⟨_, rfl, rfl, ?_, fun _ => hsound.present (.inl (by simp [hob])),
      iff_of_true ⟨_, rfl, heligible⟩
      (List.ne_nil_of_mem (List.mem_map_of_mem (mem_sortBy.mpr hbest))), ?_, hexclusions⟩
    · rintro _ ⟨⟩
      exact ⟨hentry, hident⟩
    · intro resource
      constructor
      · intro hmem
        obtain ⟨c, hc, rfl⟩ := List.mem_map.mp hmem
        obtain ⟨hresource, haccepts, -⟩ := hcandidate c (mem_sortBy.mp hc)
        exact ⟨hresource, haccepts⟩
      · rintro ⟨hresource, haccepts⟩
        obtain ⟨c, hc, rfl⟩ := haccepted resource hresource haccepts
        exact List.mem_map_of_mem (mem_sortBy.mpr hc)
  · rename_i hsorted
    have hno : ∀ resource, ¬ (resource ∈ resources ∧ Accepts i requirement identity resource) := by
      rintro resource ⟨hresource, haccepts⟩
      obtain ⟨c, hc, -⟩ := haccepted resource hresource haccepts
      rw [sortBy_eq_nil.mp hsorted] at hc
      cases hc
    have hempty : ∀ resource : GatedResource, resource ∈ ([] : List GatedResource) ↔
        resource ∈ resources ∧ Accepts i requirement identity resource :=
      fun resource => iff_of_false List.not_mem_nil (hno resource)
    split
    · refine ⟨_, rfl, rfl, (fun _ h => nomatch h), (fun h => absurd rfl h),
        iff_of_false ?_ (fun h => h rfl), hempty, hexclusions⟩
      rintro ⟨_, h, -⟩
      cases h
    · rename_i fallback first rest hrejections
      have hfirst : (fallback, first) ∈ outcomes.filterMap TargetOutcome.rejection? :=
        hrejections ▸ List.mem_cons_self
      obtain ⟨o, ho, hor⟩ := List.mem_filterMap.mp hfirst
      obtain ⟨resource, -, hsound⟩ := hback o ho
      obtain ⟨hentry, evaluation, heval, hident, hineligible⟩ := hsound.rejection_spec _ hor
      obtain rfl : first = some evaluation := heval
      refine ⟨_, rfl, rfl, ?_, fun _ => hsound.present (.inr (by simp [hor])),
        iff_of_false ?_ (fun h => h rfl), hempty, hexclusions⟩
      · rintro _ ⟨⟩
        exact ⟨hentry, hident⟩
      · rintro ⟨_, ⟨⟩, heligible⟩
        exact absurd (hineligible.symm.trans heligible) Bool.false_ne_true

/-- **One model of a runtime inventory returns exactly when it is its own only candidate**: the
    one-entry request is validated again, against the whole candidate set. -/
theorem evaluateModel_returns_iff {r : RouteRequest} (hruntime : r.isRuntime = true)
    (requirement : TaskRequirement) {gates : List ResourceGate} {identity : ModelIdentity}
    (hhealth : ∀ resource ∈ qualifiedFor gates identity, ∀ o ∈ resource.entry.observation,
      o.health.status = .ok)
    (hknown : ∃ entry ∈ r.catalog.entries, entry.identity = identity) :
    (Returns (evaluateModel r requirement gates identity) ↔
      ∀ candidates ∈ r.candidateIdentities, candidates ⊆ [identity]) ∧
    ∀ outcome, evaluateModel r requirement gates identity = .ok outcome →
      SoundOutcome r.toRouteInputs requirement identity (qualifiedFor gates identity) outcome := by
  obtain ⟨entry, hmem, hident⟩ := hknown
  have hentry : r.catalog.lookup? identity = some entry :=
    ModelCatalog.lookup?_eq_some.mpr ⟨hmem, hident⟩
  have hversion : (singletonCatalog entry).catalogVersion = r.catalog.catalogVersion :=
    (RouteInputs.updatedOn_of_runtime hruntime).1.symm
  have hmake := r.make_withCatalog_returns_iff hversion
  have hsingle : (singletonCatalog entry).entries.map (·.identity) = [identity] := by
    rw [← hident]
    rfl
  rw [hsingle] at hmake
  unfold evaluateModel
  rw [hentry]
  dsimp only
  -- The one-entry request, once valid, sees what the whole request sees.
  have hrun : ∀ one, RouteRequest.make { r.toRouteInputs with catalog := singletonCatalog entry } =
      .ok one → ∃ outcome, (do
        let outcomes ← (qualifiedFor gates identity).mapM
          (evaluateTarget r.toRouteInputs one.toRouteInputs requirement identity)
        summarizeModel identity outcomes) = .ok outcome ∧
      SoundOutcome r.toRouteInputs requirement identity (qualifiedFor gates identity) outcome := by
    intro one hone
    have hcandidates := hmake.mp ⟨one, hone⟩
    have hvalid := r.valid.withCatalog (singletonCatalog entry) (by rwa [hsingle]) hversion
    obtain rfl : ⟨_, hvalid⟩ = one := Except.ok.inj ((RouteRequest.make_of_valid hvalid).symm.trans
      hone)
    have hstep : ∀ resource ∈ qualifiedFor gates identity, ∃ o,
        evaluateTarget r.toRouteInputs { r.toRouteInputs with catalog := singletonCatalog entry }
          requirement identity resource = .ok o ∧
        SoundTarget r.toRouteInputs requirement identity resource o := by
      intro resource hresource
      have hsame : evaluateTarget r.toRouteInputs
          { r.toRouteInputs with catalog := singletonCatalog entry } requirement identity resource =
          evaluateTarget r.toRouteInputs r.toRouteInputs requirement identity resource := by
        unfold evaluateTarget
        rw [narrowedCatalog_singleton _ hruntime hentry]
      rw [hsame]
      exact evaluateTarget_spec r.valid hruntime requirement identity (hhealth resource hresource)
    obtain ⟨outcomes, hmapM, hback, hforth⟩ := mapM_sound hstep
    obtain ⟨outcome, hsummary, hsound⟩ := summarizeModel_spec hback hforth
    exact ⟨outcome, bind_eq_ok.mpr ⟨outcomes, hmapM, hsummary⟩, hsound⟩
  constructor
  · rw [returns_bind, ← hmake]
    constructor
    · rintro ⟨one, hone, -⟩
      exact ⟨one, hone⟩
    · rintro ⟨one, hone⟩
      obtain ⟨outcome, houtcome, -⟩ := hrun one hone
      exact ⟨one, hone, outcome, houtcome⟩
  · intro outcome h
    obtain ⟨one, hone, h⟩ := bind_eq_ok.mp h
    obtain ⟨outcome', houtcome', hsound⟩ := hrun one hone
    rwa [Except.ok.inj (h.symm.trans houtcome')]

/-! ### The whole branch -/

/-- What a ranked runtime inventory says. -/
structure SoundRanking (i : RouteInputs) (requirement : TaskRequirement)
    (gates : List ResourceGate) (routable : List ModelIdentity) (ranking : Ranking) : Prop where
  catalog_version : ranking.selection.catalogVersion = none
  selected_iff : ranking.selection.selected ≠ none ↔ ∃ identity ∈ routable,
    ∃ resource ∈ qualifiedFor gates identity, Accepts i requirement identity resource
  selected_serving : ∀ s ∈ ranking.selection.selected,
    s.identity ∈ routable ∧ ranking.serving s.identity ≠ []
  ranked_candidate : ∀ s, s ∈ ranking.selection.selected ∨ s ∈ ranking.selection.alternatives →
    s.identity ∈ routable ∧ ∀ candidates ∈ i.candidateIdentities, s.identity ∈ candidates
  mem_serving : ∀ identity ∈ routable, ∀ resource, resource ∈ ranking.serving identity ↔
    resource ∈ qualifiedFor gates identity ∧ Accepts i requirement identity resource
  exclusion_resource : ∀ x ∈ ranking.exclusions, ∃ identity ∈ routable,
    ∃ resource ∈ qualifiedFor gates identity, x.resourceId = resource.entry.identity.resourceId

/-- The outcomes of the models, one for each. -/
private theorem outcomes_identities {i : RouteInputs} {requirement : TaskRequirement}
    {gates : List ResourceGate} {identities : List ModelIdentity} {outcomes : List ModelOutcome}
    (h : List.Forall₂ (fun identity o =>
      SoundOutcome i requirement identity (qualifiedFor gates identity) o) identities outcomes) :
    outcomes.map (·.identity) = identities := by
  induction h with
  | nil => rfl
  | cons hsound _ ih => rw [List.map_cons, hsound.identity_eq, ih]

/-- **The ranking of a runtime inventory is sound**, once every model has its outcome. -/
private theorem soundRanking_of_outcomes {r : RouteRequest} {requirement : TaskRequirement}
    {gates : List ResourceGate} {routable : List ModelIdentity}
    (hunique : routable.Nodup) {outcomes : List ModelOutcome}
    (hmodels : List.Forall₂ (fun identity o =>
      SoundOutcome r.toRouteInputs requirement identity (qualifiedFor gates identity) o)
      (sortBy identityKey routable) outcomes) :
    ∃ ranking, (do
      let chosen := outcomes.filterMap (·.chosen)
      let narrowed ← ModelCatalog.make none none rfl (chosen.map Prod.fst)
      let selection ← assembleEvaluations narrowed requirement r.policy r.evaluatedAt
        (chosen.map Prod.snd) r.profileId r.selectionProfileVersion
      return ⟨selection, servingOf outcomes, outcomes.flatMap (·.exclusions)⟩) =
        (.ok ranking : Except ContractError Ranking) ∧
      SoundRanking r.toRouteInputs requirement gates routable ranking := by
  have hidentities := outcomes_identities hmodels
  have hnodup : (outcomes.map (·.identity)).Nodup := by
    rw [hidentities]
    exact (sortBy_perm _ _).nodup_iff.mpr hunique
  have hsound : ∀ o ∈ outcomes, o.identity ∈ routable ∧
      SoundOutcome r.toRouteInputs requirement o.identity (qualifiedFor gates o.identity) o := by
    intro o ho
    have hmem : o.identity ∈ routable := by
      have hsorted := List.mem_map_of_mem (f := (·.identity)) ho
      rw [hidentities] at hsorted
      exact mem_sortBy.mp hsorted
    obtain ⟨n, hn, rfl⟩ := List.mem_iff_getElem.mp ho
    have hget := (List.forall₂_iff_get.mp hmodels).2 n (hmodels.length_eq ▸ hn) hn
    have hident := hget.identity_eq
    simp only [List.get_eq_getElem] at hget hident
    exact ⟨hmem, hident ▸ hget⟩
  have hexists : ∀ identity ∈ routable, ∃ o ∈ outcomes, o.identity = identity := by
    intro identity hmem
    have hsorted : identity ∈ sortBy identityKey routable := mem_sortBy.mpr hmem
    rw [← hidentities] at hsorted
    exact List.mem_map.mp hsorted
  set chosen := outcomes.filterMap (·.chosen)
  have hchosen : ∀ p ∈ chosen, ∃ o ∈ outcomes, o.chosen = some p := fun p hp =>
    List.mem_filterMap.mp hp
  have hcatalog : ((chosen.map Prod.fst).map (·.identity)).Nodup := by
    rw [List.map_map]
    exact hnodup.sublist (map_filterMap_sublist fun o ho p hp =>
      ((hsound o ho).2.chosen_identity p hp).1)
  have hmatches : MatchesCatalog ⟨none, none, chosen.map Prod.fst, hcatalog, rfl⟩
      (chosen.map Prod.snd) := by
    unfold MatchesCatalog
    rw [List.map_map, List.map_map]
    refine .of_eq (List.map_congr_left fun p hp => ?_)
    obtain ⟨o, ho, hop⟩ := hchosen p hp
    obtain ⟨hfst, hsnd⟩ := (hsound o ho).2.chosen_identity p hop
    exact hsnd.trans hfst.symm
  have hprofile : r.profileId = none → r.selectionProfileVersion = none := by
    intro hnone
    unfold RouteInputs.selectionProfileVersion
    rw [Option.map_eq_none_iff.mp hnone]
    rfl
  dsimp only
  rw [ModelCatalog.make_eq_ok hcatalog, ok_bind,
    assembleEvaluations_eq_ok requirement r.policy r.evaluatedAt hmatches hprofile, ok_bind]
  have hserving : ∀ o ∈ outcomes, servingOf outcomes o.identity = o.eligible :=
    fun o ho => servingOf_eq hnodup ho
  have hranked : ∀ e ∈ chosen.map Prod.snd, ∃ o ∈ outcomes, ∃ p ∈ o.chosen,
      p.2 = e ∧ e.identity = o.identity := by
    intro e he
    obtain ⟨p, hp, rfl⟩ := List.mem_map.mp he
    obtain ⟨o, ho, hop⟩ := hchosen p hp
    exact ⟨o, ho, p, hop, rfl, ((hsound o ho).2.chosen_identity p hop).2⟩
  refine ⟨_, rfl, rfl, ?_, ?_, ?_, ?_, ?_⟩
  · rw [ne_eq, assembledDecision_selected_eq_none]
    constructor
    · intro hsome
      push Not at hsome
      obtain ⟨e, he, heligible⟩ := hsome
      obtain ⟨o, ho, p, hop, rfl, -⟩ := hranked e he
      have hne := (hsound o ho).2.chosen_eligible.mp ⟨p, hop, by simpa using heligible⟩
      obtain ⟨resource, hresource⟩ := List.exists_mem_of_ne_nil _ hne
      exact ⟨o.identity, (hsound o ho).1, resource, (hsound o ho).2.mem_eligible resource |>.mp
        hresource⟩
    · rintro ⟨identity, hmem, resource, hresource, haccepts⟩ hnone
      obtain ⟨o, ho, rfl⟩ := hexists identity hmem
      obtain ⟨p, hop, heligible⟩ := (hsound o ho).2.chosen_eligible.mpr (List.ne_nil_of_mem
        ((hsound o ho).2.mem_eligible resource |>.mpr ⟨hresource, haccepts⟩))
      have hp : p ∈ chosen := List.mem_filterMap.mpr ⟨o, ho, hop⟩
      have hineligible := hnone p.2 (List.mem_map_of_mem hp)
      exact Bool.false_ne_true (hineligible.symm.trans heligible)
  · intro s hs
    obtain ⟨hmem, heligible⟩ := mem_of_assembledDecision (.inl hs)
    obtain ⟨o, ho, p, hop, rfl, hident⟩ := hranked s hmem
    dsimp only
    rw [hident, hserving o ho]
    exact ⟨(hsound o ho).1, (hsound o ho).2.chosen_eligible.mp ⟨p, hop, heligible⟩⟩
  · intro s hs
    obtain ⟨hmem, -⟩ := mem_of_assembledDecision hs
    obtain ⟨o, ho, p, hop, rfl, hident⟩ := hranked s hmem
    rw [hident]
    exact ⟨(hsound o ho).1, (hsound o ho).2.chosen_candidate (Option.ne_none_iff_exists'.mpr ⟨p, hop⟩)⟩
  · intro identity hmem resource
    obtain ⟨o, ho, rfl⟩ := hexists identity hmem
    dsimp only
    rw [hserving o ho]
    exact (hsound o ho).2.mem_eligible resource
  · intro x hx
    obtain ⟨o, ho, hxo⟩ := List.mem_flatMap.mp hx
    exact ⟨o.identity, (hsound o ho).1, (hsound o ho).2.exclusion_resource x hxo⟩

/-- **The runtime branch returns exactly when no routable model has a foreign candidate**, and
    what it returns is sound. -/
theorem rankRuntime_spec {r : RouteRequest} (hruntime : r.isRuntime = true)
    (requirement : TaskRequirement) (gates : List ResourceGate) (routable : List ModelIdentity)
    (hhealth : ∀ identity, ∀ resource ∈ qualifiedFor gates identity,
      ∀ o ∈ resource.entry.observation, o.health.status = .ok)
    (hknown : ∀ identity ∈ routable, ∃ entry ∈ r.catalog.entries, entry.identity = identity)
    (hunique : routable.Nodup) :
    (Returns (rankRuntime r requirement gates routable) ↔
      ∀ identity ∈ routable, ∀ candidates ∈ r.candidateIdentities, candidates ⊆ [identity]) ∧
    ∀ ranking, rankRuntime r requirement gates routable = .ok ranking →
      SoundRanking r.toRouteInputs requirement gates routable ranking := by
  have hmodel := fun identity hmem => evaluateModel_returns_iff hruntime requirement
    (hhealth identity) (hknown identity hmem)
  have hsound : ∀ outcomes,
      (sortBy identityKey routable).mapM (evaluateModel r requirement gates) = .ok outcomes →
      List.Forall₂ (fun identity o =>
        SoundOutcome r.toRouteInputs requirement identity (qualifiedFor gates identity) o)
        (sortBy identityKey routable) outcomes := by
    intro outcomes h
    refine List.forall₂_iff_get.mpr ⟨(mapM_eq_ok.mp h).length_eq, fun n h1 h2 => ?_⟩
    have hget := (List.forall₂_iff_get.mp (mapM_eq_ok.mp h)).2 n h1 h2
    exact (hmodel _ (mem_sortBy.mp (List.get_mem _ _))).2 _ hget
  unfold rankRuntime
  constructor
  · rw [returns_bind]
    constructor
    · rintro ⟨outcomes, h, -⟩ identity hmem
      exact (hmodel identity hmem).1.mp (returns_mapM.mp ⟨outcomes, h⟩ identity
        (mem_sortBy.mpr hmem))
    · intro h
      have hall : ∀ identity ∈ sortBy identityKey routable,
          Returns (evaluateModel r requirement gates identity) := fun identity hmem =>
        (hmodel identity (mem_sortBy.mp hmem)).1.mpr (h identity (mem_sortBy.mp hmem))
      obtain ⟨outcomes, houtcomes⟩ := returns_mapM.mpr hall
      obtain ⟨ranking, hranking, -⟩ := soundRanking_of_outcomes hunique
        (hsound outcomes houtcomes)
      exact ⟨outcomes, houtcomes, ranking, hranking⟩
  · intro ranking h
    obtain ⟨outcomes, houtcomes, h⟩ := bind_eq_ok.mp h
    obtain ⟨ranking', hranking', hspec⟩ := soundRanking_of_outcomes hunique
      (hsound outcomes houtcomes)
    rwa [Except.ok.inj (h.symm.trans hranking')]

end Runtime

end ScarcityRouter
