import ScarcityRouter.ControlPlane.Plane
import ScarcityRouter.Registry.Derivation
import ScarcityRouter.Registry.Observations

namespace ScarcityRouter

open ScarcityRouter.Lib
open ScarcityRouter.Lib.Stateful

/-!
# Combined worker reports

`apply_combined_worker_report` of `control_api.py`: the inventories and the observations of one
report, applied as one cut.

* `ControlPlane.applySourceInventory`, `ControlPlane.applyWorkerReport` — the two parts.
* `ControlPlane.applyCombinedWorkerReport` — the method, which restores what it found where any
  part of it fails.
* `Adopted`, `Committed` — what a report commits, and `AsFound` — what it restores.
* `KeepsForeign` — no observation of another resource is in the way of the report, and
  `combined_report_atomic` — **what a report commits or restores, and when it keeps the rest.**
-/

variable {A : Type}

/-! ### Reports -/

/-- `AUTH_UNPROBEABLE_KINDS`. -/
def SourceKind.unprobeable (kind : SourceKind) : Bool := kind = .zcodeSubscription

/-- The inventory of a source whose resources a report may not observe. -/
def SourceInventory.unauthenticated (inventory : SourceInventory) : Bool :=
  inventory.authState ≠ .authenticated &&
    !(inventory.kind.unprobeable && inventory.authState = .unverified)

/-- The report of some of the resources. -/
def WorkerStateReport.filter (report : WorkerStateReport) (p : ResourceObservation → Bool) :
    WorkerStateReport where
  workerId := report.workerId
  reportedAt := report.reportedAt
  resources := report.resources.filter p
  sorted := report.sorted.sublist List.filter_sublist
  reportable o ho := report.reportable o (List.mem_of_mem_filter ho)
  reported o ho := report.reported o (List.mem_of_mem_filter ho)

/-- `source_by_id(resource_id.partition(":")[0])`. -/
def ConfigurationFields.sourceOf (f : ConfigurationFields) (resourceId : SafeId) :
    Option SourceConfig :=
  f.sources.find? (·.sourceId.text.toList == sourceHead resourceId)

/-- `_configured_worker_owner`. -/
def ConfigurationFields.configuredWorkerOwner (f : ConfigurationFields) (resourceId : SafeId) :
    Option SafeId :=
  match f.resourceById resourceId with
  | some resource =>
    if !resource.enabled then none
    else if resource.registration.identity.channel ≠ .workerBridged then none
    else resource.workerId
  | none =>
    if isSourceResourceId resourceId then (f.sourceOf resourceId).map (·.workerId) else none

namespace ControlPlane

/-- A refusal of a report. -/
def refused (message : String) : PlaneException := .value (.stated message)

/-! ### Inventories -/

/-- The first loop of `_apply_source_inventory`: the inventories still belong to the worker. -/
def checkBelongs (inventory : ModelInventoryReport) (config : ServerConfiguration) :
    Except PlaneException Unit :=
  check (∀ item ∈ inventory.sources, ∃ source, config.sourceById item.sourceId = some source ∧
      source.workerId = inventory.workerId ∧ source.kind = item.kind)
    (refused "source inventory no longer belongs to this worker")

/-- An observation of a resource whose source is not authenticated, by its id alone. -/
def contradicted (inventory : ModelInventoryReport) (o : ResourceObservation) : Bool :=
  inventory.sources.any fun item =>
    item.authState ≠ .authenticated &&
      item.sourceId.text.toList == sourceHead o.identity.resourceId

/-- The sources after an inventory, and the observations it does not contradict. -/
def takeInventory (inventory : ModelInventoryReport) (sources : SourceRegistry)
    (plane : ControlPlane A) : ControlPlane A :=
  { plane with
    sourceRegistry := sources
    observations := plane.observations.delete (contradicted inventory) }

/-- `_apply_source_inventory`. -/
def applySourceInventory (x : RebuildSurroundings A) (inventory : ModelInventoryReport) :
    Stateful PlaneException (ControlPlane A) Unit := do
  let plane ← get
  raise (checkBelongs inventory plane.config)
  modify syncSources
  let plane ← get
  let sources ← raise ((plane.sourceRegistry.applyInventory inventory).mapError .value)
  modify (takeInventory inventory sources)
  rebuildApplication x

/-! ### Observations -/

/-- The resources of a report belong to its worker. -/
def checkOwned (report : WorkerStateReport) (config : ServerConfiguration) :
    Except PlaneException Unit :=
  check (∀ o ∈ report.resources,
      config.configuredWorkerOwner o.identity.resourceId = some report.workerId)
    (refused "resource no longer belongs to this worker")

/-- The registry of the application is written in place, and the observations are retained. -/
def recordReport (report : WorkerStateReport) (registry : ResourceRegistry)
    (plane : ControlPlane A) : ControlPlane A :=
  { plane with
    application :=
      { plane.application with content := { plane.application.content with registry } }
    observations := report.resources.foldl Table.put plane.observations
    application_lt := plane.application_lt }

/-- `_apply_worker_report`. -/
def applyWorkerReport (clock : ℕ → Timestamp) (report : WorkerStateReport) :
    Stateful PlaneException (ControlPlane A) Unit := do
  let plane ← get
  raise (checkOwned report plane.config)
  match plane.application.content.registry.applyWorkerReport clock report with
  | (.error e, _) => throw (.capacity e)
  | (.ok (), registry) => modify (recordReport report registry)

/-! ### The combined report -/

/-- What the functions that a combined report calls give it: the rebuild of each inventory has
    surroundings of its own. -/
structure CombinedSurroundings (A : Type) where
  /-- `_publish_producer_change`, before anything is saved. -/
  publishBefore : Except PlaneException Unit
  rebuild : ℕ → RebuildSurroundings A
  registryClock : ℕ → Timestamp
  /-- `_publish_producer_change`, of the new state. -/
  publishAfter : Except PlaneException Unit

/-- The part of the first loop for one source: it is named once, by the adapter of its
    configuration. -/
def checkInventory (config : ServerConfiguration) (seen : List SafeId) (item : SourceInventory) :
    Except PlaneException (List SafeId) := do
  check (item.sourceId ∉ seen) (refused "duplicate source inventory")
  check (∃ source, config.sourceById item.sourceId = some source ∧
      item.adapterId.text = SourceState.adapterId source)
    (refused "source inventory adapter does not match configuration")
  return seen ++ [item.sourceId]

/-- The loop over the inventories; `i` counts the rebuilds. -/
def applyInventories (x : CombinedSurroundings A) (report : WorkerStateReport) (i : ℕ) :
    List ModelInventoryReport → Stateful PlaneException (ControlPlane A) Unit
  | [] => pure ()
  | inventory :: inventories => do
    raise (check (inventory.workerId = report.workerId)
      (refused "inventory worker does not match report"))
    applySourceInventory (x.rebuild i) inventory
    applyInventories x report (i + 1) inventories

/-- A copy of the application takes its place, where no inventory has had it rebuilt. -/
def stageCopy (inventories : List ModelInventoryReport) (plane : ControlPlane A) :
    ControlPlane A :=
  if inventories = [] then plane.install plane.application.content else plane

/-- An observation that a report may store: not of a derived resource whose source is not
    authenticated, or that is not registered. -/
def applied (inventories : List ModelInventoryReport) (plane : ControlPlane A)
    (o : ResourceObservation) : Bool :=
  !(isSourceResourceId o.identity.resourceId &&
    (inventories.any (fun inventory => inventory.sources.any fun item =>
        item.unauthenticated && item.sourceId.text.toList == sourceHead o.identity.resourceId) ||
      (plane.application.content.registry.registration? o.identity.resourceId).isNone))

/-- The guarded part of `apply_combined_worker_report`. -/
def applyCombined (x : CombinedSurroundings A) (report : WorkerStateReport)
    (inventories : List ModelInventoryReport) :
    Stateful PlaneException (ControlPlane A) WorkerStateReport := do
  let plane ← get
  let _ ← raise ((inventories.flatMap (·.sources)).foldlM (checkInventory plane.config) [])
  raise (checkOwned report plane.config)
  applyInventories x report 0 inventories
  modify (stageCopy inventories)
  let plane ← get
  let accepted := report.filter (applied inventories plane)
  applyWorkerReport x.registryClock accepted
  raise x.publishAfter
  return accepted

/-- The handler: what was saved is restored. -/
def restore (old : ControlPlane A) (plane : ControlPlane A) : ControlPlane A :=
  { plane with
    sourceRegistry := old.sourceRegistry
    observations := old.observations
    application := old.application
    adapters := old.adapters
    applicationGeneration := old.applicationGeneration
    constructed := max old.constructed plane.constructed
    adapters_lt := lt_max_of_lt_left old.adapters_lt
    application_lt := lt_max_of_lt_left old.application_lt }

/-- `apply_combined_worker_report`. -/
def applyCombinedWorkerReport (x : CombinedSurroundings A) (report : WorkerStateReport)
    (inventories : List ModelInventoryReport) :
    Stateful PlaneException (ControlPlane A) WorkerStateReport := do
  raise x.publishBefore
  let old ← get
  tryCatch (applyCombined x report inventories) fun e => do
    modify (restore old)
    throw e

/-! ### What an adoption leaves -/

variable {x : CombinedSurroundings A} {report : WorkerStateReport}
  {inventory : ModelInventoryReport} {inventories : List ModelInventoryReport}
  {plane staged after : ControlPlane A} {o : ResourceObservation} {resourceId : SafeId} {i : ℕ}

/-- A resource of one of the sources that an inventory names. -/
def InventoryNames (inventory : ModelInventoryReport) (resourceId : SafeId) : Prop :=
  ∃ item ∈ inventory.sources, item.sourceId.text.toList = sourceHead resourceId

/-- **The inventories are adopted**: each is taken, and the application rebuilt. -/
inductive Adopted (x : CombinedSurroundings A) (report : WorkerStateReport) :
    ℕ → List ModelInventoryReport → ControlPlane A → ControlPlane A → Prop
  | none {i : ℕ} {plane : ControlPlane A} : Adopted x report i [] plane plane
  | next {i : ℕ} {inventory : ModelInventoryReport} {inventories : List ModelInventoryReport}
      {plane rebuilt staged : ControlPlane A} {sources : SourceRegistry}
      (hworker : inventory.workerId = report.workerId)
      (hbelongs : checkBelongs inventory plane.config = .ok ())
      (hsources : plane.syncSources.sourceRegistry.applyInventory inventory = .ok sources)
      (hrebuild : Rebuilds (x.rebuild i) (takeInventory inventory sources plane.syncSources)
        (.ok ()) rebuilt)
      (hrest : Adopted x report (i + 1) inventories rebuilt staged) :
      Adopted x report i (inventory :: inventories) plane staged

/-- What no step of a report writes. -/
def Unwritten (plane after : ControlPlane A) : Prop :=
  after.config = plane.config ∧ after.tables = plane.tables

/-- **The loop over the inventories adopts them**, or it raises. -/
theorem applyInventories_spec : Leaves (fun _ after => Unwritten plane after)
    (fun _ staged => Unwritten plane staged ∧ Adopted x report i inventories plane staged)
    (applyInventories x report i inventories) plane := by
  induction inventories generalizing i plane with
  | nil => exact ⟨⟨rfl, rfl⟩, .none⟩
  | cons inventory inventories ih =>
    unfold applyInventories applySourceInventory
    simp only [leaves_bind, leaves_raise, leaves_modify, leaves_get]
    refine ⟨fun _ hworker => ⟨fun _ hbelongs => ⟨fun sources hsources => ?_, fun _ _ => ⟨rfl, rfl⟩⟩,
      fun _ _ => ⟨rfl, rfl⟩⟩, fun _ _ => ⟨rfl, rfl⟩⟩
    have hrebuild :=
      rebuildApplication_spec (x.rebuild i) (takeInventory inventory sources plane.syncSources)
    refine (Leaves.of_result (P := Rebuilds (x.rebuild i) _) hrebuild).mono
      (fun _ _ hfailed => hfailed.kept) fun _ rebuilt hrebuilt => ?_
    have hconfig : rebuilt.config = plane.config := hrebuilt.kept.1
    have htables : rebuilt.tables = plane.tables := hrebuilt.kept.2
    refine ih.mono (fun _ _ h => ⟨h.1.trans hconfig, h.2.trans htables⟩) fun _ _ h => ?_
    exact ⟨⟨h.1.1.trans hconfig, h.1.2.trans htables⟩,
      .next (check_eq_ok.mp hworker) hbelongs (mapError_eq_ok.mp hsources) hrebuilt h.2⟩

/-- What a rebuild that returns leaves of the sources and of the observations. -/
theorem Rebuilds.observations {x : RebuildSurroundings A} {rebuilt : ControlPlane A}
    (h : Rebuilds x plane (.ok ()) rebuilt) :
    rebuilt.sourceRegistry = plane.syncSources.sourceRegistry ∧
      ∃ derived, plane.syncSources.derivedRegistrations = .ok derived ∧
        rebuilt.observations = plane.observations.delete (ControlPlane.underived derived) := by
  cases h with
  | rebuilt hload hderive hassemble hcompose =>
    obtain ⟨_, _, hderive⟩ := bind_eq_ok.mp hderive
    obtain ⟨_, _, hderive⟩ := bind_eq_ok.mp hderive
    obtain ⟨derived, hderived, hderive⟩ := bind_eq_ok.mp hderive
    obtain ⟨-, rfl⟩ := Prod.mk.inj (Except.ok.inj hderive)
    exact ⟨rfl, derived, hderived, rfl⟩

/-- The derived registrations are those of the resources that the sources derive. -/
theorem mem_derived {derived : List ResourceRegistration}
    (h : plane.derivedRegistrations = .ok derived) :
    (∃ registration ∈ derived, registration.identity.resourceId = resourceId) ↔
      plane.sourceRegistry.Derives resourceId := by
  exact mem_derivedRegistrations (mapError_eq_ok.mp h)

/-- **A rebuild forgets the derived resources that are derived no longer**, and no other. -/
theorem Rebuilds.row? {x : RebuildSurroundings A} {rebuilt : ControlPlane A}
    (h : Rebuilds x plane (.ok ()) rebuilt) (hid : o.identity.resourceId = resourceId) :
    rebuilt.observations.row? resourceId = some o ↔ plane.observations.row? resourceId = some o ∧
      (isSourceResourceId resourceId = true → rebuilt.sourceRegistry.Derives resourceId) := by
  obtain ⟨hsources, derived, hderived, hobservations⟩ := h.observations
  have hunderived : ControlPlane.underived derived o = false ↔
      (isSourceResourceId resourceId = true → rebuilt.sourceRegistry.Derives resourceId) := by
    rw [hsources, ← mem_derived hderived, ← hid]
    unfold ControlPlane.underived
    cases isSourceResourceId o.identity.resourceId <;> simp
  rw [hobservations, Table.row?_delete, Option.filter_eq_some_iff, Bool.not_eq_true', hunderived]

/-- **A source that is not named in an inventory derives what it derived before.** -/
theorem Rebuilds.row?_sources {x : RebuildSurroundings A} {rebuilt : ControlPlane A}
    {sources : SourceRegistry}
    (h : Rebuilds x (takeInventory inventory sources plane.syncSources) (.ok ()) rebuilt)
    (hsources : plane.syncSources.sourceRegistry.applyInventory inventory = .ok sources)
    (sourceId : SafeId) (hid : ∀ item ∈ inventory.sources, item.sourceId ≠ sourceId) :
    rebuilt.sourceRegistry.sources.row? sourceId =
        plane.syncSources.sourceRegistry.sources.row? sourceId ∧
      rebuilt.syncSources.sourceRegistry.sources.row? sourceId =
        plane.syncSources.sourceRegistry.sources.row? sourceId := by
  have hrebuilt : rebuilt.sourceRegistry.sources.row? sourceId =
      plane.syncSources.sourceRegistry.sources.row? sourceId := by
    rw [h.observations.1]
    have happlied := applyInventory_row? hsources hid
    show (sources.syncConfiguration plane.config.sources
      plane.config.sources_distinct).sources.row? sourceId = _
    exact syncConfiguration_again happlied
  refine ⟨hrebuilt, ?_⟩
  have hconfig : rebuilt.config = plane.config := h.kept.1
  have hsynced : rebuilt.syncSources.sourceRegistry =
      rebuilt.sourceRegistry.syncConfiguration plane.config.sources
        plane.config.sources_distinct := by
    unfold syncSources
    simp only [hconfig]
  rw [hsynced]
  exact syncConfiguration_again hrebuilt

/-- No source of the inventory is the source of a resource that it does not name. -/
theorem ne_of_not_inventoryNames (h : ¬ InventoryNames inventory resourceId) {sourceId : SafeId}
    (hid : sourceId.text.toList = sourceHead resourceId) :
    ∀ item ∈ inventory.sources, item.sourceId ≠ sourceId := by
  rintro item hitem rfl
  exact h ⟨item, hitem, hid⟩

/-- An inventory contradicts no resource that it does not name. -/
theorem contradicted_of_not_inventoryNames (h : ¬ InventoryNames inventory o.identity.resourceId) :
    contradicted inventory o = false := by
  unfold contradicted
  rw [List.any_eq_false]
  intro item hitem hcontradicted
  rw [Bool.and_eq_true, beq_iff_eq] at hcontradicted
  exact h ⟨item, hitem, hcontradicted.2⟩

/-- What an inventory keeps of the observations. -/
theorem row?_takeInventory {sources : SourceRegistry} :
    (takeInventory inventory sources plane.syncSources).observations.row? resourceId = some o ↔
      plane.observations.row? resourceId = some o ∧ contradicted inventory o = false := by
  show (plane.observations.delete (contradicted inventory)).row? resourceId = some o ↔ _
  rw [Table.row?_delete, Option.filter_eq_some_iff, Bool.not_eq_true']

namespace Adopted

/-- After an adoption, a source that is not named derives what it derived before. -/
theorem derives (h : Adopted x report i inventories plane staged)
    (hnamed : ∀ inventory ∈ inventories, ¬ InventoryNames inventory resourceId) :
    inventories = [] ∨ (staged.sourceRegistry.Derives resourceId ↔
      plane.syncSources.sourceRegistry.Derives resourceId) := by
  induction h with
  | none => exact .inl rfl
  | next hworker hbelongs hsources hrebuild hrest ih =>
    right
    have hrows := fun sourceId hid => hrebuild.row?_sources hsources sourceId
      (ne_of_not_inventoryNames (hnamed _ List.mem_cons_self) hid)
    rcases ih fun inventory hmem => hnamed inventory (List.mem_cons_of_mem _ hmem) with rfl | hrest'
    · cases hrest
      exact SourceRegistry.derives_congr fun sourceId hid => (hrows sourceId hid).1
    · rw [hrest']
      exact SourceRegistry.derives_congr fun sourceId hid => (hrows sourceId hid).2

/-- **What an adoption keeps of the observations of the sources it does not name**: those that are
    derived. -/
theorem row?_derived (h : Adopted x report i inventories plane staged)
    (hid : o.identity.resourceId = resourceId) (hsource : isSourceResourceId resourceId = true)
    (hnamed : ∀ inventory ∈ inventories, ¬ InventoryNames inventory resourceId) :
    staged.observations.row? resourceId = some o ↔ plane.observations.row? resourceId = some o ∧
      (inventories = [] ∨ plane.syncSources.sourceRegistry.Derives resourceId) := by
  induction h with
  | none => simp
  | next hworker hbelongs hsources hrebuild hrest ih =>
    have hhere := hnamed _ List.mem_cons_self
    have hrows := fun sourceId hid => hrebuild.row?_sources hsources sourceId
      (ne_of_not_inventoryNames hhere hid)
    have hrebuilt := SourceRegistry.derives_congr fun sourceId hid => (hrows sourceId hid).1
    have hsynced := SourceRegistry.derives_congr fun sourceId hid => (hrows sourceId hid).2
    have hkept := contradicted_of_not_inventoryNames (o := o) (hid ▸ hhere)
    rw [ih fun inventory hmem => hnamed inventory (List.mem_cons_of_mem _ hmem), hsynced,
      hrebuild.row? hid, hrebuilt, row?_takeInventory]
    simp only [hsource, hkept, true_implies, and_true, List.cons_ne_nil, false_or]
    exact ⟨And.left, fun hboth => ⟨hboth, .inr hboth.2⟩⟩

/-- **What an adoption keeps of the observations of the configured resources**: those that no
    inventory contradicts. -/
theorem row?_configured (h : Adopted x report i inventories plane staged)
    (hid : o.identity.resourceId = resourceId) (hsource : isSourceResourceId resourceId = false) :
    staged.observations.row? resourceId = some o ↔ plane.observations.row? resourceId = some o ∧
      ∀ inventory ∈ inventories, contradicted inventory o = false := by
  induction h with
  | none => simp
  | next hworker hbelongs hsources hrebuild hrest ih =>
    rw [ih, hrebuild.row? hid, row?_takeInventory]
    simp only [hsource, Bool.false_eq_true, false_implies, and_true, List.forall_mem_cons]
    exact and_assoc

/-- An adoption observes nothing. -/
theorem mem_observations (h : Adopted x report i inventories plane staged)
    (ho : o ∈ staged.observations.rows) : o ∈ plane.observations.rows := by
  induction h with
  | none => exact ho
  | next hworker hbelongs hsources hrebuild hrest ih =>
    have hrow := Table.mem_rows.mp (ih ho)
    rw [hrebuild.row? rfl, row?_takeInventory] at hrow
    exact Table.mem_rows.mpr hrow.1.1

/-- The application is rebuilt by the last of the inventories. -/
theorem composedFrom (h : Adopted x report i inventories plane staged) :
    inventories = [] ∨ ∃ j, ComposedFrom (x.rebuild j) staged := by
  induction h with
  | none => exact .inl rfl
  | next hworker hbelongs hsources hrebuild hrest ih =>
    right
    rcases ih with rfl | hcomposed
    · cases hrest
      exact ⟨_, hrebuild.composedFrom⟩
    · exact hcomposed

end Adopted

/-! ### What is registered -/

/-- A resource is registered, whatever was observed of it. -/
theorem registrations_registerObserved {clock : SafeId → Timestamp} {observations : Observations}
    {registry registry' : ResourceRegistry} {registration : ResourceRegistration}
    (h : registerObserved clock observations registry registration = .ok registry') :
    registry'.registrations = registry.registrations ++ [registration] := by
  unfold registerObserved ResourceRegistry.register at h
  split_ifs at h
  dsimp only at h
  cases hrow : observations.row? registration.identity.resourceId with
  | none =>
    rw [hrow] at h
    rw [← Except.ok.inj h]
  | some observation =>
    rw [hrow] at h
    unfold ResourceRegistry.applySnapshot at h
    dsimp only at h
    split at h
    · cases h
    · rename_i hsnapshot
      split at hsnapshot
      · cases hsnapshot
      · obtain ⟨-, rfl⟩ := Prod.mk.inj hsnapshot
        rw [← Except.ok.inj h]

/-- The registrations of a rebuild, in their order. -/
theorem registrations_foldlM {clock : SafeId → Timestamp} {observations : Observations}
    {registrations : List ResourceRegistration} {registry registry' : ResourceRegistry}
    (h : registrations.foldlM (registerObserved clock observations) registry = .ok registry') :
    registry'.registrations = registry.registrations ++ registrations := by
  induction registrations generalizing registry with
  | nil =>
    obtain rfl := Except.ok.inj h
    rw [List.append_nil]
  | cons registration registrations ih =>
    rw [List.foldlM_cons] at h
    obtain ⟨_, hregistration, h⟩ := bind_eq_ok.mp h
    rw [ih h, registrations_registerObserved hregistration, List.append_assoc,
      List.singleton_append]

/-- **A derived id is registered where its source derives it.** -/
theorem ComposedFrom.registered {x : RebuildSurroundings A} (h : ComposedFrom x plane)
    (hsource : isSourceResourceId resourceId = true)
    (hregistered : plane.application.content.registry.registration? resourceId ≠ none) :
    plane.sourceRegistry.Derives resourceId := by
  obtain ⟨artifacts, derived, -, -, hderive, hregistry⟩ := h.artifacts
  obtain ⟨_, _, hderive⟩ := bind_eq_ok.mp hderive
  obtain ⟨_, _, hderive⟩ := bind_eq_ok.mp hderive
  obtain ⟨_, hderived, hderive⟩ := bind_eq_ok.mp hderive
  obtain ⟨-, rfl⟩ := Prod.mk.inj (Except.ok.inj hderive)
  obtain ⟨registration, hget⟩ := Option.ne_none_iff_exists'.mp hregistered
  obtain ⟨hmem, hid⟩ := (ResourceRegistry.registration?_eq_some _).mp hget
  rw [registrations_foldlM hregistry, List.nil_append, List.mem_append] at hmem
  rcases hmem with henabled | hmem
  · -- No resource is configured under the id of a derived one.
    obtain ⟨resource, hresource, rfl⟩ := List.mem_map.mp henabled
    have hnot := plane.config.none_derived resource (List.mem_of_mem_filter hresource)
    unfold ResourceConfig.resourceId at hnot
    rw [hid, hsource] at hnot
    cases hnot
  · exact (mem_derived hderived).mp ⟨registration, hmem, hid⟩

/-- A report registers nothing. -/
theorem registration?_applyWorkerReport {clock : ℕ → Timestamp}
    {registry registry' : ResourceRegistry}
    (h : registry.applyWorkerReport clock report = (.ok (), registry')) :
    registry'.registration? resourceId = registry.registration? resourceId := by
  unfold ResourceRegistry.applyWorkerReport at h
  split at h
  · cases h
  · obtain ⟨-, rfl⟩ := Prod.mk.inj h
    rfl

/-! ### What a combined report commits, or restores -/

/-- What a report that fails restores. -/
structure AsFound (plane after : ControlPlane A) : Prop where
  unwritten : Unwritten plane after
  sources : after.sourceRegistry = plane.sourceRegistry
  observations : after.observations = plane.observations
  application : after.application = plane.application
  adapters : after.adapters = plane.adapters
  generation : after.applicationGeneration = plane.applicationGeneration

/-- What a report commits, all of it: its inventories are adopted, the application is the one that
    the last of them had rebuilt, and its observations are applied to it and retained. -/
def Committed (x : CombinedSurroundings A) (report : WorkerStateReport)
    (inventories : List ModelInventoryReport) (plane : ControlPlane A)
    (accepted : WorkerStateReport) (after : ControlPlane A) : Prop :=
  ∃ staged registry, Adopted x report 0 inventories plane staged ∧
    (inventories = [] ∨ ∃ j, ComposedFrom (x.rebuild j) staged) ∧
    accepted = report.filter (applied inventories (stageCopy inventories staged)) ∧
    (stageCopy inventories staged).application.content.registry.applyWorkerReport x.registryClock
      accepted = (.ok (), registry) ∧
    after = recordReport accepted registry (stageCopy inventories staged)

/-- A resource of a source that the report names. -/
def ReportNames (inventories : List ModelInventoryReport) (resourceId : SafeId) : Prop :=
  isSourceResourceId resourceId = true ∧
    ∃ inventory ∈ inventories, InventoryNames inventory resourceId

/-- What an accepted report may store, and what it may not discard. -/
structure AcceptedSound (inventories : List ModelInventoryReport) (plane : ControlPlane A)
    (accepted : WorkerStateReport) (after : ControlPlane A) : Prop where
  /-- Nothing is stored but what was accepted. -/
  stored : ∀ o ∈ after.observations.rows, o ∈ plane.observations.rows ∨ o ∈ accepted.resources
  authenticated : ∀ o ∈ accepted.resources, isSourceResourceId o.identity.resourceId = true →
    ∀ inventory ∈ inventories, ∀ item ∈ inventory.sources,
      item.sourceId.text.toList = sourceHead o.identity.resourceId → item.unauthenticated = false
  registered : ∀ o ∈ accepted.resources, isSourceResourceId o.identity.resourceId = true →
    after.application.content.registry.registration? o.identity.resourceId ≠ none
  kept : ∀ o ∈ plane.observations.rows, ¬ ReportNames inventories o.identity.resourceId →
    (after.observations.row? o.identity.resourceId).isSome = true

/-- No observation of another resource is in the way of the report: a derived one is derived from
    the sources as they are configured, and a configured one is contradicted by no inventory, under
    the id of whose source it would have to be, or it is reported again. -/
def KeepsForeign (report : WorkerStateReport) (inventories : List ModelInventoryReport)
    (plane : ControlPlane A) : Prop :=
  ∀ o ∈ plane.observations.rows, ¬ ReportNames inventories o.identity.resourceId →
    if isSourceResourceId o.identity.resourceId then
      inventories = [] ∨ plane.syncSources.sourceRegistry.Derives o.identity.resourceId
    else (∀ inventory ∈ inventories, contradicted inventory o = false) ∨
      ∃ reported ∈ report.resources, reported.identity.resourceId = o.identity.resourceId

variable (x) (report) (inventories) (plane) in
/-- **How a combined report ends**: it restores what it found, or it commits. -/
theorem applyCombinedWorkerReport_spec :
    Leaves (fun _ after => AsFound plane after)
      (fun accepted after => Committed x report inventories plane accepted after)
      (applyCombinedWorkerReport x report inventories) plane := by
  unfold applyCombinedWorkerReport applyCombined applyWorkerReport
  simp only [leaves_bind, leaves_raise, leaves_modify, leaves_get, leaves_tryCatch, leaves_throw]
  have hrestored : ∀ after : ControlPlane A, Unwritten plane after →
      AsFound plane (restore plane after) :=
    fun after hunwritten => ⟨hunwritten, rfl, rfl, rfl, rfl, rfl⟩
  have hhere : AsFound plane (restore plane plane) := hrestored plane ⟨rfl, rfl⟩
  refine ⟨fun _ _ => ⟨fun _ _ => ⟨fun _ _ => ?_, fun _ _ => hhere⟩, fun _ _ => hhere⟩,
    fun _ _ => ⟨⟨rfl, rfl⟩, rfl, rfl, rfl, rfl, rfl⟩⟩
  refine applyInventories_spec.mono (fun _ after hunwritten => hrestored after hunwritten)
    fun _ staged hstaging => ?_
  obtain ⟨⟨hconfig, htables⟩, hadopted⟩ := hstaging
  have hstaged : Unwritten plane (stageCopy inventories staged) := by
    unfold stageCopy
    split_ifs
    · exact ⟨hconfig, htables⟩
    · exact ⟨hconfig, htables⟩
  simp only [leaves_bind, leaves_raise, leaves_modify, leaves_get]
  refine ⟨fun _ _ => ?_, fun _ _ => hrestored _ hstaged⟩
  split
  · exact hrestored _ hstaged
  · rename_i registry hregistry
    simp only [leaves_bind, leaves_raise, leaves_modify]
    refine ⟨fun _ _ => ?_, fun _ _ => hrestored _ hstaged⟩
    exact ⟨staged, registry, hadopted, hadopted.composedFrom, rfl, hregistry, rfl⟩

/-- What is retained after a report is committed. -/
theorem isSome_row?_recordReport {registry : ResourceRegistry} :
    ((recordReport report registry plane).observations.row? resourceId).isSome ↔
      (∃ o ∈ report.resources, o.identity.resourceId = resourceId) ∨
        (plane.observations.row? resourceId).isSome :=
  Table.isSome_row?_foldl_put

/-- The observations of the copy are those of the state. -/
theorem observations_stageCopy : (stageCopy inventories plane).observations =
    plane.observations := by
  unfold stageCopy
  split_ifs <;> rfl

/-- **What a committed report keeps of the other sources.** -/
theorem Committed.kept_iff {accepted : WorkerStateReport}
    (h : Committed x report inventories plane accepted after) :
    (∀ o ∈ plane.observations.rows, ¬ ReportNames inventories o.identity.resourceId →
      (after.observations.row? o.identity.resourceId).isSome = true) ↔
        KeepsForeign report inventories plane := by
  obtain ⟨staged, registry, hadopted, hcomposed, rfl, hregistry, rfl⟩ := h
  refine forall₂_congr fun o ho => imp_congr_right fun hforeign => ?_
  have hrow := Table.mem_rows.mp ho
  -- What is retained of the resource before the report is this observation, or nothing.
  have honly : (staged.observations.row? o.identity.resourceId).isSome ↔
      staged.observations.row? o.identity.resourceId = some o := by
    refine ⟨fun hsome => ?_, fun hsome => hsome ▸ rfl⟩
    obtain ⟨o', ho'⟩ := Option.isSome_iff_exists.mp hsome
    have hid := (Table.row?_eq_some.mp ho').2
    have hbefore : plane.observations.row? o.identity.resourceId = some o' := by
      cases hsource : isSourceResourceId o.identity.resourceId with
      | false => exact ((hadopted.row?_configured hid hsource).mp ho').1
      | true =>
        refine ((hadopted.row?_derived hid hsource fun inventory hmem hnames => ?_).mp ho').1
        exact hforeign ⟨hsource, inventory, hmem, hnames⟩
    rw [ho', ← hbefore, hrow]
  rw [isSome_row?_recordReport, observations_stageCopy, honly]
  cases hsource : isSourceResourceId o.identity.resourceId with
  | false =>
    rw [hadopted.row?_configured rfl hsource, or_comm, if_neg Bool.false_ne_true]
    have hreported : (∃ reported ∈ (report.filter
          (applied inventories (stageCopy inventories staged))).resources,
        reported.identity.resourceId = o.identity.resourceId) ↔
          ∃ reported ∈ report.resources, reported.identity.resourceId = o.identity.resourceId := by
      refine exists_congr fun reported => and_congr_left fun hid => ?_
      -- The report of a configured resource passes the filter.
      have hpasses : applied inventories (stageCopy inventories staged) reported = true := by
        unfold applied
        rw [hid, hsource]
        rfl
      exact ⟨List.mem_of_mem_filter, fun hmem => List.mem_filter.mpr ⟨hmem, hpasses⟩⟩
    rw [hreported]
    exact or_congr_left (and_iff_right hrow)
  | true =>
    have hnamed : ∀ inventory ∈ inventories, ¬ InventoryNames inventory o.identity.resourceId :=
      fun inventory hmem hnames => hforeign ⟨hsource, inventory, hmem, hnames⟩
    rw [hadopted.row?_derived rfl hsource hnamed, if_pos rfl]
    constructor
    · rintro (⟨reported, hreported, hid⟩ | ⟨-, hderives⟩)
      · -- What the report stores of it is registered, hence derived.
        by_cases hempty : inventories = []
        · exact .inl hempty
        · obtain ⟨j, hcomposed⟩ := hcomposed.resolve_left hempty
          have hderives := (hadopted.derives hnamed).resolve_left hempty
          refine .inr (hderives.mp (hcomposed.registered hsource fun hnone => ?_))
          have hpasses : applied inventories (stageCopy inventories staged) reported = true :=
            (List.mem_filter.mp hreported).2
          unfold stageCopy applied at hpasses
          rw [if_neg hempty, hid, hnone] at hpasses
          simp [hsource] at hpasses
      · exact hderives
    · exact fun hderives => .inr ⟨hrow, hderives⟩

/-- What a committed report stores. -/
theorem Committed.sound_iff {accepted : WorkerStateReport}
    (h : Committed x report inventories plane accepted after) :
    AcceptedSound inventories plane accepted after ↔ KeepsForeign report inventories plane := by
  refine ⟨fun hsound => h.kept_iff.mp hsound.kept, fun hforeign => ?_⟩
  have hkept := h.kept_iff.mpr hforeign
  obtain ⟨staged, registry, hadopted, -, rfl, hregistry, rfl⟩ := h
  have hpasses : ∀ o ∈ (report.filter (applied inventories
        (stageCopy inventories staged))).resources, isSourceResourceId o.identity.resourceId = true →
      (inventories.any fun inventory => inventory.sources.any fun item =>
        item.unauthenticated && item.sourceId.text.toList == sourceHead o.identity.resourceId) =
          false ∧
      ((stageCopy inventories staged).application.content.registry.registration?
        o.identity.resourceId).isNone = false := by
    intro o ho hsource
    have hpass : applied inventories (stageCopy inventories staged) o = true :=
      (List.mem_filter.mp ho).2
    unfold applied at hpass
    rw [hsource, Bool.true_and, Bool.not_eq_true', Bool.or_eq_false_iff] at hpass
    exact hpass
  refine
    { stored := fun o ho => ?_
      authenticated := fun o ho hsource inventory hinventory item hitem hid => ?_
      registered := fun o ho hsource hnone => ?_
      kept := hkept }
  · refine (Table.mem_rows_foldl_put ho).imp_left fun ho => ?_
    rw [observations_stageCopy] at ho
    exact hadopted.mem_observations ho
  · have hany := (hpasses o ho hsource).1
    rw [List.any_eq_false] at hany
    have hsources := hany inventory hinventory
    rw [Bool.not_eq_true, List.any_eq_false] at hsources
    have hitem := hsources item hitem
    rw [hid, beq_self_eq_true, Bool.and_true, Bool.not_eq_true] at hitem
    exact hitem
  · have hsome := (hpasses o ho hsource).2
    rw [← registration?_applyWorkerReport hregistry] at hsome
    exact Bool.false_ne_true (hsome.symm.trans (Option.isNone_iff_eq_none.mpr hnone))

/-- **A combined report is atomic, and what it accepts is sound** exactly where no observation of
    another resource is in its way. -/
theorem combined_report_atomic (x : CombinedSurroundings A) (report : WorkerStateReport)
    (inventories : List ModelInventoryReport) (plane : ControlPlane A) :
    match (applyCombinedWorkerReport x report inventories).result plane with
    | (.error _, after) => AsFound plane after
    | (.ok accepted, after) => Committed x report inventories plane accepted after ∧
        (AcceptedSound inventories plane accepted after ↔
          KeepsForeign report inventories plane) := by
  have hspec := applyCombinedWorkerReport_spec x report inventories plane
  unfold Leaves at hspec
  split at hspec
  · rename_i hresult
    rw [hresult]
    exact ⟨hspec, hspec.sound_iff⟩
  · rename_i hresult
    rw [hresult]
    exact hspec

/-- A source under the id of a configured resource. -/
def namesakeSource : SourceConfig where
  sourceId := .lit "acme-http"
  kind := .codexSubscription
  workerId := .lit "worker-1"

/-- The resource was observed. -/
def namesakePlane : ControlPlane Unit :=
  { firstRun with
    config :=
      { resources := [{ registration := ⟨atlasIdentity, 60, none, {}, none⟩ }]
        sources := [namesakeSource]
        resources_distinct := by decide +kernel
        sources_distinct := by decide +kernel
        none_derived := by decide +kernel
        endpoints_known := by decide +kernel }
    observations := ⟨[atlasAt 5], List.nodup_singleton _⟩ }

/-- The source has lost its authentication. -/
def namesakeInventory : ModelInventoryReport where
  workerId := .lit "worker-1"
  sources :=
    [{ sourceId := .lit "acme-http"
       adapterId := .lit "codex:acme-http"
       kind := .codexSubscription
       authState := .authRequired
       runtimeVersion := "1.0.0"
       models := [] }]

/-- Surroundings in which nothing fails, also no publication. -/
def quietReport : CombinedSurroundings Unit where
  publishBefore := .ok ()
  rebuild _ := quietSurroundings
  registryClock _ := 20
  publishAfter := .ok ()

/-- A report of the worker that observes nothing. -/
def silentReport : WorkerStateReport := ⟨.lit "worker-1", 20, [], .nil, nofun, nofun⟩

/-- An inventory discards what was observed of the configured resource whose id is the id of its
    source. -/
theorem combined_report_discards : ¬ ∀ (A : Type) (x : CombinedSurroundings A)
    (report : WorkerStateReport) (inventories : List ModelInventoryReport) (plane : ControlPlane A)
    (accepted : WorkerStateReport) (after : ControlPlane A),
    (applyCombinedWorkerReport x report inventories).result plane = (.ok accepted, after) →
      AcceptedSound inventories plane accepted after := by
  intro h
  have hsound := h Unit quietReport silentReport [namesakeInventory] namesakePlane
  have hseen : (((applyCombinedWorkerReport quietReport silentReport [namesakeInventory]).result
        namesakePlane).1.toBool,
      (((applyCombinedWorkerReport quietReport silentReport [namesakeInventory]).result
        namesakePlane).2.observations.row? (.lit "acme-http")).isSome) = (true, false) := by
    decide +kernel
  generalize (applyCombinedWorkerReport quietReport silentReport [namesakeInventory]).result
    namesakePlane = ended at hsound hseen
  obtain ⟨_ | accepted, after⟩ := ended
  · cases (Prod.mk.inj hseen).1
  · have hkept := (hsound accepted after rfl).kept (atlasAt 5) List.mem_cons_self fun hnamed =>
      absurd hnamed.1 (by decide +kernel)
    exact Bool.false_ne_true ((Prod.mk.inj hseen).2.symm.trans hkept)

end ControlPlane

end ScarcityRouter
