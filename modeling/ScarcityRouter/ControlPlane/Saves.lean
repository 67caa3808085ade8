import ScarcityRouter.ControlPlane.Plane

namespace ScarcityRouter

open ScarcityRouter.Lib
open ScarcityRouter.Lib.Stateful

/-!
# Saving a configuration

`_save_config` of `control_api.py`: the checks, the change of the state in memory, the rebuild, and
the write of the durable document, one after the other.

* `ConfigurationFields.outdated` — the observations that a configuration makes void.
* `ControlPlane.saveConfig` — the method.
* `Saves`, `saveConfig_spec` — **what a save leaves, wherever it fails.**
* `Undisturbed` — the saves that leave memory and document in agreement, and
  `save_config_atomic` — **a save is atomic exactly then.**
-/

/-! ### What a configuration makes void -/

namespace ConfigurationFields

variable (old new : ConfigurationFields)

/-- A member of `changed_sources`. -/
def sourceChanged (previous : SourceConfig) : Bool :=
  match new.sourceById previous.sourceId with
  | none => true
  | some current => current.workerId ≠ previous.workerId || current.kind ≠ previous.kind

/-- A member of `changed_resources`. -/
def resourceChanged (previous : ResourceConfig) : Bool :=
  match new.resourceById previous.resourceId with
  | none => true
  | some current =>
    !current.enabled || current.workerId ≠ previous.workerId ||
      current.registration.identity ≠ previous.registration.identity ||
      current.endpointId ≠ previous.endpointId ||
      current.localAdapterId ≠ previous.localAdapterId ||
      previous.endpointId.any fun endpointId =>
        old.providerById endpointId ≠ new.providerById endpointId

/-- An observation of a changed resource, or of a changed source. -/
def outdated (o : ResourceObservation) : Bool :=
  old.resources.any (fun previous =>
      previous.resourceId == o.identity.resourceId && old.resourceChanged new previous) ||
    (isSourceResourceId o.identity.resourceId &&
      old.sources.any fun previous =>
        previous.sourceId.text.toList == sourceHead o.identity.resourceId &&
          new.sourceChanged previous)

end ConfigurationFields

variable {A : Type}

namespace ControlPlane

/-- The change of the state in memory: the void observations are forgotten, and the configuration
    and the retention of the audit are assigned. -/
def adopt (config : ServerConfiguration) (plane : ControlPlane A) : ControlPlane A :=
  { plane with
    observations := plane.observations.delete
      (plane.config.outdated config.toConfigurationFields)
    config
    auditRetention := config.auditRetention }

/-- The durable document. -/
def writeDocument (plane : ControlPlane A) : ControlPlane A :=
  { plane with tables := { plane.tables with document := some plane.config } }

/-- What the functions that a save calls give it. -/
structure SaveSurroundings (A : Type) extends RebuildSurroundings A where
  validateNoRouterLoop : ServerConfiguration → Except PlaneException Unit
  validateExecutionConfiguration : ServerConfiguration → Except PlaneException Unit
  /-- The statements of `save_configuration_document`; what fails is rolled back. -/
  saveConfigurationDocument : Except PlaneException Unit

variable {x : SaveSurroundings A} {config : ServerConfiguration} {plane after : ControlPlane A}

/-- The checks of a save, before it changes anything. -/
def SaveSurroundings.check (x : SaveSurroundings A) (config : ServerConfiguration)
    (secrets : ProviderSecrets) : Except PlaneException Unit := do
  x.validateNoRouterLoop config
  x.validateExecutionConfiguration config
  let _ ← x.buildCompatibilityCells config secrets none

/-- `_save_config`. -/
def saveConfig (x : SaveSurroundings A) (config : ServerConfiguration) :
    Stateful PlaneException (ControlPlane A) Unit := do
  let plane ← get
  raise (x.check config plane.tables.providerSecrets)
  modify (adopt config)
  rebuildApplication x.toRebuildSurroundings
  raise x.saveConfigurationDocument
  modify writeDocument

/-! ### What a save leaves -/

/-- How a save ends: where it fails, and the state it then leaves. -/
inductive Saves (x : SaveSurroundings A) (config : ServerConfiguration) (plane : ControlPlane A) :
    Except PlaneException Unit → ControlPlane A → Prop
  | rejected {e : PlaneException}
      (hcheck : x.check config plane.tables.providerSecrets = .error e) :
      Saves x config plane (.error e) plane
  | unbuilt {e : PlaneException} {after : ControlPlane A}
      (hcheck : x.check config plane.tables.providerSecrets = .ok ())
      (hrebuild : Rebuilds x.toRebuildSurroundings (plane.adopt config) (.error e) after) :
      Saves x config plane (.error e) after
  | unwritten {e : PlaneException} {after : ControlPlane A}
      (hcheck : x.check config plane.tables.providerSecrets = .ok ())
      (hrebuild : Rebuilds x.toRebuildSurroundings (plane.adopt config) (.ok ()) after)
      (hwrite : x.saveConfigurationDocument = .error e) :
      Saves x config plane (.error e) after
  | saved {after : ControlPlane A}
      (hcheck : x.check config plane.tables.providerSecrets = .ok ())
      (hrebuild : Rebuilds x.toRebuildSurroundings (plane.adopt config) (.ok ()) after)
      (hwrite : x.saveConfigurationDocument = .ok ()) :
      Saves x config plane (.ok ()) after.writeDocument

variable (x) (config) (plane) in
/-- **What a save leaves, wherever it fails.** -/
theorem saveConfig_spec : Saves x config plane ((saveConfig x config).result plane).1
    ((saveConfig x config).result plane).2 := by
  apply Leaves.result
  unfold saveConfig
  simp only [leaves_bind, leaves_raise, leaves_modify, leaves_get]
  refine ⟨fun _ hcheck => ?_, fun e hcheck => .rejected hcheck⟩
  refine (Leaves.of_result (rebuildApplication_spec _ _)).mono
    (fun e after hrebuild => .unbuilt hcheck hrebuild) fun _ after hrebuild => ?_
  rw [leaves_bind, leaves_raise]
  exact ⟨fun _ hwrite => .saved hcheck hrebuild hwrite, fun e hwrite =>
    .unwritten hcheck hrebuild hwrite⟩

/-! ### Atomicity -/

/-- The configuration, the observations, the application, the adapters and the durable document are
    as they were. -/
structure AsBefore (plane after : ControlPlane A) : Prop where
  config : after.config = plane.config
  observations : after.observations = plane.observations
  application : after.application = plane.application
  adapters : after.adapters = plane.adapters
  document : after.tables.document = plane.tables.document

/-- What memory and document hold when a configuration is saved. -/
structure Saved (x : RebuildSurroundings A) (config : ServerConfiguration)
    (after : ControlPlane A) : Prop where
  config : after.config = config
  document : after.tables.document = some after.config
  composed : ComposedFrom x after

/-- A save is atomic: all of it is done, or nothing. -/
structure SaveAtomic (x : SaveSurroundings A) (config : ServerConfiguration)
    (plane : ControlPlane A) (outcome : Except PlaneException Unit) (after : ControlPlane A) :
    Prop where
  undone : ∀ e, outcome = .error e → AsBefore plane after
  done : outcome = .ok () → Saved x.toRebuildSurroundings config after

/-- The rebuild fails before it binds the adapters, and forgets no observation. -/
def FailsEarly (x : RebuildSurroundings A) (plane : ControlPlane A) : Prop :=
  (∃ e, x.loadConfiguredArtifacts = .error e) ∨
    ∃ artifacts, x.loadConfiguredArtifacts = .ok artifacts ∧
      ((∃ e, plane.syncSources.derive x artifacts = .error e) ∨
        ∃ catalog derived, plane.syncSources.derive x artifacts = .ok (catalog, derived) ∧
          (∀ o ∈ plane.observations.rows, underived derived o = false) ∧
          ∃ e, (plane.syncSources.forgetUnderived derived).assemble x derived = .error e)

/-- The condition under which a save is atomic: it fails in its checks, or nowhere, or it saves the
    configuration there is, voids no observation, and fails before the adapters are bound. -/
def Undisturbed (x : SaveSurroundings A) (config : ServerConfiguration) (plane : ControlPlane A) :
    Prop :=
  (∃ e, x.check config plane.tables.providerSecrets = .error e) ∨
    ((∃ rebuilt, Rebuilds x.toRebuildSurroundings (plane.adopt config) (.ok ()) rebuilt) ∧
      x.saveConfigurationDocument = .ok ()) ∨
    (config = plane.config ∧
      (∀ o ∈ plane.observations.rows,
        plane.config.outdated config.toConfigurationFields o = false) ∧
      FailsEarly x.toRebuildSurroundings (plane.adopt config))

/-- The number of an object that is bound anew is not that of an object there was. -/
theorem bindAdapters_ne (adapters : A) {before : ControlPlane A}
    (h : before.constructed = plane.constructed) :
    (before.bindAdapters adapters).adapters ≠ plane.adapters := by
  intro hsame
  have hnumber : before.constructed = plane.adapters.number := congrArg Constructed.number hsame
  have hlt := plane.adapters_lt
  omega

/-- What is left of the observations by a save that voids some and forgets others is what there
    was, exactly if it does neither. -/
theorem observations_eq_iff {derived : List ResourceRegistration} :
    (((plane.adopt config).syncSources).forgetUnderived derived).observations =
        plane.observations ↔
      (∀ o ∈ plane.observations.rows,
        plane.config.outdated config.toConfigurationFields o = false) ∧
      ∀ o ∈ (plane.adopt config).observations.rows, underived derived o = false := by
  let voided := plane.observations.delete (plane.config.outdated config.toConfigurationFields)
  show voided.delete (underived derived) = plane.observations ↔
    _ ∧ ∀ o ∈ voided.rows, underived derived o = false
  rw [← Table.delete_eq_self, ← Table.delete_eq_self]
  constructor
  · intro h
    -- A row that is left at the end was left by the first deletion.
    have hvoided : voided = plane.observations := by
      refine Table.delete_eq_self.mpr fun o ho => ?_
      rw [← h] at ho
      have hmem : o ∈ voided.rows := List.mem_of_mem_filter ho
      have hkept := List.of_mem_filter hmem
      rwa [Bool.not_eq_true'] at hkept
    refine ⟨hvoided, ?_⟩
    rw [h, hvoided]
  · rintro ⟨hvoided, hforgotten⟩
    rw [hforgotten]
    exact hvoided

/-- A rebuild that fails early does not get to assemble the adapters. -/
theorem FailsEarly.not_assembled {r : RebuildSurroundings A} {artifacts : ConfiguredArtifacts}
    {catalog : ModelCatalog} {derived : List ResourceRegistration} {assembly : Assembly A}
    (hload : r.loadConfiguredArtifacts = .ok artifacts)
    (hderive : plane.syncSources.derive r artifacts = .ok (catalog, derived))
    (hassemble : (plane.syncSources.forgetUnderived derived).assemble r derived = .ok assembly) :
    ¬ FailsEarly r plane := by
  rintro (⟨_, he⟩ | ⟨_, he, ⟨_, hderive'⟩ | ⟨_, _, hderive', -, _, hassemble'⟩⟩)
  · rw [hload] at he
    cases he
  · obtain rfl := Except.ok.inj (hload.symm.trans he)
    rw [hderive] at hderive'
    cases hderive'
  · obtain rfl := Except.ok.inj (hload.symm.trans he)
    obtain ⟨rfl, rfl⟩ := Prod.mk.inj (Except.ok.inj (hderive.symm.trans hderive'))
    rw [hassemble] at hassemble'
    cases hassemble'

/-- A rebuild that returns does not fail early. -/
theorem Rebuilds.not_failsEarly {r : RebuildSurroundings A} (h : Rebuilds r plane (.ok ()) after) :
    ¬ FailsEarly r plane := by
  cases h with
  | rebuilt hload hderive hassemble _ =>
    exact FailsEarly.not_assembled hload hderive hassemble

/-- A rebuild that returns has constructed another application. -/
theorem Rebuilds.application_ne {r : RebuildSurroundings A}
    (h : Rebuilds r (plane.adopt config) (.ok ()) after) :
    after.application ≠ plane.application := by
  cases h with
  | rebuilt =>
    intro hsame
    have hnumber : plane.constructed + 1 = plane.application.number :=
      congrArg Constructed.number hsame
    have hlt := plane.application_lt
    omega

/-- **What a rebuild that fails after the configuration is adopted leaves as it was**: all of it,
    if there was nothing to adopt and it fails early. -/
theorem Rebuilds.asBefore {e : PlaneException}
    (h : Rebuilds x.toRebuildSurroundings (plane.adopt config) (.error e) after) :
    AsBefore plane after ↔
      config = plane.config ∧
        (∀ o ∈ plane.observations.rows,
          plane.config.outdated config.toConfigurationFields o = false) ∧
        FailsEarly x.toRebuildSurroundings (plane.adopt config) := by
  cases h with
  | unread hload =>
    constructor
    · intro hsame
      exact ⟨hsame.config, Table.delete_eq_self.mp hsame.observations, .inl ⟨e, hload⟩⟩
    · rintro ⟨rfl, hvoided, -⟩
      exact ⟨rfl, Table.delete_eq_self.mpr hvoided, rfl, rfl, rfl⟩
  | underived hload hderive =>
    constructor
    · intro hsame
      exact ⟨hsame.config, Table.delete_eq_self.mp hsame.observations,
        .inr ⟨_, hload, .inl ⟨e, hderive⟩⟩⟩
    · rintro ⟨rfl, hvoided, -⟩
      exact ⟨rfl, Table.delete_eq_self.mpr hvoided, rfl, rfl, rfl⟩
  | @unassembled artifacts catalog derived _ hload hderive hassemble =>
    constructor
    · intro hsame
      obtain ⟨hvoided, hforgotten⟩ := observations_eq_iff.mp hsame.observations
      exact ⟨hsame.config, hvoided,
        .inr ⟨_, hload, .inr ⟨_, _, hderive, hforgotten, e, hassemble⟩⟩⟩
    · rintro ⟨rfl, hvoided, hearly⟩
      -- The rebuild fails where it says, so that it is the registrations it derives that count.
      have hforgotten : ∀ o ∈ (plane.adopt plane.config).observations.rows,
          ControlPlane.underived derived o = false := by
        rcases hearly with ⟨e', he⟩ | ⟨_, he, ⟨e', hderive'⟩ | ⟨_, _, hderive', hkept, -⟩⟩
        · rw [hload] at he
          cases he
        · obtain rfl := Except.ok.inj (hload.symm.trans he)
          rw [hderive] at hderive'
          cases hderive'
        · obtain rfl := Except.ok.inj (hload.symm.trans he)
          obtain ⟨rfl, rfl⟩ := Prod.mk.inj (Except.ok.inj (hderive.symm.trans hderive'))
          exact hkept
      exact ⟨rfl, observations_eq_iff.mpr ⟨hvoided, hforgotten⟩, rfl, rfl, rfl⟩
  | @uncomposed artifacts catalog derived assembly _ hload hderive hassemble hcompose =>
    constructor
    · intro hsame
      exact absurd hsame.adapters (bindAdapters_ne assembly.adapters rfl)
    · rintro ⟨-, -, hearly⟩
      exact absurd hearly (FailsEarly.not_assembled hload hderive hassemble)

/-- **A configuration save is atomic exactly when it is undisturbed**: when it fails in its checks,
    or nowhere, or where it has not changed anything yet. -/
theorem save_config_atomic (x : SaveSurroundings A) (config : ServerConfiguration)
    (plane : ControlPlane A) :
    SaveAtomic x config plane ((saveConfig x config).result plane).1
        ((saveConfig x config).result plane).2 ↔
      Undisturbed x config plane := by
  have hspec := saveConfig_spec x config plane
  generalize (saveConfig x config).result plane = ended at hspec ⊢
  obtain ⟨outcome, after⟩ := ended
  dsimp only at hspec ⊢
  cases hspec with
  | rejected hcheck =>
    exact iff_of_true ⟨fun _ _ => ⟨rfl, rfl, rfl, rfl, rfl⟩, nofun⟩ (.inl ⟨_, hcheck⟩)
  | @unbuilt e _ hcheck hrebuild =>
    constructor
    · intro h
      exact .inr (.inr (hrebuild.asBefore.mp (h.undone e rfl)))
    · rintro (⟨e', hcheck'⟩ | ⟨⟨rebuilt, hrebuilt⟩, -⟩ | hnothing)
      · rw [hcheck] at hcheck'
        cases hcheck'
      · obtain ⟨hended, -⟩ := Prod.mk.inj (hrebuild.result_eq.symm.trans hrebuilt.result_eq)
        cases hended
      · exact ⟨fun _ _ => hrebuild.asBefore.mpr hnothing, nofun⟩
  | @unwritten e _ hcheck hrebuild hwrite =>
    constructor
    · intro h
      exact absurd (h.undone e rfl).application hrebuild.application_ne
    · rintro (⟨e', hcheck'⟩ | ⟨-, hwrite'⟩ | ⟨-, -, hearly⟩)
      · rw [hcheck] at hcheck'
        cases hcheck'
      · rw [hwrite] at hwrite'
        cases hwrite'
      · exact absurd hearly hrebuild.not_failsEarly
  | @saved rebuilt hcheck hrebuild hwrite =>
    refine iff_of_true ⟨nofun, fun _ => ⟨hrebuild.kept.1, rfl, ?_⟩⟩
      (.inr (.inl ⟨⟨_, hrebuild⟩, hwrite⟩))
    exact { hrebuild.composedFrom with }

/-- Surroundings in which the write of the document fails. -/
def diskFull : SaveSurroundings Unit :=
  { quietSurroundings with
    validateNoRouterLoop := fun _ => .ok ()
    validateExecutionConfiguration := fun _ => .ok ()
    saveConfigurationDocument := .error .other }

/-- A save whose document is not written leaves the server with a configuration that a restart
    does not find. -/
theorem save_config_unwritten : ¬ ∀ (A : Type) (x : SaveSurroundings A)
    (config : ServerConfiguration) (plane : ControlPlane A),
    SaveAtomic x config plane ((saveConfig x config).result plane).1
      ((saveConfig x config).result plane).2 := by
  intro h
  have hatomic := h Unit diskFull { sessionTtlSeconds := 60 } firstRun
  have hsame := (hatomic.undone .other rfl).config
  have httl := congrArg (·.sessionTtlSeconds) hsame
  exact absurd httl (by decide)

end ControlPlane

end ScarcityRouter
