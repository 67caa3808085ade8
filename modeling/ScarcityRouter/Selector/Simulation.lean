import Mathlib.Data.List.Pairwise
import ScarcityRouter.Selector.Selection

namespace ScarcityRouter

open ScarcityRouter.Lib

/-!
# Simulated selection

`simulation.py`: percentage overrides of known windows, and the selection on what they give.

* `CapacityPercentageOverride`, `SimulationOverrides` — the typed overrides.
* `HeldSnapshot`, `WindowObject` — windows as objects, which the source compares by identity.
* `applyCapacityOverrides` — the loop over the overrides: it matches against the snapshots that were
  given, and replaces in the copies that it has made.
* `applyCapacityOverrides_eq_ok` — **when the loop returns, and what**: a function of the set of
  overrides.
* `capacity_overrides_exact` — overrides are exact and order independent, and current values change
  no decision.
-/

/-! ### Overrides -/

/-- `CapacityPercentageOverride`. -/
@[ext] structure CapacityPercentageOverride where
  provider : SafeId
  scopeId : SafeId
  resource : CapacityResource
  kind : WindowKind
  remainingPercent : Percent
  windowId : Option SafeId := none
  supported : supportedProvider provider = true := by decide +kernel
  known_resource : resource ≠ .unknown := by decide
  known_kind : kind ≠ .unknown := by decide

instance : DecidableEq CapacityPercentageOverride := fun _ _ =>
  decidable_of_iff _ CapacityPercentageOverride.ext_iff.symm

/-- `SimulationOverrides`: a replacement set of replenishment states is stored in canonical
    order. -/
structure SimulationOverrides where
  capacityPercentages : List CapacityPercentageOverride := []
  selectorPolicy : Option SelectorPolicy := none
  replenishmentStates : Option (List ReplenishmentState) := none
  evaluatedAt : Option Instant := none
  unique_states : ∀ states ∈ replenishmentStates, (states.map (·.key)).Nodup := by simp
  sorted_states : ∀ states ∈ replenishmentStates, states = sortBy (·.key) states := by simp

/-- The test of a window in the comprehension of `matches`. -/
def CapacityPercentageOverride.matchesWindow (o : CapacityPercentageOverride)
    (window : CapacityWindow) : Bool :=
  window.scopeId = some o.scopeId && window.resource = o.resource && window.kind = o.kind &&
    (o.windowId = none || window.windowId = o.windowId)

/-- `replace(window, used_percent=100 - remaining, remaining_percent=remaining)`. -/
def CapacityPercentageOverride.newWindow (o : CapacityPercentageOverride)
    (window : CapacityWindow) : CapacityWindow :=
  { window with remainingPercent := some o.remainingPercent }

/-- The key of an overridden window. -/
abbrev OverriddenKey := SafeId × SafeId × CapacityResource × WindowKind × Option SafeId

def CapacityPercentageOverride.key (o : CapacityPercentageOverride) (window : CapacityWindow) :
    OverriddenKey :=
  (o.provider, o.scopeId, o.resource, o.kind, window.windowId)

/-! ### Objects -/

/-- A window as an object: one that is held at an address, or a copy that `replace` has made.  The
    object at an address has one value, so that two held windows are one object exactly if they are
    equal here, and a copy is no window that is held. -/
inductive WindowObject where
  | held (address : ℕ) (window : CapacityWindow)
  | copy (window : CapacityWindow)
  deriving DecidableEq

def WindowObject.window : WindowObject → CapacityWindow
  | .held _ window | .copy window => window

/-- A snapshot whose windows stand at any addresses, also several at one. -/
structure HeldSnapshot where
  snapshot : CapacitySnapshot
  addresses : List ℕ
  addressed : addresses.length = snapshot.windows.length

/-- `snapshot.windows`. -/
def HeldSnapshot.objects (held : HeldSnapshot) : List WindowObject :=
  (held.addresses.zip held.snapshot.windows).map fun (address, window) => .held address window

theorem HeldSnapshot.map_objects (held : HeldSnapshot) :
    held.objects.map (·.window) = held.snapshot.windows := by
  unfold objects
  rw [List.map_map]
  exact List.map_snd_zip (le_of_eq held.addressed.symm)

/-- A held window is no copy. -/
theorem HeldSnapshot.ne_copy {held : HeldSnapshot} {object : WindowObject}
    (h : object ∈ held.objects) (window : CapacityWindow) : .copy window ≠ object := by
  obtain ⟨_, -, rfl⟩ := List.mem_map.mp h
  exact nofun

/-- `replace(base, windows=...)`, of a base whose status has windows. -/
def CapacitySnapshot.withWindows (snapshot : CapacitySnapshot) (windows : List CapacityWindow) :
    CapacitySnapshot :=
  if h : snapshot.status.withoutWindows = true then snapshot
  else { snapshot with windows, no_windows := fun h' => absurd h' h }

/-! ### The loop -/

/-- A `SimulationOverrideApplicationError`. -/
def misapplied (message : String) : ContractError :=
  .selectionContractValidation ("apply_capacity_overrides: " ++ message)

/-- What a message says of the window that an override names. -/
def CapacityPercentageOverride.described (o : CapacityPercentageOverride) : String :=
  "provider " ++ o.provider.repr ++ ", scope " ++ o.scopeId.repr ++ ", resource '" ++
    o.resource.text ++ "', kind '" ++ o.kind.text ++ "'"

/-- `repr` of a key. -/
def OverriddenKey.repr (key : OverriddenKey) : String :=
  "(" ++ key.1.repr ++ ", " ++ key.2.1.repr ++ ", '" ++ key.2.2.1.text ++ "', '" ++
    key.2.2.2.1.text ++ "', " ++ key.2.2.2.2.elim "None" SafeId.repr ++ ")"

/-- `snapshot_by_provider.get(override.provider)`, which has to be of status `ok`. -/
def targetSnapshot (snapshots : List HeldSnapshot) (o : CapacityPercentageOverride) :
    Except ContractError HeldSnapshot :=
  match snapshots.find? (·.snapshot.provider = o.provider) with
  | none => .error (misapplied
      ("override target provider " ++ o.provider.repr ++ " has no baseline snapshot"))
  | some held =>
    if held.snapshot.status = .ok then .ok held
    else .error (misapplied ("override target snapshot for provider " ++ o.provider.repr
      ++ " has status '" ++ held.snapshot.status.text ++ "'; overrides require status 'ok' and "
      ++ "never turn unknown telemetry into fabricated known telemetry"))

/-- The one window that an override matches, which has to have a known percentage pair. -/
def targetWindow (held : HeldSnapshot) (o : CapacityPercentageOverride) :
    Except ContractError WindowObject :=
  match held.objects.filter fun object => o.matchesWindow object.window with
  | [] => .error (misapplied ("override target window not found for " ++ o.described
      ++ o.windowId.elim "" fun id => ", window_id " ++ id.repr))
  | [object] =>
    if object.window.remainingPercent.isSome then .ok object
    else .error (misapplied ("override target window " ++ o.scopeId.repr ++ "/'" ++ o.resource.text
      ++ "'/'" ++ o.kind.text ++ "' has no known percentage pair; unknown telemetry is never "
      ++ "fabricated into known telemetry"))
  | objects => .error (misapplied ("override matches " ++ toString objects.length
      ++ " windows for " ++ o.described ++ "; supply an exact disambiguating window_id"))

/-- The copies that are made, and the keys of the windows that are overridden. -/
structure Overriding where
  result : SafeId → Option (List WindowObject)
  keys : List OverriddenKey

/-- The end of the body of the loop: the window is replaced in the copy of its snapshot. -/
def Overriding.override (s : Overriding) (held : HeldSnapshot) (object : WindowObject)
    (o : CapacityPercentageOverride) : Overriding :=
  let base := (s.result o.provider).getD held.objects
  let windows := base.map fun existing =>
    if existing = object then .copy (o.newWindow object.window) else existing
  { result := Function.update s.result o.provider (some windows)
    keys := s.keys ++ [o.key object.window] }

/-- The body of the loop. -/
def applyOverride (snapshots : List HeldSnapshot) (s : Overriding)
    (o : CapacityPercentageOverride) : Except ContractError Overriding := do
  let held ← targetSnapshot snapshots o
  let object ← targetWindow held o
  let key := o.key object.window
  check (key ∉ s.keys)
    (misapplied ("the same window may not be overridden twice (" ++ key.repr ++ ")"))
  return s.override held object o

/-- `result.get(snapshot.provider, snapshot)`. -/
def Overriding.snapshot (s : Overriding) (held : HeldSnapshot) : CapacitySnapshot :=
  match s.result held.snapshot.provider with
  | none => held.snapshot
  | some objects => held.snapshot.withWindows (objects.map (·.window))

/-- `apply_capacity_overrides`. -/
def applyCapacityOverrides (snapshots : List HeldSnapshot)
    (overrides : List CapacityPercentageOverride) :
    Except ContractError (List CapacitySnapshot) := do
  rejectDuplicates (snapshots.map (·.snapshot.provider)) fun provider =>
    .selectionContractValidation ("apply_capacity_overrides.snapshots: duplicate provider "
      ++ "snapshot for " ++ provider.repr)
  let s ← overrides.foldlM (applyOverride snapshots) { result := fun _ => none, keys := [] }
  return snapshots.map s.snapshot

/-! ### Simulation -/

/-- `SimulationResult`. -/
structure SimulationResult where
  baseline : SelectionDecision
  simulated : SelectionDecision
  appliedOverrides : SimulationOverrides

/-- The snapshots of a simulation. -/
def simulatedSnapshots (snapshots : List HeldSnapshot) (overrides : SimulationOverrides) :
    Except ContractError (List CapacitySnapshot) :=
  if overrides.capacityPercentages = [] then .ok (snapshots.map (·.snapshot))
  else applyCapacityOverrides snapshots overrides.capacityPercentages

/-- `simulate_selection`. -/
def simulateSelection [Platform] (catalog : ModelCatalog) (requirement : TaskRequirement)
    (policy : SelectorPolicy) (snapshots : List HeldSnapshot) (evaluatedAt : Instant)
    (overrides : SimulationOverrides) (states : List ReplenishmentState)
    (reports : List ExecutionEligibility) (profileId : Option SafeId)
    (profilePolicyVersion : Option ℕ+) : Except ContractError SimulationResult := do
  let baseline ← selectModel catalog requirement policy (snapshots.map (·.snapshot)) evaluatedAt
    states reports profileId profilePolicyVersion ∅
  let simulatedSnapshots ← simulatedSnapshots snapshots overrides
  let simulated ← selectModel catalog requirement (overrides.selectorPolicy.getD policy)
    simulatedSnapshots (overrides.evaluatedAt.getD evaluatedAt)
    (overrides.replenishmentStates.getD states) reports profileId profilePolicyVersion ∅
  return { baseline, simulated, appliedOverrides := overrides }

/-! ### Targets -/

/-- The window that an override hits: the one that it matches, in a snapshot of status `ok`, and
    with a known percentage pair. -/
structure CapacityPercentageOverride.Targets (snapshots : List HeldSnapshot)
    (o : CapacityPercentageOverride) (held : HeldSnapshot) (object : WindowObject) : Prop where
  found : snapshots.find? (·.snapshot.provider = o.provider) = some held
  ok : held.snapshot.status = .ok
  unique : held.objects.filter (fun object => o.matchesWindow object.window) = [object]
  known : object.window.remainingPercent.isSome = true

/-- Two overrides of one window. -/
def SameWindow (snapshots : List HeldSnapshot) (o o' : CapacityPercentageOverride) : Prop :=
  ∃ held object, o.Targets snapshots held object ∧ o'.Targets snapshots held object

/-- Every override has a target, and no two have the same. -/
structure Applicable (snapshots : List HeldSnapshot) (overrides : List CapacityPercentageOverride) :
    Prop where
  targeted : ∀ o ∈ overrides, ∃ held object, o.Targets snapshots held object
  once : overrides.Pairwise fun o o' => ¬SameWindow snapshots o o'

section Targets

variable {snapshots : List HeldSnapshot} {o o' : CapacityPercentageOverride}
  {held held' : HeldSnapshot} {object object' : WindowObject} {s s' : Overriding}

theorem targetSnapshot_eq_ok : targetSnapshot snapshots o = .ok held ↔
    snapshots.find? (·.snapshot.provider = o.provider) = some held ∧ held.snapshot.status = .ok := by
  unfold targetSnapshot
  split
  · rename_i hnone
    simp [hnone]
  · rename_i found hfound
    rw [hfound]
    split_ifs with hok
    · simp only [Except.ok.injEq, Option.some.injEq]
      exact ⟨fun h => ⟨h, h ▸ hok⟩, And.left⟩
    · simp only [Option.some.injEq, false_iff]
      rintro ⟨rfl, h⟩
      exact hok h

theorem targetWindow_eq_ok : targetWindow held o = .ok object ↔
    held.objects.filter (fun object => o.matchesWindow object.window) = [object] ∧
      object.window.remainingPercent.isSome = true := by
  unfold targetWindow
  split
  · rename_i hnone
    simp [hnone]
  · rename_i found hfound
    rw [hfound]
    split_ifs with hknown
    · simp only [Except.ok.injEq, List.cons.injEq, and_true]
      exact ⟨fun h => ⟨h, h ▸ hknown⟩, And.left⟩
    · simp only [List.cons.injEq, and_true, false_iff]
      rintro ⟨rfl, h⟩
      exact hknown h
  · rename_i hnone hone
    simp only [reduceCtorEq, false_iff]
    rintro ⟨h, -⟩
    exact hone _ h

/-- A round of the loop goes through for a target that is not overridden yet. -/
theorem applyOverride_eq_ok : applyOverride snapshots s o = .ok s' ↔
    ∃ held object, o.Targets snapshots held object ∧ o.key object.window ∉ s.keys ∧
      s' = s.override held object o := by
  unfold applyOverride
  constructor
  · intro h
    obtain ⟨held, hheld, h⟩ := bind_eq_ok.mp h
    obtain ⟨object, hobject, h⟩ := bind_eq_ok.mp h
    obtain ⟨hkey, h⟩ := check_bind_eq_ok.mp h
    obtain ⟨hfound, hok⟩ := targetSnapshot_eq_ok.mp hheld
    obtain ⟨hunique, hknown⟩ := targetWindow_eq_ok.mp hobject
    exact ⟨held, object, ⟨hfound, hok, hunique, hknown⟩, hkey, (Except.ok.inj h).symm⟩
  · rintro ⟨held, object, ⟨hfound, hok, hunique, hknown⟩, hkey, rfl⟩
    refine bind_eq_ok.mpr ⟨held, targetSnapshot_eq_ok.mpr ⟨hfound, hok⟩, ?_⟩
    refine bind_eq_ok.mpr ⟨object, targetWindow_eq_ok.mpr ⟨hunique, hknown⟩, ?_⟩
    exact check_bind_eq_ok.mpr ⟨hkey, rfl⟩

namespace CapacityPercentageOverride.Targets

theorem provider_eq (h : o.Targets snapshots held object) :
    held.snapshot.provider = o.provider := by
  have hfound := List.find?_some h.found
  exact of_decide_eq_true hfound

theorem mem_objects (h : o.Targets snapshots held object) :
    object ∈ held.objects ∧ o.matchesWindow object.window = true := by
  have hmem : object ∈ held.objects.filter fun object => o.matchesWindow object.window := by
    rw [h.unique]
    exact List.mem_singleton_self _
  exact List.mem_filter.mp hmem

/-- A window that an override matches is its target. -/
theorem eq_of_matches (h : o.Targets snapshots held object) (hmem : object' ∈ held.objects)
    (hmatch : o.matchesWindow object'.window = true) : object' = object := by
  have hfilter : object' ∈ held.objects.filter fun object => o.matchesWindow object.window :=
    List.mem_filter.mpr ⟨hmem, hmatch⟩
  rw [h.unique] at hfilter
  exact List.mem_singleton.mp hfilter

/-- An override has one target. -/
theorem inj (h : o.Targets snapshots held object) (h' : o.Targets snapshots held' object') :
    held' = held ∧ object' = object := by
  obtain rfl := Option.some.inj (h'.found.symm.trans h.found)
  exact ⟨rfl, h.eq_of_matches h'.mem_objects.1 h'.mem_objects.2⟩

end CapacityPercentageOverride.Targets

theorem matchesWindow_eq_true {window : CapacityWindow} : o.matchesWindow window = true ↔
    window.scopeId = some o.scopeId ∧ window.resource = o.resource ∧ window.kind = o.kind ∧
      (o.windowId = none ∨ window.windowId = o.windowId) := by
  simp [CapacityPercentageOverride.matchesWindow, and_assoc]

/-- **The key of a window is the window**: two overrides have one key exactly if they have one
    target, however they name it. -/
theorem key_eq_iff (h : o.Targets snapshots held object)
    (h' : o'.Targets snapshots held' object') :
    o'.key object'.window = o.key object.window ↔ o.Targets snapshots held' object' := by
  obtain ⟨hscope, hresource, hkind, hid⟩ := matchesWindow_eq_true.mp h.mem_objects.2
  obtain ⟨hscope', hresource', hkind', -⟩ := matchesWindow_eq_true.mp h'.mem_objects.2
  constructor
  · intro hkey
    simp only [CapacityPercentageOverride.key, Prod.mk.injEq] at hkey
    obtain ⟨hprovider, hs, hr, hk, hw⟩ := hkey
    have hheld : held' = held := by
      have hfound := h'.found
      rw [hprovider] at hfound
      exact Option.some.inj (hfound.symm.trans h.found)
    subst hheld
    have hobject : object' = object := by
      refine h.eq_of_matches h'.mem_objects.1 (matchesWindow_eq_true.mpr ?_)
      rw [hscope', hresource', hkind', hs, hr, hk, hw]
      exact ⟨rfl, rfl, rfl, hid⟩
    rw [hobject]
    exact h
  · intro hsame
    obtain ⟨rfl, rfl⟩ := h.inj hsame
    have hprovider : o'.provider = o.provider := h'.provider_eq.symm.trans h.provider_eq
    have hs : o'.scopeId = o.scopeId := Option.some.inj (hscope'.symm.trans hscope)
    simp only [CapacityPercentageOverride.key, hprovider, hs, ← hresource', ← hkind', hresource,
      hkind]

end Targets

/-! ### What the loop has done -/

/-- A window after some overrides. -/
def overriddenWindow (overrides : List CapacityPercentageOverride) (provider : SafeId)
    (window : CapacityWindow) : CapacityWindow :=
  ((overrides.find? fun o => o.provider = provider && o.matchesWindow window).map fun o =>
    o.newWindow window).getD window

/-- The object that stands for a held one after some overrides. -/
def overriddenObject (overrides : List CapacityPercentageOverride) (provider : SafeId)
    (object : WindowObject) : WindowObject :=
  ((overrides.find? fun o => o.provider = provider && o.matchesWindow object.window).map fun o =>
    .copy (o.newWindow object.window)).getD object

/-- The state of the loop after some overrides: the copies hold what those have put there, and the
    keys are those of the windows they hit. -/
structure Overriding.After (snapshots : List HeldSnapshot)
    (done : List CapacityPercentageOverride) (s : Overriding) : Prop where
  result : ∀ held ∈ snapshots, s.result held.snapshot.provider =
    if ∃ o ∈ done, o.provider = held.snapshot.provider then
      some (held.objects.map (overriddenObject done held.snapshot.provider))
    else none
  keys : ∀ o held object, CapacityPercentageOverride.Targets snapshots o held object →
    (o.key object.window ∈ s.keys ↔ ∃ o' ∈ done, o'.Targets snapshots held object)

/-- The providers of the snapshots are distinct. -/
def UniqueHeld (snapshots : List HeldSnapshot) : Prop :=
  (snapshots.map (·.snapshot.provider)).Nodup

section Loop

variable {snapshots : List HeldSnapshot} {overrides done rest : List CapacityPercentageOverride}
  {o o' : CapacityPercentageOverride} {held held' : HeldSnapshot} {object : WindowObject}
  {s s' : Overriding} {provider : SafeId}

theorem window_overriddenObject : (overriddenObject overrides provider object).window =
    overriddenWindow overrides provider object.window := by
  unfold overriddenObject overriddenWindow
  cases overrides.find? fun o => o.provider = provider && o.matchesWindow object.window <;> rfl

/-- An object that no override names stays. -/
theorem overriddenObject_of_not
    (h : ∀ o ∈ done, ¬(o.provider = provider ∧ o.matchesWindow object.window = true)) :
    overriddenObject done provider object = object := by
  have hnone : (done.find? fun o => o.provider = provider && o.matchesWindow object.window) =
      none := by
    rw [List.find?_eq_none]
    simpa using h
  rw [overriddenObject, hnone]
  rfl

/-- An object that a further override does not name is what it was. -/
theorem overriddenObject_concat_of_not
    (h : ¬(o.provider = provider ∧ o.matchesWindow object.window = true)) :
    overriddenObject (done ++ [o]) provider object = overriddenObject done provider object := by
  have hlast : ([o].find? fun o => o.provider = provider && o.matchesWindow object.window) =
      none := by
    rw [List.find?_eq_none]
    simpa using h
  unfold overriddenObject
  rw [List.find?_append, hlast, Option.or_none]

/-- The object that a further override is the first to name is its copy. -/
theorem overriddenObject_concat
    (hfresh : ∀ o ∈ done, ¬(o.provider = provider ∧ o.matchesWindow object.window = true))
    (hprovider : o.provider = provider) (hmatch : o.matchesWindow object.window = true) :
    overriddenObject (done ++ [o]) provider object = .copy (o.newWindow object.window) := by
  have hnone : (done.find? fun o => o.provider = provider && o.matchesWindow object.window) =
      none := by
    rw [List.find?_eq_none]
    simpa using hfresh
  have hlast : ([o].find? fun o => o.provider = provider && o.matchesWindow object.window) =
      some o := by
    simp [hprovider, hmatch]
  unfold overriddenObject
  rw [List.find?_append, hnone, hlast]
  rfl

/-- The snapshot that is found for a provider is the one that has it. -/
theorem UniqueHeld.find (hunique : UniqueHeld snapshots) (hmem : held ∈ snapshots) :
    snapshots.find? (·.snapshot.provider = held.snapshot.provider) = some held := by
  refine find?_eq_some_of_unique hmem (by simp) fun other hother hsame => ?_
  exact List.inj_on_of_nodup_map hunique hother hmem (of_decide_eq_true hsame)

/-- An override that matches a window of its provider targets it. -/
theorem CapacityPercentageOverride.Targets.of_matches (hunique : UniqueHeld snapshots)
    (h : ∃ held' object', o.Targets snapshots held' object') (hmem : held ∈ snapshots)
    (hprovider : o.provider = held.snapshot.provider) (hobject : object ∈ held.objects)
    (hmatch : o.matchesWindow object.window = true) : o.Targets snapshots held object := by
  obtain ⟨held', object', h⟩ := h
  have hfind := hunique.find hmem
  rw [← hprovider, h.found] at hfind
  obtain rfl := Option.some.inj hfind
  rw [h.eq_of_matches hobject hmatch]
  exact h

/-- **What one round does.** -/
theorem Overriding.After.override (hs : s.After snapshots done) (hunique : UniqueHeld snapshots)
    (hdone : ∀ o ∈ done, ∃ held object, o.Targets snapshots held object)
    (htarget : o.Targets snapshots held object)
    (hfresh : ∀ o' ∈ done, ¬o'.Targets snapshots held object) :
    (s.override held object o).After snapshots (done ++ [o]) where
  keys := by
    intro o₂ held₂ object₂ htarget₂
    show o₂.key object₂.window ∈ s.keys ++ [o.key object.window] ↔ _
    rw [List.mem_append, List.mem_singleton, hs.keys o₂ held₂ object₂ htarget₂,
      key_eq_iff htarget htarget₂]
    simp only [List.mem_append, List.mem_singleton, or_and_right, exists_or, exists_eq_left]
  result := by
    intro held₂ hmem
    have hheld : held ∈ snapshots := List.mem_of_find?_eq_some htarget.found
    show Function.update s.result o.provider _ held₂.snapshot.provider = _
    by_cases hprovider : held₂.snapshot.provider = o.provider
    · have hsame : held₂ = held :=
        List.inj_on_of_nodup_map hunique hmem hheld (hprovider.trans htarget.provider_eq.symm)
      subst hsame
      have hbase : (s.result o.provider).getD held₂.objects =
          held₂.objects.map (overriddenObject done held₂.snapshot.provider) := by
        rw [← hprovider, hs.result held₂ hmem]
        split_ifs with hsome
        · rfl
        · show held₂.objects = _
          rw [List.map_congr_left fun object _ => overriddenObject_of_not fun o' ho' h =>
            hsome ⟨o', ho', h.1⟩]
          exact (List.map_id' _).symm
      rw [hprovider, Function.update_self, hbase, ← hprovider,
        if_pos ⟨o, List.mem_append_right _ (List.mem_singleton_self _), hprovider.symm⟩,
        List.map_map]
      refine congrArg some (List.map_congr_left fun existing hexisting => ?_)
      -- the one window that the override matches is still the held one, and every other is not it
      have hnamed : ∀ o' ∈ done,
          ¬(o'.provider = held₂.snapshot.provider ∧ o'.matchesWindow object.window = true) :=
        fun o' ho' h => hfresh o' ho'
          (.of_matches hunique (hdone o' ho') hmem h.1 htarget.mem_objects.1 h.2)
      by_cases hobject : existing = object
      · subst hobject
        rw [overriddenObject_concat hnamed hprovider.symm htarget.mem_objects.2,
          Function.comp_apply, overriddenObject_of_not hnamed, if_pos rfl]
      · have hother : overriddenObject done held₂.snapshot.provider existing ≠ object := by
          unfold overriddenObject
          cases done.find? fun o =>
            o.provider = held₂.snapshot.provider && o.matchesWindow existing.window with
          | none => exact hobject
          | some o' => exact held₂.ne_copy htarget.mem_objects.1 _
        rw [Function.comp_apply, if_neg hother, overriddenObject_concat_of_not]
        exact fun h => hobject (htarget.eq_of_matches hexisting h.2)
    · rw [Function.update_of_ne hprovider, hs.result held₂ hmem]
      have hcond : (∃ o' ∈ done ++ [o], o'.provider = held₂.snapshot.provider) ↔
          ∃ o' ∈ done, o'.provider = held₂.snapshot.provider := by
        simp [Ne.symm hprovider]
      simp only [hcond]
      refine if_congr Iff.rfl (congrArg some (List.map_congr_left fun existing _ => ?_)) rfl
      exact (overriddenObject_concat_of_not fun h => hprovider h.1.symm).symm

/-- The loop starts after no override. -/
theorem Overriding.after_nil :
    Overriding.After snapshots [] { result := fun _ => none, keys := [] } where
  result := fun held _ => by simp
  keys := by simp

/-- **What the loop does, and when it goes through.** -/
theorem foldlM_applyOverride (rest : List CapacityPercentageOverride)
    (hunique : UniqueHeld snapshots) (hs : s.After snapshots done)
    (hdone : ∀ o ∈ done, ∃ held object, o.Targets snapshots held object) :
    (∀ s', rest.foldlM (applyOverride snapshots) s = .ok s' → s'.After snapshots (done ++ rest)) ∧
    (Returns (rest.foldlM (applyOverride snapshots) s) ↔ Applicable snapshots rest ∧
      ∀ o' ∈ done, ∀ o ∈ rest, ¬SameWindow snapshots o' o) := by
  induction rest generalizing s done with
  | nil =>
    constructor
    · intro s' h
      rw [← Except.ok.inj h, List.append_nil]
      exact hs
    · exact iff_of_true ⟨s, rfl⟩ ⟨⟨nofun, .nil⟩, nofun⟩
  | cons o rest ih =>
    rw [List.foldlM_cons]
    have hround : ∀ held object, o.Targets snapshots held object →
        (o.key object.window ∉ s.keys ↔ ∀ o' ∈ done, ¬SameWindow snapshots o' o) := by
      intro held object htarget
      rw [hs.keys o held object htarget, not_exists]
      refine forall_congr' fun o' => not_and.trans (imp_congr_right fun _ => not_congr ?_)
      constructor
      · exact fun h => ⟨held, object, h, htarget⟩
      · rintro ⟨held', object', h, h'⟩
        obtain ⟨rfl, rfl⟩ := htarget.inj h'
        exact h
    have hnext : ∀ held object, o.Targets snapshots held object →
        (∀ o' ∈ done, ¬SameWindow snapshots o' o) →
          (s.override held object o).After snapshots (done ++ [o]) ∧
            ∀ o' ∈ done ++ [o], ∃ held object, o'.Targets snapshots held object := by
      intro held object htarget hfresh
      refine ⟨hs.override hunique hdone htarget fun o' ho' h => hfresh o' ho'
        ⟨held, object, h, htarget⟩, fun o' ho' => ?_⟩
      rcases List.mem_append.mp ho' with ho' | ho'
      · exact hdone o' ho'
      · rw [List.mem_singleton.mp ho']
        exact ⟨held, object, htarget⟩
    constructor
    · intro s' h
      obtain ⟨s₁, hs₁, h⟩ := bind_eq_ok.mp h
      obtain ⟨held, object, htarget, hkey, rfl⟩ := applyOverride_eq_ok.mp hs₁
      obtain ⟨hafter, hdone'⟩ := hnext held object htarget ((hround held object htarget).mp hkey)
      rw [List.append_cons]
      exact (ih hafter hdone').1 s' h
    · rw [returns_bind]
      constructor
      · rintro ⟨s₁, hs₁, h⟩
        obtain ⟨held, object, htarget, hkey, rfl⟩ := applyOverride_eq_ok.mp hs₁
        have hfresh := (hround held object htarget).mp hkey
        obtain ⟨hafter, hdone'⟩ := hnext held object htarget hfresh
        obtain ⟨happlicable, hrest⟩ := (ih hafter hdone').2.mp h
        refine ⟨⟨?_, ?_⟩, fun o' ho' => List.forall_mem_cons.mpr ⟨hfresh o' ho', fun o₂ ho₂ =>
          hrest o' (List.mem_append_left _ ho') o₂ ho₂⟩⟩
        · exact List.forall_mem_cons.mpr ⟨⟨held, object, htarget⟩, happlicable.targeted⟩
        · exact List.pairwise_cons.mpr ⟨fun o₂ ho₂ =>
            hrest o (List.mem_append_right _ (List.mem_singleton_self _)) o₂ ho₂, happlicable.once⟩
      · rintro ⟨happlicable, hold⟩
        obtain ⟨⟨held, object, htarget⟩, htargeted⟩ := List.forall_mem_cons.mp happlicable.targeted
        obtain ⟨hfirst, honce⟩ := List.pairwise_cons.mp happlicable.once
        have hfresh : ∀ o' ∈ done, ¬SameWindow snapshots o' o :=
          fun o' ho' => hold o' ho' o List.mem_cons_self
        obtain ⟨hafter, hdone'⟩ := hnext held object htarget hfresh
        refine ⟨_, applyOverride_eq_ok.mpr
          ⟨held, object, htarget, (hround held object htarget).mpr hfresh, rfl⟩, ?_⟩
        refine (ih hafter hdone').2.mpr ⟨⟨htargeted, honce⟩, fun o' ho' o₂ ho₂ => ?_⟩
        rcases List.mem_append.mp ho' with ho' | ho'
        · exact hold o' ho' o₂ (List.mem_cons_of_mem _ ho₂)
        · rw [List.mem_singleton.mp ho']
          exact hfirst o₂ ho₂

/-! ### What is returned -/

theorem withWindows_self (snapshot : CapacitySnapshot) :
    snapshot.withWindows snapshot.windows = snapshot := by
  unfold CapacitySnapshot.withWindows
  split_ifs <;> rfl

/-- A snapshot after some overrides. -/
def overriddenSnapshot (overrides : List CapacityPercentageOverride) (held : HeldSnapshot) :
    CapacitySnapshot :=
  held.snapshot.withWindows
    (held.snapshot.windows.map (overriddenWindow overrides held.snapshot.provider))

theorem Overriding.After.snapshot (hs : s.After snapshots overrides) (hmem : held ∈ snapshots) :
    s.snapshot held = overriddenSnapshot overrides held := by
  have hwindows : (held.objects.map (overriddenObject overrides held.snapshot.provider)).map
      (·.window) = held.snapshot.windows.map (overriddenWindow overrides held.snapshot.provider) := by
    rw [← held.map_objects, List.map_map, List.map_map]
    exact List.map_congr_left fun _ _ => window_overriddenObject
  unfold Overriding.snapshot overriddenSnapshot
  rw [hs.result held hmem]
  by_cases hsome : ∃ o ∈ overrides, o.provider = held.snapshot.provider
  · simp only [hsome, if_true, hwindows]
  · simp only [hsome, if_false]
    have hself : held.snapshot.windows.map (overriddenWindow overrides held.snapshot.provider) =
        held.snapshot.windows := by
      rw [← hwindows, List.map_congr_left fun object _ => overriddenObject_of_not fun o ho h =>
        hsome ⟨o, ho, h.1⟩, List.map_id', held.map_objects]
    rw [hself, withWindows_self]

/-- **The loop returns exactly if the overrides apply**, and its result is a function of them. -/
theorem applyCapacityOverrides_eq_ok {result : List CapacitySnapshot} :
    applyCapacityOverrides snapshots overrides = .ok result ↔ UniqueHeld snapshots ∧
      Applicable snapshots overrides ∧ result = snapshots.map (overriddenSnapshot overrides) := by
  unfold applyCapacityOverrides
  rw [rejectDuplicates_bind_eq_ok]
  refine and_congr_right fun hunique => ?_
  obtain ⟨hafter, hreturns⟩ := foldlM_applyOverride overrides hunique Overriding.after_nil nofun
  constructor
  · intro h
    obtain ⟨s, hs, h⟩ := bind_eq_ok.mp h
    refine ⟨(hreturns.mp ⟨s, hs⟩).1, ?_⟩
    rw [← Except.ok.inj h]
    exact List.map_congr_left fun held hmem => (hafter s hs).snapshot hmem
  · rintro ⟨happlicable, rfl⟩
    obtain ⟨s, hs⟩ := hreturns.mpr ⟨happlicable, nofun⟩
    refine bind_eq_ok.mpr ⟨s, hs, congrArg Except.ok ?_⟩
    exact List.map_congr_left fun held hmem => (hafter s hs).snapshot hmem

/-! ### Order independence -/

theorem SameWindow.symm (h : SameWindow snapshots o o') : SameWindow snapshots o' o :=
  let ⟨held, object, h, h'⟩ := h
  ⟨held, object, h', h⟩

instance : Std.Symm fun o o' => ¬SameWindow snapshots o o' where
  symm _ _ h h' := h h'.symm

theorem Applicable.perm (h : Applicable snapshots overrides) (hperm : overrides.Perm rest) :
    Applicable snapshots rest where
  targeted := fun o ho => h.targeted o (hperm.mem_iff.mpr ho)
  once := (hperm.pairwise_iff fun hxy hyx => hxy hyx.symm).mp h.once

/-- One override at most names a window. -/
theorem Applicable.eq_of_matches (h : Applicable snapshots overrides)
    (hunique : UniqueHeld snapshots) (hmem : held ∈ snapshots) (hobject : object ∈ held.objects)
    (ho : o ∈ overrides) (ho' : o' ∈ overrides)
    (hnames : o.provider = held.snapshot.provider ∧ o.matchesWindow object.window = true)
    (hnames' : o'.provider = held.snapshot.provider ∧ o'.matchesWindow object.window = true) :
    o = o' := by
  by_contra hne
  exact h.once.forall ho ho' hne ⟨held, object,
    .of_matches hunique (h.targeted o ho) hmem hnames.1 hobject hnames.2,
    .of_matches hunique (h.targeted o' ho') hmem hnames'.1 hobject hnames'.2⟩

/-- A permutation of the overrides gives the same snapshots. -/
theorem Applicable.overriddenSnapshot_eq (h : Applicable snapshots overrides)
    (hunique : UniqueHeld snapshots) (hperm : overrides.Perm rest) (hmem : held ∈ snapshots) :
    overriddenSnapshot overrides held = overriddenSnapshot rest held := by
  unfold overriddenSnapshot
  refine congrArg held.snapshot.withWindows ?_
  rw [← held.map_objects, List.map_map, List.map_map]
  refine List.map_congr_left fun object hobject => ?_
  have hfind : (overrides.find? fun o => o.provider = held.snapshot.provider &&
      o.matchesWindow object.window) = rest.find? fun o => o.provider = held.snapshot.provider &&
        o.matchesWindow object.window := by
    refine find?_eq_of_perm hperm fun o ho o' ho' hnames hnames' => ?_
    exact h.eq_of_matches hunique hmem hobject ho ho' (by simpa using hnames) (by simpa using hnames')
  show overriddenWindow overrides _ object.window = overriddenWindow rest _ object.window
  rw [overriddenWindow, hfind]
  rfl

/-- **The order of the overrides does not matter**, neither for what is returned nor for whether. -/
theorem applyCapacityOverrides_perm (hperm : overrides.Perm rest) (result : List CapacitySnapshot) :
    applyCapacityOverrides snapshots overrides = .ok result ↔
      applyCapacityOverrides snapshots rest = .ok result := by
  rw [applyCapacityOverrides_eq_ok, applyCapacityOverrides_eq_ok]
  refine and_congr_right fun hunique => ?_
  constructor
  · rintro ⟨happlicable, rfl⟩
    exact ⟨happlicable.perm hperm, List.map_congr_left fun held hmem =>
      happlicable.overriddenSnapshot_eq hunique hperm hmem⟩
  · rintro ⟨happlicable, rfl⟩
    exact ⟨happlicable.perm hperm.symm, List.map_congr_left fun held hmem =>
      happlicable.overriddenSnapshot_eq hunique hperm.symm hmem⟩

/-! ### The frame -/

/-- A window differs in its percentage pair alone, and there only if an override names it. -/
structure OverriddenWindow (overrides : List CapacityPercentageOverride) (provider : SafeId)
    (w w' : CapacityWindow) : Prop where
  rest : w' = { w with remainingPercent := w'.remainingPercent }
  overridden : ∀ o ∈ overrides, o.provider = provider → o.matchesWindow w = true →
    w'.remainingPercent = some o.remainingPercent
  untouched : (∀ o ∈ overrides, o.provider = provider → o.matchesWindow w = false) → w' = w

/-- A snapshot differs in the windows that overrides name. -/
structure OverriddenSnapshot (overrides : List CapacityPercentageOverride)
    (s s' : CapacitySnapshot) : Prop where
  provider : s'.provider = s.provider
  source : s'.source = s.source
  retrieved : s'.retrievedAt = s.retrievedAt
  status : s'.status = s.status
  diagnostics : s'.diagnostics = s.diagnostics
  plan : s'.plan = s.plan
  windows : List.Forall₂ (OverriddenWindow overrides s.provider) s.windows s'.windows

theorem Applicable.overriddenWindow (h : Applicable snapshots overrides)
    (hunique : UniqueHeld snapshots) (hmem : held ∈ snapshots) (hobject : object ∈ held.objects) :
    OverriddenWindow overrides held.snapshot.provider object.window
      (overriddenWindow overrides held.snapshot.provider object.window) := by
  unfold ScarcityRouter.overriddenWindow
  cases hfind : overrides.find? fun o =>
      o.provider = held.snapshot.provider && o.matchesWindow object.window with
  | none =>
    rw [List.find?_eq_none] at hfind
    exact ⟨rfl, fun o ho hprovider hmatch => absurd (by simp [hprovider, hmatch]) (hfind o ho),
      fun _ => rfl⟩
  | some found =>
    have hfound := List.mem_of_find?_eq_some hfind
    have hnames : found.provider = held.snapshot.provider ∧
        found.matchesWindow object.window = true := by
      simpa using List.find?_some hfind
    refine ⟨rfl, fun o ho hprovider hmatch => ?_, fun huntouched => ?_⟩
    · rw [h.eq_of_matches hunique hmem hobject ho hfound ⟨hprovider, hmatch⟩ hnames]
      rfl
    · have hfalse := huntouched found hfound hnames.1
      rw [hnames.2] at hfalse
      cases hfalse

/-- A status without windows has none to override. -/
theorem withWindows_overridden {snapshot : CapacitySnapshot} {windows : List CapacityWindow}
    (h : List.Forall₂ (OverriddenWindow overrides snapshot.provider) snapshot.windows windows) :
    OverriddenSnapshot overrides snapshot (snapshot.withWindows windows) := by
  by_cases hstatus : snapshot.status.withoutWindows = true
  · have hnil := snapshot.no_windows hstatus
    have hsame : snapshot.withWindows windows = snapshot := dif_pos hstatus
    rw [hsame]
    exact ⟨rfl, rfl, rfl, rfl, rfl, rfl, by rw [hnil]; exact .nil⟩
  · have hchanged : snapshot.withWindows windows =
        { snapshot with windows, no_windows := fun h' => absurd h' hstatus } := dif_neg hstatus
    rw [hchanged]
    exact ⟨rfl, rfl, rfl, rfl, rfl, rfl, h⟩

theorem Applicable.overridden (h : Applicable snapshots overrides)
    (hunique : UniqueHeld snapshots) (hmem : held ∈ snapshots) :
    OverriddenSnapshot overrides held.snapshot (overriddenSnapshot overrides held) := by
  apply withWindows_overridden
  rw [← held.map_objects, List.map_map, List.forall₂_map_left_iff, List.forall₂_map_right_iff,
    List.forall₂_same]
  exact fun object hobject => h.overriddenWindow hunique hmem hobject

/-! ### Current values -/

/-- The overrides repeat what is there: each names a window with its own percentage, no two the same
    window, and the policy, the replenishment states and the instant are the current ones. -/
structure CurrentValues (snapshots : List HeldSnapshot) (policy : SelectorPolicy)
    (states : List ReplenishmentState) (evaluatedAt : Instant) (overrides : SimulationOverrides) :
    Prop where
  applicable : Applicable snapshots overrides.capacityPercentages
  percentages : ∀ o ∈ overrides.capacityPercentages, ∀ held object,
    o.Targets snapshots held object → object.window.remainingPercent = some o.remainingPercent
  policy : ∀ replaced ∈ overrides.selectorPolicy, replaced = policy
  states : ∀ replaced ∈ overrides.replenishmentStates, replaced.Perm states
  evaluatedAt : ∀ replaced ∈ overrides.evaluatedAt, replaced = evaluatedAt

/-- Overrides with the current percentages give the snapshots that were given. -/
theorem Applicable.overriddenSnapshot_self (h : Applicable snapshots overrides)
    (hcurrent : ∀ o ∈ overrides, ∀ held object, o.Targets snapshots held object →
      object.window.remainingPercent = some o.remainingPercent)
    (hunique : UniqueHeld snapshots) (hmem : held ∈ snapshots) :
    overriddenSnapshot overrides held = held.snapshot := by
  have hself : held.snapshot.windows.map (ScarcityRouter.overriddenWindow overrides
      held.snapshot.provider) = held.snapshot.windows := by
    rw [← held.map_objects, List.map_map]
    refine List.map_congr_left fun object hobject => ?_
    show ScarcityRouter.overriddenWindow overrides _ object.window = object.window
    unfold ScarcityRouter.overriddenWindow
    cases hfind : overrides.find? fun o =>
        o.provider = held.snapshot.provider && o.matchesWindow object.window with
    | none => rfl
    | some found =>
      have hfound := List.mem_of_find?_eq_some hfind
      have hnames : found.provider = held.snapshot.provider ∧
          found.matchesWindow object.window = true := by
        simpa using List.find?_some hfind
      have htarget : found.Targets snapshots held object :=
        .of_matches hunique (h.targeted found hfound) hmem hnames.1 hobject hnames.2
      show found.newWindow object.window = object.window
      unfold CapacityPercentageOverride.newWindow
      rw [← hcurrent found hfound held object htarget]
  unfold overriddenSnapshot
  rw [hself, withWindows_self]

end Loop

section Simulation

variable [Platform] {catalog : ModelCatalog} {requirement : TaskRequirement}
  {policy : SelectorPolicy} {snapshots : List HeldSnapshot} {evaluatedAt : Instant}
  {overrides : SimulationOverrides} {states : List ReplenishmentState}
  {reports : List ExecutionEligibility} {profileId : Option SafeId}
  {profilePolicyVersion : Option ℕ+}

/-- **Current values change no decision.** -/
theorem simulateSelection_current
    (hcurrent : CurrentValues snapshots policy states evaluatedAt overrides)
    (result : SimulationResult) :
    simulateSelection catalog requirement policy snapshots evaluatedAt overrides states reports
      profileId profilePolicyVersion = .ok result ↔
    ∃ decision, selectModel catalog requirement policy (snapshots.map (·.snapshot)) evaluatedAt
      states reports profileId profilePolicyVersion ∅ = .ok decision ∧
        result = ⟨decision, decision, overrides⟩ := by
  have hsame : ∀ decision, selectModel catalog requirement policy (snapshots.map (·.snapshot))
      evaluatedAt states reports profileId profilePolicyVersion ∅ = .ok decision →
      simulatedSnapshots snapshots overrides = .ok (snapshots.map (·.snapshot)) ∧
        selectModel catalog requirement (overrides.selectorPolicy.getD policy)
          (snapshots.map (·.snapshot)) (overrides.evaluatedAt.getD evaluatedAt)
          (overrides.replenishmentStates.getD states) reports profileId profilePolicyVersion ∅ =
            .ok decision := by
    intro decision hdecision
    have hunique : UniqueHeld snapshots := by
      have := (selectModel_eq_ok.mp hdecision).1.snapshots_unique
      unfold UniqueProviders at this
      rwa [List.map_map] at this
    constructor
    · unfold simulatedSnapshots
      split_ifs
      · rfl
      · rw [applyCapacityOverrides_eq_ok]
        refine ⟨hunique, hcurrent.applicable, List.map_congr_left fun held hmem => ?_⟩
        exact (hcurrent.applicable.overriddenSnapshot_self hcurrent.percentages hunique hmem).symm
    · have hpolicy : overrides.selectorPolicy.getD policy = policy := by
        cases hreplaced : overrides.selectorPolicy with
        | none => rfl
        | some replaced => exact hcurrent.policy replaced hreplaced
      have hat : overrides.evaluatedAt.getD evaluatedAt = evaluatedAt := by
        cases hreplaced : overrides.evaluatedAt with
        | none => rfl
        | some replaced => exact hcurrent.evaluatedAt replaced hreplaced
      have hstates : states.Perm (overrides.replenishmentStates.getD states) := by
        cases hreplaced : overrides.replenishmentStates with
        | none => exact .refl _
        | some replaced => exact (hcurrent.states replaced hreplaced).symm
      rw [hpolicy, hat]
      exact selectModel_eq_of_perm (.refl _) rfl rfl (.refl _) hstates (.refl _) hdecision
  unfold simulateSelection
  constructor
  · intro h
    obtain ⟨decision, hdecision, h⟩ := bind_eq_ok.mp h
    obtain ⟨hsnapshots, hsimulated⟩ := hsame decision hdecision
    rw [hsnapshots, ok_bind, hsimulated, ok_bind] at h
    exact ⟨decision, hdecision, (Except.ok.inj h).symm⟩
  · rintro ⟨decision, hdecision, rfl⟩
    obtain ⟨hsnapshots, hsimulated⟩ := hsame decision hdecision
    rw [hdecision, ok_bind, hsnapshots, ok_bind, hsimulated]
    rfl

end Simulation

/-! ### Overrides are exact -/

/-- **Capacity overrides are exact and order independent.**  What is returned differs in the pairs
    of the known windows that are uniquely matched, each once; a permutation returns the same or
    nothing either; and current values change no decision. -/
theorem capacity_overrides_exact (snapshots : List HeldSnapshot)
    (overrides : List CapacityPercentageOverride) :
    (∀ result, applyCapacityOverrides snapshots overrides = .ok result →
      Applicable snapshots overrides ∧
        List.Forall₂ (OverriddenSnapshot overrides) (snapshots.map (·.snapshot)) result) ∧
    (∀ permuted, overrides.Perm permuted → ∀ result,
      applyCapacityOverrides snapshots overrides = .ok result ↔
        applyCapacityOverrides snapshots permuted = .ok result) ∧
    ∀ [Platform] (catalog : ModelCatalog) (requirement : TaskRequirement) (policy : SelectorPolicy)
      (evaluatedAt : Instant) (simulation : SimulationOverrides) (states : List ReplenishmentState)
      (reports : List ExecutionEligibility) (profileId : Option SafeId)
      (profilePolicyVersion : Option ℕ+), CurrentValues snapshots policy states evaluatedAt simulation →
        ∀ result, simulateSelection catalog requirement policy snapshots evaluatedAt simulation
          states reports profileId profilePolicyVersion = .ok result ↔
        ∃ decision, selectModel catalog requirement policy (snapshots.map (·.snapshot)) evaluatedAt
          states reports profileId profilePolicyVersion ∅ = .ok decision ∧
            result = ⟨decision, decision, simulation⟩ := by
  refine ⟨fun result h => ?_, fun permuted hperm => applyCapacityOverrides_perm hperm,
    fun _ _ _ _ _ _ _ _ _ hcurrent => simulateSelection_current hcurrent⟩
  obtain ⟨hunique, happlicable, rfl⟩ := applyCapacityOverrides_eq_ok.mp h
  refine ⟨happlicable, ?_⟩
  rw [List.forall₂_map_left_iff, List.forall₂_map_right_iff, List.forall₂_same]
  exact fun held hmem => happlicable.overridden hunique hmem

/-- A snapshot with one window, of which 40 percent remain. -/
def fortySnapshot : HeldSnapshot where
  snapshot :=
    { provider := .lit "openai"
      source := .lit "probe"
      retrievedAt := 0
      status := .ok
      windows := [{ resource := .tokens, kind := .weekly, scopeId := some (.lit "codex")
                    remainingPercent := some 40 }]
      diagnostics := [] }
  addresses := [7]
  addressed := rfl

/-- The override of its window with what it holds. -/
def fortyOverride : CapacityPercentageOverride where
  provider := .lit "openai"
  scopeId := .lit "codex"
  resource := .tokens
  kind := .weekly
  remainingPercent := 40
  supported := openai_supported

/-- An override with the current percentage is simulated without effect. -/
theorem capacity_overrides_exact_forty : ∃ decision,
    @simulateSelection utcPlatform (smallListing (.lit "nova") (.lit "acme") nova_ne_acme).catalog
      ⟨.l0, {}, {}⟩ { resourcePolicy := mondayPolicy } [fortySnapshot] 0
      { capacityPercentages := [fortyOverride] } [] [] none none =
        .ok ⟨decision, decision, { capacityPercentages := [fortyOverride] }⟩ := by
  let _ := utcPlatform
  obtain ⟨result, hresult⟩ : ∃ result,
      (applyCapacityOverrides [fortySnapshot] [fortyOverride]).toOption = some result :=
    Option.isSome_iff_exists.mp (by decide +kernel)
  have hexact := capacity_overrides_exact [fortySnapshot] [fortyOverride]
  have happlicable := (hexact.1 result (eq_ok_of_toOption hresult)).1
  have hcurrent : CurrentValues [fortySnapshot] { resourcePolicy := mondayPolicy } [] 0
      { capacityPercentages := [fortyOverride] } := by
    refine ⟨happlicable, fun o ho held object htarget => ?_, nofun, nofun, nofun⟩
    obtain rfl := List.mem_singleton.mp ho
    obtain rfl := List.mem_singleton.mp (List.mem_of_find?_eq_some htarget.found)
    obtain rfl := List.mem_singleton.mp htarget.mem_objects.1
    rfl
  obtain ⟨decision, hdecision⟩ := selectModel_returns_iff.mpr
    (show SelectorDemands ([fortySnapshot].map (·.snapshot)) [] [] none none from
      ⟨List.nodup_singleton _, .nil, .nil, fun _ => rfl⟩)
  exact ⟨decision, (hexact.2.2 _ _ _ _ _ _ _ _ _ hcurrent _).mpr ⟨decision, hdecision, rfl⟩⟩

end ScarcityRouter
