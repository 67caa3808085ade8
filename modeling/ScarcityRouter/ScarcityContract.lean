import Mathlib.Data.List.Perm.Basic
import Mathlib.Order.Bounds.Basic
import ScarcityRouter.ScarcitySpec

namespace ScarcityRouter

open ScarcityRouter.Lib

/-!
# The contract of the assessment

What `assess_scarcity` promises of the windows of a candidate's own scopes, stated on the
windows and not on the passes that gather them.

* `InScope`, `ApplicableWindow` — the windows that count for a binding, and for the candidate.
* `Exhausted`, `FullyKnown` — one applicable window is empty; every binding has windows, all
  with a percentage.
* `AssessmentReads` — the state of an assessment, and the bounds of its effective remaining.
* `SameEvidence` — two lists of snapshots with the same windows in the candidate's scopes, in
  any order and among any others.
* `assessScarcity_contract` — **the contract**: with one snapshot for each provider the
  assessment returns, reads the windows so, and depends on nothing else of them.
-/

/-! ### The windows that count -/

/-- A window of the binding's scope, in the trusted snapshot of its provider. -/
def InScope (snapshots : List CapacitySnapshot) (b : CapacityScopeRef) (w : CapacityWindow) :
    Prop :=
  ∃ s, snapshotOf snapshots b.provider = some s ∧ s.status = .ok ∧ w ∈ s.windows ∧
    w.scopeId = some b.scopeId

section Reading

variable (entry : ModelCatalogEntry) (snapshots : List CapacitySnapshot)

/-- A window of one of the candidate's scopes. -/
def ApplicableWindow (w : CapacityWindow) : Prop :=
  ∃ bindings, entry.capacityBindings = some bindings ∧ ∃ b ∈ bindings, InScope snapshots b w

/-- Some applicable window has nothing left. -/
def Exhausted : Prop := ∃ w, ApplicableWindow entry snapshots w ∧ w.remainingPercent = some 0

/-- The applicable facts are complete: the bindings are known, and each has a window and no
    window without a percentage. -/
def FullyKnown : Prop :=
  ∃ bindings, entry.capacityBindings = some bindings ∧ ∀ b ∈ bindings,
    (∃ w, InScope snapshots b w) ∧ ∀ w, InScope snapshots b w → w.remainingPercent ≠ none

/-- The known percentages of the applicable windows. -/
def applicableValues : Set Percent :=
  {p | ∃ w, ApplicableWindow entry snapshots w ∧ w.remainingPercent = some p}

/-- The known percentages of the applicable windows of one role. -/
def roleValues (role : WindowRole) : Set Percent :=
  {p | ∃ w, ApplicableWindow entry snapshots w ∧ windowRole w.resource w.kind = role ∧
    w.remainingPercent = some p}

/-- The minimum of a role; a role without windows takes the minimum of the others. -/
def IsRoleMinimum (role : WindowRole) (m : Percent) : Prop :=
  IsLeast (roleValues entry snapshots role) m ∨
    roleValues entry snapshots role = ∅ ∧ IsLeast (applicableValues entry snapshots) m

/-- How an assessment reads the applicable windows. -/
structure AssessmentReads (a : ScarcityAssessment) : Prop where
  unavailable : a.state = .unavailable ↔ Exhausted entry snapshots
  unknown : a.state = .unknown ↔ ¬ FullyKnown entry snapshots ∧ ¬ Exhausted entry snapshots
  known : a.state = .known ↔ FullyKnown entry snapshots ∧ ¬ Exhausted entry snapshots
  effective : a.state = .known → ∃ e short long : Percent,
    a.effectiveRemainingPercent = some e ∧ 1 ≤ e.val ∧ e.val ≤ 100 ∧
    IsRoleMinimum entry snapshots .tactical short ∧
    IsRoleMinimum entry snapshots .strategic long ∧ min short long ≤ e ∧ e ≤ max short long

end Reading

/-! ### What the passes gather -/

/-- The known windows of a binding are its windows in scope with a percentage. -/
theorem mem_known_iff {snapshots : List CapacitySnapshot} {b : CapacityScopeRef}
    {k : KnownWindow} : k ∈ (assessBinding snapshots b).known ↔
      k.scope = b ∧ InScope snapshots b k.window ∧
        k.window.remainingPercent = some k.remaining := by
  unfold assessBinding InScope
  cases hsnapshot : snapshotOf snapshots b.provider with
  | none => simp
  | some s =>
    by_cases hok : s.status = .ok
    · obtain ⟨scope, w, r⟩ := k
      dsimp only
      rw [if_neg (not_not.mpr hok)]
      simp only [List.mem_filterMap, List.mem_filter, decide_eq_true_eq, Option.map_eq_some_iff,
        KnownWindow.mk.injEq, Option.some.injEq, exists_eq_left', hok, true_and]
      constructor
      · rintro ⟨w', ⟨hw, hscope⟩, r', hr, rfl, rfl, rfl⟩
        exact ⟨rfl, ⟨hw, hscope⟩, hr⟩
      · rintro ⟨rfl, hw, hr⟩
        exact ⟨w, hw, r, hr, rfl, rfl, rfl⟩
    · simp [hok]

/-- A binding leaves no gap exactly when it has windows in scope, all with a percentage. -/
theorem reasons_eq_nil_iff {snapshots : List CapacitySnapshot} {b : CapacityScopeRef} :
    (assessBinding snapshots b).reasons = [] ↔
      (∃ w, InScope snapshots b w) ∧ ∀ w, InScope snapshots b w → w.remainingPercent ≠ none := by
  unfold assessBinding InScope
  cases hsnapshot : snapshotOf snapshots b.provider with
  | none => simp
  | some s =>
    by_cases hok : s.status = .ok
    · dsimp only
      rw [if_neg (not_not.mpr hok)]
      simp only [List.append_eq_nil_iff, ite_eq_right_iff, List.cons_ne_nil, imp_false,
        Option.some.injEq, exists_eq_left', hok, true_and]
      refine and_congr ?_ ?_
      · rw [List.eq_nil_iff_forall_not_mem]
        simp only [List.mem_filter, decide_eq_true_eq]
        push Not
        rfl
      · simp only [List.any_eq_true, List.mem_filter, decide_eq_true_eq, Option.isNone_iff_eq_none,
          not_exists, not_and]
    · simp [hok]

section Gathered

variable {entry : ModelCatalogEntry} {snapshots : List CapacitySnapshot}
  {bindings : List CapacityScopeRef}

/-- The gathered windows carry the applicable windows with a percentage. -/
theorem exists_telemetryWindows_iff (hb : entry.capacityBindings = some bindings)
    {w : CapacityWindow} {p : Percent} :
    (∃ k ∈ telemetryWindows snapshots bindings, k.window = w ∧ k.remaining = p) ↔
      ApplicableWindow entry snapshots w ∧ w.remainingPercent = some p := by
  unfold telemetryWindows ApplicableWindow
  constructor
  · rintro ⟨k, hk, rfl, rfl⟩
    obtain ⟨b, hbmem, hkb⟩ := List.mem_flatMap.mp hk
    obtain ⟨-, hscope, hr⟩ := mem_known_iff.mp hkb
    exact ⟨⟨bindings, hb, b, hbmem, hscope⟩, hr⟩
  · rintro ⟨⟨bindings', hb', b, hbmem, hscope⟩, hr⟩
    obtain rfl := Option.some.inj (hb.symm.trans hb')
    exact ⟨⟨b, w, p⟩, List.mem_flatMap.mpr ⟨b, hbmem, mem_known_iff.mpr ⟨rfl, hscope, hr⟩⟩,
      rfl, rfl⟩

theorem exhausted_iff (hb : entry.capacityBindings = some bindings) :
    Exhausted entry snapshots ↔ ∃ k ∈ telemetryWindows snapshots bindings, k.remaining = 0 := by
  constructor
  · rintro ⟨w, hw⟩
    obtain ⟨k, hk, -, hzero⟩ := (exists_telemetryWindows_iff hb).mpr hw
    exact ⟨k, hk, hzero⟩
  · rintro ⟨k, hk, hzero⟩
    exact ⟨k.window, (exists_telemetryWindows_iff hb).mp ⟨k, hk, rfl, hzero⟩⟩

theorem fullyKnown_iff (hb : entry.capacityBindings = some bindings) :
    FullyKnown entry snapshots ↔ telemetryReasons snapshots bindings = [] := by
  unfold FullyKnown telemetryReasons
  rw [List.flatMap_eq_nil_iff, hb]
  simp only [Option.some.injEq, exists_eq_left', reasons_eq_nil_iff]

/-- The representative of a role is the least of its values. -/
theorem isLeast_roleValues (hb : entry.capacityBindings = some bindings) {role : WindowRole}
    {k : KnownWindow}
    (h : pickGoverning (rolePool role (telemetryWindows snapshots bindings)) = some k) :
    IsLeast (roleValues entry snapshots role) k.remaining := by
  constructor
  · obtain ⟨hk, hrole⟩ := List.mem_filter.mp (pickGoverning_mem h)
    obtain ⟨happ, hr⟩ := (exists_telemetryWindows_iff hb).mp ⟨k, hk, rfl, rfl⟩
    exact ⟨k.window, happ, of_decide_eq_true hrole, hr⟩
  · rintro p ⟨w, happ, hrole, hp⟩
    obtain ⟨v, hv, rfl, rfl⟩ := (exists_telemetryWindows_iff hb).mpr ⟨happ, hp⟩
    exact pickGoverning_le h (List.mem_filter.mpr ⟨hv, decide_eq_true hrole⟩)

/-- A role without a representative has no values. -/
theorem roleValues_eq_empty (hb : entry.capacityBindings = some bindings) {role : WindowRole}
    (h : pickGoverning (rolePool role (telemetryWindows snapshots bindings)) = none) :
    roleValues entry snapshots role = ∅ := by
  rw [Set.eq_empty_iff_forall_notMem]
  rintro p ⟨w, happ, hrole, hp⟩
  obtain ⟨v, hv, rfl, -⟩ := (exists_telemetryWindows_iff hb).mpr ⟨happ, hp⟩
  have hpool : v ∈ rolePool role (telemetryWindows snapshots bindings) :=
    List.mem_filter.mpr ⟨hv, decide_eq_true hrole⟩
  rw [pickGoverning_eq_none.mp h] at hpool
  exact List.not_mem_nil hpool

/-- Where the other role has no values, a role's minimum is the minimum of all. -/
theorem isLeast_applicableValues {role role' : WindowRole} (hne : role ≠ role') {m : Percent}
    (hempty : roleValues entry snapshots role = ∅)
    (h : IsLeast (roleValues entry snapshots role') m) :
    IsLeast (applicableValues entry snapshots) m := by
  obtain ⟨⟨w, happ, -, hp⟩, hlower⟩ := h
  refine ⟨⟨w, happ, hp⟩, ?_⟩
  rintro p ⟨v, hv, hvp⟩
  by_cases hrole : windowRole v.resource v.kind = role'
  · exact hlower ⟨v, hv, hrole, hvp⟩
  · -- There are two roles, so the window is of the empty one.
    have hother : windowRole v.resource v.kind = role := by
      revert hrole hne
      cases windowRole v.resource v.kind <;> cases role <;> cases role' <;> simp
    have hmem : p ∈ roleValues entry snapshots role := ⟨v, hv, hother, hvp⟩
    rw [hempty] at hmem
    exact absurd hmem (Set.notMem_empty p)

end Gathered

/-! ### The blend lies between the minima -/

theorem min_le_blend (a b : Percent) : min a b ≤ blend a b := by
  rw [min_le_iff, Fin.le_def, Fin.le_def]
  simp only [blend]
  omega

theorem blend_le_max (a b : Percent) : blend a b ≤ max a b := by
  rw [le_max_iff, Fin.le_def, Fin.le_def]
  simp only [blend]
  omega

/-- The effective remaining of a known assessment lies between the minima of the roles. -/
theorem exists_roleMinima {entry : ModelCatalogEntry} {snapshots : List CapacitySnapshot}
    {bindings : List CapacityScopeRef} (hb : entry.capacityBindings = some bindings)
    {effective : Percent}
    (h : blendedEffectiveRemainingPercent
      ((pickGoverning (rolePool .tactical (telemetryWindows snapshots bindings))).map
        (·.remaining))
      ((pickGoverning (rolePool .strategic (telemetryWindows snapshots bindings))).map
        (·.remaining)) = .ok effective) :
    ∃ short long, IsRoleMinimum entry snapshots .tactical short ∧
      IsRoleMinimum entry snapshots .strategic long ∧ effective = blend short long := by
  cases hshort : pickGoverning (rolePool .tactical (telemetryWindows snapshots bindings)) with
  | none =>
    cases hlong : pickGoverning (rolePool .strategic (telemetryWindows snapshots bindings)) with
    | none =>
      rw [hshort, hlong] at h
      cases h
    | some l =>
      rw [hshort, hlong] at h
      cases h
      have hleast := isLeast_roleValues hb hlong
      have hempty := roleValues_eq_empty hb hshort
      exact ⟨l.remaining, l.remaining,
        .inr ⟨hempty, isLeast_applicableValues (by decide) hempty hleast⟩, .inl hleast, rfl⟩
  | some s =>
    have hleast := isLeast_roleValues hb hshort
    cases hlong : pickGoverning (rolePool .strategic (telemetryWindows snapshots bindings)) with
    | none =>
      rw [hshort, hlong] at h
      cases h
      have hempty := roleValues_eq_empty hb hlong
      exact ⟨s.remaining, s.remaining, .inl hleast,
        .inr ⟨hempty, isLeast_applicableValues (by decide) hempty hleast⟩, rfl⟩
    | some l =>
      rw [hshort, hlong] at h
      cases h
      exact ⟨s.remaining, l.remaining, .inl hleast, .inl (isLeast_roleValues hb hlong), rfl⟩

/-! ### The reading of an assessment -/

/-- A known assessment stores the blend of the representatives. -/
theorem effective_of_assessTelemetry {bindings : List CapacityScopeRef}
    {reasons : List ScarcityReason} {known : List KnownWindow} {a : ScarcityAssessment}
    (h : assessTelemetry bindings reasons known = .ok a) (hstate : a.state = .known) :
    ∃ effective, blendedEffectiveRemainingPercent
        ((pickGoverning (rolePool .tactical known)).map (·.remaining))
        ((pickGoverning (rolePool .strategic known)).map (·.remaining)) = .ok effective ∧
      a.effectiveRemainingPercent = some effective := by
  unfold assessTelemetry at h
  cases hpick : pickGoverning (known.filter (·.remaining = 0)) with
  | some w =>
    rw [hpick] at h
    obtain rfl := eq_canonical_of_postInit h
    cases hstate
  | none =>
    rw [hpick] at h
    dsimp only at h
    by_cases hreasons : reasons = []
    · rw [if_neg (not_not.mpr hreasons)] at h
      obtain ⟨-, h⟩ := check_bind_eq_ok.mp h
      obtain ⟨effective, hblend, h⟩ := bind_eq_ok.mp h
      obtain ⟨-, h⟩ := check_bind_eq_ok.mp h
      obtain rfl := eq_canonical_of_postInit h
      exact ⟨effective, hblend, rfl⟩
    · rw [if_pos hreasons] at h
      obtain rfl := eq_canonical_of_postInit h
      cases hstate

/-- Representatives with something left blend to at least one percent. -/
theorem one_le_of_roleMinima {entry : ModelCatalogEntry} {snapshots : List CapacitySnapshot}
    (hleft : ¬ Exhausted entry snapshots) {short long : Percent}
    (hshort : IsRoleMinimum entry snapshots .tactical short)
    (hlong : IsRoleMinimum entry snapshots .strategic long) : 1 ≤ (blend short long).val := by
  have hne : ∀ {role m}, IsRoleMinimum entry snapshots role m → m ≠ 0 := by
    rintro role m (⟨⟨w, happ, -, hp⟩, -⟩ | ⟨-, ⟨w, happ, hp⟩, -⟩) rfl
    · exact hleft ⟨w, happ, hp⟩
    · exact hleft ⟨w, happ, hp⟩
  have hpos := blend_pos (hne hshort) (hne hlong)
  rw [Ne, Fin.ext_iff] at hpos
  exact Nat.one_le_iff_ne_zero.mpr hpos

/-- **Every assessment reads the applicable windows**, and no others. -/
theorem assessScarcity_reads {entry : ModelCatalogEntry} {snapshots : List CapacitySnapshot}
    {a : ScarcityAssessment} (h : assessScarcity entry snapshots = .ok a) :
    AssessmentReads entry snapshots a := by
  rcases assessScarcity_spec h with ⟨hb, hstate, -⟩ | ⟨bindings, hb, houtcome⟩
  · have hnone : ∀ bindings, entry.capacityBindings ≠ some bindings := by simp [hb]
    have hfull : ¬ FullyKnown entry snapshots := by
      rintro ⟨bindings, hsome, -⟩
      exact hnone _ hsome
    have hleft : ¬ Exhausted entry snapshots := by
      rintro ⟨_, ⟨bindings, hsome, -⟩, -⟩
      exact hnone _ hsome
    exact ⟨by simp [hstate, hleft], by simp [hstate, hfull, hleft], by simp [hstate, hfull],
      by simp [hstate]⟩
  · have htelemetry : assessTelemetry bindings (telemetryReasons snapshots bindings)
        (telemetryWindows snapshots bindings) = .ok a := by
      unfold assessScarcity at h
      obtain ⟨-, h⟩ := rejectDuplicates_bind_eq_ok.mp h
      rw [hb] at h
      exact h
    have hexhausted := @exhausted_iff _ snapshots _ hb
    have hfull := @fullyKnown_iff _ snapshots _ hb
    cases houtcome with
    | exhausted hzero hstate =>
      have hzero := hexhausted.mpr hzero
      exact ⟨by simp [hstate, hzero], by simp [hstate, hzero], by simp [hstate, hzero],
        by simp [hstate]⟩
    | incomplete hleft hgap hstate =>
      have hleft : ¬ Exhausted entry snapshots := by
        intro he
        obtain ⟨k, hk, hzero⟩ := hexhausted.mp he
        exact hleft k hk hzero
      have hgap : ¬ FullyKnown entry snapshots := fun hf => hgap (hfull.mp hf)
      exact ⟨by simp [hstate, hleft], by simp [hstate, hgap, hleft], by simp [hstate, hgap],
        by simp [hstate]⟩
    | complete hleft hnogap _ _ hstate =>
      have hleft : ¬ Exhausted entry snapshots := by
        intro he
        obtain ⟨k, hk, hzero⟩ := hexhausted.mp he
        exact hleft k hk hzero
      have hnogap := hfull.mpr hnogap
      refine ⟨by simp [hstate, hleft], by simp [hstate, hnogap], by simp [hstate, hnogap, hleft],
        fun _ => ?_⟩
      obtain ⟨effective, hblend, heffective⟩ := effective_of_assessTelemetry htelemetry hstate
      obtain ⟨short, long, hshort, hlong, rfl⟩ := exists_roleMinima hb hblend
      exact ⟨_, short, long, heffective, one_le_of_roleMinima hleft hshort hlong,
        Nat.lt_succ_iff.mp (blend short long).isLt, hshort, hlong, min_le_blend _ _,
        blend_le_max _ _⟩

/-! ### Only the evidence counts -/

/-- The windows of a snapshot in a binding's scope. -/
def scopedWindows (b : CapacityScopeRef) (s : CapacitySnapshot) : List CapacityWindow :=
  s.windows.filter fun w => w.scopeId = some b.scopeId

/-- The same status and the same windows in scope, in any order. -/
def SameScope (b : CapacityScopeRef) (s s' : CapacitySnapshot) : Prop :=
  s.status = s'.status ∧ (scopedWindows b s).Perm (scopedWindows b s')

/-- **The same evidence for a candidate.** For each of its bindings both lists have no snapshot
    of the provider, or snapshots of the same status with the same windows in scope. -/
def SameEvidence (entry : ModelCatalogEntry) (snapshots snapshots' : List CapacitySnapshot) :
    Prop :=
  ∀ bindings, entry.capacityBindings = some bindings → ∀ b ∈ bindings,
    Option.Rel (SameScope b) (snapshotOf snapshots b.provider) (snapshotOf snapshots' b.provider)

/-- The key and the percentage of a window are its evidence. -/
theorem governingEvidence_eq {v w : KnownWindow}
    (hkey : canonicalWindowKey v = canonicalWindowKey w) (hr : v.remaining = w.remaining) :
    governingEvidence v = governingEvidence w := by
  obtain ⟨⟨provider, scopeId⟩, window, r⟩ := v
  obtain ⟨⟨provider', scopeId'⟩, window', r'⟩ := w
  simp only [canonicalWindowKey, EmbeddingLike.apply_eq_iff_eq, Prod.mk.injEq] at hkey
  obtain ⟨rfl, rfl, hresource, hkind, hid⟩ := hkey
  have hresource : window.resource = window'.resource := by
    revert hresource
    cases window.resource <;> cases window'.resource <;> simp [CapacityResource.text]
  have hkind : window.kind = window'.kind := by
    revert hkind
    cases window.kind <;> cases window'.kind <;> simp [WindowKind.text]
  have hid : window.windowId = window'.windowId := by
    -- An absent id keys as the empty text, which is the text of no id.
    revert hid
    cases window.windowId with
    | none =>
      cases window'.windowId with
      | none => exact fun _ => rfl
      | some id => exact fun h => absurd h.symm id.text_ne_empty
    | some id =>
      cases window'.windowId with
      | none => exact fun h => absurd h id.text_ne_empty
      | some id' => exact fun h => congrArg some (SafeId.text_injective h)
  simp only [governingEvidence, hresource, hkind, hid]
  exact congrArg (fun r => (⟨_, _, _, r, _⟩ : GoverningWindowEvidence)) hr

/-- Among the windows with the least remaining, the governing one has the least key. -/
theorem canonicalWindowKey_le {candidates : List KnownWindow} {v w : KnownWindow}
    (h : pickGoverning candidates = some v) (hw : w ∈ candidates)
    (hr : w.remaining = v.remaining) : canonicalWindowKey v ≤ canonicalWindowKey w := by
  obtain ⟨rest, hsort⟩ := List.head?_eq_some_iff.mp h
  have hv := mem_sortBy.mp (List.mem_of_head? h)
  refine sortBy_head_le hsort (List.mem_filter.mpr ⟨hw, decide_eq_true ?_⟩)
  rw [hr]
  exact of_decide_eq_true (List.mem_filter.mp hv).2

/-- The governing evidence does not depend on the order of the pool. -/
theorem pickGoverning_eq_of_perm {xs ys : List KnownWindow} (h : xs.Perm ys) :
    (pickGoverning xs).map governingEvidence = (pickGoverning ys).map governingEvidence := by
  cases hx : pickGoverning xs with
  | none =>
    rw [pickGoverning_eq_none] at hx
    subst hx
    rw [h.nil_eq.symm]
    rfl
  | some v =>
    cases hy : pickGoverning ys with
    | none =>
      rw [pickGoverning_eq_none] at hy
      subst hy
      rw [h.eq_nil] at hx
      cases hx
    | some w =>
      have hv := h.subset (pickGoverning_mem hx)
      have hw := h.symm.subset (pickGoverning_mem hy)
      have hr : v.remaining = w.remaining :=
        le_antisymm (pickGoverning_le hx hw) (pickGoverning_le hy hv)
      refine congrArg some (governingEvidence_eq (le_antisymm ?_ ?_) hr)
      · exact canonicalWindowKey_le hx hw hr.symm
      · exact canonicalWindowKey_le hy hv hr

/-- The percentage of the representative does not depend on the order of the pool. -/
theorem remaining_eq_of_perm {xs ys : List KnownWindow} (h : xs.Perm ys) :
    (pickGoverning xs).map (·.remaining) = (pickGoverning ys).map (·.remaining) := by
  have hevidence := congrArg (Option.map (·.remainingPercent)) (pickGoverning_eq_of_perm h)
  rw [Option.map_map, Option.map_map] at hevidence
  exact hevidence

/-- The assessment of telemetry does not depend on the order of the windows. -/
theorem assessTelemetry_eq_of_perm {bindings : List CapacityScopeRef}
    {reasons : List ScarcityReason} {xs ys : List KnownWindow} (h : xs.Perm ys) :
    assessTelemetry bindings reasons xs = assessTelemetry bindings reasons ys := by
  unfold assessTelemetry
  have hzero := pickGoverning_eq_of_perm (h.filter (·.remaining = 0))
  cases hx : pickGoverning (xs.filter (·.remaining = 0)) with
  | some v =>
    cases hy : pickGoverning (ys.filter (·.remaining = 0)) with
    | none =>
      rw [hx, hy] at hzero
      cases hzero
    | some w =>
      rw [hx, hy] at hzero
      have hevidence : governingEvidence v = governingEvidence w := Option.some.inj hzero
      simp only [unavailableAssessment, hevidence]
  | none =>
    cases hy : pickGoverning (ys.filter (·.remaining = 0)) with
    | some w =>
      rw [hx, hy] at hzero
      cases hzero
    | none =>
      have hpool : ∀ role, (rolePool role xs).Perm (rolePool role ys) := fun _ => h.filter _
      have hempty : xs ≠ [] ↔ ys ≠ [] := not_congr ⟨fun hnil => (hnil ▸ h).nil_eq.symm,
        fun hnil => (hnil ▸ h).eq_nil⟩
      have hsome : ∀ role, (pickGoverning (rolePool role xs)).isSome
          = (pickGoverning (rolePool role ys)).isSome := fun role => by
        rw [← Option.isSome_map, pickGoverning_eq_of_perm (hpool role), Option.isSome_map]
      dsimp only
      simp only [pickGoverning_eq_of_perm (hpool _), remaining_eq_of_perm (hpool _), hsome, hempty]

/-- One binding gathers the same gaps from the same evidence, and the same windows. -/
theorem assessBinding_of_sameScope {snapshots snapshots' : List CapacitySnapshot}
    {b : CapacityScopeRef} (h : Option.Rel (SameScope b) (snapshotOf snapshots b.provider)
      (snapshotOf snapshots' b.provider)) :
    (assessBinding snapshots b).reasons = (assessBinding snapshots' b).reasons ∧
      (assessBinding snapshots b).known.Perm (assessBinding snapshots' b).known := by
  unfold assessBinding
  revert h
  generalize snapshotOf snapshots b.provider = found
  generalize snapshotOf snapshots' b.provider = found'
  intro h
  cases h with
  | none => exact ⟨rfl, .refl _⟩
  | @some s s' hs =>
    obtain ⟨hstatus, hwindows⟩ := hs
    dsimp only
    rw [hstatus]
    by_cases hok : s'.status ≠ .ok
    · rw [if_pos hok, if_pos hok]
      exact ⟨rfl, .refl _⟩
    · rw [if_neg hok, if_neg hok]
      unfold scopedWindows at hwindows
      have hnil : (s.windows.filter fun w => w.scopeId = some b.scopeId) = [] ↔
          (s'.windows.filter fun w => w.scopeId = some b.scopeId) = [] :=
        ⟨fun hnil => (hnil ▸ hwindows).nil_eq.symm, fun hnil => (hnil ▸ hwindows).eq_nil⟩
      dsimp only
      rw [hwindows.any_eq]
      simp only [hnil]
      exact ⟨trivial, hwindows.filterMap _⟩

/-- **The same evidence is assessed the same.** -/
theorem assessScarcity_eq_of_sameEvidence {entry : ModelCatalogEntry}
    {snapshots snapshots' : List CapacitySnapshot} (unique : UniqueProviders snapshots)
    (unique' : UniqueProviders snapshots') (h : SameEvidence entry snapshots snapshots') :
    assessScarcity entry snapshots = assessScarcity entry snapshots' := by
  unfold assessScarcity
  rw [rejectDuplicates_of_nodup unique, rejectDuplicates_of_nodup unique']
  cases hb : entry.capacityBindings with
  | none => rfl
  | some bindings =>
    have hbinding := fun b hmem => assessBinding_of_sameScope (h bindings hb b hmem)
    have hreasons : bindings.flatMap (fun b => (assessBinding snapshots b).reasons)
        = bindings.flatMap fun b => (assessBinding snapshots' b).reasons :=
      List.flatMap_congr fun b hmem => (hbinding b hmem).1
    have hknown : (bindings.flatMap fun b => (assessBinding snapshots b).known).Perm
        (bindings.flatMap fun b => (assessBinding snapshots' b).known) :=
      List.Perm.flatMap_left _ fun b hmem => (hbinding b hmem).2
    dsimp only
    rw [hreasons, ok_bind, ok_bind]
    exact assessTelemetry_eq_of_perm hknown

/-! ### The contract -/

/-- **The contract of the assessment.** With one snapshot for each provider, which it checks
    itself, the assessment returns a record that reads the candidate's windows: unavailable
    exactly when one of them is empty, unknown exactly when none is and the facts are incomplete,
    and otherwise known with an effective remaining between 1 and 100 that lies between the
    minima of the two roles. The same evidence in other lists of snapshots, with the windows in
    another order and among other windows of other scopes, is assessed the same. -/
theorem assessScarcity_contract (entry : ModelCatalogEntry) (snapshots : List CapacitySnapshot)
    (unique : UniqueProviders snapshots) :
    ∃ a, assessScarcity entry snapshots = .ok a ∧ AssessmentReads entry snapshots a ∧
      ∀ snapshots', UniqueProviders snapshots' → SameEvidence entry snapshots snapshots' →
        assessScarcity entry snapshots' = .ok a := by
  obtain ⟨a, ha⟩ := (assessScarcity_returns_iff entry snapshots).mpr unique
  refine ⟨a, ha, assessScarcity_reads ha, fun snapshots' unique' hsame => ?_⟩
  rw [← assessScarcity_eq_of_sameEvidence unique unique' hsame]
  exact ha

/-- A candidate bound to one quota scope. -/
private def sharedEntry : ModelCatalogEntry where
  identity := ⟨.lit "openai", .lit "atlas", .lit "base"⟩
  displayName := "Atlas"
  capacityBindings := some [⟨.lit "openai", .lit "shared"⟩]
  name_nonempty := atlas_named
  bindings_valid := openai_shared
  resource_bindings_valid := openai_unbound

/-- A token window of a scope. -/
private def tokenWindow (kind : WindowKind) (scope : SafeId) (remaining : Percent) :
    CapacityWindow where
  resource := .tokens
  kind := kind
  scopeId := some scope
  remainingPercent := some remaining

/-- An observation of the provider's windows. -/
private def tokenSnapshot (windows : List CapacityWindow) : CapacitySnapshot where
  provider := .lit "openai"
  source := .lit "probe"
  retrievedAt := 0
  status := .ok
  windows := windows
  diagnostics := []
  no_windows := nofun

/-- With 30 percent of the short window and 60 of the weekly one, 55 percent are effective; an
    empty window of another scope in front of them, reversed, changes nothing. -/
theorem assessScarcity_contract_shared :
    ∃ a, a.effectiveRemainingPercent = some 55 ∧
      assessScarcity sharedEntry [tokenSnapshot [tokenWindow .weekly (.lit "other") 0,
        tokenWindow .weekly (.lit "shared") 60, tokenWindow .fiveHour (.lit "shared") 30]]
          = .ok a := by
  obtain ⟨a, ha, -, hsame⟩ := assessScarcity_contract sharedEntry
    [tokenSnapshot [tokenWindow .fiveHour (.lit "shared") 30,
      tokenWindow .weekly (.lit "shared") 60]] (List.nodup_singleton _)
  refine ⟨a, ?_, hsame _ (List.nodup_singleton _) ?_⟩
  · have heffective : (assessScarcity sharedEntry [tokenSnapshot
        [tokenWindow .fiveHour (.lit "shared") 30, tokenWindow .weekly (.lit "shared") 60]]).toOption.map
          (·.effectiveRemainingPercent) = some (some 55) := by decide +kernel
    rw [ha] at heffective
    exact Option.some.inj heffective
  · intro bindings hb b hmem
    obtain rfl := Option.some.inj hb
    obtain rfl := List.mem_singleton.mp hmem
    exact .some ⟨rfl, by decide +kernel⟩

end ScarcityRouter
