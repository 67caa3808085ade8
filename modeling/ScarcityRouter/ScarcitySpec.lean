import ScarcityRouter.Lib.Pointwise
import ScarcityRouter.Scarcity

namespace ScarcityRouter

open ScarcityRouter.Lib

/-!
# What an assessment says, and how it moves with the windows

* `AssessesTelemetry` — the three outcomes of an assessment, with the evidence of each.
* `assessScarcity_spec` — every assessment has one of them.
* `LoweredSnapshots` — the same observations, with less remaining in some known windows.
* `assessScarcity_lowered` — **less capacity is never assessed as more**: an exhausted candidate
  stays exhausted, an unknown one never becomes known, and no penalty decreases.
-/

/-! ### The outcomes of an assessment -/

/-- The outcomes of gathered telemetry: an exhausted window decides, then a gap in the evidence,
    and only complete evidence is blended. -/
inductive AssessesTelemetry (reasons : List ScarcityReason) (known : List KnownWindow)
    (a : ScarcityAssessment) : Prop
  | exhausted (window : ∃ w ∈ known, w.remaining = 0) (state : a.state = .unavailable)
      (penalty : a.penaltyUnits = some 10000)
  | incomplete (left : ∀ w ∈ known, w.remaining ≠ 0) (gap : reasons ≠ [])
      (state : a.state = .unknown) (penalty : a.penaltyUnits = none)
  | complete (left : ∀ w ∈ known, w.remaining ≠ 0) (full : reasons = []) (effective : Percent)
      (blended : blendedEffectiveRemainingPercent
        ((pickGoverning (rolePool .tactical known)).map (·.remaining))
        ((pickGoverning (rolePool .strategic known)).map (·.remaining)) = .ok effective)
      (state : a.state = .known) (penalty : a.penaltyUnits = some (scarcityPenaltyUnits effective))

/-- The constructed record is the canonical form of its arguments. -/
theorem eq_canonical_of_postInit {a stored : ScarcityAssessment}
    (h : a.postInit = .ok stored) : stored = a.canonical := by
  unfold ScarcityAssessment.postInit at h
  obtain ⟨-, h⟩ := rejectDuplicates_bind_eq_ok.mp h
  obtain ⟨_, -, h⟩ := bind_eq_ok.mp h
  cases h
  rfl

/-- Every assessment of telemetry is one of the three outcomes. -/
private theorem assessTelemetry_spec {bindings : List CapacityScopeRef}
    {reasons : List ScarcityReason} {known : List KnownWindow} {a : ScarcityAssessment}
    (h : assessTelemetry bindings reasons known = .ok a) : AssessesTelemetry reasons known a := by
  unfold assessTelemetry at h
  cases hpick : pickGoverning (known.filter (·.remaining = 0)) with
  | some w =>
    rw [hpick] at h
    obtain ⟨hw, hzero⟩ := List.mem_filter.mp (pickGoverning_mem hpick)
    obtain rfl := eq_canonical_of_postInit h
    exact .exhausted ⟨w, hw, of_decide_eq_true hzero⟩ rfl rfl
  | none =>
    rw [hpick] at h
    have hleft : ∀ w ∈ known, w.remaining ≠ 0 := by
      intro w hw hzero
      have hin : w ∈ known.filter (·.remaining = 0) :=
        List.mem_filter.mpr ⟨hw, decide_eq_true hzero⟩
      rw [pickGoverning_eq_none.mp hpick] at hin
      exact List.not_mem_nil hin
    dsimp only at h
    by_cases hreasons : reasons = []
    · rw [if_neg (not_not.mpr hreasons)] at h
      obtain ⟨-, h⟩ := check_bind_eq_ok.mp h
      obtain ⟨effective, hblend, h⟩ := bind_eq_ok.mp h
      obtain ⟨-, h⟩ := check_bind_eq_ok.mp h
      obtain rfl := eq_canonical_of_postInit h
      exact .complete hleft hreasons effective hblend rfl rfl
    · rw [if_pos hreasons] at h
      obtain rfl := eq_canonical_of_postInit h
      exact .incomplete hleft hreasons rfl rfl

/-- The telemetry reasons an entry's bindings gather. -/
def telemetryReasons (snapshots : List CapacitySnapshot) (bindings : List CapacityScopeRef) :
    List ScarcityReason :=
  bindings.flatMap fun b => (assessBinding snapshots b).reasons

/-- The known windows an entry's bindings gather. -/
def telemetryWindows (snapshots : List CapacitySnapshot) (bindings : List CapacityScopeRef) :
    List KnownWindow :=
  bindings.flatMap fun b => (assessBinding snapshots b).known

/-- **Every assessment** is unknown for want of bindings, or an outcome of their telemetry. -/
theorem assessScarcity_spec {entry : ModelCatalogEntry} {snapshots : List CapacitySnapshot}
    {a : ScarcityAssessment} (h : assessScarcity entry snapshots = .ok a) :
    (entry.capacityBindings = none ∧ a.state = .unknown ∧ a.penaltyUnits = none) ∨
    ∃ bindings, entry.capacityBindings = some bindings ∧
      AssessesTelemetry (telemetryReasons snapshots bindings)
        (telemetryWindows snapshots bindings) a := by
  unfold assessScarcity at h
  obtain ⟨-, h⟩ := rejectDuplicates_bind_eq_ok.mp h
  cases hb : entry.capacityBindings with
  | none =>
    rw [hb] at h
    obtain rfl := eq_canonical_of_postInit h
    exact .inl ⟨rfl, rfl, rfl⟩
  | some bindings =>
    rw [hb] at h
    exact .inr ⟨bindings, rfl, assessTelemetry_spec h⟩

/-- A penalty is known exactly when the capacity is not unknown. -/
theorem penaltyUnits_isSome_of_assessScarcity {entry : ModelCatalogEntry}
    {snapshots : List CapacitySnapshot} {a : ScarcityAssessment}
    (h : assessScarcity entry snapshots = .ok a) :
    a.penaltyUnits.isSome = true ↔ a.state ≠ .unknown := by
  rcases assessScarcity_spec h with ⟨-, hstate, hpenalty⟩ | ⟨bindings, -, houtcome⟩
  · simp [hstate, hpenalty]
  · cases houtcome with
    | exhausted _ hstate hpenalty => simp [hstate, hpenalty]
    | incomplete _ _ hstate hpenalty => simp [hstate, hpenalty]
    | complete _ _ effective _ hstate hpenalty => simp [hstate, hpenalty]

/-! ### Lowered windows -/

/-- A remaining percentage lowered or kept: what is unknown stays unknown. -/
abbrev LoweredPercent : Option Percent → Option Percent → Prop := Option.Rel fun r r' => r' ≤ r

/-- The same window, with less remaining if its percentage is known. -/
structure LoweredWindow (w w' : CapacityWindow) : Prop where
  rest : w' = { w with remainingPercent := w'.remainingPercent }
  lowered : LoweredPercent w.remainingPercent w'.remainingPercent

/-- The same observation, with less remaining in some known windows. -/
structure LoweredSnapshot (s s' : CapacitySnapshot) : Prop where
  provider : s'.provider = s.provider
  source : s'.source = s.source
  retrieved : s'.retrievedAt = s.retrievedAt
  status : s'.status = s.status
  diagnostics : s'.diagnostics = s.diagnostics
  windows : List.Forall₂ LoweredWindow s.windows s'.windows

/-- The same observations, with less remaining in some known windows. -/
abbrev LoweredSnapshots (snapshots snapshots' : List CapacitySnapshot) : Prop :=
  List.Forall₂ LoweredSnapshot snapshots snapshots'

/-- A window that matched a binding, and what it became. -/
structure LoweredKnown (k k' : KnownWindow) : Prop where
  scope : k'.scope = k.scope
  window : LoweredWindow k.window k'.window
  remaining : k'.remaining ≤ k.remaining

namespace LoweredWindow

variable {w w' : CapacityWindow}

theorem resource (h : LoweredWindow w w') : w'.resource = w.resource := by rw [h.rest]

theorem kind (h : LoweredWindow w w') : w'.kind = w.kind := by rw [h.rest]

theorem scopeId (h : LoweredWindow w w') : w'.scopeId = w.scopeId := by rw [h.rest]

theorem role (h : LoweredWindow w w') :
    windowRole w'.resource w'.kind = windowRole w.resource w.kind := by
  rw [h.resource, h.kind]

/-- Lowering never hides a percentage. -/
theorem isNone (h : LoweredWindow w w') :
    w'.remainingPercent.isNone = w.remainingPercent.isNone :=
  isNone_of_rel h.lowered

end LoweredWindow

/-- Lowered snapshots are still one for each provider. -/
theorem LoweredSnapshots.map_provider {snapshots snapshots' : List CapacitySnapshot}
    (h : LoweredSnapshots snapshots snapshots') :
    snapshots'.map (·.provider) = snapshots.map (·.provider) := by
  induction h with
  | nil => rfl
  | cons hs _ ih => rw [List.map_cons, List.map_cons, hs.provider, ih]

theorem LoweredSnapshots.unique {snapshots snapshots' : List CapacitySnapshot}
    (h : LoweredSnapshots snapshots snapshots') :
    UniqueProviders snapshots' ↔ UniqueProviders snapshots := by
  unfold UniqueProviders
  rw [h.map_provider]

/-- The snapshot of a provider is lowered with the rest. -/
theorem LoweredSnapshots.snapshotOf {snapshots snapshots' : List CapacitySnapshot}
    (h : LoweredSnapshots snapshots snapshots') (provider : SafeId) :
    Option.Rel LoweredSnapshot (snapshotOf snapshots provider)
      (snapshotOf snapshots' provider) :=
  find?_rel_of_forall₂ (fun hs => by rw [hs.provider]) h

/-! ### Lowered telemetry -/

/-- One binding gathers the same gaps, and lowered windows. -/
private theorem assessBinding_lowered {snapshots snapshots' : List CapacitySnapshot}
    (h : LoweredSnapshots snapshots snapshots') (binding : CapacityScopeRef) :
    (assessBinding snapshots' binding).reasons = (assessBinding snapshots binding).reasons ∧
    List.Forall₂ LoweredKnown (assessBinding snapshots binding).known
      (assessBinding snapshots' binding).known := by
  unfold assessBinding
  have hsnapshot := h.snapshotOf binding.provider
  revert hsnapshot
  generalize snapshotOf snapshots binding.provider = found
  generalize snapshotOf snapshots' binding.provider = found'
  intro hsnapshot
  cases hsnapshot with
  | none => exact ⟨rfl, .nil⟩
  | @some s s' hs =>
    dsimp only
    rw [hs.status]
    by_cases hok : s.status ≠ .ok
    · rw [if_pos hok, if_pos hok]
      exact ⟨rfl, .nil⟩
    · rw [if_neg hok, if_neg hok]
      have hmatched := forall₂_filter (p := fun w => w.scopeId = some binding.scopeId)
        (fun hw => by rw [hw.scopeId]) hs.windows
      refine ⟨?_, ?_⟩
      · dsimp only
        rw [forall₂_any (p := fun w => w.remainingPercent.isNone) (fun hw => hw.isNone) hmatched]
        simp only [forall₂_eq_nil hmatched]
      · refine List.rel_filterMap (fun w w' hw => ?_) hmatched
        have hlow := hw.lowered
        revert hlow
        cases w.remainingPercent <;> cases w'.remainingPercent <;> intro hlow <;> cases hlow
        · exact .none
        · rename_i hle
          exact .some ⟨rfl, hw, hle⟩

/-- Lowering leaves the gaps of the evidence as they are. -/
private theorem telemetryReasons_lowered {snapshots snapshots' : List CapacitySnapshot}
    (h : LoweredSnapshots snapshots snapshots') (bindings : List CapacityScopeRef) :
    telemetryReasons snapshots' bindings = telemetryReasons snapshots bindings := by
  unfold telemetryReasons
  simp only [fun b => (assessBinding_lowered h b).1]

/-- Lowering lowers the gathered windows. -/
private theorem telemetryWindows_lowered {snapshots snapshots' : List CapacitySnapshot}
    (h : LoweredSnapshots snapshots snapshots') (bindings : List CapacityScopeRef) :
    List.Forall₂ LoweredKnown (telemetryWindows snapshots bindings)
      (telemetryWindows snapshots' bindings) := by
  unfold telemetryWindows
  induction bindings with
  | nil => exact .nil
  | cons b bs ih =>
    rw [List.flatMap_cons, List.flatMap_cons]
    exact List.rel_append (assessBinding_lowered h b).2 ih

/-! ### The governing window is the lowest -/

/-- The penalty falls as the remaining percentage grows, strictly. -/
theorem scarcityPenaltyUnits_le_iff {a b : Percent} :
    scarcityPenaltyUnits a ≤ scarcityPenaltyUnits b ↔ b ≤ a := by
  unfold scarcityPenaltyUnits
  rw [← sq, ← sq, sq_le_sq₀ (Nat.zero_le _) (Nat.zero_le _), Fin.le_def]
  omega

/-- No candidate is above the maximal penalty. -/
private theorem le_maxPenalty {candidates : List KnownWindow} {w : KnownWindow}
    (h : w ∈ candidates) : scarcityPenaltyUnits w.remaining ≤ maxPenalty candidates := by
  induction candidates with
  | nil => exact absurd h List.not_mem_nil
  | cons v vs ih =>
    have hcons : maxPenalty (v :: vs) = max (scarcityPenaltyUnits v.remaining) (maxPenalty vs) :=
      rfl
    rw [hcons]
    rcases List.mem_cons.mp h with rfl | hvs
    · exact le_max_left _ _
    · exact le_trans (ih hvs) (le_max_right _ _)

/-- The governing window has the least remaining of its pool. -/
theorem pickGoverning_le {candidates : List KnownWindow} {w v : KnownWindow}
    (h : pickGoverning candidates = some w) (hv : v ∈ candidates) : w.remaining ≤ v.remaining := by
  have hw := mem_sortBy.mp (List.mem_of_head? h)
  have hmax : scarcityPenaltyUnits w.remaining = maxPenalty candidates :=
    of_decide_eq_true (List.mem_filter.mp hw).2
  apply scarcityPenaltyUnits_le_iff.mp
  rw [hmax]
  exact le_maxPenalty hv

/-- A lowered pool has a lower governing window. -/
private theorem pickGoverning_lowered {known known' : List KnownWindow}
    (h : List.Forall₂ LoweredKnown known known') :
    LoweredPercent ((pickGoverning known).map (·.remaining))
      ((pickGoverning known').map (·.remaining)) := by
  cases hpick : pickGoverning known with
  | none =>
    have hnil := (forall₂_eq_nil h).mpr (pickGoverning_eq_none.mp hpick)
    rw [hnil]
    exact .none
  | some w =>
    -- The window that governed is still there, lowered; the new governing one is below it.
    have hmem := pickGoverning_mem hpick
    obtain ⟨v, hv, hlow⟩ := exists_of_forall₂ h hmem
    cases hpick' : pickGoverning known' with
    | none =>
      rw [pickGoverning_eq_none.mp hpick'] at hv
      exact absurd hv List.not_mem_nil
    | some w' => exact .some (le_trans (pickGoverning_le hpick' hv) hlow.remaining)

/-- The blend of lower representatives is lower. -/
private theorem blended_lowered {tactical tactical' strategic strategic' : Option Percent}
    (ht : LoweredPercent tactical tactical') (hs : LoweredPercent strategic strategic')
    {effective effective' : Percent}
    (h : blendedEffectiveRemainingPercent tactical strategic = .ok effective)
    (h' : blendedEffectiveRemainingPercent tactical' strategic' = .ok effective') :
    effective' ≤ effective := by
  have hblend : ∀ {a b a' b' : Percent}, a' ≤ a → b' ≤ b → blend a' b' ≤ blend a b := by
    intro a b a' b' ha hb
    rw [Fin.le_def] at ha hb ⊢
    simp only [blend]
    omega
  cases ht with
  | none =>
    cases hs with
    | none => cases h
    | some hb =>
      cases h
      cases h'
      exact hblend hb hb
  | some ha =>
    cases hs with
    | none =>
      cases h
      cases h'
      exact hblend ha ha
    | some hb =>
      cases h
      cases h'
      exact hblend ha hb

/-! ### Less capacity is never assessed as more -/

/-- The order in which an assessment can only move: known, unknown, exhausted. -/
structure NoMoreCapacity (a a' : ScarcityAssessment) : Prop where
  exhausted : a.state = .unavailable → a'.state = .unavailable
  unknown : a.state = .unknown → a'.state ≠ .known
  penalty : ∀ p ∈ a.penaltyUnits, ∃ p' ∈ a'.penaltyUnits, p ≤ p'

/-- Lowered telemetry assesses no more capacity. -/
private theorem AssessesTelemetry.lowered {reasons : List ScarcityReason}
    {known known' : List KnownWindow} {a a' : ScarcityAssessment}
    (h : AssessesTelemetry reasons known a) (h' : AssessesTelemetry reasons known' a')
    (hlow : List.Forall₂ LoweredKnown known known') : NoMoreCapacity a a' := by
  cases h with
  | exhausted hzero hstate hpenalty =>
    -- An exhausted window cannot be lowered further, so it still decides.
    obtain ⟨w, hw, hzero⟩ := hzero
    obtain ⟨v, hv, hvw⟩ := exists_of_forall₂ hlow hw
    have hvzero : v.remaining = 0 := le_antisymm (hzero ▸ hvw.remaining) (Fin.zero_le _)
    cases h' with
    | exhausted _ hstate' hpenalty' => 
      refine ⟨fun _ => hstate', fun hu => ?_, fun p hp => ⟨_, hpenalty', ?_⟩⟩
      · rw [hstate] at hu
        cases hu
      · rw [hpenalty] at hp
        cases hp
        exact le_refl _
    | incomplete hleft _ _ _ => exact absurd hvzero (hleft v hv)
    | complete hleft _ _ _ _ _ => exact absurd hvzero (hleft v hv)
  | incomplete hleft hgap hstate hpenalty =>
    refine ⟨fun he => ?_, fun _ => ?_, fun p hp => ?_⟩
    · rw [hstate] at he
      cases he
    · cases h' with
      | exhausted _ hstate' _ => simp [hstate']
      | incomplete _ _ hstate' _ => simp [hstate']
      | complete _ hfull _ _ _ _ => exact absurd hfull hgap
    · rw [hpenalty] at hp
      cases hp
  | complete hleft hfull effective hblend hstate hpenalty =>
    refine ⟨fun he => ?_, fun hu => ?_, fun p hp => ?_⟩
    · rw [hstate] at he
      cases he
    · rw [hstate] at hu
      cases hu
    · rw [hpenalty] at hp
      cases hp
      cases h' with
      | exhausted _ _ hpenalty' =>
        refine ⟨_, hpenalty', ?_⟩
        exact scarcityPenaltyUnits_le_iff.mpr (Fin.zero_le effective)
      | incomplete _ hgap _ _ => exact absurd hfull hgap
      | complete _ _ effective' hblend' _ hpenalty' =>
        refine ⟨_, hpenalty', scarcityPenaltyUnits_le_iff.mpr ?_⟩
        have hrole : ∀ role, List.Forall₂ LoweredKnown (rolePool role known)
            (rolePool role known') := fun role =>
          forall₂_filter (fun hk => by rw [hk.window.role]) hlow
        exact blended_lowered (pickGoverning_lowered (hrole _)) (pickGoverning_lowered (hrole _))
          hblend hblend'

/-- **Less capacity is never assessed as more.** -/
theorem assessScarcity_lowered {entry : ModelCatalogEntry}
    {snapshots snapshots' : List CapacitySnapshot} (hlow : LoweredSnapshots snapshots snapshots')
    {a a' : ScarcityAssessment} (h : assessScarcity entry snapshots = .ok a)
    (h' : assessScarcity entry snapshots' = .ok a') : NoMoreCapacity a a' := by
  rcases assessScarcity_spec h with ⟨hb, hstate, hpenalty⟩ | ⟨bindings, hb, houtcome⟩
  · rcases assessScarcity_spec h' with ⟨-, hstate', -⟩ | ⟨bindings', hb', -⟩
    · refine ⟨fun he => ?_, fun _ => ?_, fun p hp => ?_⟩
      · rw [hstate] at he
        cases he
      · simp [hstate']
      · rw [hpenalty] at hp
        cases hp
    · rw [hb] at hb'
      cases hb'
  · rcases assessScarcity_spec h' with ⟨hb', -⟩ | ⟨bindings', hb', houtcome'⟩
    · rw [hb] at hb'
      cases hb'
    · rw [hb] at hb'
      cases hb'
      rw [telemetryReasons_lowered hlow] at houtcome'
      exact houtcome.lowered houtcome' (telemetryWindows_lowered hlow bindings)

end ScarcityRouter
