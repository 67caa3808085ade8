import ScarcityRouter.Routing.Request
import ScarcityRouter.Selector.Tighten

namespace ScarcityRouter

open ScarcityRouter.Lib

/-!
# The floors of a profile

A request without a task requirement of its own resolves to its profile's requirement, tightened by
its structural demands.

* `TakesMaxima` — the requirement that asks, in every dimension, for the larger of the profile's
  and the request's demand.
* `ReachesFloors` — the request names no context and no output below the profile's floor.
* `takesFloors_iff` — **resolution takes the maxima exactly when the request reaches the floors**:
  below one, the merge that guards explicit requirements raises.
* `short_prompt_refused` — a prompt of a hundred tokens under a profile that asks for 200000.
-/

/-- The requirement of a profile, with the structural demands of the request where they are
    larger. -/
structure TakesMaxima (base : TaskRequirement) (request : RequestBinding)
    (resolved : TaskRequirement) : Prop where
  level : resolved.taskLevel = base.taskLevel
  minima : resolved.capabilityMinima = base.capabilityMinima
  hard : resolved.hardConstraints = { base.hardConstraints with
    minimumInputContextTokens := Option.merge max base.hardConstraints.minimumInputContextTokens
      request.minimumInputContextTokens
    minimumOutputTokens := Option.merge max base.hardConstraints.minimumOutputTokens
      request.maximumOutputTokens
    requiresToolUse := base.hardConstraints.requiresToolUse || request.requiresToolCalls
    requiresReasoningMode :=
      base.hardConstraints.requiresReasoningMode || request.requiresReasoningControls
    providers_agree := base.hardConstraints.providers_agree }

/-- The request names no context and no output below the profile's floor. -/
def ReachesFloors (base : TaskRequirement) (request : RequestBinding) : Prop :=
  Follows (· ≤ ·) base.hardConstraints.minimumInputContextTokens
      request.minimumInputContextTokens ∧
    Follows (· ≤ ·) base.hardConstraints.minimumOutputTokens request.maximumOutputTokens

/-- The calibrated requirement of the request's profile. -/
def RouteInputs.ProfileBase (i : RouteInputs) (base : TaskRequirement) : Prop :=
  ∃ profile, i.routingProfile = some profile ∧ i.profiles.resolve profile.profileId = .ok base

theorem RouteInputs.ProfileBase.unique {i : RouteInputs} {base base' : TaskRequirement}
    (h : i.ProfileBase base) (h' : i.ProfileBase base') : base = base' := by
  obtain ⟨profile, hprofile, hbase⟩ := h
  obtain ⟨profile', hprofile', hbase'⟩ := h'
  obtain rfl := Option.some.inj (hprofile.symm.trans hprofile')
  exact Except.ok.inj (hbase.symm.trans hbase')

/-- Resolution takes the maxima, whatever the request asks for. -/
def RouteRequest.TakesFloors (r : RouteRequest) : Prop :=
  ∀ base, r.ProfileBase base → ∃ resolved, r.resolveRequirement = .ok resolved ∧
    TakesMaxima base r.request resolved

/-- Where a demand follows another, it is the larger one. -/
theorem merge_max_eq_or {a b : Option ℕ+} (h : Follows (· ≤ ·) a b) :
    Option.merge max a b = b.or a := by
  cases b with
  | none => cases a <;> rfl
  | some e =>
    cases a with
    | none => rfl
    | some x =>
      show some (max x e) = some e
      rw [max_eq_right (h e rfl x rfl)]

/-- The structural demands tighten a requirement exactly when they reach its floors. -/
theorem tightensBase_structural_iff {base : TaskRequirement} {request : RequestBinding} :
    TightensBase base (RouteInputs.structuralRequirement request base.taskLevel) ↔
      ReachesFloors base request := by
  constructor
  · intro h
    exact ⟨h.follows .inputContext, h.follows .output⟩
  · rintro ⟨hcontext, houtput⟩
    refine ⟨fun k => ?_, base.providers⟩
    cases k with
    | level => exact follows_self fun _ => le_refl _
    | minimum d => cases d <;> exact follows_none_right
    | inputContext => exact hcontext
    | output => exact houtput
    | toolUse | vision | reasoningMode => exact follows_demanded
    | provider | model | variant | privacy => exact follows_none_right

/-- Their join takes the maxima. -/
theorem takesMaxima_joined {base : TaskRequirement} {request : RequestBinding}
    (hfloors : ReachesFloors base request)
    (h : TightensBase base (RouteInputs.structuralRequirement request base.taskLevel)) :
    TakesMaxima base request (joined base _ h) where
  level := rfl
  minima := rfl
  hard := by
    have hvision : (base.hardConstraints.requiresVision || false)
        = base.hardConstraints.requiresVision := Bool.or_false _
    simp only [joined, joinedDemand, TaskRequirement.demand, RouteInputs.structuralRequirement,
      merge_max_eq_or hfloors.1, merge_max_eq_or hfloors.2, hvision]
    rfl

/-- **Resolution takes the maxima exactly when the request reaches the floors** of its profile.
    For a request without a task requirement of its own a context estimate or an output ceiling
    below the profile's floor makes resolution raise, as if it were an explicit loosening. -/
theorem takesFloors_iff (r : RouteRequest) (htask : r.taskRequirement = none) :
    r.TakesFloors ↔ ∀ base, r.ProfileBase base → ReachesFloors base r.request := by
  refine forall_congr' fun base => forall_congr' fun hbase => ?_
  obtain ⟨profile, hprofile, hbase⟩ := hbase
  have hresolve : r.resolveRequirement
      = tightenRequirement base (RouteInputs.structuralRequirement r.request base.taskLevel) := by
    unfold RouteInputs.resolveRequirement RouteInputs.resolveWith RouteInputs.baseRequirement
    rw [hprofile, htask]
    dsimp only
    rw [hbase, ok_bind]
  constructor
  · rintro ⟨resolved, hresolved, -⟩
    rw [hresolve] at hresolved
    obtain ⟨h, -⟩ := tightenRequirement_eq_ok.mp hresolved
    exact tightensBase_structural_iff.mp h
  · intro hfloors
    have h := tightensBase_structural_iff.mpr hfloors
    exact ⟨_, hresolve.trans (tightenRequirement_eq_ok.mpr ⟨h, rfl⟩),
      takesMaxima_joined hfloors h⟩

/-- A request for the profile `reader`, which asks for 200000 tokens of context. -/
def readerInputs (context : ℕ+) : RouteInputs where
  catalog := ⟨none, none, [], List.nodup_nil, Eq.refl false⟩
  profiles := ⟨[⟨.lit "reader", ⟨.l1, {}, { minimumInputContextTokens := some 200000 }⟩⟩],
    List.pairwise_singleton _ _⟩
  registrySnapshot := { revision := 1, generatedAt := 0, entries := [] }
  policy := { resourcePolicy := ⟨1, .degraded, .ignore, [], [], [], noReservations_sorted,
    noWindows_sorted, noWindows_sorted, noRules_unique⟩ }
  evaluatedAt := 0
  routingProfile := some { profileId := .lit "reader" }
  request := { minimumInputContextTokens := some context }

/-- The constructed request. -/
def readerRequest (context : ℕ+) : RouteRequest where
  toRouteInputs := readerInputs context
  valid := ⟨(fun _ h => nomatch h), fun _ => rfl, List.Pairwise.nil, List.Pairwise.nil, nofun,
    le_rfl, (fun _ h => nomatch h)⟩

theorem readerRequest_base (context : ℕ+) : (readerRequest context).ProfileBase
    ⟨.l1, {}, { minimumInputContextTokens := some 200000 }⟩ :=
  ⟨_, rfl, rfl⟩

/-- A longer prompt than the floor takes the maxima. -/
theorem takesFloors_iff_reader : (readerRequest 300000).TakesFloors := by
  refine (takesFloors_iff (readerRequest 300000) rfl).mpr ?_
  intro base hbase
  obtain rfl := (readerRequest_base 300000).unique hbase
  exact ⟨by unfold Follows; decide +kernel, follows_none_left⟩

/-- **A short prompt is refused**: its hundred tokens do not loosen the profile, yet resolution
    raises. -/
theorem short_prompt_refused :
    ¬ ∀ r : RouteRequest, r.taskRequirement = none → r.TakesFloors := by
  intro h
  obtain ⟨resolved, hresolved, -⟩ := h (readerRequest 100) rfl _ (readerRequest_base 100)
  have hraises : ((readerRequest 100).resolveRequirement).isOk = false := by decide +kernel
  rw [hresolved] at hraises
  cases hraises

end ScarcityRouter
