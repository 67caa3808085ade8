import ScarcityRouter.Registry.Sources

namespace ScarcityRouter

open ScarcityRouter.Lib

/-!
# Adoption over runs

What a source of physical models holds after any inventories.

* `SourceState.held` — what the state says of one slug; `held_decide` — **what an inventory does to
  it.**
* `sourceMachine` — the inventories of any worker, one after another.
* `consecutiveOmissions` — how long authenticated inventories have left a slug out.
* `SourceKept` — the invariant: an adopted slug has been left out less than three times in a row.
* `adoption_lifecycle` — **a slug is adopted through two omissions and retired at the third, and as
  long as every listed model of an adopted slug has a policy effort, what is registered is what is
  listed.**
* `adoption_outdated` — a model without one keeps what an earlier inventory listed.
-/

/-! ### One inventory -/

/-- What a state says of a slug: its entry, its misses and whether it is retired. -/
structure Held where
  adopted : Option AdoptedModel
  misses : Option MissCount
  retired : Bool
  deriving DecidableEq

/-- One more omission. -/
def Held.miss (slug : SafeId) (h : Held) : Held :=
  let misses := h.misses.elim 0 (·.misses) + 1
  if retireAfterMisses ≤ misses then ⟨none, none, true⟩ else { h with misses := some ⟨slug, misses⟩ }

/-- A listing. -/
def Held.clear (_ : SafeId) (h : Held) : Held :=
  if h.adopted.isSome then ⟨h.adopted, none, false⟩ else h

/-- A listing leaves the entry as it is. -/
@[simp] theorem Held.adopted_clear {slug : SafeId} {h : Held} :
    (h.clear slug).adopted = h.adopted := by
  unfold Held.clear
  split_ifs <;> rfl

/-- What a state says of a slug. -/
def SourceState.held (slug : SafeId) (s : SourceState) : Held :=
  ⟨s.adopted.row? slug, s.missCounts.row? slug, s.retired.contains slug⟩

/-- The bounds of a source: it holds allowed slugs only, and retires each once. -/
structure SourceState.Within (config : SourceConfig) (s : SourceState) : Prop where
  config_eq : s.config = config
  adopted : ∀ model ∈ s.adopted.rows, config.currentExclusion model.slug = none
  retired : s.retired.Nodup
  allowed : s.retired ⊆ config.allowedModels

section Inventory

variable {config : SourceConfig} {s s' : SourceState} {slug : SafeId} {model : DiscoveredModel}
  {authState : SourceAuthState} {inventory : SourceInventory} {workerId : SafeId}

/-- A slug that is not excluded is allowed. -/
theorem SourceConfig.mem_allowedModels (h : config.currentExclusion slug = none) :
    slug ∈ config.allowedModels := by
  unfold currentExclusion at h
  split_ifs at h with hadopt htracks hallowed
  exact hallowed

/-! #### Retirement -/

/-- A slug joins what is retired, once. -/
theorem nodup_retired {retired : List SafeId} (h : retired.Nodup) (hnew : slug ∉ retired) :
    (retired ++ [slug]).Nodup :=
  h.append (List.nodup_singleton _) (List.disjoint_singleton.mpr hnew)

/-- The bound on what is retained is not met: there are no more allowed slugs. -/
theorem SourceState.Within.retire_eq (h : s.Within config) (hslug : slug ∈ config.allowedModels) :
    SourceState.retire s.retired slug =
      if slug ∈ s.retired then s.retired else s.retired ++ [slug] := by
  have hroom : ∀ retired : List SafeId, retired.Nodup → retired ⊆ config.allowedModels →
      retired.rtake maxRetainedRetired = retired := by
    intro retired hnodup hsubset
    have hle : retired.length ≤ maxRetainedRetired :=
      (List.subperm_of_subset hnodup hsubset).length_le.trans config.models_le
    unfold List.rtake
    rw [Nat.sub_eq_zero_of_le hle, List.drop_zero]
  unfold SourceState.retire
  by_cases hmem : slug ∈ s.retired
  · rw [if_pos hmem]
    exact hroom s.retired h.retired h.allowed
  · rw [if_neg hmem]
    refine hroom _ (nodup_retired h.retired hmem) ?_
    rw [List.append_subset]
    exact ⟨h.allowed, List.cons_subset.mpr ⟨hslug, List.nil_subset _⟩⟩

/-- What is retired after a retirement. -/
theorem SourceState.Within.retire (h : s.Within config) (hslug : slug ∈ config.allowedModels) :
    (SourceState.retire s.retired slug).Nodup ∧
      SourceState.retire s.retired slug ⊆ config.allowedModels ∧
      ∀ other, other ∈ SourceState.retire s.retired slug ↔ other = slug ∨ other ∈ s.retired := by
  rw [h.retire_eq hslug]
  by_cases hmem : slug ∈ s.retired
  · rw [if_pos hmem]
    refine ⟨h.retired, h.allowed, fun other => ⟨.inr, ?_⟩⟩
    rintro (rfl | hother)
    · exact hmem
    · exact hother
  · rw [if_neg hmem]
    refine ⟨nodup_retired h.retired hmem, ?_, fun other => ?_⟩
    · rw [List.append_subset]
      exact ⟨h.allowed, List.cons_subset.mpr ⟨hslug, List.nil_subset _⟩⟩
    · rw [List.mem_append, List.mem_singleton, or_comm]

/-- An omission is counted, or ends in retirement. -/
theorem SourceState.Within.countMiss (h : s.Within config) (hslug : slug ∈ config.allowedModels) :
    (s.countMiss slug).Within config ∧ (s.countMiss slug).held slug = (s.held slug).miss slug ∧
      ∀ other ≠ slug, (s.countMiss slug).held other = s.held other := by
  obtain ⟨hnodup, hsubset, hretire⟩ := h.retire hslug
  unfold SourceState.countMiss Held.miss SourceState.held
  dsimp only
  by_cases hlast : retireAfterMisses ≤ (s.missCounts.row? slug).elim 0 (·.misses) + 1
  · rw [if_pos hlast, if_pos hlast]
    refine ⟨⟨h.config_eq, ?_, hnodup, hsubset⟩, ?_, ?_⟩
    · exact fun model hmodel => h.adopted model (List.mem_of_mem_filter hmodel)
    · rw [Table.row?_erase, if_pos rfl, Table.row?_erase, if_pos rfl,
        List.contains_iff_mem.mpr ((hretire slug).mpr (.inl rfl))]
    · intro other hother
      have hcontains : (SourceState.retire s.retired slug).contains other =
          s.retired.contains other := by
        rw [Bool.eq_iff_iff, List.contains_iff_mem, List.contains_iff_mem, hretire]
        exact or_iff_right hother
      rw [Table.row?_erase, if_neg (Ne.symm hother), Table.row?_erase, if_neg (Ne.symm hother),
        hcontains]
  · rw [if_neg hlast, if_neg hlast]
    refine ⟨⟨h.config_eq, h.adopted, h.retired, h.allowed⟩, ?_, ?_⟩
    · rw [Table.row?_put, if_pos rfl]
    · intro other hother
      rw [Table.row?_put, if_neg (Ne.symm hother)]

/-- A listing clears the misses and the retirement of an adopted slug. -/
theorem SourceState.Within.clearMiss (h : s.Within config) (slug : SafeId) :
    (s.clearMiss slug).Within config ∧ (s.clearMiss slug).held slug = (s.held slug).clear slug ∧
      ∀ other ≠ slug, (s.clearMiss slug).held other = s.held other := by
  unfold SourceState.clearMiss Held.clear SourceState.held
  dsimp only
  by_cases hadopted : (s.adopted.row? slug).isSome = true
  · rw [if_pos hadopted, if_pos hadopted]
    refine ⟨⟨h.config_eq, h.adopted, h.retired.filter _, ?_⟩, ?_, ?_⟩
    · exact fun other hother => h.allowed (List.mem_of_mem_filter hother)
    · rw [Table.row?_erase, if_pos rfl]
      simp
    · intro other hother
      have hcontains : (s.retired.filter (· ≠ slug)).contains other = s.retired.contains other := by
        rw [Bool.eq_iff_iff, List.contains_iff_mem, List.contains_iff_mem, List.mem_filter]
        exact and_iff_left (by simpa using hother)
      rw [Table.row?_erase, if_neg (Ne.symm hother), hcontains]
  · rw [if_neg hadopted, if_neg hadopted]
    exact ⟨h, rfl, fun _ _ => rfl⟩

theorem SourceState.inventory_countMiss : (s.countMiss slug).inventory = s.inventory := by
  unfold SourceState.countMiss
  dsimp only
  split_ifs <;> rfl

theorem SourceState.inventory_clearMiss : (s.clearMiss slug).inventory = s.inventory := by
  unfold SourceState.clearMiss
  split_ifs <;> rfl

/-- **What an authenticated inventory says of a slug**, once its models are adopted. -/
theorem SourceState.Within.settle {slugs : List SafeId} (h : s.Within config)
    (hslugs : slugs.Nodup) :
    (s.settle slugs).Within config ∧ (s.settle slugs).inventory = s.inventory ∧
      ∀ slug, (s.settle slugs).held slug =
        if slug ∈ slugs then (s.held slug).clear slug
        else if (s.held slug).adopted.isSome then (s.held slug).miss slug
        else s.held slug := by
  have homitted : ∀ slug, slug ∈ s.omitted slugs ↔ (s.adopted.row? slug).isSome ∧ slug ∉ slugs := by
    intro slug
    unfold SourceState.omitted
    rw [mem_sortBy, List.mem_filter, decide_eq_true_eq, Option.isSome_iff_exists]
    refine and_congr_left fun _ => ?_
    simp only [Table.row?_eq_some, List.mem_map]
  have hnodup : (s.omitted slugs).Nodup :=
    (sortBy_perm _ _).nodup_iff.mpr (s.adopted.distinct.filter _)
  have hallowed : ∀ slug ∈ s.omitted slugs, slug ∈ config.allowedModels := by
    intro slug hslug
    obtain ⟨row, hrow⟩ := Option.isSome_iff_exists.mp ((homitted slug).mp hslug).1
    obtain ⟨hmem, rfl⟩ := Table.row?_eq_some.mp hrow
    exact SourceConfig.mem_allowedModels (h.adopted row hmem)
  -- The loops count what is missing, and then clear what is listed.
  obtain ⟨⟨hcounted, hcountedInventory⟩, hcount⟩ := (@view_foldl _ _ _ _ SourceState.countMiss
    SourceState.held Held.miss (fun t => t.Within config ∧ t.inventory = s.inventory) _ hnodup)
    (fun s k hk hs => ⟨(hs.1.countMiss (hallowed k hk)).1, inventory_countMiss.trans hs.2⟩)
    (fun s k hk hs => (hs.1.countMiss (hallowed k hk)).2.1)
    (fun s k hk k' hne hs => (hs.1.countMiss (hallowed k hk)).2.2 k' hne) ⟨h, rfl⟩
  obtain ⟨⟨hcleared, hclearedInventory⟩, hclear⟩ := (@view_foldl _ _ _ _ SourceState.clearMiss
    SourceState.held Held.clear (fun t => t.Within config ∧ t.inventory = s.inventory) _ hslugs)
    (fun s k _ hs => ⟨(hs.1.clearMiss k).1, inventory_clearMiss.trans hs.2⟩)
    (fun s k _ hs => (hs.1.clearMiss k).2.1)
    (fun s k _ k' hne hs => (hs.1.clearMiss k).2.2 k' hne) ⟨hcounted, hcountedInventory⟩
  refine ⟨hcleared, hclearedInventory, fun slug => ?_⟩
  unfold SourceState.settle
  rw [hclear slug, hcount slug]
  by_cases hlisted : slug ∈ slugs
  · rw [if_pos hlisted, if_pos hlisted, if_neg (fun hmem => ((homitted slug).mp hmem).2 hlisted)]
  · rw [if_neg hlisted, if_neg hlisted]
    by_cases hadopted : (s.adopted.row? slug).isSome = true
    · rw [if_pos ((homitted slug).mpr ⟨hadopted, hlisted⟩)]
      exact (if_pos hadopted).symm
    · rw [if_neg (fun hmem => hadopted ((homitted slug).mp hmem).1)]
      exact (if_neg hadopted).symm

/-! #### Adoption -/

/-- What the models of an inventory change: the entries of those that are not excluded. -/
structure Adopts (authState : SourceAuthState) (models : List DiscoveredModel)
    (s s' : SourceState) : Prop where
  config_eq : s'.config = s.config
  inventory_eq : s'.inventory = s.inventory
  missCounts_eq : s'.missCounts = s.missCounts
  retired_eq : s'.retired = s.retired
  listed : ∀ model ∈ models, s'.adopted.row? model.slug =
    if s.config.exclusion authState model = none then
      some ⟨model.slug, SourceState.heldEfforts s.config.kind model⟩
    else s.adopted.row? model.slug
  unlisted : ∀ slug ∉ models.map (·.slug), s'.adopted.row? slug = s.adopted.row? slug
  none_adopted : (∀ model ∈ models, s.config.exclusion authState model ≠ none) →
    s'.adopted = s.adopted

/-- One model is adopted, or is not. -/
theorem SourceState.adoptModel_eq_ok (h : s.adoptModel authState model = .ok s') :
    Adopts authState [model] s s' := by
  unfold SourceState.adoptModel at h
  cases hexclusion : s.config.exclusion authState model with
  | some reason =>
    rw [hexclusion] at h
    obtain rfl := Except.ok.inj h
    refine ⟨rfl, rfl, rfl, rfl, ?_, fun _ _ => rfl, fun _ => rfl⟩
    intro listed hlisted
    obtain rfl := List.mem_singleton.mp hlisted
    rw [if_neg (by rw [hexclusion]; exact nofun)]
  | none =>
    rw [hexclusion] at h
    obtain ⟨ids, -, h⟩ := bind_eq_ok.mp h
    obtain rfl := Except.ok.inj h
    refine ⟨rfl, rfl, rfl, rfl, ?_, ?_, fun hnone => absurd hexclusion (hnone _ List.mem_cons_self)⟩
    · intro listed hlisted
      obtain rfl := List.mem_singleton.mp hlisted
      rw [if_pos hexclusion, Table.row?_put, if_pos rfl]
    · intro slug hslug
      rw [Table.row?_put, if_neg (fun heq => hslug (List.mem_singleton.mpr heq.symm))]

/-- The models of an inventory, one after another. -/
theorem SourceState.adoptModels_eq_ok {models : List DiscoveredModel}
    (hdistinct : (models.map (·.slug)).Nodup)
    (h : models.foldlM (SourceState.adoptModel authState) s = .ok s') :
    Adopts authState models s s' := by
  induction models generalizing s with
  | nil =>
    obtain rfl := Except.ok.inj h
    exact ⟨rfl, rfl, rfl, rfl, nofun, fun _ _ => rfl, fun _ => rfl⟩
  | cons model models ih =>
    rw [List.foldlM_cons] at h
    obtain ⟨first, hfirst, h⟩ := bind_eq_ok.mp h
    obtain ⟨hnew, hdistinct⟩ := List.nodup_cons.mp hdistinct
    have hone := SourceState.adoptModel_eq_ok hfirst
    have hrest := ih hdistinct h
    refine ⟨hrest.config_eq.trans hone.config_eq, hrest.inventory_eq.trans hone.inventory_eq,
      hrest.missCounts_eq.trans hone.missCounts_eq, hrest.retired_eq.trans hone.retired_eq,
      ?_, ?_, ?_⟩
    · intro listed hlisted
      rcases List.mem_cons.mp hlisted with rfl | hlater
      · rw [hrest.unlisted _ hnew]
        exact hone.listed _ List.mem_cons_self
      · have hother : listed.slug ∉ [model].map (·.slug) := fun hmem => by
          refine hnew ?_
          rw [← List.mem_singleton.mp hmem]
          exact List.mem_map_of_mem hlater
        rw [hrest.listed listed hlater, hone.config_eq, hone.unlisted _ hother]
    · intro slug hslug
      have hslugs : slug ≠ model.slug ∧ slug ∉ models.map (·.slug) := by
        rw [List.map_cons, List.mem_cons, not_or] at hslug
        exact hslug
      rw [hrest.unlisted slug hslugs.2]
      exact hone.unlisted slug fun hmem => hslugs.1 (List.mem_singleton.mp hmem)
    · intro hnone
      have hlater : ∀ later ∈ models, first.config.exclusion authState later ≠ none := by
        rw [hone.config_eq]
        exact fun later hlater => hnone later (List.mem_cons_of_mem _ hlater)
      refine (hrest.none_adopted hlater).trans (hone.none_adopted ?_)
      intro only honly
      obtain rfl := List.mem_singleton.mp honly
      exact hnone _ List.mem_cons_self

/-- An adopted model is not excluded, now or by its configuration. -/
theorem SourceConfig.currentExclusion_of_exclusion
    (h : config.exclusion authState model = none) : config.currentExclusion model.slug = none := by
  unfold SourceConfig.exclusion at h
  cases hcurrent : config.currentExclusion model.slug with
  | none => rfl
  | some reason =>
    rw [hcurrent] at h
    cases h

theorem Adopts.within {models : List DiscoveredModel} (h : Adopts authState models s s')
    (hs : s.Within config) : s'.Within config := by
  refine ⟨h.config_eq.trans hs.config_eq, ?_, ?_, ?_⟩
  · intro row hrow
    have hfound : s'.adopted.row? row.slug = some row := Table.mem_rows.mp hrow
    by_cases hlisted : row.slug ∈ models.map (·.slug)
    · obtain ⟨model, hmodel, hslug⟩ := List.mem_map.mp hlisted
      rw [← hslug, h.listed model hmodel] at hfound
      split_ifs at hfound with hexclusion
      · rw [hs.config_eq] at hexclusion
        rw [← hslug]
        exact SourceConfig.currentExclusion_of_exclusion hexclusion
      · exact hs.adopted row (Table.row?_eq_some.mp hfound).1
    · rw [h.unlisted _ hlisted] at hfound
      exact hs.adopted row (Table.row?_eq_some.mp hfound).1
  · rw [h.retired_eq]
    exact hs.retired
  · rw [h.retired_eq]
    exact hs.allowed

theorem SourceInventory.nodup_slugs (inventory : SourceInventory) : inventory.slugs.Nodup :=
  List.pairwise_map.mpr (inventory.sorted.imp fun hlt => hlt.ne)

/-- What an inventory does to what a state says of a slug. -/
def Held.observe (config : SourceConfig) (inventory : SourceInventory) (slug : SafeId) (h : Held) :
    Held :=
  if inventory.authState ≠ .authenticated then h
  else
    match inventory.models.find? (·.slug == slug) with
    | none => if h.adopted.isSome then h.miss slug else h
    | some model =>
      if config.exclusion .authenticated model = none then ⟨some ⟨slug, model.reasoningEfforts⟩, none, false⟩
      else h.clear slug

/-- **What an inventory does to a source of physical models.** -/
theorem SourceState.Within.apply (hs : s.Within config) (hkind : config.kind = .codexSubscription)
    (howns : SourceState.Owns config workerId inventory)
    (h : s.apply workerId inventory = .ok s') :
    s'.Within config ∧ s'.inventory = some inventory ∧
      (∀ slug, s'.held slug = (s.held slug).observe config inventory slug) ∧
      (inventory.authState ≠ .authenticated → s'.adopted = s.adopted ∧
        s'.missCounts = s.missCounts ∧ s'.retired = s.retired) := by
  obtain rfl := hs.config_eq
  unfold SourceState.apply at h
  rw [if_pos howns] at h
  obtain ⟨adopted, hadopted, h⟩ := bind_eq_ok.mp h
  have hadopts := SourceState.adoptModels_eq_ok inventory.nodup_slugs hadopted
  have hwithin : adopted.Within s.config :=
    hadopts.within ⟨rfl, hs.adopted, hs.retired, hs.allowed⟩
  have hmisses : adopted.missCounts = s.missCounts := hadopts.missCounts_eq
  have hretired : adopted.retired = s.retired := hadopts.retired_eq
  by_cases hauth : inventory.authState = .authenticated
  · rw [if_pos hauth] at h
    obtain rfl := Except.ok.inj h
    obtain ⟨hsettled, hinventory, hheld⟩ := hwithin.settle inventory.nodup_slugs
    refine ⟨hsettled, hinventory.trans hadopts.inventory_eq, ?_, fun hne => absurd hauth hne⟩
    intro slug
    rw [hheld slug]
    unfold Held.observe
    rw [if_neg (not_not.mpr hauth)]
    cases hfind : inventory.models.find? (·.slug == slug) with
    | none =>
      have hunlisted : slug ∉ inventory.slugs := by
        intro hmem
        obtain ⟨model, hmodel, hslug⟩ := List.mem_map.mp hmem
        exact absurd (beq_iff_eq.mpr hslug) (List.find?_eq_none.mp hfind model hmodel)
      have hsame : adopted.held slug = s.held slug := by
        unfold SourceState.held
        rw [hadopts.unlisted slug hunlisted, hmisses, hretired]
      rw [if_neg hunlisted, hsame]
    | some model =>
      have hmodel := List.mem_of_find?_eq_some hfind
      have hslug : model.slug = slug := by simpa using List.find?_some hfind
      have hlisted : slug ∈ inventory.slugs := List.mem_map.mpr ⟨model, hmodel, hslug⟩
      have hentry := hadopts.listed model hmodel
      rw [hauth, hslug] at hentry
      dsimp only at hentry
      rw [hkind] at hentry
      rw [if_pos hlisted]
      dsimp only
      unfold SourceState.held
      rw [hentry, hmisses, hretired]
      by_cases hexclusion : s.config.exclusion .authenticated model = none
      · rw [if_pos hexclusion, if_pos hexclusion]
        rfl
      · rw [if_neg hexclusion, if_neg hexclusion]
  · rw [if_neg hauth] at h
    obtain rfl := Except.ok.inj h
    have hexcluded : ∀ model ∈ inventory.models,
        s.config.exclusion inventory.authState model ≠ none := by
      intro model _ hnone
      have hcurrent := SourceConfig.currentExclusion_of_exclusion hnone
      unfold SourceConfig.exclusion at hnone
      rw [hcurrent, hkind] at hnone
      dsimp only at hnone
      rw [if_pos hauth] at hnone
      cases hnone
    have hsame : adopted.adopted = s.adopted := hadopts.none_adopted hexcluded
    refine ⟨hwithin, hadopts.inventory_eq, ?_, fun _ => ⟨hsame, hmisses, hretired⟩⟩
    intro slug
    unfold Held.observe SourceState.held
    rw [if_pos hauth, hsame, hmisses, hretired]

end Inventory

/-! ### Runs -/

/-- An inventory that some worker reports. -/
structure Discovery where
  workerId : SafeId
  inventory : SourceInventory

/-- An inventory is applied, unless it belongs to another source or raises. -/
def SourceState.step (s : SourceState) (action : Discovery) :
    Option (SourceState × List SourceInventory) :=
  match s.apply action.workerId action.inventory with
  | .error _ => some (s, [])
  | .ok s' =>
    some (s', if SourceState.Owns s.config action.workerId action.inventory then [action.inventory]
      else [])

/-- The inventories of any workers, in any order. -/
def sourceMachine : Machine SourceState Discovery SourceInventory := ⟨SourceState.step⟩

/-- How many authenticated inventories in a row have left a slug out. -/
def consecutiveOmissions (slug : SafeId) (log : List SourceInventory) : ℕ :=
  log.foldl (fun omissions inventory =>
    if inventory.authState ≠ .authenticated then omissions
    else if slug ∈ inventory.slugs then 0 else omissions + 1) 0

/-- Every registered cell of a slug that the inventory lists is listed with its effort. -/
def Listed (s : SourceState) (inventory : SourceInventory) : Prop :=
  ∀ cell ∈ s.cells, ∀ model ∈ inventory.models, model.slug = cell.1 →
    ∃ effort, cell.2 = some effort ∧ effort ∈ model.reasoningEfforts

/-- Every model that an authenticated inventory lists of an adopted slug has a policy effort. -/
def Advertised (s : SourceState) (action : Discovery) : Prop :=
  action.inventory.authState = .authenticated → ∀ model ∈ action.inventory.models,
    (s.adopted.row? model.slug).isSome = true → policyEfforts model.reasoningEfforts ≠ []

instance (s : SourceState) (action : Discovery) : Decidable (Advertised s action) := by
  unfold Advertised
  infer_instance

/-- **The invariant.** -/
structure SourceKept (config : SourceConfig) (s : SourceState) (log : List SourceInventory) : Prop
    extends s.Within config where
  efforts : ∀ row ∈ s.adopted.rows, policyEfforts row.efforts ≠ []
  counted : ∀ slug, (s.held slug).adopted.isSome = true →
    (s.held slug).misses.elim 0 (·.misses) = consecutiveOmissions slug log ∧
      consecutiveOmissions slug log < retireAfterMisses

section Runs

variable {config : SourceConfig} {s s' : SourceState} {log log' events : List SourceInventory}
  {action : Discovery} {slug : SafeId} {inventory : SourceInventory} {model : DiscoveredModel}

/-- Everything a step can do: nothing, or apply an inventory of the source. -/
theorem SourceState.step_cases (h : s.step action = some (s', events)) :
    (s' = s ∧ events = []) ∨ SourceState.Owns s.config action.workerId action.inventory ∧
      s.apply action.workerId action.inventory = .ok s' ∧ events = [action.inventory] := by
  unfold SourceState.step at h
  cases happly : s.apply action.workerId action.inventory with
  | error e =>
    rw [happly] at h
    obtain ⟨rfl, rfl⟩ := Prod.mk.inj (Option.some.inj h)
    exact .inl ⟨rfl, rfl⟩
  | ok applied =>
    rw [happly] at h
    obtain ⟨rfl, rfl⟩ := Prod.mk.inj (Option.some.inj h)
    by_cases howns : SourceState.Owns s.config action.workerId action.inventory
    · exact .inr ⟨howns, rfl, if_pos howns⟩
    · have hsame : s.apply action.workerId action.inventory = .ok s := if_neg howns
      rw [happly] at hsame
      exact .inl ⟨Except.ok.inj hsame, if_neg howns⟩

theorem consecutiveOmissions_concat : consecutiveOmissions slug (log ++ [inventory]) =
    if inventory.authState ≠ .authenticated then consecutiveOmissions slug log
    else if slug ∈ inventory.slugs then 0 else consecutiveOmissions slug log + 1 := by
  unfold consecutiveOmissions
  rw [List.foldl_append]
  rfl

/-- The one model of an inventory under a slug. -/
theorem SourceInventory.find?_eq_some (hmodel : model ∈ inventory.models) :
    inventory.models.find? (·.slug == model.slug) = some model := by
  refine find?_eq_some_of_unique hmodel (beq_self_eq_true _) fun other hother hslug => ?_
  exact List.inj_on_of_nodup_map inventory.nodup_slugs hother hmodel (beq_iff_eq.mp hslug)

theorem SourceInventory.find?_eq_none :
    inventory.models.find? (·.slug == slug) = none ↔ slug ∉ inventory.slugs := by
  unfold SourceInventory.slugs
  simp

/-- A source of physical models adopts a model for its policy efforts. -/
theorem SourceConfig.exclusion_eq_none (hkind : config.kind = .codexSubscription) :
    config.exclusion .authenticated model = none ↔
      config.currentExclusion model.slug = none ∧ policyEfforts model.reasoningEfforts ≠ [] := by
  unfold SourceConfig.exclusion
  cases config.currentExclusion model.slug with
  | some reason => simp
  | none =>
    rw [hkind]
    simp

/-- What an authenticated inventory leaves of a slug it does not list. -/
theorem Held.observe_unlisted {h : Held} (hauth : inventory.authState = .authenticated)
    (hunlisted : slug ∉ inventory.slugs) :
    h.observe config inventory slug = if h.adopted.isSome then h.miss slug else h := by
  unfold Held.observe
  rw [if_neg (not_not.mpr hauth), SourceInventory.find?_eq_none.mpr hunlisted]

/-- What an authenticated inventory leaves of a slug it lists. -/
theorem Held.observe_listed {h : Held} (hauth : inventory.authState = .authenticated)
    (hmodel : model ∈ inventory.models) :
    h.observe config inventory model.slug =
      if config.exclusion .authenticated model = none then
        ⟨some ⟨model.slug, model.reasoningEfforts⟩, none, false⟩
      else h.clear model.slug := by
  unfold Held.observe
  rw [if_neg (not_not.mpr hauth), SourceInventory.find?_eq_some hmodel]

/-- A count that is not adopted any more, or goes on. -/
theorem Held.miss_eq {h : Held} {n : ℕ} (hmisses : h.misses.elim 0 (·.misses) = n) :
    h.miss slug = if retireAfterMisses ≤ n + 1 then ⟨none, none, true⟩
      else { h with misses := some ⟨slug, n + 1⟩ } := by
  unfold Held.miss
  rw [hmisses]

/-- **An inventory keeps the invariant.** -/
theorem SourceKept.apply (hs : SourceKept config s log) (hkind : config.kind = .codexSubscription)
    {workerId : SafeId} (howns : SourceState.Owns config workerId inventory)
    (h : s.apply workerId inventory = .ok s') : SourceKept config s' (log ++ [inventory]) := by
  obtain ⟨hwithin, hinventory, hheld, hsame⟩ := hs.toWithin.apply hkind howns h
  by_cases hauth : inventory.authState = .authenticated
  · refine ⟨hwithin, ?_, ?_⟩
    · intro row hrow
      have hfound : (s'.held row.slug).adopted = some row := Table.mem_rows.mp hrow
      rw [hheld] at hfound
      by_cases hlisted : row.slug ∈ inventory.slugs
      · obtain ⟨model, hmodel, hslug⟩ := List.mem_map.mp hlisted
        rw [← hslug, Held.observe_listed hauth hmodel] at hfound
        by_cases hexclusion : config.exclusion .authenticated model = none
        · rw [if_pos hexclusion] at hfound
          obtain rfl := Option.some.inj hfound
          exact ((SourceConfig.exclusion_eq_none hkind).mp hexclusion).2
        · rw [if_neg hexclusion, Held.adopted_clear] at hfound
          have hbefore : s.adopted.row? model.slug = some row := hfound
          exact hs.efforts row (Table.row?_eq_some.mp hbefore).1
      · rw [Held.observe_unlisted hauth hlisted] at hfound
        have hbefore : s.adopted.row? row.slug = some row := by
          unfold Held.miss at hfound
          dsimp only at hfound
          split_ifs at hfound <;> exact hfound
        exact hs.efforts row (Table.row?_eq_some.mp hbefore).1
    · intro slug hadopted
      rw [consecutiveOmissions_concat, if_neg (not_not.mpr hauth)]
      rw [hheld] at hadopted ⊢
      by_cases hlisted : slug ∈ inventory.slugs
      · obtain ⟨model, hmodel, rfl⟩ := List.mem_map.mp hlisted
        rw [if_pos hlisted]
        rw [Held.observe_listed hauth hmodel] at hadopted ⊢
        refine ⟨?_, by decide⟩
        by_cases hexclusion : config.exclusion .authenticated model = none
        · rw [if_pos hexclusion]
          rfl
        · rw [if_neg hexclusion] at hadopted ⊢
          rw [Held.adopted_clear] at hadopted
          unfold Held.clear
          rw [if_pos hadopted]
          rfl
      · rw [if_neg hlisted]
        rw [Held.observe_unlisted hauth hlisted] at hadopted ⊢
        by_cases hsome : (s.held slug).adopted.isSome = true
        · obtain ⟨hcount, -⟩ := hs.counted slug hsome
          rw [if_pos hsome, Held.miss_eq hcount] at hadopted ⊢
          by_cases hlast : retireAfterMisses ≤ consecutiveOmissions slug log + 1
          · rw [if_pos hlast] at hadopted
            cases hadopted
          · rw [if_neg hlast]
            exact ⟨rfl, Nat.lt_of_not_le hlast⟩
        · rw [if_neg hsome] at hadopted
          exact absurd hadopted hsome
  · obtain ⟨hadopted, -, -⟩ := hsame hauth
    refine ⟨hwithin, ?_, ?_⟩
    · rw [hadopted]
      exact hs.efforts
    · intro slug hsome
      rw [consecutiveOmissions_concat, if_pos hauth]
      rw [hheld] at hsome ⊢
      unfold Held.observe at hsome ⊢
      rw [if_pos hauth] at hsome ⊢
      exact hs.counted slug hsome

/-! #### What is registered -/

/-- A cell is a policy effort of an adopted model. -/
theorem SourceKept.mem_cells (hs : SourceKept config s log) (hinventory : s.inventory ≠ none)
    {cell : SafeId × Option SafeId} : cell ∈ s.cells ↔
      ∃ row ∈ s.adopted.rows, ∃ effort ∈ policyEfforts row.efforts,
        cell = (row.slug, some effort) := by
  unfold SourceState.cells
  rw [if_neg hinventory, List.mem_flatMap]
  simp only [mem_sortBy]
  refine exists_congr fun row => and_congr_right fun hrow => ?_
  have hcurrent : s.config.currentExclusion row.slug = none := by
    rw [hs.config_eq]
    exact hs.adopted row hrow
  have hefforts : row.efforts ≠ [] := by
    intro hnone
    have hpolicy := hs.efforts row hrow
    rw [hnone] at hpolicy
    exact hpolicy rfl
  rw [if_neg (not_not.mpr hcurrent), if_neg hefforts, List.mem_map]
  exact exists_congr fun effort => and_congr_right fun _ => eq_comm

/-- **What is registered after an authenticated inventory is listed exactly when** no listed model
    of an adopted slug is without a policy effort. -/
theorem SourceKept.listed_iff (hs : SourceKept config s log)
    (hkind : config.kind = .codexSubscription)
    (howns : SourceState.Owns config action.workerId action.inventory)
    (h : s.apply action.workerId action.inventory = .ok s')
    (hauth : action.inventory.authState = .authenticated) :
    Listed s' action.inventory ↔ Advertised s action := by
  obtain ⟨-, hinventory, hheld, -⟩ := hs.toWithin.apply hkind howns h
  have hs' := hs.apply hkind howns h
  have hsome : s'.inventory ≠ none := by
    rw [hinventory]
    exact nofun
  constructor
  · intro hlisted _ model hmodel hadopted hnone
    obtain ⟨row, hrow⟩ := Option.isSome_iff_exists.mp hadopted
    obtain ⟨hmem, hslug⟩ := Table.row?_eq_some.mp hrow
    -- The model is passed over, and its entry stays.
    have hentry : (s'.held model.slug).adopted = some row := by
      have hexclusion : config.exclusion .authenticated model ≠ none := fun hfree =>
        ((SourceConfig.exclusion_eq_none hkind).mp hfree).2 hnone
      rw [hheld, Held.observe_listed hauth hmodel, if_neg hexclusion, Held.adopted_clear]
      exact hrow
    obtain ⟨effort, heffort⟩ := List.exists_mem_of_ne_nil _ (hs.efforts row hmem)
    have hcell : (row.slug, some effort) ∈ s'.cells :=
      (hs'.mem_cells hsome).mpr ⟨row, (Table.row?_eq_some.mp hentry).1, effort, heffort, rfl⟩
    obtain ⟨listed, hsame, hlists⟩ := hlisted _ hcell model hmodel hslug.symm
    obtain rfl := Option.some.inj hsame
    have hpolicy : effort ∈ policyEfforts model.reasoningEfforts :=
      mem_policyEfforts.mpr ⟨hlists, (mem_policyEfforts.mp heffort).2⟩
    rw [hnone] at hpolicy
    cases hpolicy
  · intro hadvertised cell hcell model hmodel hslug
    obtain ⟨row, hrow, effort, heffort, rfl⟩ := (hs'.mem_cells hsome).mp hcell
    refine ⟨effort, rfl, ?_⟩
    have hentry : (s'.held model.slug).adopted = some row :=
      Table.row?_eq_some.mpr ⟨hrow, hslug.symm⟩
    rw [hheld, Held.observe_listed hauth hmodel] at hentry
    by_cases hexclusion : config.exclusion .authenticated model = none
    · rw [if_pos hexclusion] at hentry
      obtain rfl := Option.some.inj hentry
      exact (mem_policyEfforts.mp heffort).1
    · rw [if_neg hexclusion, Held.adopted_clear] at hentry
      have hbefore : s.adopted.row? model.slug = some row := hentry
      have hcurrent : config.currentExclusion model.slug = none := by
        rw [hslug]
        exact hs'.adopted row hrow
      have hpolicy := hadvertised hauth model hmodel (by rw [hbefore]; rfl)
      exact absurd ((SourceConfig.exclusion_eq_none hkind).mpr ⟨hcurrent, hpolicy⟩) hexclusion

/-! #### The lifecycle -/

theorem SourceKept.step (hs : SourceKept config s log) (hkind : config.kind = .codexSubscription)
    (hstep : s.step action = some (s', events)) : SourceKept config s' (log ++ events) := by
  rcases SourceState.step_cases hstep with ⟨rfl, rfl⟩ | ⟨howns, happly, rfl⟩
  · rw [List.append_nil]
    exact hs
  · rw [hs.config_eq] at howns
    exact hs.apply hkind howns happly

theorem sourceKept_of_run {allowed : SourceState → Discovery → Prop}
    (hkind : config.kind = .codexSubscription)
    (run : Machine.Run sourceMachine allowed { config } s log) : SourceKept config s log := by
  refine run.invariant (I := fun s log => SourceKept config s log) ?_ ?_
  · exact ⟨⟨rfl, fun _ h => (by cases h), List.nodup_nil, List.nil_subset _⟩,
      fun _ h => (by cases h), fun _ h => (by cases h)⟩
  · intro s s' log events action _ hs _ hstep
    exact hs.step hkind hstep

/-- The authenticated inventories of a log. -/
def authenticatedCount (log : List SourceInventory) : ℕ :=
  (log.filter (·.authState = .authenticated)).length

theorem authenticatedCount_concat : authenticatedCount (log ++ [inventory]) =
    authenticatedCount log + if inventory.authState = .authenticated then 1 else 0 := by
  unfold authenticatedCount
  rw [List.filter_append, List.length_append]
  by_cases hauth : inventory.authState = .authenticated
  · rw [if_pos hauth, List.filter_cons_of_pos (by simpa using hauth)]
    rfl
  · rw [if_neg hauth, List.filter_cons_of_neg (by simpa using hauth)]
    rfl

/-- The log leaves a slug out whenever it is authenticated. -/
def LeavesOut (slug : SafeId) (log : List SourceInventory) : Prop :=
  ∀ inventory ∈ log, inventory.authState = .authenticated → slug ∉ inventory.slugs

/-- An omission counts on. -/
theorem consecutiveOmissions_append (hout : LeavesOut slug log') :
    consecutiveOmissions slug (log ++ log') =
      consecutiveOmissions slug log + authenticatedCount log' := by
  induction log' using List.reverseRecOn with
  | nil => rw [List.append_nil]; rfl
  | append_singleton log' inventory ih =>
    have hlast := hout inventory (List.mem_append_right _ List.mem_cons_self)
    rw [← List.append_assoc, consecutiveOmissions_concat, authenticatedCount_concat,
      ih fun other hother => hout other (List.mem_append_left _ hother)]
    by_cases hauth : inventory.authState = .authenticated
    · rw [if_neg (not_not.mpr hauth), if_neg (hlast hauth), if_pos hauth, Nat.add_assoc]
    · rw [if_pos hauth, if_neg hauth, Nat.add_zero]

/-- What is held of a slug after so many omissions in a row. -/
structure Held.After (omissions : ℕ) (h : Held) : Prop where
  adopted_iff : h.adopted.isSome = true ↔ omissions < retireAfterMisses
  retired : retireAfterMisses ≤ omissions → h.retired = true

/-- One more omission. -/
theorem Held.After.miss {omissions : ℕ} {h : Held} (hafter : h.After omissions)
    (hcount : h.adopted.isSome = true → h.misses.elim 0 (·.misses) = omissions) :
    (if h.adopted.isSome then h.miss slug else h).After (omissions + 1) := by
  by_cases hadopted : h.adopted.isSome = true
  · rw [if_pos hadopted, Held.miss_eq (hcount hadopted)]
    by_cases hlast : retireAfterMisses ≤ omissions + 1
    · rw [if_pos hlast]
      refine ⟨⟨nofun, fun hlt => absurd hlast (Nat.not_le_of_lt hlt)⟩, fun _ => rfl⟩
    · rw [if_neg hlast]
      exact ⟨⟨fun _ => Nat.lt_of_not_le hlast, fun _ => hadopted⟩, fun hle => absurd hle hlast⟩
  · have hretired : retireAfterMisses ≤ omissions :=
      Nat.le_of_not_lt fun hlt => hadopted (hafter.adopted_iff.mpr hlt)
    rw [if_neg hadopted]
    refine ⟨⟨fun hsome => absurd hsome hadopted, fun hlt => ?_⟩, fun _ => hafter.retired hretired⟩
    omega

/-- **Three omissions retire a slug, and no fewer.**  As long as nothing lists it, an adopted slug
    counts on from where it was. -/
theorem SourceKept.omitted {allowed : SourceState → Discovery → Prop}
    (hs : SourceKept config s log) (hkind : config.kind = .codexSubscription)
    (hadopted : (s.adopted.row? slug).isSome = true)
    (run : Machine.Run sourceMachine allowed s s' log') (hout : LeavesOut slug log') :
    (s'.held slug).After (consecutiveOmissions slug log + authenticatedCount log') := by
  have hend : SourceKept config s' (log ++ log') ∧ (LeavesOut slug log' →
      (s'.held slug).After (consecutiveOmissions slug log + authenticatedCount log')) := by
    refine run.invariant (I := fun s' log' => SourceKept config s' (log ++ log') ∧
      (LeavesOut slug log' →
        (s'.held slug).After (consecutiveOmissions slug log + authenticatedCount log'))) ?_ ?_
    · have hcount := (hs.counted slug hadopted).2
      refine ⟨by rw [List.append_nil]; exact hs, fun _ => ?_⟩
      exact ⟨⟨fun _ => hcount, fun _ => hadopted⟩, fun hle => absurd hcount (Nat.not_lt_of_le hle)⟩
    · rintro t t' log' events action - ⟨ht, hview⟩ - hstep
      refine ⟨List.append_assoc _ _ _ ▸ ht.step hkind hstep, fun hout => ?_⟩
      have hbefore : LeavesOut slug log' :=
        fun other hother => hout other (List.mem_append_left _ hother)
      have hafter := hview hbefore
      rcases SourceState.step_cases hstep with ⟨rfl, rfl⟩ | ⟨howns, happly, rfl⟩
      · rw [List.append_nil]
        exact hafter
      rw [ht.config_eq] at howns
      obtain ⟨-, -, hheld, -⟩ := ht.toWithin.apply hkind howns happly
      have hlast := hout action.inventory (List.mem_append_right _ List.mem_cons_self)
      rw [authenticatedCount_concat, hheld]
      by_cases hauth : action.inventory.authState = .authenticated
      · rw [if_pos hauth, Held.observe_unlisted hauth (hlast hauth)]
        refine hafter.miss fun hsome => ?_
        rw [← consecutiveOmissions_append hbefore]
        exact (ht.counted slug hsome).1
      · unfold Held.observe
        rw [if_neg hauth, if_pos hauth]
        exact hafter
  exact hend.2 hout

/-- What a run of inventories guarantees of a source of physical models. -/
structure AdoptionSound (config : SourceConfig) (s : SourceState) (log : List SourceInventory) :
    Prop where
  /-- After an authenticated inventory, what is registered is listed. -/
  listed : ∀ before inventory, log = before ++ [inventory] →
    inventory.authState = .authenticated → Listed s inventory
  /-- From here on, a slug that is adopted and left out is retired at the third omission in a row,
      counted from the last inventory that listed it. -/
  omitted : ∀ allowed s' log' slug, Machine.Run sourceMachine allowed s s' log' →
    (s.adopted.row? slug).isSome = true → LeavesOut slug log' →
    ((s'.adopted.row? slug).isSome = true ↔
        consecutiveOmissions slug log + authenticatedCount log' < 3) ∧
      (3 ≤ consecutiveOmissions slug log + authenticatedCount log' → slug ∈ s'.retired)
  /-- An inventory that is not authenticated changes nothing. -/
  unauthenticated : ∀ action s' events, s.step action = some (s', events) →
    action.inventory.authState ≠ .authenticated →
    s'.adopted = s.adopted ∧ s'.missCounts = s.missCounts ∧ s'.retired = s.retired
  /-- The condition on the next inventory is exact. -/
  listed_iff : ∀ action s', SourceState.Owns config action.workerId action.inventory →
    s.apply action.workerId action.inventory = .ok s' →
    action.inventory.authState = .authenticated →
    (Listed s' action.inventory ↔ Advertised s action)

/-- **The adoption lifecycle.**  As long as every listed model of an adopted slug has a policy
    effort, what is registered after an authenticated inventory is what it lists; and in every run,
    a slug is retired at the third omission in a row and unauthenticated inventories change
    nothing. -/
theorem adoption_lifecycle (hkind : config.kind = .codexSubscription)
    (run : Machine.Run sourceMachine Advertised { config } s log) : AdoptionSound config s log := by
  have hs := sourceKept_of_run hkind run
  refine ⟨?_, ?_, ?_, fun action s' howns happly hauth => hs.listed_iff hkind howns happly hauth⟩
  · have hlisted : SourceKept config s log ∧ ∀ before inventory, log = before ++ [inventory] →
        inventory.authState = .authenticated → Listed s inventory := by
      refine run.invariant (I := fun s log => SourceKept config s log ∧
        ∀ before inventory, log = before ++ [inventory] → inventory.authState = .authenticated →
          Listed s inventory) ?_ ?_
      · exact ⟨@sourceKept_of_run _ _ _ Advertised hkind .refl,
          fun before _ h => absurd h (by simp)⟩
      · rintro t t' log events action - ⟨ht, hlast⟩ hadvertised hstep
        refine ⟨ht.step hkind hstep, fun before inventory hlog hauth => ?_⟩
        rcases SourceState.step_cases hstep with ⟨rfl, rfl⟩ | ⟨howns, happly, rfl⟩
        · rw [List.append_nil] at hlog
          exact hlast before inventory hlog hauth
        · rw [ht.config_eq] at howns
          obtain ⟨-, hinventory⟩ := List.append_inj' hlog rfl
          obtain rfl := List.singleton_inj.mp hinventory
          exact (ht.listed_iff hkind howns happly hauth).mpr hadvertised
    exact hlisted.2
  · intro allowed s' log' slug run' hadopted hout
    have hafter := hs.omitted hkind hadopted run' hout
    exact ⟨hafter.adopted_iff, fun hle => List.contains_iff_mem.mp (hafter.retired hle)⟩
  · intro action s' events hstep hauth
    rcases SourceState.step_cases hstep with ⟨rfl, rfl⟩ | ⟨howns, happly, rfl⟩
    · exact ⟨rfl, rfl, rfl⟩
    · rw [hs.config_eq] at howns
      exact (hs.toWithin.apply hkind howns happly).2.2.2 hauth

end Runs

/-! ### A source -/

/-- A source that may adopt one model. -/
def atlasSource : SourceConfig where
  sourceId := .lit "acme"
  kind := .codexSubscription
  workerId := .lit "worker-1"
  allowedModels := [.lit "atlas"]

/-- An authenticated inventory of its worker. -/
def atlasDiscovery (models : List DiscoveredModel) (hle : models.length ≤ 64)
    (hsorted : models.Pairwise (·.slug < ·.slug)) : Discovery where
  workerId := .lit "worker-1"
  inventory :=
    { sourceId := .lit "acme"
      adapterId := .lit "codex:acme"
      kind := .codexSubscription
      authState := .authenticated
      runtimeVersion := "1.0.0"
      models := models
      models_le := hle
      sorted := hsorted }

/-- The one model, with the efforts it is reported with. -/
def atlasListed (efforts : List SafeId) (hle : efforts.length ≤ 8) (hnodup : efforts.Nodup) :
    Discovery :=
  let model : DiscoveredModel :=
    { slug := .lit "atlas"
      reasoningEfforts := efforts
      efforts_le := hle
      efforts_distinct := hnodup }
  atlasDiscovery [model] (by simp) (List.pairwise_singleton _ _)

theorem nothing_sorted : ([] : List DiscoveredModel).Pairwise (·.slug < ·.slug) := .nil

/-- Nothing is listed. -/
def nothingListed : Discovery := atlasDiscovery [] (by simp) nothing_sorted

/-- A model is adopted, and left out until it is retired. -/
theorem adoption_lifecycle_retired : ∃ s log,
    Machine.Run sourceMachine Advertised { config := atlasSource } s log ∧
      s.retired = [.lit "atlas"] ∧ AdoptionSound atlasSource s log := by
  obtain ⟨⟨s, log⟩, hexec, hretired⟩ := Option.map_eq_some_iff.mp
    (show (sourceMachine.exec (fun s action => decide (Advertised s action))
        { config := atlasSource } []
        [atlasListed [.lit "high"] (by simp) (by simp), nothingListed, nothingListed,
          nothingListed]).map (fun r => r.1.retired) = some [.lit "atlas"] by decide +kernel)
  have run : Machine.Run sourceMachine Advertised { config := atlasSource } s log :=
    (Machine.run_of_exec .refl hexec).mono fun _ _ h => of_decide_eq_true h
  exact ⟨s, log, run, hretired, adoption_lifecycle rfl run⟩

/-- A model that is reported with another effort only, of which the policy knows nothing, stays
    registered with the effort it had. -/
theorem adoption_outdated : ¬ ∀ (config : SourceConfig) (s : SourceState)
    (log before : List SourceInventory) (inventory : SourceInventory),
    config.kind = .codexSubscription →
    Machine.Run sourceMachine (fun _ _ => True) { config } s log → log = before ++ [inventory] →
    inventory.authState = .authenticated → Listed s inventory := by
  intro h
  let first := atlasListed [.lit "high"] (by simp) (by simp)
  let second := atlasListed [.lit "turbo"] (by simp) (by simp)
  obtain ⟨⟨s, log⟩, hexec, hstate⟩ := Option.map_eq_some_iff.mp
    (show (sourceMachine.exec (fun _ _ => true) { config := atlasSource } [] [first, second]).map
        (fun r => (r.1.cells, r.2)) =
      some ([(.lit "atlas", some (.lit "high"))], [first.inventory, second.inventory])
      by decide +kernel)
  obtain ⟨hcells, rfl⟩ := Prod.mk.inj hstate
  have run : Machine.Run sourceMachine (fun _ _ => True) { config := atlasSource } s
      [first.inventory, second.inventory] :=
    (Machine.run_of_exec .refl hexec).mono fun _ _ _ => trivial
  have hlisted := h atlasSource s _ [first.inventory] second.inventory rfl run rfl rfl
  obtain ⟨effort, heffort, hmem⟩ := hlisted (.lit "atlas", some (.lit "high"))
    (by rw [hcells]; exact List.mem_cons_self) _ List.mem_cons_self rfl
  obtain rfl := Option.some.inj heffort
  exact absurd hmem (by decide +kernel)

end ScarcityRouter
