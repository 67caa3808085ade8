import ScarcityRouter.Registry.Adoption

namespace ScarcityRouter

open ScarcityRouter.Lib

/-!
# What the sources derive

Which resources a registry of sources derives, and what an inventory or a configuration changes of
them.

* `SourceRegistry.Derives` — a resource is derived from a cell of one of the sources.
* `mem_derivedRegistrations` — **the derived registrations are those of the derived resources.**
* `SourceRegistry.derives_congr` — a resource depends on the source its id names.
* `applyInventory_row?`, `syncConfiguration_row?` — what an inventory and a configuration leave of
  the other sources.
-/

variable {r r' : SourceRegistry} {resourceId sourceId slug : SafeId} {effort : Option SafeId}

/-! ### Heads -/

/-- The head of a text that goes on with a colon. -/
theorem takeWhile_colon {cs rest : List Char} (h : ':' ∉ cs) :
    (cs ++ ':' :: rest).takeWhile (· ≠ ':') = cs := by
  rw [List.takeWhile_append_of_pos]
  · simp
  · intro c hc
    rw [decide_eq_true_eq]
    rintro rfl
    exact h hc

/-- The head of a derived id is the id of its source. -/
theorem sourceHead_of_derived (hplain : ':' ∉ sourceId.text.toList)
    (h : derivedResourceId sourceId slug effort = .ok resourceId) :
    sourceHead resourceId = sourceId.text.toList := by
  unfold derivedResourceId sourceResourceId at h
  split_ifs at h
  dsimp only at h
  split_ifs at h
  obtain rfl := Except.ok.inj h
  unfold sourceHead
  show (sourceId.text ++ ":" ++ slug.text ++ effort.elim "" (":" ++ ·.text)).toList.takeWhile
    (· ≠ ':') = _
  rw [String.toList_append, String.toList_append, String.toList_append, List.append_assoc,
    List.append_assoc]
  exact takeWhile_colon hplain

/-! ### Derived resources -/

/-- A source derives a resource: it is the resource of one of its cells. -/
def SourceState.Derives (s : SourceState) (resourceId : SafeId) : Prop :=
  ∃ cell ∈ s.cells, derivedResourceId s.config.sourceId cell.1 cell.2 = .ok resourceId

/-- A registry of sources derives a resource. -/
def SourceRegistry.Derives (r : SourceRegistry) (resourceId : SafeId) : Prop :=
  ∃ s ∈ r.sources.rows, s.Derives resourceId

/-- The head of a derived resource names its source. -/
theorem SourceState.Derives.head {s : SourceState} (h : s.Derives resourceId) :
    sourceHead resourceId = s.config.sourceId.text.toList := by
  obtain ⟨_, _, hid⟩ := h
  exact sourceHead_of_derived s.config.sourceId_plain hid

/-- A registration is of the resource of its cell. -/
theorem SourceState.registration_resourceId {s : SourceState} {ttl : ℕ+}
    {cell : SafeId × Option SafeId} {registration : ResourceRegistration}
    (h : s.registration ttl cell = .ok registration) :
    derivedResourceId s.config.sourceId cell.1 cell.2 = .ok registration.identity.resourceId := by
  obtain ⟨id, hid, h⟩ := bind_eq_ok.mp h
  obtain ⟨_, _, h⟩ := bind_eq_ok.mp h
  rw [hid, ← Except.ok.inj h]

/-- The registrations that the sources of a list add. -/
theorem mem_foldlM_registrations {ttl : ℕ+} {states : List SourceState}
    {before after : List ResourceRegistration}
    (h : states.foldlM (fun registrations state => do
      let derived ← state.cells.mapM (SourceState.registration state ttl)
      return registrations ++ derived) before = .ok after) :
    (∃ registration ∈ after, registration.identity.resourceId = resourceId) ↔
      (∃ registration ∈ before, registration.identity.resourceId = resourceId) ∨
        ∃ s ∈ states, s.Derives resourceId := by
  induction states generalizing before with
  | nil =>
    obtain rfl := Except.ok.inj h
    simp
  | cons s states ih =>
    rw [List.foldlM_cons] at h
    obtain ⟨_, hround, h⟩ := bind_eq_ok.mp h
    obtain ⟨derived, hderived, hround⟩ := bind_eq_ok.mp hround
    obtain rfl := Except.ok.inj hround
    have hhere : (∃ registration ∈ derived, registration.identity.resourceId = resourceId) ↔
        s.Derives resourceId := by
      constructor
      · rintro ⟨registration, hmem, rfl⟩
        obtain ⟨cell, hcell, hregistration⟩ := exists_of_mem_mapM hderived hmem
        exact ⟨cell, hcell, SourceState.registration_resourceId hregistration⟩
      · rintro ⟨cell, hcell, hid⟩
        obtain ⟨registration, hmem, hregistration⟩ := exists_mem_of_mapM hderived hcell
        refine ⟨registration, hmem, ?_⟩
        have hsame := SourceState.registration_resourceId hregistration
        exact Except.ok.inj (hsame.symm.trans hid)
    rw [ih h]
    simp only [List.mem_append, or_and_right, exists_or, List.mem_cons, exists_eq_left, hhere]
    exact or_assoc

/-- **The derived registrations are those of the derived resources.** -/
theorem mem_derivedRegistrations {registrations : List ResourceRegistration}
    (h : r.derivedRegistrations = .ok registrations) :
    (∃ registration ∈ registrations, registration.identity.resourceId = resourceId) ↔
      r.Derives resourceId := by
  unfold SourceRegistry.derivedRegistrations at h
  rw [mem_foldlM_registrations h]
  simp [SourceRegistry.Derives]

/-- **A resource depends on the source that its id names.** -/
theorem SourceRegistry.derives_congr
    (h : ∀ id : SafeId, id.text.toList = sourceHead resourceId →
      r'.sources.row? id = r.sources.row? id) :
    r'.Derives resourceId ↔ r.Derives resourceId := by
  have hone : ∀ {p q : SourceRegistry}, (∀ id : SafeId, id.text.toList = sourceHead resourceId →
      q.sources.row? id = p.sources.row? id) → p.Derives resourceId → q.Derives resourceId := by
    rintro p q hrow ⟨s, hs, hderives⟩
    refine ⟨s, ?_, hderives⟩
    rw [Table.mem_rows, hrow _ hderives.head.symm]
    exact Table.mem_rows.mp hs
  exact ⟨hone fun id hid => (h id hid).symm, hone h⟩

/-! ### Inventories and configurations -/

/-- A settled inventory keeps the configuration. -/
theorem SourceState.config_settle {s : SourceState} {slugs : List SafeId} :
    (s.settle slugs).config = s.config := by
  have hmiss : ∀ (s : SourceState) (slug : SafeId), (s.countMiss slug).config = s.config := by
    intro s slug
    unfold SourceState.countMiss
    dsimp only
    split_ifs <;> rfl
  have hclear : ∀ (s : SourceState) (slug : SafeId), (s.clearMiss slug).config = s.config := by
    intro s slug
    unfold SourceState.clearMiss
    split_ifs <;> rfl
  have hfold : ∀ (f : SourceState → SafeId → SourceState),
      (∀ s slug, (f s slug).config = s.config) →
        ∀ (slugs : List SafeId) (s : SourceState), (slugs.foldl f s).config = s.config := by
    intro f hf slugs
    induction slugs with
    | nil => exact fun _ => rfl
    | cons slug slugs ih => exact fun s => (ih (f s slug)).trans (hf s slug)
  unfold SourceState.settle
  rw [hfold _ hclear, hfold _ hmiss]

/-- An inventory keeps the configuration of its source. -/
theorem SourceState.config_apply {s s' : SourceState} {workerId : SafeId}
    {inventory : SourceInventory} (h : s.apply workerId inventory = .ok s') :
    s'.config = s.config := by
  unfold SourceState.apply at h
  split_ifs at h
  · obtain ⟨adopted, hadopted, h⟩ := bind_eq_ok.mp h
    have hconfig := (SourceState.adoptModels_eq_ok inventory.nodup_slugs hadopted).config_eq
    obtain rfl := Except.ok.inj h
    split_ifs
    · rw [SourceState.config_settle, hconfig]
    · exact hconfig
  · rw [← Except.ok.inj h]

/-- **An inventory leaves the sources that it does not name.** -/
theorem applyInventory_row? {report : ModelInventoryReport}
    (h : r.applyInventory report = .ok r')
    (hid : ∀ item ∈ report.sources, item.sourceId ≠ sourceId) :
    r'.sources.row? sourceId = r.sources.row? sourceId := by
  unfold SourceRegistry.applyInventory at h
  refine foldlM_kept (P := fun q => q.sources.row? sourceId = r.sources.row? sourceId) ?_ h rfl
  intro q q' item hitem hround hq
  unfold SourceRegistry.applySource at hround
  split at hround
  · rw [← Except.ok.inj hround]
    exact hq
  · rename_i state hstate
    obtain ⟨applied, happlied, hround⟩ := bind_eq_ok.mp hround
    have hname : applied.config.sourceId = item.sourceId := by
      rw [SourceState.config_apply happlied]
      exact (Table.row?_eq_some.mp hstate).2
    rw [← Except.ok.inj hround]
    show (q.sources.put applied).row? sourceId = _
    rw [Table.row?_put, if_neg (by rw [hname]; exact hid item hitem)]
    exact hq

/-- What a configuration carries over, by source. -/
theorem syncConfiguration_row? {configs : List SourceConfig}
    {distinct : (configs.map (·.sourceId)).Nodup} :
    (r.syncConfiguration configs distinct).sources.row? sourceId =
      (configs.find? (·.sourceId == sourceId)).map r.carried := by
  show (configs.map r.carried).find? (fun s => s.config.sourceId == sourceId) = _
  rw [List.find?_map]
  congr 2
  funext config
  show ((r.carried config).config.sourceId == sourceId) = _
  rw [SourceRegistry.carried_config]

/-- **A configuration that is carried over once is carried over**: what is known of a source that
    was left alone since stays. -/
theorem syncConfiguration_again {configs : List SourceConfig}
    {distinct : (configs.map (·.sourceId)).Nodup}
    (h : r'.sources.row? sourceId = (r.syncConfiguration configs distinct).sources.row? sourceId) :
    (r'.syncConfiguration configs distinct).sources.row? sourceId =
      (r.syncConfiguration configs distinct).sources.row? sourceId := by
  rw [syncConfiguration_row?] at h ⊢
  rw [syncConfiguration_row?]
  cases hfind : configs.find? (·.sourceId == sourceId) with
  | none => rfl
  | some config =>
    have hname : config.sourceId = sourceId := by
      have hfound := List.find?_some hfind
      exact beq_iff_eq.mp hfound
    rw [hfind, Option.map_some] at h
    rw [Option.map_some, Option.map_some]
    congr 1
    rw [SourceRegistry.carried, hname, h]
    dsimp only
    rw [if_neg (by rw [SourceRegistry.carried_config]; simp)]
    have hsame := r.carried_config config
    generalize r.carried config = carried at hsame ⊢
    subst hsame
    rfl

end ScarcityRouter
