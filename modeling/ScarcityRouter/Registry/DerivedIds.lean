import ScarcityRouter.Registry.Derivation

namespace ScarcityRouter

open ScarcityRouter.Lib

/-!
# Ids of derived resources

`source_resource_id` joins a source, a slug and an effort with colons and escapes nothing; a slug
may hold colons itself.  What makes an id unambiguous is what the two ends are: neither a source nor
an effort has a colon, and the one model without an effort is the plan-managed lane.

* `derived_cell_inj` — **distinct cells have distinct ids.**
* `returns_derivedResourceId` — a cell has an id unless its source or its slug ends in a newline,
  which the pattern of identifiers lets pass at the end of a text and nowhere else.
* `SourceRegistry.ownerOf`, `SourceRegistry.adapterOf` — the readers that split an id again.
* `SourceRegistry.AdoptedFit` — the invariant: what a registry has adopted has ids.
* `derived_ids_sound` — what holds of every registry that configurations and inventories lead to.
-/

/-! ### Texts with separators -/

/-- The first colon splits a text. -/
theorem append_colon_inj {cs ds rest rest' : List Char} (hc : ':' ∉ cs) (hd : ':' ∉ ds)
    (h : cs ++ ':' :: rest = ds ++ ':' :: rest') : cs = ds ∧ rest = rest' := by
  have hhead : cs = ds := by
    have htake : (cs ++ ':' :: rest).takeWhile (· ≠ ':') = cs := takeWhile_colon hc
    rw [← htake, h, takeWhile_colon hd]
  subst hhead
  exact ⟨rfl, (List.cons.inj (List.append_cancel_left h)).2⟩

/-- So does the last one. -/
theorem append_colon_inj_right {cs ds rest rest' : List Char} (hc : ':' ∉ rest)
    (hd : ':' ∉ rest') (h : cs ++ ':' :: rest = ds ++ ':' :: rest') : cs = ds ∧ rest = rest' := by
  have hreverse : rest.reverse ++ ':' :: cs.reverse = rest'.reverse ++ ':' :: ds.reverse := by
    have := congrArg List.reverse h
    simpa using this
  obtain ⟨hrest, hfront⟩ := append_colon_inj (by simpa using hc) (by simpa using hd) hreverse
  exact ⟨List.reverse_injective hfront, List.reverse_injective hrest⟩

/-! ### Cells -/

/-- The text of a derived id. -/
def derivedText (sourceId : SafeId) (cell : SafeId × Option SafeId) : List Char :=
  sourceId.text.toList ++ ':' ::
    (cell.1.text.toList ++ cell.2.elim [] fun effort => ':' :: effort.text.toList)

/-- A derived id has its text. -/
theorem text_of_derived {sourceId resourceId : SafeId} {cell : SafeId × Option SafeId}
    (h : derivedResourceId sourceId cell.1 cell.2 = .ok resourceId) :
    resourceId.text.toList = derivedText sourceId cell := by
  unfold derivedResourceId sourceResourceId at h
  split_ifs at h
  dsimp only at h
  split_ifs at h
  obtain rfl := Except.ok.inj h
  show (sourceId.text ++ ":" ++ cell.1.text ++ cell.2.elim "" (":" ++ ·.text)).toList = _
  unfold derivedText
  cases cell.2 with
  | none => simp
  | some effort => simp

/-- What a source holds: a model with one of the efforts of the policy, or the lane without. -/
structure CellFits (cell : SafeId × Option SafeId) : Prop where
  slug_le : cell.1.text.length ≤ slugMaxLength
  lane : cell.2 = none → cell.1.text = "plan-managed"
  policy : ∀ effort ∈ cell.2, effort ∈ reasoningEfforts

/-- The efforts of the policy are short, and have neither separators nor newlines. -/
theorem effort_plain : ∀ effort ∈ reasoningEfforts, ':' ∉ effort.text.toList ∧
    '\n' ∉ effort.text.toList ∧ effort.text.length ≤ 7 ∧ effort.text ≠ "" := by
  decide +kernel

/-- **Distinct cells have distinct ids.** -/
theorem derived_cell_inj {config config' : SourceConfig} {cell cell' : SafeId × Option SafeId}
    (hfits : CellFits cell) (hfits' : CellFits cell')
    (h : derivedText config.sourceId cell = derivedText config'.sourceId cell') :
    config.sourceId = config'.sourceId ∧ cell = cell' := by
  obtain ⟨hsource, hrest⟩ := append_colon_inj config.sourceId_plain config'.sourceId_plain h
  refine ⟨SafeId.text_injective (String.toList_injective hsource), ?_⟩
  obtain ⟨slug, effort⟩ := cell
  obtain ⟨slug', effort'⟩ := cell'
  have hlane : ∀ {slug : SafeId}, slug.text = "plan-managed" → ':' ∉ slug.text.toList := by
    intro slug hslug
    rw [hslug]
    decide
  cases effort with
  | none =>
    cases effort' with
    | none =>
      simp only [Option.elim_none, List.append_nil] at hrest
      rw [SafeId.text_injective (String.toList_injective hrest)]
    | some effort' =>
      -- The lane has no separator.
      simp only [Option.elim_none, List.append_nil, Option.elim_some] at hrest
      exact absurd (hrest ▸ List.mem_append_right _ List.mem_cons_self) (hlane (hfits.lane rfl))
  | some effort =>
    cases effort' with
    | none =>
      simp only [Option.elim_none, List.append_nil, Option.elim_some] at hrest
      exact absurd (hrest ▸ List.mem_append_right _ List.mem_cons_self) (hlane (hfits'.lane rfl))
    | some effort' =>
      simp only [Option.elim_some] at hrest
      obtain ⟨hslug, heffort⟩ := append_colon_inj_right (effort_plain _ (hfits.policy _ rfl)).1
        (effort_plain _ (hfits'.policy _ rfl)).1 hrest
      rw [SafeId.text_injective (String.toList_injective hslug),
        SafeId.text_injective (String.toList_injective heffort)]

/-- The bounds on the parts add up to the bound on an identifier. -/
theorem length_derivedText (config : SourceConfig) {cell : SafeId × Option SafeId}
    (hfits : CellFits cell) : (derivedText config.sourceId cell).length ≤ 64 := by
  have hsource : config.sourceId.text.length ≤ 20 := config.sourceId_le
  have hslug : cell.1.text.length ≤ 35 := hfits.slug_le
  rw [← String.length_toList] at hsource hslug
  have heffort : (cell.2.elim [] fun effort => ':' :: effort.text.toList).length ≤ 8 := by
    cases heq : cell.2 with
    | none => simp
    | some effort =>
      have hle := (effort_plain _ (hfits.policy effort heq)).2.2.1
      rw [← String.length_toList] at hle
      show effort.text.toList.length + 1 ≤ 8
      omega
  unfold derivedText
  rw [List.length_append, List.length_cons, List.length_append]
  omega

/-- The text of an id matches, unless a newline ends the source or the slug. -/
theorem matches_derivedText (config : SourceConfig) {cell : SafeId × Option SafeId}
    (hfits : CellFits cell) : matchesSafeId (derivedText config.sourceId cell) = true ↔
      '\n' ∉ config.sourceId.text.toList ∧ '\n' ∉ cell.1.text.toList := by
  -- The last part is the effort, or the lane: it has no newline.
  have hback : ∃ front back, derivedText config.sourceId cell = front ++ back ∧ back ≠ [] ∧
      '\n' ∉ back ∧ (('\n' ∉ front) ↔
        '\n' ∉ config.sourceId.text.toList ∧ '\n' ∉ cell.1.text.toList) := by
    cases heq : cell.2 with
    | none =>
      have hlane := hfits.lane heq
      refine ⟨config.sourceId.text.toList ++ [':'], cell.1.text.toList, ?_, ?_, ?_, ?_⟩
      · unfold derivedText
        rw [heq]
        simp
      · rw [hlane]
        decide
      · rw [hlane]
        decide
      · rw [hlane]
        simp
    | some effort =>
      have hplain := effort_plain _ (hfits.policy effort heq)
      refine ⟨config.sourceId.text.toList ++ ':' :: cell.1.text.toList ++ [':'],
        effort.text.toList, ?_, ?_, hplain.2.1, ?_⟩
      · unfold derivedText
        rw [heq]
        simp
      · exact fun hnil => hplain.2.2.2 (String.toList_eq_nil_iff.mp hnil)
      · simp
  constructor
  · intro hmatch
    obtain ⟨front, back, heq, hne, hplain, hfront⟩ := hback
    rw [heq] at hmatch
    exact hfront.mp (plain_front hne hplain hmatch)
  · rintro ⟨hsource, hslug⟩
    have hsafe : ∀ c ∈ derivedText config.sourceId cell, isSafeIdChar c = true := by
      unfold derivedText
      intro c hc
      rcases List.mem_append.mp hc with hc | hc
      · exact SafeId.safe_of_plain hsource c hc
      · rcases List.mem_cons.mp hc with rfl | hc
        · decide
        · rcases List.mem_append.mp hc with hc | hc
          · exact SafeId.safe_of_plain hslug c hc
          · cases heq : cell.2 with
            | none =>
              rw [heq] at hc
              cases hc
            | some effort =>
              rw [heq, Option.elim_some] at hc
              rcases List.mem_cons.mp hc with rfl | hc
              · decide
              · exact SafeId.safe_of_plain (effort_plain _ (hfits.policy _ heq)).2.1 c hc
    have hplain : '\n' ∉ derivedText config.sourceId cell := fun hmem =>
      absurd (hsafe _ hmem) (by rw [newline_not_safe]; exact Bool.false_ne_true)
    rw [matchesSafeId_plain hplain]
    obtain ⟨⟨c, hhead, hsafeHead⟩, -⟩ := (matchesSafeId_plain hsource).mp config.sourceId.2
    refine ⟨⟨c, ?_, hsafeHead⟩, hsafe, length_derivedText config hfits⟩
    unfold derivedText
    rw [List.head?_append, show config.sourceId.text.toList.head? = some c from hhead]
    rfl

/-- **A cell has an id unless its source or its slug ends in a newline.** -/
theorem returns_derivedResourceId (config : SourceConfig) {cell : SafeId × Option SafeId}
    (hfits : CellFits cell) : Returns (derivedResourceId config.sourceId cell.1 cell.2) ↔
      '\n' ∉ config.sourceId.text.toList ∧ '\n' ∉ cell.1.text.toList := by
  rw [← matches_derivedText config hfits]
  have hslug : ¬ 40 < cell.1.text.length := by
    have hle : cell.1.text.length ≤ 35 := hfits.slug_le
    omega
  have hcolon : ¬ (':' ∈ config.sourceId.text.toList ∨
      cell.2.any (fun effort => ':' ∈ effort.text.toList) = true) := by
    rintro (hmem | hany)
    · exact config.sourceId_plain hmem
    · obtain ⟨effort, heffort, hmem⟩ := (Option.any_eq_true _ _).mp hany
      exact (effort_plain _ (hfits.policy effort heffort)).1 (of_decide_eq_true hmem)
  have hlane : ¬ (cell.2 = none ∧ ':' ∈ cell.1.text.toList) := by
    rintro ⟨hnone, hmem⟩
    rw [hfits.lane hnone] at hmem
    exact absurd hmem (by decide)
  have htext : (config.sourceId.text ++ ":" ++ cell.1.text ++
      cell.2.elim "" (":" ++ ·.text)).toList = derivedText config.sourceId cell := by
    unfold derivedText
    cases cell.2 with
    | none => simp
    | some effort => simp
  unfold derivedResourceId sourceResourceId
  rw [if_neg hslug, if_neg (Nat.not_lt.mpr config.sourceId_le), if_neg hcolon, if_neg hlane]
  dsimp only
  rw [← htext]
  split_ifs with hmatch
  · exact iff_of_true ⟨_, rfl⟩ hmatch
  · exact iff_of_false (not_returns_error _) hmatch

/-! ### The readers of an id -/

/-- `_split_resource_id`. -/
def splitResourceId (resourceId : String) : Option (String × String) :=
  let head := resourceId.toList.takeWhile (· ≠ ':')
  match resourceId.toList.dropWhile (· ≠ ':') with
  | [] => none
  | _ :: tail =>
    if head = [] ∨ tail = [] ∨ sourceIdMaxLength < head.length then none
    else some (String.ofList head, String.ofList tail)

namespace SourceRegistry

variable (r : SourceRegistry)

/-- `_sources.get` of a text. -/
def sourceNamed (sourceId : String) : Option SourceState :=
  r.sources.rows.find? (·.config.sourceId.text = sourceId)

/-- `owner_of`. -/
def ownerOf (resourceId : String) : Option SafeId := do
  let (sourceId, _) ← splitResourceId resourceId
  let state ← r.sourceNamed sourceId
  return state.config.workerId

/-- `adapter_of`. -/
def adapterOf (resourceId : String) : Option String := do
  let (sourceId, _) ← splitResourceId resourceId
  let state ← r.sourceNamed sourceId
  return state.config.kind.adapterPrefix ++ ":" ++ sourceId

end SourceRegistry

/-- A derived id is split at its source. -/
theorem splitResourceId_derived (config : SourceConfig) {cell : SafeId × Option SafeId}
    {resourceId : SafeId}
    (h : derivedResourceId config.sourceId cell.1 cell.2 = .ok resourceId) :
    ∃ tail, splitResourceId resourceId.text = some (config.sourceId.text, tail) := by
  have htext := text_of_derived h
  have hsource : config.sourceId.text.toList ≠ [] := fun hnil =>
    config.sourceId.text_ne_empty (String.toList_eq_nil_iff.mp hnil)
  have hslug : cell.1.text.toList ≠ [] := fun hnil =>
    cell.1.text_ne_empty (String.toList_eq_nil_iff.mp hnil)
  have hhead : (derivedText config.sourceId cell).takeWhile (· ≠ ':') =
      config.sourceId.text.toList := takeWhile_colon config.sourceId_plain
  have hrest : (derivedText config.sourceId cell).dropWhile (· ≠ ':') = ':' ::
      (cell.1.text.toList ++ cell.2.elim [] fun effort => ':' :: effort.text.toList) := by
    have hsplit := List.takeWhile_append_dropWhile (p := fun c : Char => decide (c ≠ ':'))
      (l := derivedText config.sourceId cell)
    rw [hhead] at hsplit
    exact List.append_cancel_left hsplit
  have hle : ¬ sourceIdMaxLength < config.sourceId.text.toList.length := by
    rw [String.length_toList]
    exact Nat.not_lt.mpr config.sourceId_le
  refine ⟨String.ofList (cell.1.text.toList ++
    cell.2.elim [] fun effort => ':' :: effort.text.toList), ?_⟩
  unfold splitResourceId
  rw [htext, hhead, hrest]
  dsimp only
  rw [if_neg, String.ofList_toList]
  rintro (hnil | hnil | hlt)
  · exact hsource hnil
  · exact hslug (List.append_eq_nil_iff.mp hnil).1
  · exact hle hlt

/-- **A derived id leads back to its source.** -/
theorem SourceRegistry.sourceNamed_eq {r : SourceRegistry} {s : SourceState}
    (hs : s ∈ r.sources.rows) : r.sourceNamed s.config.sourceId.text = some s := by
  unfold sourceNamed
  refine find?_eq_some_of_unique hs (by simp) fun other hother hname => ?_
  have hid : other.config.sourceId = s.config.sourceId :=
    SafeId.text_injective (of_decide_eq_true hname)
  have hrow := Table.mem_rows.mp hother
  rw [hid, Table.mem_rows.mp hs] at hrow
  exact (Option.some.inj hrow).symm

/-! ### What is adopted has ids -/

/-- Neither a source nor a slug ends in a newline. -/
def PlainIds (sourceId slug : SafeId) : Prop :=
  '\n' ∉ sourceId.text.toList ∧ '\n' ∉ slug.text.toList

instance (sourceId slug : SafeId) : Decidable (PlainIds sourceId slug) :=
  inferInstanceAs (Decidable (_ ∧ _))

/-- An adopted model of a source has an id for each of its efforts, or is the lane. -/
structure AdoptedFits (sourceId : SafeId) (model : AdoptedModel) : Prop where
  plain : PlainIds sourceId model.slug
  slug_le : model.slug.text.length ≤ slugMaxLength
  lane : model.efforts = [] → model.slug.text = "plan-managed"
  distinct : model.efforts.Nodup

/-- All that a source has adopted. -/
def SourceState.AdoptedFit (s : SourceState) : Prop :=
  ∀ model ∈ s.adopted.rows, AdoptedFits s.config.sourceId model

section Adopting

variable {s s' : SourceState} {authState : SourceAuthState} {model : DiscoveredModel}

/-- What the ids of a model that is not excluded are the ids of. -/
theorem SourceConfig.fits_of_exclusion {config : SourceConfig}
    (h : config.exclusion authState model = none) :
    (config.kind = .zcodeSubscription → model.slug.text = "plan-managed") ∧
      (config.kind = .codexSubscription → policyEfforts model.reasoningEfforts ≠ []) := by
  unfold SourceConfig.exclusion at h
  rw [SourceConfig.currentExclusion_of_exclusion h] at h
  cases hkind : config.kind with
  | zcodeSubscription =>
    rw [hkind] at h
    dsimp only at h
    split_ifs at h with hlane
    exact ⟨fun _ => not_not.mp (not_or.mp hlane).1, nofun⟩
  | codexSubscription =>
    rw [hkind] at h
    dsimp only at h
    split_ifs at h with _ hefforts
    exact ⟨nofun, fun _ => hefforts⟩

/-- **A model has its ids exactly if neither its source nor its slug ends in a newline.** -/
theorem returns_resourceIds {config : SourceConfig}
    (h : config.exclusion authState model = none) :
    Returns (SourceState.resourceIds config model) ↔ PlainIds config.sourceId model.slug := by
  obtain ⟨hlane, hefforts⟩ := SourceConfig.fits_of_exclusion h
  unfold SourceState.resourceIds
  cases hkind : config.kind with
  | zcodeSubscription =>
    have hfits : CellFits (model.slug, none) := ⟨model.slug_le, fun _ => hlane hkind, nofun⟩
    dsimp only
    rw [returns_bind]
    refine Iff.trans ?_ (returns_derivedResourceId config hfits)
    exact exists_congr fun id => and_iff_left (returns_ok _)
  | codexSubscription =>
    have hfits : ∀ effort ∈ policyEfforts model.reasoningEfforts,
        CellFits (model.slug, some effort) := fun effort heffort =>
      ⟨model.slug_le, nofun, fun _ heq => by
        rw [← Option.some.inj heq]
        exact (mem_policyEfforts.mp heffort).2⟩
    dsimp only
    rw [returns_mapM]
    obtain ⟨effort, heffort⟩ := List.exists_mem_of_ne_nil _ (hefforts hkind)
    constructor
    · exact fun hall => (returns_derivedResourceId config (hfits effort heffort)).mp
        (hall effort heffort)
    · exact fun hplain effort heffort =>
        (returns_derivedResourceId config (hfits effort heffort)).mpr hplain

theorem returns_adoptModel : Returns (s.adoptModel authState model) ↔
    (s.config.exclusion authState model = none → PlainIds s.config.sourceId model.slug) := by
  unfold SourceState.adoptModel
  cases hexclusion : s.config.exclusion authState model with
  | some reason => simp
  | none =>
    dsimp only
    rw [returns_bind]
    simp only [forall_const]
    refine Iff.trans ?_ (returns_resourceIds hexclusion)
    exact exists_congr fun ids => and_iff_left (returns_ok _)

/-- An adopted model fits. -/
theorem SourceState.AdoptedFit.adoptModel (hs : s.AdoptedFit)
    (h : s.adoptModel authState model = .ok s') : s'.AdoptedFit := by
  have hreturns := returns_adoptModel.mp ⟨s', h⟩
  unfold SourceState.adoptModel at h
  cases hexclusion : s.config.exclusion authState model with
  | some reason =>
    rw [hexclusion] at h
    obtain rfl := Except.ok.inj h
    exact hs
  | none =>
    rw [hexclusion] at h
    obtain ⟨ids, -, h⟩ := bind_eq_ok.mp h
    obtain rfl := Except.ok.inj h
    obtain ⟨hlane, hefforts⟩ := SourceConfig.fits_of_exclusion hexclusion
    intro row hrow
    rw [Table.mem_rows, Table.row?_put] at hrow
    split_ifs at hrow with hslug
    · obtain rfl := Option.some.inj hrow
      refine ⟨hreturns hexclusion, model.slug_le, fun hnil => ?_, ?_⟩
      · cases hkind : s.config.kind with
        | zcodeSubscription => exact hlane hkind
        | codexSubscription =>
          refine absurd ?_ (hefforts hkind)
          simp only [SourceState.heldEfforts, hkind] at hnil
          rw [hnil]
          rfl
      · show (SourceState.heldEfforts s.config.kind model).Nodup
        unfold SourceState.heldEfforts
        cases s.config.kind with
        | zcodeSubscription => exact List.nodup_nil
        | codexSubscription => exact model.efforts_distinct
    · exact hs row (Table.mem_rows.mpr hrow)

theorem SourceState.AdoptedFit.countMiss (hs : s.AdoptedFit) (slug : SafeId) :
    (s.countMiss slug).AdoptedFit := by
  unfold SourceState.countMiss
  dsimp only
  split_ifs
  · exact fun row hrow => hs row (List.mem_of_mem_filter hrow)
  · exact hs

theorem SourceState.AdoptedFit.clearMiss (hs : s.AdoptedFit) (slug : SafeId) :
    (s.clearMiss slug).AdoptedFit := by
  unfold SourceState.clearMiss
  split_ifs <;> exact hs

theorem SourceState.AdoptedFit.settle (hs : s.AdoptedFit) (slugs : List SafeId) :
    (s.settle slugs).AdoptedFit := by
  have hfold : ∀ (f : SourceState → SafeId → SourceState),
      (∀ s slug, s.AdoptedFit → (f s slug).AdoptedFit) →
        ∀ (slugs : List SafeId) (s : SourceState), s.AdoptedFit → (slugs.foldl f s).AdoptedFit := by
    intro f hf slugs
    induction slugs with
    | nil => exact fun _ hs => hs
    | cons slug slugs ih => exact fun s hs => ih _ (hf s slug hs)
  exact hfold _ (fun _ slug hs => hs.clearMiss slug) _ _
    (hfold _ (fun _ slug hs => hs.countMiss slug) _ _ hs)

/-- **An inventory leaves adopted only what has ids.** -/
theorem SourceState.AdoptedFit.apply {workerId : SafeId} {inventory : SourceInventory}
    (hs : s.AdoptedFit) (h : s.apply workerId inventory = .ok s') : s'.AdoptedFit := by
  unfold SourceState.apply at h
  split_ifs at h
  · obtain ⟨adopted, hadopted, h⟩ := bind_eq_ok.mp h
    have hkept : adopted.AdoptedFit := foldlM_kept
      (fun s s' model _ hround hs => SourceState.AdoptedFit.adoptModel hs hround) hadopted hs
    obtain rfl := Except.ok.inj h
    split_ifs
    · exact hkept.settle _
    · exact hkept
  · rw [← Except.ok.inj h]
    exact hs

theorem returns_adoptModels {models : List DiscoveredModel} :
    Returns (models.foldlM (SourceState.adoptModel authState) s) ↔ ∀ model ∈ models,
      s.config.exclusion authState model = none → PlainIds s.config.sourceId model.slug := by
  induction models generalizing s with
  | nil => exact iff_of_true ⟨s, rfl⟩ nofun
  | cons model models ih =>
    rw [List.foldlM_cons, returns_bind, List.forall_mem_cons, ← returns_adoptModel]
    constructor
    · rintro ⟨next, hnext, hrest⟩
      refine ⟨⟨next, hnext⟩, ?_⟩
      rw [← (SourceState.adoptModel_eq_ok hnext).config_eq]
      exact ih.mp hrest
    · rintro ⟨⟨next, hnext⟩, hrest⟩
      refine ⟨next, hnext, ih.mpr ?_⟩
      rw [(SourceState.adoptModel_eq_ok hnext).config_eq]
      exact hrest

/-- **An inventory is adopted unless a newline ends its source, or the slug of a model that the
    source adopts.** -/
theorem returns_apply {workerId : SafeId} {inventory : SourceInventory} :
    Returns (s.apply workerId inventory) ↔ (SourceState.Owns s.config workerId inventory →
      ∀ model ∈ inventory.models, s.config.exclusion inventory.authState model = none →
        PlainIds s.config.sourceId model.slug) := by
  unfold SourceState.apply
  split_ifs with howns
  · unfold SourceState.decide
    rw [returns_bind]
    simp only [howns, forall_const]
    refine Iff.trans ?_
      (returns_adoptModels (s := { s with inventory := some inventory, decisions := [] }))
    exact exists_congr fun adopted => and_iff_left (returns_ok _)
  · exact iff_of_true (returns_ok _) fun h => absurd h howns

end Adopting

/-! ### The registry -/

/-- All that the sources of a registry have adopted has ids. -/
def SourceRegistry.AdoptedFit (r : SourceRegistry) : Prop :=
  ∀ s ∈ r.sources.rows, s.AdoptedFit

/-- A report lists a model that the registry adopts. -/
structure SourceRegistry.Adopting (r : SourceRegistry) (report : ModelInventoryReport)
    (inventory : SourceInventory) (s : SourceState) (model : DiscoveredModel) : Prop where
  reported : inventory ∈ report.sources
  source : r.sources.row? inventory.sourceId = some s
  owns : SourceState.Owns s.config report.workerId inventory
  listed : model ∈ inventory.models
  adopted : s.config.exclusion inventory.authState model = none

/-- No model that the registry adopts has a source or a slug that ends in a newline. -/
def SourceRegistry.PlainReport (r : SourceRegistry) (report : ModelInventoryReport) : Prop :=
  ∀ inventory s model, r.Adopting report inventory s model →
    PlainIds s.config.sourceId model.slug

/-- What a registry of sources takes in. -/
inductive SourceAction where
  | configure (configs : List SourceConfig) (distinct : (configs.map (·.sourceId)).Nodup)
  | report (report : ModelInventoryReport)

/-- A step of the registry: a report that raises is applied to a copy, which is dropped. -/
def SourceRegistry.step (r : SourceRegistry) : SourceAction → Option (SourceRegistry × List Empty)
  | .configure configs distinct => some (r.syncConfiguration configs distinct, [])
  | .report report =>
    match r.applyInventory report with
    | .ok r' => some (r', [])
    | .error _ => some (r, [])

/-- The registry as a machine. -/
def sourceRegistryMachine : Machine SourceRegistry SourceAction Empty := ⟨SourceRegistry.step⟩

section Registry

variable {r r' : SourceRegistry} {report : ModelInventoryReport}

/-- What is carried into a configuration keeps the source. -/
theorem SourceRegistry.AdoptedFit.syncConfiguration (hr : r.AdoptedFit)
    (configs : List SourceConfig) (distinct : (configs.map (·.sourceId)).Nodup) :
    (r.syncConfiguration configs distinct).AdoptedFit := by
  intro s hs
  obtain ⟨config, -, rfl⟩ := List.mem_map.mp hs
  unfold carried
  split
  · exact nofun
  · rename_i existing hexisting
    obtain ⟨hmem, hname⟩ := Table.row?_eq_some.mp hexisting
    split_ifs
    · exact nofun
    · intro model hmodel
      show AdoptedFits config.sourceId model
      rw [← hname]
      exact hr existing hmem model hmodel

theorem SourceRegistry.AdoptedFit.applySource {workerId : SafeId} {inventory : SourceInventory}
    (hr : r.AdoptedFit) (h : SourceRegistry.applySource workerId r inventory = .ok r') :
    r'.AdoptedFit := by
  unfold SourceRegistry.applySource at h
  split at h
  · rw [← Except.ok.inj h]
    exact hr
  · rename_i s hfound
    obtain ⟨applied, happlied, h⟩ := bind_eq_ok.mp h
    rw [← Except.ok.inj h]
    intro s' hs'
    rw [Table.mem_rows, Table.row?_put] at hs'
    split_ifs at hs'
    · rw [← Option.some.inj hs']
      exact (hr s (Table.row?_eq_some.mp hfound).1).apply happlied
    · exact hr s' (Table.mem_rows.mpr hs')

/-- **What a registry has adopted has ids**, in every state that configurations and reports lead
    to. -/
theorem SourceRegistry.adoptedFit_of_run {allowed : SourceRegistry → SourceAction → Prop}
    {ttl : ℕ+} {log : List Empty}
    (hrun : sourceRegistryMachine.Run allowed { freshnessTtlSeconds := ttl } r log) :
    r.AdoptedFit := by
  refine hrun.invariant (I := fun r _ => r.AdoptedFit) nofun ?_
  intro r r' _ _ action _ hr _ hstep
  cases action with
  | configure configs distinct =>
    cases hstep
    exact hr.syncConfiguration configs distinct
  | report report =>
    simp only [sourceRegistryMachine, step] at hstep
    split at hstep
    · rename_i applied happlied
      cases hstep
      exact foldlM_kept (fun _ _ _ _ hround hr => AdoptedFit.applySource hr hround) happlied hr
    · cases hstep
      exact hr

/-- A round of the loop leaves the sources that it does not name. -/
theorem SourceRegistry.row?_applySource {workerId sourceId : SafeId}
    {inventory : SourceInventory} (h : SourceRegistry.applySource workerId r inventory = .ok r')
    (hother : inventory.sourceId ≠ sourceId) :
    r'.sources.row? sourceId = r.sources.row? sourceId := by
  unfold SourceRegistry.applySource at h
  split at h
  · rw [← Except.ok.inj h]
  · rename_i s hfound
    obtain ⟨applied, happlied, h⟩ := bind_eq_ok.mp h
    rw [← Except.ok.inj h, Table.row?_put, if_neg]
    rw [SourceState.config_apply happlied, (Table.row?_eq_some.mp hfound).2]
    exact hother

theorem SourceRegistry.returns_applySource {workerId : SafeId} {inventory : SourceInventory} :
    Returns (SourceRegistry.applySource workerId r inventory) ↔
      ∀ s, r.sources.row? inventory.sourceId = some s →
        SourceState.Owns s.config workerId inventory → ∀ model ∈ inventory.models,
          s.config.exclusion inventory.authState model = none →
            PlainIds s.config.sourceId model.slug := by
  unfold SourceRegistry.applySource
  cases hfound : r.sources.row? inventory.sourceId with
  | none => simp
  | some s =>
    dsimp only
    rw [returns_bind]
    simp only [Option.some.injEq, forall_eq']
    rw [← returns_apply]
    exact exists_congr fun applied => and_iff_left (returns_ok _)

/-- **A report is adopted exactly if no model that it would have adopted has a source or a slug that
    ends in a newline.** -/
theorem SourceRegistry.returns_applyInventory :
    Returns (r.applyInventory report) ↔ r.PlainReport report := by
  have hloop : ∀ (inventories : List SourceInventory) (r : SourceRegistry),
      inventories.Pairwise (·.sourceId < ·.sourceId) →
        (Returns (inventories.foldlM (applySource report.workerId) r) ↔
          ∀ inventory ∈ inventories, Returns (applySource report.workerId r inventory)) := by
    intro inventories
    induction inventories with
    | nil => exact fun r _ => iff_of_true ⟨r, rfl⟩ nofun
    | cons inventory inventories ih =>
      intro r hsorted
      obtain ⟨hlater, hsorted⟩ := List.pairwise_cons.mp hsorted
      rw [List.foldlM_cons, returns_bind, List.forall_mem_cons]
      -- The later inventories are of other sources, which this round leaves.
      have hsame : ∀ {next}, applySource report.workerId r inventory = .ok next →
          ∀ later ∈ inventories, Returns (applySource report.workerId next later) ↔
            Returns (applySource report.workerId r later) := by
        intro next hnext later hmem
        rw [returns_applySource, returns_applySource,
          row?_applySource hnext (hlater later hmem).ne]
      constructor
      · rintro ⟨next, hnext, hrest⟩
        exact ⟨⟨next, hnext⟩, fun later hmem =>
          (hsame hnext later hmem).mp ((ih next hsorted).mp hrest later hmem)⟩
      · rintro ⟨⟨next, hnext⟩, hrest⟩
        exact ⟨next, hnext, (ih next hsorted).mpr fun later hmem =>
          (hsame hnext later hmem).mpr (hrest later hmem)⟩
  unfold SourceRegistry.applyInventory
  rw [hloop _ _ report.sorted]
  constructor
  · intro h inventory s model hadopting
    exact returns_applySource.mp (h inventory hadopting.reported) s hadopting.source
      hadopting.owns model hadopting.listed hadopting.adopted
  · intro h inventory hreported
    refine returns_applySource.mpr fun s hsource howns model hlisted hadopted => ?_
    exact h inventory s model ⟨hreported, hsource, howns, hlisted, hadopted⟩

/-! ### Cells of a registry -/

/-- The cells of a source fit, and have ids. -/
theorem SourceState.AdoptedFit.cell {s : SourceState} (hs : s.AdoptedFit)
    {cell : SafeId × Option SafeId} (hcell : cell ∈ s.cells) :
    CellFits cell ∧ PlainIds s.config.sourceId cell.1 := by
  unfold SourceState.cells at hcell
  split_ifs at hcell
  · cases hcell
  · obtain ⟨model, hmodel, hcell⟩ := List.mem_flatMap.mp hcell
    have hfits := hs model (mem_sortBy.mp hmodel)
    split_ifs at hcell with _ hnil
    · cases hcell
    · obtain rfl := List.mem_singleton.mp hcell
      exact ⟨⟨hfits.slug_le, fun _ => hfits.lane hnil, nofun⟩, hfits.plain⟩
    · obtain ⟨effort, heffort, rfl⟩ := List.mem_map.mp hcell
      refine ⟨⟨hfits.slug_le, nofun, fun _ heq => ?_⟩, hfits.plain⟩
      rw [← Option.some.inj heq]
      exact (mem_policyEfforts.mp heffort).2

/-- No cell comes twice. -/
theorem SourceState.AdoptedFit.nodup_cells {s : SourceState} (hs : s.AdoptedFit) :
    s.cells.Nodup := by
  unfold SourceState.cells
  split_ifs
  · exact List.nodup_nil
  · rw [List.nodup_flatMap]
    constructor
    · intro model hmodel
      split_ifs
      · exact List.nodup_nil
      · exact List.nodup_singleton _
      · have hefforts : (policyEfforts model.efforts).Nodup :=
          (sortBy_perm _ _).nodup_iff.mpr ((hs model (mem_sortBy.mp hmodel)).distinct.filter _)
        exact hefforts.map fun _ _ heq => Option.some.inj (Prod.mk.inj heq).2
    · refine (pairwise_lt_sortBy s.adopted.distinct).imp fun {model model'} hlt => ?_
      -- The cells of a model have its slug.
      have hslug : ∀ {model : AdoptedModel} {cell : SafeId × Option SafeId},
          cell ∈ (if s.config.currentExclusion model.slug ≠ none then []
            else if model.efforts = [] then [(model.slug, none)]
            else (policyEfforts model.efforts).map fun effort => (model.slug, some effort)) →
            cell.1 = model.slug := by
        intro model cell hcell
        split_ifs at hcell
        · cases hcell
        · rw [List.mem_singleton.mp hcell]
        · obtain ⟨_, _, rfl⟩ := List.mem_map.mp hcell
          rfl
      intro cell hcell hcell'
      exact hlt.ne ((hslug hcell).symm.trans (hslug hcell'))

/-- The texts of the ids of all the cells. -/
theorem SourceRegistry.AdoptedFit.nodup_texts (hr : r.AdoptedFit) :
    ((sortBy (fun s => s.config.sourceId) r.sources.rows).flatMap fun s =>
      s.cells.map (derivedText s.config.sourceId)).Nodup := by
  rw [List.nodup_flatMap]
  constructor
  · intro s hs
    have hfit := hr s (mem_sortBy.mp hs)
    refine hfit.nodup_cells.map_on fun cell hcell cell' hcell' heq => ?_
    exact (derived_cell_inj (hfit.cell hcell).1 (hfit.cell hcell').1 heq).2
  · have hsorted := pairwise_lt_sortBy r.sources.distinct
    refine hsorted.imp_of_mem fun {s s'} hs hs' hlt => ?_
    intro text htext htext'
    obtain ⟨cell, hcell, rfl⟩ := List.mem_map.mp htext
    obtain ⟨cell', hcell', heq⟩ := List.mem_map.mp htext'
    have hfits := ((hr s (mem_sortBy.mp hs)).cell hcell).1
    have hfits' := ((hr s' (mem_sortBy.mp hs')).cell hcell').1
    exact hlt.ne (derived_cell_inj hfits' hfits heq).1.symm

/-- The pool of a source without a newline has an id. -/
theorem returns_poolId {config : SourceConfig} (hplain : '\n' ∉ config.sourceId.text.toList) :
    Returns config.poolId := by
  unfold SourceConfig.poolId
  cases config.quotaPoolId with
  | some poolId => exact returns_ok _
  | none =>
    have hmatch : matchesSafeId ("pool-" ++ config.sourceId.text).toList = true := by
      have htext : ("pool-" ++ config.sourceId.text).toList =
          ['p', 'o', 'o', 'l', '-'] ++ config.sourceId.text.toList := String.toList_append
      have hle : config.sourceId.text.toList.length ≤ 20 := by
        rw [String.length_toList]
        exact config.sourceId_le
      rw [htext, matchesSafeId_plain]
      · refine ⟨⟨'p', rfl, rfl⟩, ?_, ?_⟩
        · intro c hc
          rcases List.mem_append.mp hc with hc | hc
          · have hpool : ['p', 'o', 'o', 'l', '-'].all isSafeIdChar = true := by decide
            exact List.all_eq_true.mp hpool c hc
          · exact SafeId.safe_of_plain hplain c hc
        · rw [List.length_append]
          show 5 + _ ≤ 64
          omega
      · rw [List.mem_append]
        exact not_or.mpr ⟨by decide, hplain⟩
    dsimp only
    rw [dif_pos hmatch]
    exact returns_ok _

/-- Every cell has its registration. -/
theorem SourceState.AdoptedFit.returns_registration {s : SourceState} (hs : s.AdoptedFit)
    {cell : SafeId × Option SafeId} (hcell : cell ∈ s.cells) (ttl : ℕ+) :
    Returns (s.registration ttl cell) := by
  obtain ⟨hfits, hplain⟩ := hs.cell hcell
  obtain ⟨id, hid⟩ := (returns_derivedResourceId s.config hfits).mpr hplain
  obtain ⟨poolId, hpool⟩ := returns_poolId hplain.1
  unfold SourceState.registration
  rw [hid, ok_bind, hpool, ok_bind]
  exact returns_ok _

/-- The registrations of a list of sources, in their order. -/
theorem exists_registrations {ttl : ℕ+} {states : List SourceState}
    (hstates : ∀ s ∈ states, s.AdoptedFit) (before : List ResourceRegistration) :
    ∃ after, states.foldlM (fun registrations state => do
        let derived ← state.cells.mapM (SourceState.registration state ttl)
        return registrations ++ derived) before = .ok after ∧
      after.map (·.identity.resourceId.text.toList) =
        before.map (·.identity.resourceId.text.toList) ++
          states.flatMap fun s => s.cells.map (derivedText s.config.sourceId) := by
  induction states generalizing before with
  | nil => exact ⟨before, rfl, by simp⟩
  | cons s states ih =>
    have hs := hstates s List.mem_cons_self
    obtain ⟨derived, hderived⟩ := returns_mapM.mpr fun cell hcell =>
      hs.returns_registration hcell ttl
    obtain ⟨after, hafter, htexts⟩ := ih
      (fun s hs => hstates s (List.mem_cons_of_mem _ hs)) (before ++ derived)
    have hlabels : derived.map (·.identity.resourceId.text.toList) =
        s.cells.map (derivedText s.config.sourceId) :=
      map_eq_of_mapM hderived fun cell registration hregistration =>
        text_of_derived (SourceState.registration_resourceId hregistration)
    refine ⟨after, ?_, ?_⟩
    · rw [List.foldlM_cons, hderived]
      exact hafter
    · rw [htexts, List.map_append, hlabels, List.flatMap_cons, List.append_assoc]

/-! ### What holds of the ids -/

/-- The cells that a model of an inventory makes under the kind of its source. -/
def DiscoveredModel.cells (kind : SourceKind) (model : DiscoveredModel) :
    List (SafeId × Option SafeId) :=
  match kind with
  | .zcodeSubscription => [(model.slug, none)]
  | .codexSubscription =>
    (policyEfforts model.reasoningEfforts).map fun effort => (model.slug, some effort)

/-- A configuration and an inventory of its source produce a cell. -/
def SourceConfig.Produces (config : SourceConfig) (cell : SafeId × Option SafeId) : Prop :=
  ∃ workerId inventory, SourceState.Owns config workerId inventory ∧ ∃ model ∈ inventory.models,
    config.exclusion inventory.authState model = none ∧ cell ∈ model.cells config.kind

/-- A produced cell fits. -/
theorem SourceConfig.Produces.fits {config : SourceConfig} {cell : SafeId × Option SafeId}
    (h : config.Produces cell) : CellFits cell := by
  obtain ⟨_, inventory, -, model, -, hexclusion, hcell⟩ := h
  obtain ⟨hlane, -⟩ := SourceConfig.fits_of_exclusion hexclusion
  unfold DiscoveredModel.cells at hcell
  cases hkind : config.kind with
  | zcodeSubscription =>
    rw [hkind] at hcell
    obtain rfl := List.mem_singleton.mp hcell
    exact ⟨model.slug_le, fun _ => hlane hkind, nofun⟩
  | codexSubscription =>
    rw [hkind] at hcell
    obtain ⟨effort, heffort, rfl⟩ := List.mem_map.mp hcell
    refine ⟨model.slug_le, nofun, fun _ heq => ?_⟩
    rw [← Option.some.inj heq]
    exact (mem_policyEfforts.mp heffort).2

/-- The ids of all cells that valid configurations and inventories can produce: distinct cells have
    distinct ids, and an id has at most 64 characters. -/
structure ProducedIdsSound : Prop where
  injective : ∀ {config config' : SourceConfig} {cell cell' : SafeId × Option SafeId}
    {resourceId : SafeId}, config.Produces cell → config'.Produces cell' →
      derivedResourceId config.sourceId cell.1 cell.2 = .ok resourceId →
      derivedResourceId config'.sourceId cell'.1 cell'.2 = .ok resourceId →
        config.sourceId = config'.sourceId ∧ cell = cell'
  bounded : ∀ {config : SourceConfig} {cell : SafeId × Option SafeId} {resourceId : SafeId},
    config.Produces cell → derivedResourceId config.sourceId cell.1 cell.2 = .ok resourceId →
      resourceId.text.length ≤ 64

/-- The ids of a registry: all its resources are derived, under distinct ids, and an id leads to
    the worker and the adapter of its source. -/
structure SourceRegistry.IdsSound (r : SourceRegistry) : Prop where
  derived : ∃ registrations, r.derivedRegistrations = .ok registrations ∧
    (registrations.map (·.identity.resourceId)).Nodup
  bounded : ∀ resourceId, r.Derives resourceId → resourceId.text.length ≤ 64
  owned : ∀ s ∈ r.sources.rows, ∀ resourceId, s.Derives resourceId →
    r.ownerOf resourceId.text = some s.config.workerId ∧
      r.adapterOf resourceId.text = some (SourceState.adapterId s.config)

theorem producedIdsSound : ProducedIdsSound where
  injective := by
    intro config config' cell cell' resourceId hcell hcell' hid hid'
    refine derived_cell_inj hcell.fits hcell'.fits ?_
    rw [← text_of_derived hid, ← text_of_derived hid']
  bounded := by
    intro config cell resourceId hcell hid
    rw [← String.length_toList, text_of_derived hid]
    exact length_derivedText config hcell.fits

theorem SourceRegistry.AdoptedFit.idsSound (hr : r.AdoptedFit) : r.IdsSound where
  derived := by
    obtain ⟨registrations, hderived, htexts⟩ := @exists_registrations r.freshnessTtlSeconds
      (sortBy (fun s => s.config.sourceId) r.sources.rows)
      (fun s hs => hr s (mem_sortBy.mp hs)) []
    refine ⟨registrations, hderived, ?_⟩
    have hnodup := hr.nodup_texts
    rw [← List.nil_append (List.flatMap _ _), ← List.map_nil, ← htexts] at hnodup
    refine List.Nodup.of_map (fun id : SafeId => id.text.toList) ?_
    rw [List.map_map]
    exact hnodup
  bounded := by
    rintro resourceId ⟨s, hs, cell, hcell, hid⟩
    rw [← String.length_toList, text_of_derived hid]
    exact length_derivedText s.config ((hr s hs).cell hcell).1
  owned := by
    rintro s hs resourceId ⟨cell, hcell, hid⟩
    obtain ⟨tail, hsplit⟩ := splitResourceId_derived s.config hid
    have hstate := SourceRegistry.sourceNamed_eq hs
    constructor
    · unfold ownerOf
      rw [hsplit, Option.bind_eq_bind, Option.bind_some]
      dsimp only
      rw [hstate]
      rfl
    · unfold adapterOf
      rw [hsplit, Option.bind_eq_bind, Option.bind_some]
      dsimp only
      rw [hstate]
      rfl

end Registry

/-- **Derived ids are injective, safe and lead back to their source**, in every registry that
    configurations and reports lead to; a report is adopted exactly if no model that it would have
    adopted has a source or a slug that ends in a newline. -/
theorem derived_ids_sound {ttl : ℕ+} {r : SourceRegistry} {log : List Empty}
    (hrun : sourceRegistryMachine.Run (fun _ _ => True) { freshnessTtlSeconds := ttl } r log)
    (report : ModelInventoryReport) :
    ProducedIdsSound ∧ r.IdsSound ∧
      (Returns (r.applyInventory report) ↔ r.PlainReport report) :=
  ⟨producedIdsSound, (SourceRegistry.adoptedFit_of_run hrun).idsSound,
    SourceRegistry.returns_applyInventory⟩

/-! ### A registry -/

/-- The source of one worker, which may adopt one model. -/
def grantingSource (slug : SafeId) : SourceConfig where
  sourceId := .lit "acme"
  kind := .codexSubscription
  workerId := .lit "worker-1"
  allowedModels := [slug]
  sourceId_le := atlasSource.sourceId_le
  sourceId_plain := atlasSource.sourceId_plain
  models_le := by simp
  models_distinct := List.nodup_singleton _

/-- The report of the worker, with that model. -/
def listingReport (slug : SafeId) (hle : slug.text.length ≤ slugMaxLength) :
    ModelInventoryReport where
  workerId := .lit "worker-1"
  sources :=
    [{ sourceId := .lit "acme"
       adapterId := .lit "codex:acme"
       kind := .codexSubscription
       authState := .authenticated
       runtimeVersion := "1.0.0"
       models := [{ slug, reasoningEfforts := [.lit "high", .lit "low"], slug_le := hle }]
       models_le := by simp
       sorted := List.pairwise_singleton _ _ }]
  sources_le := by simp
  sorted := List.pairwise_singleton _ _
  adapters_distinct := List.nodup_singleton _

/-- A slug with a colon: the resources of its efforts are derived, and lead to the worker. -/
theorem derived_ids_sound_colon : ∃ r log,
    sourceRegistryMachine.Run (fun _ _ => True) {} r log ∧
      r.derivedRegistrations.toOption.map (·.map (·.identity.resourceId.text)) =
        some ["acme:atlas:mini:high", "acme:atlas:mini:low"] ∧
      r.ownerOf "acme:atlas:mini:low" = some (.lit "worker-1") ∧
      ProducedIdsSound ∧ r.IdsSound ∧
      (Returns (r.applyInventory (listingReport (.lit "atlas:mini") (by decide +kernel))) ↔
        r.PlainReport (listingReport (.lit "atlas:mini") (by decide +kernel))) := by
  let slug : SafeId := .lit "atlas:mini"
  obtain ⟨⟨r, log⟩, hexec, hids⟩ := Option.map_eq_some_iff.mp
    (show (sourceRegistryMachine.exec (fun _ _ => true) {} []
        [.configure [grantingSource slug] (by simp),
          .report (listingReport slug (by decide +kernel))]).map
        (fun result => (result.1.derivedRegistrations.toOption.map
            (·.map (·.identity.resourceId.text)), result.1.ownerOf "acme:atlas:mini:low")) =
      some (some ["acme:atlas:mini:high", "acme:atlas:mini:low"], some (.lit "worker-1"))
      by decide +kernel)
  obtain ⟨hids, howner⟩ := Prod.mk.inj hids
  have run : sourceRegistryMachine.Run (fun _ _ => True) {} r log :=
    (Machine.run_of_exec .refl hexec).mono fun _ _ _ => trivial
  exact ⟨r, log, run, hids, howner, derived_ids_sound run _⟩

/-- A slug that ends in a newline is a valid slug, and may be granted; the report that lists it is
    not adopted. -/
theorem newline_slug_not_adopted : ¬ ∀ (r : SourceRegistry) (log : List Empty)
    (report : ModelInventoryReport), sourceRegistryMachine.Run (fun _ _ => True) {} r log →
      Returns (r.applyInventory report) := by
  intro h
  let slug : SafeId := .lit "atlas\n"
  let report := listingReport slug (by decide +kernel)
  let configured : SourceRegistry :=
    SourceRegistry.syncConfiguration {} [grantingSource slug] (by simp)
  have run : sourceRegistryMachine.Run (fun _ _ => True) {} configured [] :=
    Machine.Run.refl.step (.configure [grantingSource slug] (by simp)) trivial rfl
  obtain ⟨applied, happlied⟩ := h configured [] report run
  have hraises : ((SourceRegistry.syncConfiguration {} [grantingSource (.lit "atlas\n")]
      (by simp)).applyInventory (listingReport (.lit "atlas\n") (by decide +kernel))).toOption.isNone =
        true := by decide +kernel
  rw [show ((SourceRegistry.syncConfiguration {} [grantingSource (.lit "atlas\n")]
      (by simp)).applyInventory (listingReport (.lit "atlas\n") (by decide +kernel))) =
        .ok applied from happlied] at hraises
  cases hraises

end ScarcityRouter
