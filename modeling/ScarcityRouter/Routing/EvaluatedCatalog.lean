import ScarcityRouter.Routing.EvaluatedSpec

namespace ScarcityRouter

open ScarcityRouter.Lib

/-!
# The evaluated catalog

Under an MI admission routing evaluates a catalog of its own: narrowed to the resources of the
request, then prepared with the admitted limits.

* `evaluatedCatalog_induction` — what both steps preserve relates every evaluated entry to one of
  the request's catalog.
* `Tightens`, `evaluatedCatalog_tightens` — the limits of the catalog are only ever tightened.
-/

section Evaluated

variable [RouteHost]

/-- **Both steps to the evaluated catalog**: a reflexive and transitive relation that narrowing and
    preparation establish holds between every evaluated entry and an entry of the request. -/
theorem evaluatedCatalog_induction (R : ModelCatalogEntry → ModelCatalogEntry → Prop)
    (hrefl : ∀ entry, R entry entry) (htrans : ∀ {a b c}, R a b → R b c → R a c)
    (hview : ∀ (i : RouteInputs) (serving : ModelIdentity → List GatedResource) entry,
      R (viewEntry i serving entry) entry)
    (hprepare : ∀ (mi : MIAdmission) cut at_ entry, R (mi.prepareEntry cut at_ entry) entry)
    {r e : RouteRequest} (h : evaluatedRequest r = .ok e) :
    ∀ entry ∈ e.catalog.entries, ∃ original ∈ r.catalog.entries, R entry original := by
  cases hmi : r.miAdmission with
  | none =>
    rw [evaluatedRequest_of_none hmi] at h
    obtain rfl := Except.ok.inj h
    exact fun entry hentry => ⟨entry, hentry, hrefl entry⟩
  | some mi =>
    rw [evaluatedRequest_of_some hmi] at h
    obtain ⟨prepared, hprepared, rfl⟩ := map_eq_ok.mp h
    unfold miInputs at hprepared
    obtain ⟨local_, hlocal, hprepared⟩ := bind_eq_ok.mp hprepared
    obtain ⟨⟨catalog, blocked⟩, hprepare', hprepared⟩ := bind_eq_ok.mp hprepared
    obtain ⟨admitted, -, hprepared⟩ := bind_eq_ok.mp hprepared
    obtain ⟨effective, hmake, hprepared⟩ := bind_eq_ok.mp hprepared
    obtain rfl := Except.ok.inj hprepared
    have hcatalog : effective.catalog = catalog := by
      obtain ⟨hvalid, -⟩ := prepared_valid hlocal hprepare' admitted
      obtain rfl := Except.ok.inj ((RouteRequest.make_of_valid hvalid).symm.trans hmake)
      rfl
    have hnarrowed : ∀ entry ∈ local_.entries, ∃ original ∈ r.catalog.entries, R entry original := by
      intro entry hentry
      unfold miLocalCatalog at hlocal
      split at hlocal
      · obtain ⟨requirement, -, hlocal⟩ := bind_eq_ok.mp hlocal
        obtain rfl := Except.ok.inj hlocal
        obtain ⟨original, horiginal, rfl⟩ := List.mem_map.mp (mem_sortBy.mp hentry)
        exact ⟨original, (List.mem_filter.mp horiginal).1, hview _ _ _⟩
      · obtain rfl := Except.ok.inj hlocal
        exact ⟨entry, hentry, hrefl entry⟩
    intro entry hentry
    dsimp only at hentry
    rw [hcatalog] at hentry
    unfold MIAdmission.prepare at hprepare'
    split_ifs at hprepare'
    split at hprepare'
    · cases hprepare'
      exact hnarrowed entry hentry
    · cases hprepare'
      obtain ⟨middle, hmiddle, rfl⟩ := List.mem_map.mp hentry
      obtain ⟨original, horiginal, hrelated⟩ := hnarrowed middle hmiddle
      exact ⟨original, horiginal, htrans (hprepare mi _ _ middle) hrelated⟩

end Evaluated

/-! ### Tightened limits -/

/-- A known limit stays known and never grows. -/
def TightensLimit (tightened limit : Option ℕ+) : Prop :=
  ∀ amount ∈ limit, ∃ least ∈ tightened, least ≤ amount

theorem TightensLimit.refl (limit : Option ℕ+) : TightensLimit limit limit :=
  fun amount hamount => ⟨amount, hamount, le_rfl⟩

theorem TightensLimit.trans {a b c : Option ℕ+} (hab : TightensLimit a b) (hbc : TightensLimit b c) :
    TightensLimit a c := by
  intro amount hamount
  obtain ⟨middle, hmiddle, hle⟩ := hbc amount hamount
  obtain ⟨least, hleast, hle'⟩ := hab middle hmiddle
  exact ⟨least, hleast, hle'.trans hle⟩

theorem tightensLimit_boundLimit (own bound : Option ℕ+) :
    TightensLimit (boundLimit own bound) own := by
  rintro amount rfl
  cases bound with
  | none => exact ⟨amount, rfl, le_rfl⟩
  | some bound => exact ⟨min amount bound, rfl, min_le_left _ _⟩

/-- The entry stands for the same configuration, under limits that are only tighter. -/
structure Tightens (entry original : ModelCatalogEntry) : Prop where
  identity : entry.identity = original.identity
  context : TightensLimit entry.hardProperties.inputContextTokens
    original.hardProperties.inputContextTokens
  output : TightensLimit entry.hardProperties.outputTokens original.hardProperties.outputTokens

theorem Tightens.refl (entry : ModelCatalogEntry) : Tightens entry entry :=
  ⟨rfl, .refl _, .refl _⟩

theorem Tightens.trans {a b c : ModelCatalogEntry} (hab : Tightens a b) (hbc : Tightens b c) :
    Tightens a c :=
  ⟨hab.identity.trans hbc.identity, hab.context.trans hbc.context, hab.output.trans hbc.output⟩

/-- Narrowing to resources only tightens. -/
theorem viewEntry_tightens (i : RouteInputs) (serving : ModelIdentity → List GatedResource)
    (entry : ModelCatalogEntry) : Tightens (viewEntry i serving entry) entry := by
  have hlimits : ∀ request capabilities (e : ModelCatalogEntry),
      Tightens (narrowLimits request capabilities e) e := by
    intro request capabilities e
    exact ⟨rfl, tightensLimit_boundLimit _ _, tightensLimit_boundLimit _ _⟩
  have heffort : ∀ matching (e : ModelCatalogEntry), Tightens (narrowEffort matching e) e := by
    intro matching e
    unfold narrowEffort
    split
    · split
      · exact ⟨rfl, .refl _, .refl _⟩
      · exact .refl e
    · exact .refl e
  have hbindings : ∀ matching (e : ModelCatalogEntry), Tightens (narrowBindings matching e) e := by
    intro matching e
    unfold narrowBindings
    split
    · exact ⟨rfl, .refl _, .refl _⟩
    · split
      · exact ⟨rfl, .refl _, .refl _⟩
      · exact .refl e
  unfold viewEntry
  split
  · exact (hbindings _ _).trans ((heffort _ _).trans (hlimits _ _ _))
  · exact .refl entry

/-- The limits that preparation admits only tighten the stored ones. -/
theorem MIAdmission.prepareEntry_tightens [EvidenceHost] (mi : MIAdmission) (cut : FrozenCut)
    (at_ : Instant) (entry : ModelCatalogEntry) : Tightens (mi.prepareEntry cut at_ entry) entry := by
  have hannotate : ∀ label (e : ModelCatalogEntry), Tightens (annotateEntry label e) e :=
    fun _ _ => ⟨rfl, .refl _, .refl _⟩
  have hexplain : Tightens (mi.explainEntry cut at_ entry) entry := by
    unfold explainEntry
    split
    · exact .refl entry
    · exact hannotate _ _
  unfold prepareEntry
  dsimp only
  split_ifs
  · split
    · exact hexplain
    · rename_i meaning amount _
      split
      · exact (hannotate _ _).trans hexplain
      · rename_i previous hprevious
        have hmin : TightensLimit (some (min previous amount)) (storedLimit meaning entry) := by
          rw [hprevious]
          rintro _ ⟨⟩
          exact ⟨_, rfl, min_le_left _ _⟩
        cases meaning with
        | inputAllowance => exact ⟨hexplain.identity, hmin, hexplain.output⟩
        | outputAllowance => exact ⟨hexplain.identity, hexplain.context, hmin⟩
  · exact (hannotate _ _).trans hexplain
  · exact hexplain

/-- **The evaluated catalog only tightens limits.** -/
theorem evaluatedCatalog_tightens [RouteHost] {r e : RouteRequest}
    (h : evaluatedRequest r = .ok e) :
    ∀ entry ∈ e.catalog.entries, ∃ original ∈ r.catalog.entries, Tightens entry original :=
  evaluatedCatalog_induction Tightens .refl .trans viewEntry_tightens
    MIAdmission.prepareEntry_tightens h

/-- The entry narrowed to one resource tightens the entry of its identity. -/
theorem tightens_of_mem_narrowedCatalog {i : RouteInputs} {routable : List ModelIdentity}
    {serving : ModelIdentity → List GatedResource} {candidate : ModelCatalogEntry}
    (h : candidate ∈ (narrowedCatalog i routable serving).entries) :
    ∃ original ∈ i.catalog.entries, Tightens candidate original := by
  obtain ⟨original, horiginal, rfl⟩ := List.mem_map.mp (mem_sortBy.mp h)
  exact ⟨original, (List.mem_filter.mp horiginal).1, viewEntry_tightens _ _ _⟩

end ScarcityRouter
