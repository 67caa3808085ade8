import ScarcityRouter.Worker.RoundTrip

namespace ScarcityRouter

open ScarcityRouter.Lib

/-!
# Canonical spellings of calls

Which serialized calls the strict reader accepts although it would write them differently.

* `canonical_object_eq_iff` — two records are equal as Python values when their members are.
* `CanonicalCall` — no list or text where a dictionary belongs, and no empty optional lists.
* `adapterCallToDict_fromDict` — **an accepted call is written back as it was read, up to nulls,
  exactly when it is canonical.**
* `adapterCallFromDict_coerces_params` — an accepted call that is written back differently.
-/

/-! ### Equality of records -/

/-- Two members of a record have different keys. -/
def Record.Distinct (record : Record) : Prop := (record.map Prod.fst).Nodup

theorem Record.Distinct.eq_of_mem {record : Record} (h : record.Distinct) {a b : Text × Json}
    (ha : a ∈ record) (hb : b ∈ record) (hkey : a.1 = b.1) : a = b :=
  List.inj_on_of_nodup_map h ha hb hkey

/-- In a record with distinct keys, every member is the value of its key. -/
theorem Record.Distinct.get?_eq_some {record : Record} (h : record.Distinct) {key : String}
    {value : Json} : record.get? key = some value ↔ member key value ∈ record := by
  refine ⟨Record.mem_of_get?, fun hmem => ?_⟩
  obtain ⟨found, hfound⟩ := Option.isSome_iff_exists.mp (Record.get?_isSome_of_mem hmem)
  rw [hfound, ← (Prod.mk.inj (h.eq_of_mem (Record.mem_of_get? hfound) hmem rfl)).2]

/-- The members with their values in canonical form. -/
private def canonicalMember (m : Text × Json) : Text × Json := (m.1, m.2.canonical)

private theorem mem_map_canonicalMember {record : Record} (h : record.Distinct) {name : String}
    {value : Json} : member name value ∈ record.map canonicalMember ↔
      (record.get? name).map Json.canonical = some value := by
  rw [List.mem_map, Option.map_eq_some_iff]
  constructor
  · rintro ⟨⟨key, found⟩, hmem, heq⟩
    obtain ⟨rfl, rfl⟩ := Prod.mk.inj heq
    exact ⟨found, h.get?_eq_some.mpr hmem, rfl⟩
  · rintro ⟨found, hget, rfl⟩
    exact ⟨member name found, h.get?_eq_some.mp hget, rfl⟩

/-- **Two records are equal as Python values when their members are.** -/
theorem canonical_object_eq_iff {a b : Record} {names : List String} (ha : a.Distinct)
    (hb : b.Distinct) (hka : a.KeysIn names) (hkb : b.KeysIn names) :
    (Json.object a).canonical = (Json.object b).canonical ↔
      ∀ name ∈ names, (a.get? name).map Json.canonical = (b.get? name).map Json.canonical := by
  have hform : ∀ record : Record, (Json.object record).canonical =
      .object (sortBy Prod.fst (record.map canonicalMember)) := by
    intro record
    have hsort : (sortBy Prod.fst record).map canonicalMember =
        sortBy Prod.fst (record.map canonicalMember) :=
      @map_sortBy _ _ _ _ Prod.fst Prod.fst canonicalMember (fun _ => rfl) record
    rw [Json.canonical_object, ← hsort]
    rfl
  have hkeys : ∀ record : Record, (record.map canonicalMember).map Prod.fst =
      record.map Prod.fst := by
    intro record
    rw [List.map_map]
    rfl
  rw [hform, hform, Json.object.injEq]
  constructor
  · intro heq name _
    refine Option.ext fun value => ?_
    have hmem : ∀ m, m ∈ a.map canonicalMember ↔ m ∈ b.map canonicalMember := fun m => by
      rw [← (sortBy_perm Prod.fst (a.map canonicalMember)).mem_iff, heq, mem_sortBy]
    rw [← mem_map_canonicalMember ha, hmem, mem_map_canonicalMember hb]
  · intro hget
    have hnodup : ∀ record : Record, record.Distinct → (record.map canonicalMember).Nodup :=
      fun record h => List.Nodup.of_map Prod.fst (by rw [hkeys]; exact h)
    -- A member of either has one of the names.
    have hnamed : ∀ record : Record, record.KeysIn names → ∀ m ∈ record.map canonicalMember,
        ∃ name ∈ names, m.1 = Text.ofString name := by
      intro record hk m hm
      refine hk m.1 ?_
      rw [← hkeys]
      exact List.mem_map_of_mem hm
    have hperm : (a.map canonicalMember).Perm (b.map canonicalMember) := by
      refine (List.perm_ext_iff_of_nodup (hnodup a ha) (hnodup b hb)).mpr fun m => ?_
      obtain ⟨key, value⟩ := m
      constructor
      · intro hm
        obtain ⟨name, hname, rfl⟩ := hnamed a hka _ hm
        exact (mem_map_canonicalMember hb).mpr
          (hget name hname ▸ (mem_map_canonicalMember ha).mp hm)
      · intro hm
        obtain ⟨name, hname, rfl⟩ := hnamed b hkb _ hm
        exact (mem_map_canonicalMember ha).mpr
          ((hget name hname).symm ▸ (mem_map_canonicalMember hb).mp hm)
    refine sortBy_eq_of_perm hperm fun x hx y hy hkey => ?_
    exact List.inj_on_of_nodup_map (by rw [hkeys]; exact ha) hx hy hkey

/-- A record without its null members. -/
def Record.omitNulls (record : Record) : Record := record.filter fun m => !m.2.isNull

theorem Record.Distinct.get?_omitNulls {record : Record} (h : record.Distinct) (key : String) :
    record.omitNulls.get? key = record.present key := by
  have hdistinct : record.omitNulls.Distinct :=
    h.sublist (List.filter_sublist.map Prod.fst)
  refine Option.ext fun value => ?_
  rw [hdistinct.get?_eq_some, Record.omitNulls, List.mem_filter, Record.present,
    Option.filter_eq_some_iff, h.get?_eq_some]
  rfl

/-! ### Inversion of the validators -/

@[simp] theorem valueError_eq_ok {α : Type} {x : Except Fault α} {a : α} :
    valueError x = .ok a ↔ x = .ok a := by
  cases x <;> simp [valueError, Except.mapError]

@[simp] theorem capacityError_eq_ok {α : Type} {x : Except Fault α} {a : α} :
    capacityError x = .ok a ↔ x = .ok a := by
  cases x <;> simp [capacityError, Except.mapError]

@[simp] theorem selectionError_eq_ok {α : Type} {x : Except Fault α} {a : α} :
    selectionError x = .ok a ↔ x = .ok a := by
  cases x <;> simp [selectionError, Except.mapError]

@[simp] theorem exceptValueError_eq_ok {α : Type} {x : Except Raised α} {a : α} :
    exceptValueError x = .ok a ↔ x = .ok a := by
  unfold exceptValueError
  split
  · simp
  · rfl

@[simp] theorem exceptValueOrTypeError_eq_ok {α : Type} {x : Except Raised α} {a : α} :
    exceptValueOrTypeError x = .ok a ↔ x = .ok a := by
  unfold exceptValueOrTypeError
  split
  · simp
  · simp
  · rfl

theorem vStr_eq_ok {value : Json} {field : String} {t : Text} :
    vStr value field = .ok t ↔ value = .string t := by
  cases value <;> simp [vStr]

theorem vText_eq_ok {value : Json} {field : String} {maxLen : ℕ} {t : BoundedText maxLen}
    (h : vText value field maxLen = .ok t) : value = .string t.1 := by
  obtain ⟨s, hs, h⟩ := bind_eq_ok.mp h
  rw [vStr_eq_ok.mp hs]
  split_ifs at h with hempty hlong
  rw [← Except.ok.inj h]

theorem vSafeId_eq_ok {value : Json} {field : String} {id : SafeId}
    (h : vSafeId value field = .ok id) : value = id.json := by
  obtain ⟨s, hs, h⟩ := bind_eq_ok.mp h
  split at h
  · rename_i found hfound
    rw [vStr_eq_ok.mp hs, SafeId.json, ← Except.ok.inj h, toText_of_safeId? hfound]
  · cases h

theorem vInt_eq_ok {value : Json} {field : String} {lo : ℤ} {n : { n : ℤ // lo ≤ n }}
    (h : vInt value field lo = .ok n) : value = .int n.1 := by
  unfold vInt at h
  split at h
  · split_ifs at h
    rw [← Except.ok.inj h]
  · cases h

theorem vBool_eq_ok {value : Json} {field : String} {b : Bool} (h : vBool value field = .ok b) :
    value = .bool b := by
  unfold vBool at h
  split at h
  · rw [Except.ok.inj h]
  · cases h

theorem vEnum_eq_ok {α : Type} {members : List α} {text : α → String} {value : Json}
    {field : String} {a : α} (h : vEnum members text value field = .ok a) :
    value = textJson (text a) := by
  obtain ⟨s, hs, h⟩ := bind_eq_ok.mp h
  split at h
  · rename_i found hfound
    have htext := List.find?_some hfound
    rw [decide_eq_true_eq] at htext
    rw [vStr_eq_ok.mp hs, ← htext, Except.ok.inj h]
    rfl
  · cases h

theorem Record.item_eq_ok {record : Record} {key : String} {value : Json} :
    record.item key = .ok value ↔ record.get? key = some value := by
  unfold Record.item
  cases record.get? key <;> simp

theorem Record.optionalItem_eq_ok {α : Type} {record : Record} {key : String} {write : α → Json}
    {read : Json → Except Raised α} (hread : ∀ value a, read value = .ok a → value = write a)
    {a : Option α} (h : record.optionalItem key read = .ok a) :
    record.present key = a.map write := by
  unfold Record.optionalItem at h
  split at h
  · rename_i hnone
    rw [hnone, ← Except.ok.inj h]
    rfl
  · rename_i value hsome
    obtain ⟨found, hfound, rfl⟩ := map_eq_ok.mp h
    rw [hsome, hread value found hfound]
    rfl

theorem exactShape_eq_ok {value : Json} {dd : Record} {required optional : List String}
    {label : String} : exactShape value required optional label = .ok dd ↔
      value = .object dd ∧ dd.KeysIn (required ++ optional) ∧ dd.HasKeys required := by
  unfold exactShape
  split
  · rename_i members
    rw [exactKeys_eq_ok, Json.object.injEq, eq_comm]
    constructor
    · rintro ⟨rfl, h⟩
      exact ⟨rfl, h⟩
    · rintro ⟨rfl, h⟩
      exact ⟨rfl, h⟩
  · rename_i hother
    simp only [reduceCtorEq, false_iff, not_and]
    exact fun hvalue => absurd hvalue (hother dd)

theorem payloadShape_eq_ok {value : Json} {dd : Record} {required optional : List String}
    {label : String} : payloadShape value required optional label = .ok dd ↔
      value = .object dd ∧ dd.KeysIn (required ++ optional) ∧ dd.HasKeys required := by
  unfold payloadShape
  rw [exceptValueError_eq_ok, valueError_eq_ok, exactShape_eq_ok]

theorem exactKeys_of_vExactShape {value : Json} {dd : Record} {required optional : List String}
    {label : String} (h : vExactShape value required optional label = .ok dd) :
    value = .object dd ∧ dd.KeysIn (required ++ optional) ∧ dd.HasKeys required := by
  unfold vExactShape at h
  split at h
  · obtain ⟨rfl, hkeys⟩ := exactKeys_eq_ok.mp h
    exact ⟨rfl, hkeys⟩
  · cases h

/-! ### Keys of the written records -/

theorem Record.distinct_of_sublist {record : Record} {names : List String}
    (h : (record.map Prod.fst).Sublist (names.map Text.ofString)) (hnames : names.Nodup) :
    record.Distinct :=
  (hnames.map fun _ _ heq => Text.ofString_inj.mp heq).sublist h

theorem optionalMember_sublist (name : String) (value : Option Json) :
    ((optionalMember name value).map Prod.fst).Sublist ([name].map Text.ofString) := by
  cases value with
  | none => exact List.nil_sublist _
  | some value => exact List.Sublist.refl _

theorem Record.distinct_of_all {record : Record} (h : (Json.object record).all Json.distinct = true) :
    record.Distinct :=
  @of_decide_eq_true (record.map Prod.fst).Nodup _ (Json.all_object.mp h).1

/-! ### Parts -/

/-- `value` without its null members, when it is an object. -/
def omitNulls : Json → Json
  | .object record => .object (Record.omitNulls record)
  | value => value

/-- The value is an object with an empty list under the key. -/
def HasEmptyList (key : String) (value : Json) : Prop :=
  ∃ record : Record, value = .object record ∧ record.get? key = some (.list [])

/-- A tool call is written as it was read. -/
theorem toolCall_canonical {label : String} {value : Json} {call : AdapterToolCall}
    (hdistinct : value.all Json.distinct = true) (h : toolCallFromDict label value = .ok call) :
    (Json.object (toolCallToDict call)).canonical = value.canonical := by
  obtain ⟨dd, hshape, hafter⟩ := bind_eq_ok.mp h
  obtain ⟨rfl, hkeys, -⟩ := payloadShape_eq_ok.mp hshape
  rw [exceptValueError_eq_ok] at hafter
  obtain ⟨vid, hvid, hafter⟩ := bind_eq_ok.mp hafter
  obtain ⟨id, hid, hafter⟩ := bind_eq_ok.mp hafter
  obtain ⟨vname, hvname, hafter⟩ := bind_eq_ok.mp hafter
  obtain ⟨name, hname, hafter⟩ := bind_eq_ok.mp hafter
  obtain ⟨varguments, hvarguments, hafter⟩ := bind_eq_ok.mp hafter
  obtain ⟨arguments, harguments, hafter⟩ := bind_eq_ok.mp hafter
  obtain rfl := Except.ok.inj hafter
  rw [Record.item_eq_ok] at hvid hvname hvarguments
  obtain rfl := vText_eq_ok (valueError_eq_ok.mp hid)
  obtain rfl := vText_eq_ok (valueError_eq_ok.mp hname)
  obtain rfl := vText_eq_ok (valueError_eq_ok.mp harguments)
  refine (canonical_object_eq_iff ?_ (Record.distinct_of_all hdistinct) ?_ hkeys).mpr ?_
  · exact @Record.distinct_of_sublist _ ["id", "name", "arguments"] (List.Sublist.refl _)
      (by decide)
  · simp [toolCallToDict]
  · simp [toolCallToDict, hvid, hvname, hvarguments]

theorem hasEmptyList_object {key : String} {record : Record} :
    HasEmptyList key (.object record) ↔ record.present key = some (.list []) := by
  constructor
  · rintro ⟨_, heq, hget⟩
    obtain rfl := Json.object.inj heq
    rw [Record.present, hget]
    rfl
  · intro hpresent
    exact ⟨record, rfl, (Option.filter_eq_some_iff.mp hpresent).1⟩

theorem Record.Distinct.omitNulls {record : Record} (h : record.Distinct) :
    record.omitNulls.Distinct := h.sublist (List.filter_sublist.map Prod.fst)

theorem Record.KeysIn.omitNulls {record : Record} {names : List String}
    (h : record.KeysIn names) : record.omitNulls.KeysIn names := fun key hkey =>
  h key ((List.filter_sublist.map Prod.fst).subset hkey)

theorem vLimited_eq_ok {text : Option Text} {field : String}
    {limited : Option (LimitedText 16777216)} (h : vLimited text field = .ok limited) :
    text = limited.map (·.1) := by
  unfold vLimited at h
  split at h
  · rw [← Except.ok.inj h]
    rfl
  · split_ifs at h
    rw [← Except.ok.inj h]
    rfl

/-- A list is written as it was read unless it is empty. -/
theorem nonemptyList_canonical_iff {α : Type} {write : α → Json} {items : List Json}
    {values : List α}
    (h : List.Forall₂ (fun item a => (write a).canonical = item.canonical) items values) :
    (nonemptyList (values.map write)).map Json.canonical = some (Json.list items).canonical ↔
      items ≠ [] := by
  cases h with
  | nil => simp [nonemptyList]
  | @cons item a items values hfirst hrest =>
    have htail : values.map (fun a => (write a).canonical) = items.map Json.canonical := by
      induction hrest with
      | nil => rfl
      | cons hitem _ ih => rw [List.map_cons, List.map_cons, hitem, ih]
    simp [nonemptyList, hfirst, htail, Function.comp_def]

/-- The tool calls of a message are written as they were read, unless the list is empty. -/
theorem toolCalls_canonical_iff {record : Record} {calls : List AdapterToolCall}
    (hdistinct : (Json.object record).all Json.distinct = true)
    (h : toolCallsFromDict (record.present "tool_calls") = .ok calls) :
    (nonemptyList (calls.map fun call => .object (toolCallToDict call))).map Json.canonical =
        (record.present "tool_calls").map Json.canonical ↔
      ¬ HasEmptyList "tool_calls" (.object record) := by
  rw [hasEmptyList_object]
  unfold toolCallsFromDict at h
  split at h
  · rename_i hnone
    obtain rfl := Except.ok.inj h
    simp [hnone, nonemptyList]
  · rename_i items hsome
    have hmem : member "tool_calls" (.list items) ∈ record :=
      Record.mem_of_get? (Option.filter_eq_some_iff.mp hsome).1
    have hitems := (Json.all_list.mp ((Json.all_object.mp hdistinct).2 _ hmem)).2
    have hcanonical : List.Forall₂ (fun item (call : AdapterToolCall) =>
        (Json.object (toolCallToDict call)).canonical = item.canonical) items calls := by
      have hreads := mapM_eq_ok.mp h
      clear h hsome hmem
      induction hreads with
      | nil => exact .nil
      | @cons item call items calls hread _ ih =>
        exact .cons (toolCall_canonical (hitems item List.mem_cons_self) hread)
          (ih fun x hx => hitems x (List.mem_cons_of_mem _ hx))
    rw [hsome, Option.map_some, nonemptyList_canonical_iff hcanonical]
    simp
  · cases h

private theorem messageToDict_distinct (message : AdapterMessage) :
    (messageToDict message).Distinct := by
  refine @Record.distinct_of_sublist _
    ["role", "content", "reasoning", "tool_call_id", "name", "tool_calls"] ?_ (by decide)
  unfold messageToDict
  simp only [List.map_append]
  exact (((((List.Sublist.refl _).append (optionalMember_sublist "content" _)).append
    (optionalMember_sublist "reasoning" _)).append
    (optionalMember_sublist "tool_call_id" _)).append (optionalMember_sublist "name" _)).append
    (optionalMember_sublist "tool_calls" _)

/-- **A message is written as it was read, up to nulls, unless its list of tool calls is empty.** -/
theorem message_canonical_iff {value : Json} {message : AdapterMessage}
    (hdistinct : value.all Json.distinct = true) (h : messageFromDict value = .ok message) :
    (Json.object (messageToDict message)).canonical = (omitNulls value).canonical ↔
      ¬ HasEmptyList "tool_calls" value := by
  obtain ⟨dd, hshape, hafter⟩ := bind_eq_ok.mp h
  obtain ⟨rfl, hkeys, -⟩ := payloadShape_eq_ok.mp hshape
  obtain ⟨calls, hcalls, hafter⟩ := bind_eq_ok.mp hafter
  rw [exceptValueError_eq_ok] at hafter
  obtain ⟨vrole, hvrole, hafter⟩ := bind_eq_ok.mp hafter
  obtain ⟨role, hrole, hafter⟩ := bind_eq_ok.mp hafter
  obtain ⟨content, hcontent, hafter⟩ := bind_eq_ok.mp hafter
  obtain ⟨callId, hcallId, hafter⟩ := bind_eq_ok.mp hafter
  obtain ⟨name, hname, hafter⟩ := bind_eq_ok.mp hafter
  obtain ⟨reasoning, hreasoning, hafter⟩ := bind_eq_ok.mp hafter
  obtain ⟨content', hcontent', hafter⟩ := bind_eq_ok.mp hafter
  obtain ⟨reasoning', hreasoning', hafter⟩ := bind_eq_ok.mp hafter
  obtain rfl := Except.ok.inj hafter
  rw [Record.item_eq_ok] at hvrole
  obtain rfl := vSafeId_eq_ok (valueError_eq_ok.mp hrole)
  have hdd := Record.distinct_of_all hdistinct
  have hrolePresent : dd.present "role" = some role.json := by
    rw [Record.present, hvrole]
    rfl
  have hstr : ∀ field value (t : Text), valueError (vStr value field) = .ok t → value = .string t :=
    fun _ _ _ h => vStr_eq_ok.mp (valueError_eq_ok.mp h)
  replace hcontent := Record.optionalItem_eq_ok (hstr _) hcontent
  replace hreasoning := Record.optionalItem_eq_ok (hstr _) hreasoning
  replace hcallId := Record.optionalItem_eq_ok
    (fun _ _ h => vText_eq_ok (valueError_eq_ok.mp h)) hcallId
  replace hname := Record.optionalItem_eq_ok
    (fun _ _ h => vText_eq_ok (valueError_eq_ok.mp h)) hname
  rw [vLimited_eq_ok (valueError_eq_ok.mp hcontent')] at hcontent
  rw [vLimited_eq_ok (valueError_eq_ok.mp hreasoning')] at hreasoning
  rw [omitNulls, canonical_object_eq_iff (messageToDict_distinct _) hdd.omitNulls
    (by simp [messageToDict, Record.keysIn_optionalMember]) hkeys.omitNulls,
    ← toolCalls_canonical_iff hdistinct hcalls]
  simp [messageToDict, hdd.get?_omitNulls, hrolePresent, hcontent, hreasoning, hcallId, hname,
    Function.comp_def]

private theorem resourceToDict_distinct (resource : ResourceIdentity) :
    (resourceToDict resource).Distinct := by
  refine @Record.distinct_of_sublist _ ["resource_id", "channel", "provider", "model",
    "entitlement", "variant", "quota_pool_ids"] ?_ (by decide)
  unfold resourceToDict
  simp only [List.map_append]
  exact ((List.Sublist.refl _).append (optionalMember_sublist "variant" _)).append
    (optionalMember_sublist "quota_pool_ids" _)

/-- The pools of a resource are written as they were read, unless the list is empty. -/
theorem pools_canonical_iff {record : Record} {raw : List Json} {pools : List SafeId}
    (hraw : rawPools (record.present "quota_pool_ids") = .ok raw)
    (hpools : raw.mapM (fun pool =>
      capacityError (vSafeId pool "resource_identity.quota_pool_ids")) = .ok pools) :
    (nonemptyList (pools.map SafeId.json)).map Json.canonical =
        (record.present "quota_pool_ids").map Json.canonical ↔
      ¬ HasEmptyList "quota_pool_ids" (.object record) := by
  rw [hasEmptyList_object]
  unfold rawPools at hraw
  split at hraw
  · rename_i hnone
    obtain rfl := Except.ok.inj hraw
    obtain rfl := Except.ok.inj hpools
    simp [hnone, nonemptyList]
  · rename_i items hsome
    obtain rfl := Except.ok.inj hraw
    have hcanonical : List.Forall₂ (fun item (pool : SafeId) =>
        pool.json.canonical = item.canonical) items pools :=
      (mapM_eq_ok.mp hpools).imp fun item pool hread => by
        rw [vSafeId_eq_ok (capacityError_eq_ok.mp hread)]
    rw [hsome, Option.map_some, nonemptyList_canonical_iff hcanonical]
    simp
  · cases hraw

/-- **A resource is written as it was read, up to nulls, unless its list of pools is empty.** -/
theorem resource_canonical_iff {value : Json} {resource : ResourceIdentity}
    (hdistinct : value.all Json.distinct = true) (h : resourceFromDict value = .ok resource) :
    (Json.object (resourceToDict resource)).canonical = (omitNulls value).canonical ↔
      ¬ HasEmptyList "quota_pool_ids" value := by
  obtain ⟨dd, hshape, hafter⟩ := bind_eq_ok.mp h
  obtain ⟨rfl, hkeys, -⟩ := exactKeys_of_vExactShape (capacityError_eq_ok.mp hshape)
  obtain ⟨raw, hraw, hafter⟩ := bind_eq_ok.mp hafter
  obtain ⟨vid, hvid, hafter⟩ := bind_eq_ok.mp hafter
  obtain ⟨id, hid, hafter⟩ := bind_eq_ok.mp hafter
  obtain ⟨vchannel, hvchannel, hafter⟩ := bind_eq_ok.mp hafter
  obtain ⟨channel, hchannel, hafter⟩ := bind_eq_ok.mp hafter
  obtain ⟨vprovider, hvprovider, hafter⟩ := bind_eq_ok.mp hafter
  obtain ⟨provider, hprovider, hafter⟩ := bind_eq_ok.mp hafter
  obtain ⟨vmodel, hvmodel, hafter⟩ := bind_eq_ok.mp hafter
  obtain ⟨model, hmodel, hafter⟩ := bind_eq_ok.mp hafter
  obtain ⟨ventitlement, hventitlement, hafter⟩ := bind_eq_ok.mp hafter
  obtain ⟨entitlement, hentitlement, hafter⟩ := bind_eq_ok.mp hafter
  obtain ⟨variant, hvariant, hafter⟩ := bind_eq_ok.mp hafter
  obtain ⟨pools, hpools, hafter⟩ := bind_eq_ok.mp hafter
  obtain ⟨⟨sorted, hsorted⟩, hsortedEq, hafter⟩ := bind_eq_ok.mp hafter
  obtain rfl := Except.ok.inj hafter
  -- The check of the pools returns them unchanged.
  obtain rfl : pools = sorted := by
    rw [capacityError_eq_ok, vSortedUnique] at hsortedEq
    split_ifs at hsortedEq
    exact congrArg Subtype.val (Except.ok.inj hsortedEq)
  rw [Record.item_eq_ok] at hvid hvchannel hvprovider hvmodel hventitlement
  obtain rfl := vSafeId_eq_ok (capacityError_eq_ok.mp hid)
  obtain rfl := vEnum_eq_ok (capacityError_eq_ok.mp hchannel)
  obtain rfl := vSafeId_eq_ok (capacityError_eq_ok.mp hprovider)
  obtain rfl := vSafeId_eq_ok (capacityError_eq_ok.mp hmodel)
  obtain rfl := vEnum_eq_ok (capacityError_eq_ok.mp hentitlement)
  replace hvariant := Record.optionalItem_eq_ok
    (fun _ _ h => vSafeId_eq_ok (capacityError_eq_ok.mp h)) hvariant
  have hdd := Record.distinct_of_all hdistinct
  have hpresent : ∀ {key : String} {value : Json}, dd.get? key = some value →
      value.isNull = false → dd.present key = some value := by
    intro key value hget hnull
    rw [Record.present, hget]
    exact Option.filter_some_pos (by rw [hnull]; rfl)
  rw [omitNulls, canonical_object_eq_iff (resourceToDict_distinct _) hdd.omitNulls
    (by simp [resourceToDict, Record.keysIn_optionalMember]) hkeys.omitNulls,
    ← pools_canonical_iff hraw hpools]
  simp [resourceToDict, hdd.get?_omitNulls, hpresent hvid rfl, hpresent hvchannel rfl,
    hpresent hvprovider rfl, hpresent hvmodel rfl, hpresent hventitlement rfl, hvariant]

/-- A model identity is written as it was read. -/
theorem model_canonical {value : Json} {model : ModelIdentity}
    (hdistinct : value.all Json.distinct = true) (h : modelFromDict value = .ok model) :
    (Json.object (modelToDict model)).canonical = value.canonical := by
  obtain ⟨dd, hshape, hafter⟩ := bind_eq_ok.mp h
  obtain ⟨rfl, hkeys, -⟩ := exactKeys_of_vExactShape (selectionError_eq_ok.mp hshape)
  obtain ⟨vprovider, hvprovider, hafter⟩ := bind_eq_ok.mp hafter
  obtain ⟨provider, hprovider, hafter⟩ := bind_eq_ok.mp hafter
  obtain ⟨vname, hvname, hafter⟩ := bind_eq_ok.mp hafter
  obtain ⟨name, hname, hafter⟩ := bind_eq_ok.mp hafter
  obtain ⟨vvariant, hvvariant, hafter⟩ := bind_eq_ok.mp hafter
  obtain ⟨variant, hvariant, hafter⟩ := bind_eq_ok.mp hafter
  obtain rfl := Except.ok.inj hafter
  rw [Record.item_eq_ok] at hvprovider hvname hvvariant
  obtain rfl := vSafeId_eq_ok (selectionError_eq_ok.mp hprovider)
  obtain rfl := vSafeId_eq_ok (selectionError_eq_ok.mp hname)
  obtain rfl := vSafeId_eq_ok (selectionError_eq_ok.mp hvariant)
  refine (canonical_object_eq_iff ?_ (Record.distinct_of_all hdistinct) ?_ hkeys).mpr ?_
  · exact @Record.distinct_of_sublist _ ["provider", "model", "variant"] (List.Sublist.refl _)
      (by decide)
  · simp [modelToDict]
  · simp [modelToDict, hvprovider, hvname, hvvariant]

/-! ### Calls -/

/-- A list of messages without their null members. -/
def omitNullsInMessages : Json → Json
  | .list items => .list (items.map omitNulls)
  | value => value

/-- The value of a call's member without the nulls that the code treats as missing: in the resource
    and in every message. -/
def normalValue (key : Text) (value : Json) : Json :=
  if key = Text.ofString "resource" then omitNulls value
  else if key = Text.ofString "messages" then omitNullsInMessages value
  else value

/-- A serialized call without the nulls that the code treats as missing. -/
def normalCall (d : Record) : Record := d.map fun m => (m.1, normalValue m.1 m.2)

theorem get?_normalCall (d : Record) (name : String) :
    (normalCall d).get? name = (d.get? name).map (normalValue (Text.ofString name)) := by
  unfold normalCall Record.get?
  induction d with
  | nil => rfl
  | cons m d ih =>
    by_cases hkey : m.1 = Text.ofString name
    · simp [hkey]
    · simpa [hkey] using ih

/-- A serialized call without the spellings that the reader only coerces: dictionaries stand where
    dictionaries belong, and optional lists are not empty. -/
structure CanonicalCall (d : Record) : Prop where
  format : ∀ value, d.get? "response_format" = some value → value.isNull = true ∨ IsObject value
  params : ∀ value, d.get? "generation_params" = some value → IsObject value
  messages : ∀ items, d.get? "messages" = some (.list items) →
    ∀ item ∈ items, ¬ HasEmptyList "tool_calls" item
  pools : ∀ value, d.get? "resource" = some value → ¬ HasEmptyList "quota_pool_ids" value

@[simp] theorem record?_ofRecord (record : Record) :
    (Mapping.ofRecord record).record? = some record := by
  unfold Mapping.ofRecord Mapping.record?
  induction record with
  | nil => rfl
  | cons m record ih =>
    rw [List.map_cons, List.mapM_cons, ih]
    rfl

/-- The tools of a call are objects, and are copied. -/
theorem tools_of_mapM {items : List Json} {tools : List Mapping}
    (h : items.mapM toolFromDict = .ok tools) : ∃ records : List Record,
      items = records.map Json.object ∧ tools.mapM Mapping.record? = some records := by
  have hreads := mapM_eq_ok.mp h
  clear h
  induction hreads with
  | nil => exact ⟨[], rfl, rfl⟩
  | @cons item tool items tools hread _ ih =>
    obtain ⟨records, rfl, hrecords⟩ := ih
    cases item with
    | object record =>
      obtain rfl := Except.ok.inj hread
      refine ⟨record :: records, rfl, ?_⟩
      rw [List.mapM_cons, record?_ofRecord, hrecords]
      rfl
    | _ => cases hread

/-- A dictionary is written as it was read exactly when it was one. -/
theorem mapping_canonical_iff {value : Json} {mapping : Mapping} (h : dictOf value = .ok mapping) :
    (∃ record, mapping.record? = some record ∧
      (Json.object record).canonical = value.canonical) ↔ IsObject value := by
  constructor
  · rintro ⟨record, -, heq⟩
    cases value with
    | object members => exact ⟨members, rfl⟩
    | _ => simp [Json.canonical] at heq
  · rintro ⟨members, rfl⟩
    obtain rfl := Except.ok.inj h
    exact ⟨members, record?_ofRecord members, rfl⟩

/-- The response format is written as it was read exactly when it was null or a dictionary. -/
theorem responseFormat_canonical_iff {value : Json} {format : Option Mapping}
    (h : nullable dictOf value = .ok format) :
    (∃ out, responseFormatJson? format = some out ∧ out.canonical = value.canonical) ↔
      value.isNull = true ∨ IsObject value := by
  unfold nullable at h
  split_ifs at h with hnull
  · obtain rfl := Except.ok.inj h
    refine iff_of_true ⟨.null, rfl, ?_⟩ (.inl hnull)
    cases value with
    | null => rfl
    | _ => cases hnull
  · obtain ⟨mapping, hmapping, rfl⟩ := map_eq_ok.mp h
    rw [or_iff_right hnull, ← mapping_canonical_iff hmapping]
    constructor
    · rintro ⟨out, hout, heq⟩
      obtain ⟨record, hrecord, rfl⟩ := Option.map_eq_some_iff.mp hout
      exact ⟨record, hrecord, heq⟩
    · rintro ⟨record, hrecord, heq⟩
      exact ⟨.object record, by rw [responseFormatJson?, hrecord]; rfl, heq⟩

/-- The messages of a call are written as they were read, item by item. -/
theorem messages_canonical_iff {items : List Json} {messages : List AdapterMessage}
    (hdistinct : ∀ item ∈ items, item.all Json.distinct = true)
    (h : items.mapM messageFromDict = .ok messages) :
    (Json.list (messages.map fun m => .object (messageToDict m))).canonical =
        (Json.list (items.map omitNulls)).canonical ↔
      ∀ item ∈ items, ¬ HasEmptyList "tool_calls" item := by
  rw [Json.canonical_list, Json.canonical_list, Json.list.injEq]
  have hreads := mapM_eq_ok.mp h
  clear h
  induction hreads with
  | nil => simp
  | @cons item message items messages hread _ ih =>
    have hfirst := message_canonical_iff (hdistinct item List.mem_cons_self) hread
    have hrest := ih fun x hx => hdistinct x (List.mem_cons_of_mem _ hx)
    rw [List.map_cons, List.map_cons, List.map_cons, List.map_cons, List.cons.injEq,
      List.forall_mem_cons]
    exact and_congr hfirst hrest

/-- What an accepted call was read from, member by member. -/
structure CallRead (d : Record) (call : AdapterCall) (resource model : Json)
    (messages tools : List Json) (format params : Json) : Prop where
  resource_get : d.get? "resource" = some resource
  model_get : d.get? "model" = some model
  messages_get : d.get? "messages" = some (.list messages)
  stream_get : d.get? "stream" = some (.bool call.stream)
  tools_get : d.get? "tools" = some (.list tools)
  choice_get : d.get? "tool_choice" = some call.toolChoice
  format_get : d.get? "response_format" = some format
  effort_get : d.get? "reasoning_effort" =
    some ((call.reasoningEffort.map SafeId.json).getD .null)
  max_get : d.get? "max_output_tokens" =
    some ((call.maxOutputTokens.map fun n => .int n.1).getD .null)
  params_get : d.get? "generation_params" = some params
  resource_read : resourceFromDict resource = .ok call.resource
  model_read : modelFromDict model = .ok call.model
  messages_read : messages.mapM messageFromDict = .ok call.messages
  tools_read : tools.mapM toolFromDict = .ok call.tools
  format_read : nullable dictOf format = .ok call.responseFormat
  params_read : dictOf params = .ok call.generationParams
  keys : d.KeysIn callKeys

theorem listOf_eq_ok {label : String} {value : Json} {items : List Json}
    (h : listOf label value = .ok items) : value = .list items := by
  unfold listOf at h
  split at h
  · rw [Except.ok.inj h]
  · cases h

theorem nullable_eq_ok {α : Type} {write : α → Json} {read : Json → Except Raised α}
    (hread : ∀ value a, read value = .ok a → value = write a) {value : Json} {a : Option α}
    (h : nullable read value = .ok a) : value = (a.map write).getD .null := by
  unfold nullable at h
  split_ifs at h with hnull
  · rw [← Except.ok.inj h]
    cases value with
    | null => rfl
    | _ => cases hnull
  · obtain ⟨found, hfound, rfl⟩ := map_eq_ok.mp h
    exact hread value found hfound

/-- **The members of an accepted call.** -/
theorem adapterCallFromDict_eq_ok {d : Record} {call : AdapterCall}
    (h : adapterCallFromDict (.object d) = .ok call) : ∃ resource model messages tools format
      params, CallRead d call resource model messages tools format params := by
  obtain ⟨dd, hshape, hafter⟩ := bind_eq_ok.mp h
  obtain ⟨hd, hkeys, -⟩ := payloadShape_eq_ok.mp hshape
  obtain rfl := Json.object.inj hd
  rw [List.append_nil] at hkeys
  obtain ⟨vmessages, hvmessages, hafter⟩ := bind_eq_ok.mp hafter
  obtain ⟨messages, hmessages, hafter⟩ := bind_eq_ok.mp hafter
  obtain ⟨vtools, hvtools, hafter⟩ := bind_eq_ok.mp hafter
  obtain ⟨tools, htools, hafter⟩ := bind_eq_ok.mp hafter
  rw [exceptValueOrTypeError_eq_ok] at hafter
  obtain ⟨toolsRead, htoolsRead, hafter⟩ := bind_eq_ok.mp hafter
  obtain ⟨vresource, hvresource, hafter⟩ := bind_eq_ok.mp hafter
  obtain ⟨resource, hresource, hafter⟩ := bind_eq_ok.mp hafter
  obtain ⟨vmodel, hvmodel, hafter⟩ := bind_eq_ok.mp hafter
  obtain ⟨model, hmodel, hafter⟩ := bind_eq_ok.mp hafter
  obtain ⟨messagesRead, hmessagesRead, hafter⟩ := bind_eq_ok.mp hafter
  obtain ⟨vstream, hvstream, hafter⟩ := bind_eq_ok.mp hafter
  obtain ⟨stream, hstream, hafter⟩ := bind_eq_ok.mp hafter
  obtain ⟨choice, hchoice, hafter⟩ := bind_eq_ok.mp hafter
  obtain ⟨vformat, hvformat, hafter⟩ := bind_eq_ok.mp hafter
  obtain ⟨format, hformat, hafter⟩ := bind_eq_ok.mp hafter
  obtain ⟨veffort, hveffort, hafter⟩ := bind_eq_ok.mp hafter
  obtain ⟨effort, heffort, hafter⟩ := bind_eq_ok.mp hafter
  obtain ⟨vmax, hvmax, hafter⟩ := bind_eq_ok.mp hafter
  obtain ⟨max, hmax, hafter⟩ := bind_eq_ok.mp hafter
  obtain ⟨vparams, hvparams, hafter⟩ := bind_eq_ok.mp hafter
  obtain ⟨params, hparams, hafter⟩ := bind_eq_ok.mp hafter
  obtain rfl := Except.ok.inj hafter
  rw [Record.item_eq_ok] at hvmessages hvtools hvresource hvmodel hvstream
  rw [Record.item_eq_ok] at hchoice hvformat hveffort hvmax hvparams
  obtain rfl := listOf_eq_ok hmessages
  obtain rfl := listOf_eq_ok htools
  obtain rfl := vBool_eq_ok (valueError_eq_ok.mp hstream)
  obtain rfl := nullable_eq_ok (fun _ _ h => vSafeId_eq_ok (valueError_eq_ok.mp h)) heffort
  obtain rfl := nullable_eq_ok (fun _ _ h => vInt_eq_ok (valueError_eq_ok.mp h)) hmax
  exact ⟨vresource, vmodel, messages, tools, vformat, vparams, hvresource, hvmodel, hvmessages,
    hvstream, hvtools, hchoice, hvformat, hveffort, hvmax, hvparams,
    exceptValueError_eq_ok.mp hresource, hmodel, hmessagesRead, htoolsRead, hformat, hparams,
    hkeys⟩

/-- A record with the ten members of a call is equal to another one when its members are. -/
theorem callRecord_canonical_iff {a b c d e f g h i j a' b' c' d' e' f' g' h' i' j' : Json}
    {record : Record} (hdistinct : record.Distinct) (hkeys : record.KeysIn callKeys)
    (hresource : record.get? "resource" = some a') (hmodel : record.get? "model" = some b')
    (hmessages : record.get? "messages" = some c') (hstream : record.get? "stream" = some d')
    (htools : record.get? "tools" = some e') (hchoice : record.get? "tool_choice" = some f')
    (hformat : record.get? "response_format" = some g')
    (heffort : record.get? "reasoning_effort" = some h')
    (hmax : record.get? "max_output_tokens" = some i')
    (hparams : record.get? "generation_params" = some j') :
    (Json.object [member "resource" a, member "model" b, member "messages" c, member "stream" d,
      member "tools" e, member "tool_choice" f, member "response_format" g,
      member "reasoning_effort" h, member "max_output_tokens" i,
      member "generation_params" j]).canonical = (Json.object record).canonical ↔
    a.canonical = a'.canonical ∧ b.canonical = b'.canonical ∧ c.canonical = c'.canonical ∧
      d.canonical = d'.canonical ∧ e.canonical = e'.canonical ∧ f.canonical = f'.canonical ∧
      g.canonical = g'.canonical ∧ h.canonical = h'.canonical ∧ i.canonical = i'.canonical ∧
      j.canonical = j'.canonical := by
  generalize hwritten : [member "resource" a, member "model" b, member "messages" c,
    member "stream" d, member "tools" e, member "tool_choice" f, member "response_format" g,
    member "reasoning_effort" h, member "max_output_tokens" i, member "generation_params" j] =
    written
  have hwrittenDistinct : Record.Distinct written := by
    rw [← hwritten]
    exact @Record.distinct_of_sublist _ callKeys (List.Sublist.refl _) (by decide)
  obtain ⟨hshape, ha, hb, hc, hd, he, hf, hg, hh, hi, hj⟩ :=
    callRecord_shape a b c d e f g h i j written hwritten.symm
  have hwrittenKeys := (payloadShape_eq_ok.mp hshape).2.1
  rw [List.append_nil] at hwrittenKeys
  rw [Record.item_eq_ok] at ha hb hc hd he hf hg hh hi hj
  rw [canonical_object_eq_iff hwrittenDistinct hdistinct hwrittenKeys hkeys]
  simp only [callKeys, List.forall_mem_cons, ha, hb, hc, hd, he, hf, hg, hh, hi, hj, hresource,
    hmodel, hmessages, hstream, htools, hchoice, hformat, heffort, hmax, hparams, Option.map_some,
    Option.some.injEq, List.not_mem_nil, false_implies, implies_true, and_true]

theorem normalCall_keys (d : Record) : (normalCall d).map Prod.fst = d.map Prod.fst := by
  unfold normalCall
  rw [List.map_map]
  rfl

/-- **An accepted call is written back as it was read**, up to nulls, exactly when it is
    canonical. -/
theorem adapterCallToDict_fromDict (d : Dict) (call : AdapterCall)
    (h : adapterCallFromDict d.value = .ok call) :
    (∃ out, adapterCallToDict call = some out ∧
      (Json.object out).canonical = (Json.object (normalCall d.members)).canonical) ↔
      CanonicalCall d.members := by
  obtain ⟨resource, model, messages, tools, format, params, hread⟩ := adapterCallFromDict_eq_ok h
  have hmember : ∀ {key : String} {value : Json}, Record.get? d.members key = some value →
      value.all Json.distinct = true := fun hget =>
    (Json.all_object.mp d.distinct).2 _ (Record.mem_of_get? hget)
  have hnormal : (normalCall d.members).Distinct := by
    unfold Record.Distinct
    rw [normalCall_keys]
    exact Record.distinct_of_all d.distinct
  have hnormalKeys : (normalCall d.members).KeysIn callKeys := by
    unfold Record.KeysIn
    rw [normalCall_keys]
    exact hread.keys
  obtain ⟨records, rfl, hrecords⟩ := tools_of_mapM hread.tools_read
  have hresource := resource_canonical_iff (hmember hread.resource_get) hread.resource_read
  have hmodel := model_canonical (hmember hread.model_get) hread.model_read
  have hmessages := messages_canonical_iff
    (Json.all_list.mp (hmember hread.messages_get)).2 hread.messages_read
  have hformat := responseFormat_canonical_iff hread.format_read
  have hparams := mapping_canonical_iff hread.params_read
  have hget : ∀ {key : String} {value : Json}, Record.get? d.members key = some value →
      (normalCall d.members).get? key = some (normalValue (Text.ofString key) value) := by
    intro key value hget
    rw [get?_normalCall, hget]
    rfl
  have hother : ∀ {key : String} (value : Json), key ≠ "resource" → key ≠ "messages" →
      normalValue (Text.ofString key) value = value := by
    intro key value hresource hmessages
    rw [normalValue, if_neg (by simpa using hresource), if_neg (by simpa using hmessages)]
  -- Member by member, the document that is written is the one that was read.
  have hdocument : ∀ out record, ((Json.object (callDocument call records out record)).canonical =
      (Json.object (normalCall d.members)).canonical ↔
        ¬ HasEmptyList "quota_pool_ids" resource ∧
        (∀ item ∈ messages, ¬ HasEmptyList "tool_calls" item) ∧
        out.canonical = format.canonical ∧
        (Json.object record).canonical = params.canonical) := by
    intro out record
    rw [callDocument, callRecord_canonical_iff hnormal hnormalKeys (hget hread.resource_get)
      (hget hread.model_get) (hget hread.messages_get) (hget hread.stream_get)
      (hget hread.tools_get) (hget hread.choice_get) (hget hread.format_get)
      (hget hread.effort_get) (hget hread.max_get) (hget hread.params_get), ← hresource,
      ← hmessages]
    have hresourceValue : normalValue (Text.ofString "resource") resource = omitNulls resource :=
      if_pos rfl
    have hmessagesValue : normalValue (Text.ofString "messages") (.list messages) =
        .list (messages.map omitNulls) := by
      rw [normalValue, if_neg (by simp), if_pos rfl, omitNullsInMessages]
    rw [hresourceValue, hmessagesValue]
    repeat rw [hother _ (by decide) (by decide)]
    simp only [hmodel, true_and]
  constructor
  · rintro ⟨out, hout, heq⟩
    obtain ⟨written, outFormat, outParams, hwritten, houtFormat, houtParams, rfl⟩ :=
      adapterCallToDict_eq_some hout
    obtain rfl := Option.some.inj (hrecords.symm.trans hwritten)
    obtain ⟨hpools, hcalls, hformatEq, hparamsEq⟩ := (hdocument _ _).mp heq
    have hobject := hformat.mp ⟨outFormat, houtFormat, hformatEq⟩
    have hdictionary := hparams.mp ⟨outParams, houtParams, hparamsEq⟩
    refine ⟨fun value hvalue => ?_, fun value hvalue => ?_, fun items hitems => ?_,
      fun value hvalue => ?_⟩
    · obtain rfl := Option.some.inj (hread.format_get.symm.trans hvalue)
      exact hobject
    · obtain rfl := Option.some.inj (hread.params_get.symm.trans hvalue)
      exact hdictionary
    · obtain rfl := Json.list.inj (Option.some.inj (hread.messages_get.symm.trans hitems))
      exact hcalls
    · obtain rfl := Option.some.inj (hread.resource_get.symm.trans hvalue)
      exact hpools
  · intro hcanonical
    obtain ⟨outFormat, houtFormat, hformatEq⟩ := hformat.mpr (hcanonical.format _ hread.format_get)
    obtain ⟨outParams, houtParams, hparamsEq⟩ := hparams.mpr (hcanonical.params _ hread.params_get)
    refine ⟨callDocument call records outFormat outParams, ?_, (hdocument _ _).mpr
      ⟨hcanonical.pools _ hread.resource_get, hcanonical.messages _ hread.messages_get, hformatEq,
        hparamsEq⟩⟩
    unfold adapterCallToDict
    rw [hrecords, houtFormat, houtParams]
    rfl

/-! ### Coerced spellings -/

/-- A call without tools, with the given generation parameters. -/
private def plainCall (params : Json) : Record :=
  [member "resource" (.object [member "resource_id" (textJson "res-1"),
      member "channel" (textJson "worker_bridged"), member "provider" (textJson "openai"),
      member "model" (textJson "gpt-5"),
      member "entitlement" (textJson "subscription_included")]),
    member "model" (.object [member "provider" (textJson "openai"),
      member "model" (textJson "gpt-5"), member "variant" (textJson "default")]),
    member "messages" (.list [.object [member "role" (textJson "user")]]),
    member "stream" (.bool false), member "tools" (.list []), member "tool_choice" .null,
    member "response_format" .null, member "reasoning_effort" .null,
    member "max_output_tokens" .null, member "generation_params" params]

/-- The generation parameters of a document are a dictionary. -/
private def hasObjectParams : Json → Bool
  | .object members =>
    match Record.get? members "generation_params" with
    | some (.object _) => true
    | _ => false
  | _ => false

private def coercedCall : Dict := ⟨plainCall (.string []), by decide +kernel⟩

/-- A call whose parameters are a dictionary is written back as it was read. -/
theorem adapterCallToDict_fromDict_plain : ∃ call out,
    adapterCallFromDict (.object (plainCall (.object []))) = .ok call ∧
    adapterCallToDict call = some out ∧
    (Json.object out).canonical =
      (Json.object (normalCall (plainCall (.object [])))).canonical := by
  have hrun : (adapterCallFromDict (.object (plainCall (.object [])))).toOption.isSome = true := by
    decide +kernel
  obtain ⟨call, hcall⟩ := Option.isSome_iff_exists.mp hrun
  replace hcall := eq_ok_of_toOption hcall
  obtain ⟨out, hout, heq⟩ :=
    (adapterCallToDict_fromDict ⟨plainCall (.object []), by decide +kernel⟩ call hcall).mpr {
      format := fun value hvalue => .inl (by
        obtain rfl := Option.some.inj hvalue
        rfl)
      params := fun value hvalue => by
        obtain rfl := Option.some.inj hvalue
        exact ⟨[], rfl⟩
      messages := fun items hitems item hitem => by
        obtain rfl := Json.list.inj (Option.some.inj hitems)
        obtain rfl := List.mem_singleton.mp hitem
        rintro ⟨record, heq, hget⟩
        obtain rfl := Json.object.inj heq
        cases hget
      pools := fun value hvalue => by
        obtain rfl := Option.some.inj hvalue
        rintro ⟨record, heq, hget⟩
        obtain rfl := Json.object.inj heq
        cases hget }
  exact ⟨call, out, hcall, hout, heq⟩

/-- **An empty text is accepted as a dictionary of generation parameters.** -/
theorem adapterCallFromDict_coerces_params : ¬ ∀ (d : Dict) (call : AdapterCall),
    adapterCallFromDict d.value = .ok call → ∃ out, adapterCallToDict call = some out ∧
      (Json.object out).canonical = (Json.object (normalCall d.members)).canonical := by
  intro h
  have hrun : ((adapterCallFromDict coercedCall.value).toOption.any fun call =>
      (adapterCallToDict call).all fun out => hasObjectParams (Json.object out).canonical) =
      true := by
    decide +kernel
  obtain ⟨call, hcall, hall⟩ := (Option.any_eq_true _ _).mp hrun
  obtain ⟨out, hout, heq⟩ := h coercedCall call (eq_ok_of_toOption hcall)
  rw [hout, Option.all_some, heq] at hall
  have hparams :
      hasObjectParams (Json.object (normalCall coercedCall.members)).canonical = false := by
    decide +kernel
  exact Bool.false_ne_true (hparams.symm.trans hall)

end ScarcityRouter
