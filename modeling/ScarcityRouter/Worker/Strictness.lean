import ScarcityRouter.Worker.Canonical
import ScarcityRouter.Worker.Messages

namespace ScarcityRouter

open ScarcityRouter.Lib

/-!
# Strictness of the readers

Which decoded objects make a reader end with another exception than `WorkerProtocolError`.

* `Strict` — every error of a computation is a `WorkerProtocolError`.
* `fromPayload_ends` — the shared reader contains every `ValueError` of its fields.
* `WorkerMessage.Valid`, `ServerMessage.Valid` — the declared types that a cast leaves unchecked.
* `ChunkContained`, `ObservationContained`, `WorkerContained`, `ServerContained` — the objects
  that reach no unguarded step.
* `readers_contained` — **a reader ends with a valid record or a `WorkerProtocolError` exactly on
  the contained objects.**
-/

/-! ### Exceptions -/

/-- A `WorkerProtocolError`. -/
def Raised.IsProtocol (e : Raised) : Prop := ∃ error, e = .workerProtocol error

/-- What `except ValueError` makes a `WorkerProtocolError` of, or lets through as one. -/
def Raised.IsCaught : Raised → Prop
  | .value _ | .workerProtocol _ => True
  | _ => False

/-- The same for `except (ValueError, TypeError)`. -/
def Raised.IsCaughtWithTypes : Raised → Prop
  | .value _ | .type _ | .workerProtocol _ => True
  | _ => False

/-- Every error is a `WorkerProtocolError`. -/
abbrev Strict {α : Type} (x : Except Raised α) : Prop := Ends Raised.IsProtocol (fun _ => True) x

@[simp] theorem isProtocol_workerProtocol (error : WorkerProtocolError) :
    (Raised.workerProtocol error).IsProtocol := ⟨error, rfl⟩

@[simp] theorem isProtocol_malformed (fault : Fault) : (malformed fault).IsProtocol := ⟨_, rfl⟩

@[simp] theorem not_isProtocol_value (fault : Fault) : ¬ (Raised.value fault).IsProtocol :=
  fun ⟨_, h⟩ => nomatch h

@[simp] theorem not_isProtocol_type (fault : Fault) : ¬ (Raised.type fault).IsProtocol :=
  fun ⟨_, h⟩ => nomatch h

@[simp] theorem isCaught_malformed (fault : Fault) : (malformed fault).IsCaught := trivial

@[simp] theorem not_isCaught_type (fault : Fault) : ¬ (Raised.type fault).IsCaught := id

theorem Raised.IsProtocol.isCaught {e : Raised} (h : e.IsProtocol) : e.IsCaught := by
  obtain ⟨error, rfl⟩ := h
  trivial

/-- **`except ValueError`.** -/
@[simp] theorem ends_exceptValueError {α : Type} {V : α → Prop} {x : Except Raised α} :
    Ends Raised.IsProtocol V (exceptValueError x) ↔ Ends Raised.IsCaught V x := by
  cases x with
  | ok a => rfl
  | error e => cases e <;> simp [exceptValueError, Raised.IsProtocol, Raised.IsCaught, malformed]

/-- **`except (ValueError, TypeError)`.** -/
@[simp] theorem ends_exceptValueOrTypeError {α : Type} {V : α → Prop} {x : Except Raised α} :
    Ends Raised.IsProtocol V (exceptValueOrTypeError x) ↔ Ends Raised.IsCaughtWithTypes V x := by
  cases x with
  | ok a => rfl
  | error e =>
    cases e <;> simp [exceptValueOrTypeError, Raised.IsProtocol, Raised.IsCaughtWithTypes, malformed]

/-- What is strict is contained by any clause around it. -/
theorem Strict.caught {α : Type} {x : Except Raised α} (h : Strict x) :
    Ends Raised.IsCaught (fun _ => True) x :=
  Ends.mono h (fun _ he => he.isCaught) fun _ _ _ => trivial

/-- The same for the wider clause. -/
theorem Strict.caughtWithTypes {α : Type} {x : Except Raised α} (h : Strict x) :
    Ends Raised.IsCaughtWithTypes (fun _ => True) x := by
  refine Ends.mono h (fun _ he => ?_) fun _ _ _ => trivial
  obtain ⟨error, rfl⟩ := he
  trivial

/-- No clause catches the error of the resource contract. -/
theorem not_caughtWithTypes_capacity (e : Raised) (h : ∃ fault, e = .capacityValidation fault) :
    ¬ e.IsCaughtWithTypes := by
  obtain ⟨fault, rfl⟩ := h
  exact id

/-- No clause catches the error of the selection contract. -/
theorem not_caughtWithTypes_selection (e : Raised)
    (h : ∃ fault, e = .selectionContractValidation fault) : ¬ e.IsCaughtWithTypes := by
  obtain ⟨fault, rfl⟩ := h
  exact id

/-! ### Steps of a reader -/

theorem valueError_caught {α : Type} (x : Except Fault α) :
    Ends Raised.IsCaught (fun _ => True) (valueError x) := by
  cases x <;> trivial

theorem valueError_caughtWithTypes {α : Type} (x : Except Fault α) :
    Ends Raised.IsCaughtWithTypes (fun _ => True) (valueError x) := by
  cases x <;> trivial

theorem payloadShape_strict (d : Json) (required optional : List String) (label : String) :
    Strict (payloadShape d required optional label) :=
  ends_exceptValueError.mpr (valueError_caught _)

/-- A required key has a value. -/
theorem ends_item {α : Type} {E : Raised → Prop} {V : α → Prop} {dd : Record} {key : String}
    {f : Json → Except Raised α} (h : (dd.get? key).isSome = true) :
    Ends E V (dd.item key >>= f) ↔ ∀ value, dd.get? key = some value → Ends E V (f value) := by
  obtain ⟨value, hvalue⟩ := Option.isSome_iff_exists.mp h
  have hitem : dd.item key = .ok value := by
    unfold Record.item
    rw [hvalue]
  rw [hitem, ok_bind, hvalue]
  simp

/-- A required field raises nothing but `ValueError`. -/
theorem read_caught {α : Type} {dd : Record} {key : String} {validate : Json → Except Fault α}
    (h : (dd.get? key).isSome = true) :
    Ends Raised.IsCaught (fun _ => True) (dd.read key validate) :=
  (ends_item h).mpr fun _ _ => valueError_caught _

theorem ends_optionalItem {α : Type} {E : Raised → Prop} {dd : Record} {key : String}
    {read : Json → Except Raised α} : Ends E (fun _ => True) (dd.optionalItem key read) ↔
      ∀ value, dd.present key = some value → Ends E (fun _ => True) (read value) := by
  unfold Record.optionalItem
  split
  · simp_all
  · rename_i value hvalue
    rw [ends_map]
    simp [hvalue]

theorem optionalItem_ends {α : Type} {E : Raised → Prop} {dd : Record} {key : String}
    {read : Json → Except Raised α} (h : ∀ value, Ends E (fun _ => True) (read value)) :
    Ends E (fun _ => True) (dd.optionalItem key read) :=
  ends_optionalItem.mpr fun value _ => h value

/-- An optional field raises nothing but `ValueError`. -/
theorem readOptional_caught {α : Type} {dd : Record} {key : String}
    {validate : Json → Except Fault α} :
    Ends Raised.IsCaught (fun _ => True) (dd.readOptional key validate) :=
  optionalItem_ends fun _ => valueError_caught _

/-- One step after another. -/
theorem ends_then {α β : Type} {E : Raised → Prop} {V : β → Prop} {x : Except Raised α}
    {f : α → Except Raised β} (hx : Ends E (fun _ => True) x)
    (hf : ∀ a, x = .ok a → Ends E V (f a)) : Ends E V (x >>= f) :=
  (ends_bind_of_errors hx).mpr hf

theorem typed_strict (dd : Record) (expected : String) : Strict (typed dd expected) :=
  ends_check.mpr ⟨fun _ => trivial, fun _ => isProtocol_malformed _⟩

/-- **The shared reader contains every `ValueError` of its fields.** -/
theorem fromPayload_ends {α : Type} {V : α → Prop} {required optional : List String}
    {messageType : String} {fields : Record → Except Raised α} {d : Json}
    (h : ∀ dd : Record, dd.HasKeys required → Ends Raised.IsCaught V (fields dd)) :
    Ends Raised.IsProtocol V (fromPayload required optional messageType fields d) :=
  ends_then (payloadShape_strict _ _ _ _) fun dd hdd =>
    ends_then (typed_strict dd messageType) fun _ _ =>
      ends_exceptValueError.mpr (h dd (payloadShape_eq_ok.mp hdd).2.2)

/-! ### Strict parts -/

theorem toolCallFromDict_strict (label : String) (d : Json) : Strict (toolCallFromDict label d) := by
  refine ends_then (payloadShape_strict _ _ _ _) fun dd hdd => ends_exceptValueError.mpr ?_
  obtain ⟨-, -, hkeys⟩ := payloadShape_eq_ok.mp hdd
  simp only [Record.hasKeys_cons, Record.hasKeys_nil, and_true] at hkeys
  obtain ⟨hid, hname, harguments⟩ := hkeys
  refine (ends_item hid).mpr fun _ _ => ends_then (valueError_caught _) fun _ _ => ?_
  refine (ends_item hname).mpr fun _ _ => ends_then (valueError_caught _) fun _ _ => ?_
  exact (ends_item harguments).mpr fun _ _ => ends_then (valueError_caught _) fun _ _ => trivial

theorem toolCallsFromDict_strict (value : Option Json) : Strict (toolCallsFromDict value) := by
  unfold toolCallsFromDict
  split
  · trivial
  · exact ends_mapM fun call _ => toolCallFromDict_strict _ call
  · exact isProtocol_malformed _

theorem messageFromDict_strict (d : Json) : Strict (messageFromDict d) := by
  refine ends_then (payloadShape_strict _ _ _ _) fun dd hdd => ?_
  obtain ⟨-, -, hkeys⟩ := payloadShape_eq_ok.mp hdd
  simp only [Record.hasKeys_cons, Record.hasKeys_nil, and_true] at hkeys
  refine ends_then (toolCallsFromDict_strict _) fun _ _ => ends_exceptValueError.mpr ?_
  refine (ends_item hkeys).mpr fun _ _ => ends_then (valueError_caught _) fun _ _ => ?_
  -- The optional members, and the two length checks of the constructor.
  refine ends_then (optionalItem_ends fun _ => valueError_caught _) fun _ _ => ?_
  refine ends_then (optionalItem_ends fun _ => valueError_caught _) fun _ _ => ?_
  refine ends_then (optionalItem_ends fun _ => valueError_caught _) fun _ _ => ?_
  refine ends_then (optionalItem_ends fun _ => valueError_caught _) fun _ _ => ?_
  refine ends_then (valueError_caught _) fun _ _ => ?_
  exact ends_then (valueError_caught _) fun _ _ => trivial

theorem usageFromDict_strict (d : Json) : Strict (usageFromDict d) := by
  refine ends_exceptValueOrTypeError.mpr ?_
  refine ends_then (valueError_caughtWithTypes _) fun dd hdd => ?_
  obtain ⟨-, -, hkeys⟩ := exactShape_eq_ok.mp (valueError_eq_ok.mp hdd)
  simp only [Record.hasKeys_cons, Record.hasKeys_nil, and_true] at hkeys
  obtain ⟨hprompt, hcompletion⟩ := hkeys
  refine (ends_item hprompt).mpr fun _ _ => ends_then (valueError_caughtWithTypes _) fun _ _ => ?_
  refine (ends_item hcompletion).mpr fun _ _ => ?_
  exact ends_then (valueError_caughtWithTypes _) fun _ _ => trivial

/-! ### Chunks -/

/-- `value in vocabulary` raises a `TypeError` on a value without a hash, and nothing else. -/
theorem ends_inVocabulary {α : Type} {E : Raised → Prop} {V : Option α → Prop} {members : List α}
    {text : α → String} {value : Json} (hE : ∀ fault, ¬ E (.type fault)) :
    Ends E V (inVocabulary members text value) ↔ value.hashable = true ∧
      ∀ found, inVocabulary members text value = .ok found → V found := by
  cases value <;> simp [inVocabulary, Json.hashable, hE]

/-- A member of the vocabulary is found by its text only. -/
theorem inVocabulary_eq_some {α : Type} {members : List α} {text : α → String} {value : Json}
    {a : α} (h : inVocabulary members text value = .ok (some a)) :
    a ∈ members ∧ value = textJson (text a) := by
  unfold inVocabulary at h
  split at h
  · cases h
  · cases h
  · rename_i s
    have hfind := Except.ok.inj h
    have htext := List.find?_some hfind
    rw [decide_eq_true_eq] at htext
    exact ⟨List.mem_of_find?_eq_some hfind, by rw [textJson, htext]⟩
  · cases h

theorem finishReasonFromDict_ends {E : Raised → Prop} (value : Json)
    (hE : ∀ fault, E (malformed fault)) (htype : ∀ fault, ¬ E (.type fault)) :
    Ends E (fun _ => True) (finishReasonFromDict value) ↔ value.hashable = true := by
  unfold finishReasonFromDict
  rw [ends_bind, ends_inVocabulary htype, and_iff_left]
  intro found _
  cases found with
  | none => exact hE _
  | some reason => trivial

/-- The kind of the chunk has a hash, and so has its finish reason when the reader gets to it. -/
def ChunkContained (d : Json) : Prop :=
  ∀ dd, payloadShape d ["kind"] ["text", "tool_call", "finish_reason", "usage"]
      "protocol.chunk" = .ok dd →
    ∀ kind, dd.get? "kind" = some kind → kind.hashable = true ∧
      ((∃ k ∈ chunkKinds, kind = textJson k.text) →
        Returns (dd.optionalItem "tool_call" (toolCallFromDict "protocol.chunk.tool_call")) →
        ∀ reason, dd.get? "finish_reason" = some reason → reason.hashable = true)

/-- A null member has a hash, so it does not matter that the readers skip it. -/
theorem forall_present_hashable {dd : Record} {key : String} :
    (∀ value, dd.present key = some value → value.hashable = true) ↔
      ∀ value, dd.get? key = some value → value.hashable = true := by
  unfold Record.present
  simp only [Option.filter_eq_some_iff, and_imp]
  refine forall₂_congr fun value _ => ?_
  cases value <;> simp [Json.isNull, Json.hashable]

/-- **`chunk_from_dict` is strict exactly on the contained objects.** -/
theorem chunkFromDict_strict_iff (d : Json) : Strict (chunkFromDict d) ↔ ChunkContained d := by
  unfold chunkFromDict ChunkContained Strict
  rw [ends_bind_of_errors (payloadShape_strict _ _ _ _)]
  refine forall₂_congr fun dd hdd => ?_
  obtain ⟨-, -, hkeys⟩ := payloadShape_eq_ok.mp hdd
  simp only [Record.hasKeys_cons, Record.hasKeys_nil, and_true] at hkeys
  rw [ends_item hkeys]
  refine forall₂_congr fun kind _ => ?_
  rw [ends_bind, ends_inVocabulary not_isProtocol_type]
  refine and_congr_right fun _ => ?_
  -- What follows a known kind: only the finish reason can raise a `TypeError`.
  have hfields : ∀ k, Ends Raised.IsProtocol (fun _ => True) (exceptValueError do
      let toolCall ← dd.optionalItem "tool_call" (toolCallFromDict "protocol.chunk.tool_call")
      let finishReason ← dd.optionalItem "finish_reason" finishReasonFromDict
      let text ← dd.optionalItem "text" fun value =>
        valueError (vText value "protocol.chunk.text" maxStreamDeltaChars)
      let usage ← dd.optionalItem "usage" usageFromDict
      valueError (AdapterStreamChunk.make k text toolCall finishReason usage)) ↔
      (Returns (dd.optionalItem "tool_call" (toolCallFromDict "protocol.chunk.tool_call")) →
        ∀ reason, dd.get? "finish_reason" = some reason → reason.hashable = true) := by
    intro k
    rw [ends_exceptValueError, ends_bind_of_errors
      (optionalItem_ends fun value => (toolCallFromDict_strict _ value).caught), Returns,
      forall_exists_index]
    refine forall₂_congr fun toolCall _ => ?_
    rw [← forall_present_hashable]
    constructor
    · intro h
      rw [ends_bind] at h
      have hreason := ends_optionalItem.mp (h.mono (fun _ he => he) fun _ _ _ => trivial)
      exact fun reason hpresent => (finishReasonFromDict_ends reason isCaught_malformed
        not_isCaught_type).mp (hreason reason hpresent)
    · intro h
      refine ends_then (ends_optionalItem.mpr fun reason hpresent => (finishReasonFromDict_ends
        reason isCaught_malformed not_isCaught_type).mpr (h reason hpresent)) fun _ _ => ?_
      refine ends_then (optionalItem_ends fun _ => valueError_caught _) fun _ _ => ?_
      refine ends_then (optionalItem_ends fun value => (usageFromDict_strict value).caught)
        fun _ _ => ?_
      exact valueError_caught _
  constructor
  · rintro h ⟨k, hk, rfl⟩
    exact (hfields k).mp (h (some k) (inVocabulary_textJson ChunkKind.text_injective hk))
  · intro h found hfound
    cases found with
    | none => exact isProtocol_malformed _
    | some k =>
      exact (hfields k).mpr (h ⟨k, inVocabulary_eq_some hfound⟩)

/-! ### Observations -/

/-- The status of the observation has a hash. -/
def ObservationContained (d : Json) : Prop :=
  ∀ dd, payloadShape d ["call_index", "started_at", "ended_at", "status"]
      ["provider_reported_usage", "estimated_usage", "note"] "protocol.call_observation" = .ok dd →
    ∀ status, dd.get? "status" = some status → status.hashable = true

/-- **`call_observation_from_dict` is strict exactly on the contained objects.** -/
theorem callObservationFromDict_strict_iff (d : Json) :
    Strict (callObservationFromDict d) ↔ ObservationContained d := by
  unfold callObservationFromDict ObservationContained Strict
  rw [ends_bind_of_errors (payloadShape_strict _ _ _ _)]
  refine forall₂_congr fun dd hdd => ?_
  obtain ⟨-, -, hkeys⟩ := payloadShape_eq_ok.mp hdd
  simp only [Record.hasKeys_cons, Record.hasKeys_nil, and_true] at hkeys
  obtain ⟨hindex, hstarted, hended, hstatus⟩ := hkeys
  rw [ends_exceptValueError, ends_item hstatus]
  refine forall₂_congr fun status _ => ?_
  rw [ends_bind, ends_inVocabulary not_isCaught_type, and_iff_left]
  intro found _
  cases found with
  | none => exact trivial
  | some status =>
    refine (ends_item hindex).mpr fun _ _ => ends_then (valueError_caught _) fun _ _ => ?_
    refine (ends_item hstarted).mpr fun _ _ => ends_then (valueError_caught _) fun _ _ => ?_
    refine (ends_item hended).mpr fun _ _ => ends_then (valueError_caught _) fun _ _ => ?_
    refine ends_then (optionalItem_ends fun value => (usageFromDict_strict value).caught)
      fun _ _ => ?_
    refine ends_then (optionalItem_ends fun value => (usageFromDict_strict value).caught)
      fun _ _ => ?_
    refine ends_then (optionalItem_ends fun _ => valueError_caught _) fun _ _ => ?_
    refine ends_then (valueError_caught _) fun _ _ => ?_
    exact ends_then (valueError_caught _) fun _ _ => trivial

/-! ### Calls -/

/-- The validators of the resource contract raise their own error. -/
theorem capacityError_ends {α : Type} (x : Except Fault α) :
    Ends (fun e => ∃ fault, e = .capacityValidation fault) (fun _ => True) (capacityError x) := by
  cases x with
  | ok a => trivial
  | error fault => exact ⟨fault, rfl⟩

/-- The validators of the selection contract raise their own error. -/
theorem selectionError_ends {α : Type} (x : Except Fault α) :
    Ends (fun e => ∃ fault, e = .selectionContractValidation fault) (fun _ => True)
      (selectionError x) := by
  cases x with
  | ok a => trivial
  | error fault => exact ⟨fault, rfl⟩

/-- A resource is read, or a `CapacityValidationError` is raised. -/
theorem resourceFromDict_ends (d : Json) :
    Ends (fun e => ∃ fault, e = .capacityValidation fault) (fun _ => True)
      (resourceFromDict d) := by
  refine ends_then (capacityError_ends _) fun dd hdd => ?_
  obtain ⟨-, -, hkeys⟩ := exactKeys_of_vExactShape (capacityError_eq_ok.mp hdd)
  simp only [Record.hasKeys_cons, Record.hasKeys_nil, and_true] at hkeys
  obtain ⟨hid, hchannel, hprovider, hmodel, hentitlement⟩ := hkeys
  have hraw : Ends (fun e => ∃ fault, e = .capacityValidation fault) (fun _ => True)
      (rawPools (dd.present "quota_pool_ids")) := by
    unfold rawPools
    split
    · trivial
    · trivial
    · exact ⟨_, rfl⟩
  refine ends_then hraw fun pools _ => ?_
  refine (ends_item hid).mpr fun _ _ => ends_then (capacityError_ends _) fun _ _ => ?_
  refine (ends_item hchannel).mpr fun _ _ => ends_then (capacityError_ends _) fun _ _ => ?_
  refine (ends_item hprovider).mpr fun _ _ => ends_then (capacityError_ends _) fun _ _ => ?_
  refine (ends_item hmodel).mpr fun _ _ => ends_then (capacityError_ends _) fun _ _ => ?_
  refine (ends_item hentitlement).mpr fun _ _ => ends_then (capacityError_ends _) fun _ _ => ?_
  refine ends_then (optionalItem_ends fun _ => capacityError_ends _) fun _ _ => ?_
  refine ends_then (ends_mapM fun _ _ => capacityError_ends _) fun _ _ => ?_
  exact ends_then (capacityError_ends _) fun _ _ => trivial

/-- A model is read, or a `SelectionContractValidationError` is raised. -/
theorem modelFromDict_ends (d : Json) :
    Ends (fun e => ∃ fault, e = .selectionContractValidation fault) (fun _ => True)
      (modelFromDict d) := by
  refine ends_then (selectionError_ends _) fun dd hdd => ?_
  obtain ⟨-, -, hkeys⟩ := exactKeys_of_vExactShape (selectionError_eq_ok.mp hdd)
  simp only [Record.hasKeys_cons, Record.hasKeys_nil, and_true] at hkeys
  obtain ⟨hprovider, hmodel, hvariant⟩ := hkeys
  refine (ends_item hprovider).mpr fun _ _ => ends_then (selectionError_ends _) fun _ _ => ?_
  refine (ends_item hmodel).mpr fun _ _ => ends_then (selectionError_ends _) fun _ _ => ?_
  exact (ends_item hvariant).mpr fun _ _ => ends_then (selectionError_ends _) fun _ _ => trivial

/-- `except ValueError` lets the error of the resource contract through. -/
theorem resourceIdentityFromDict_ends (d : Json) :
    Ends (fun e => ∃ fault, e = .capacityValidation fault) (fun _ => True)
      (resourceIdentityFromDict d) := by
  have h := resourceFromDict_ends d
  unfold resourceIdentityFromDict
  cases hread : resourceFromDict d with
  | ok resource => trivial
  | error e =>
    rw [hread] at h
    obtain ⟨fault, rfl⟩ := h
    exact ⟨fault, rfl⟩

/-- `dict(value)` raises nothing but `ValueError` and `TypeError`. -/
theorem dictOf_ends (value : Json) :
    Ends Raised.IsCaughtWithTypes (fun _ => True) (dictOf value) := by
  have hpair : ∀ element, Ends Raised.IsCaughtWithTypes (fun _ => True) (pairOf element) := by
    intro element
    unfold pairOf
    split <;> trivial
  have hadd : ∀ mapping element,
      Ends Raised.IsCaughtWithTypes (fun _ => True) (addPair mapping element) := fun _ element =>
    ends_then (hpair element) fun _ _ =>
      ends_then (ends_check.mpr ⟨fun _ => trivial, fun _ => trivial⟩) fun _ _ => trivial
  unfold dictOf
  split
  · trivial
  · exact ends_foldlM fun mapping element _ => hadd mapping element
  all_goals trivial

theorem nullable_ends {α : Type} {E : Raised → Prop} {read : Json → Except Raised α} {value : Json}
    (h : Ends E (fun _ => True) (read value)) : Ends E (fun _ => True) (nullable read value) := by
  unfold nullable
  split
  · trivial
  · exact ends_map.mpr h

theorem nullable_caughtWithTypes {α : Type} (validate : Json → Except Fault α) (value : Json) :
    Ends Raised.IsCaughtWithTypes (fun _ => True)
      (nullable (fun value => valueError (validate value)) value) :=
  nullable_ends (valueError_caughtWithTypes _)

theorem returns_nullable {α : Type} {read : Json → Except Raised α} {value : Json} :
    Returns (nullable read value) ↔ value.isNull = true ∨ Returns (read value) := by
  unfold nullable
  split
  · rename_i hnull
    simp [hnull]
  · rename_i hnull
    rw [returns_map]
    simp [hnull]

theorem returns_valueError {α : Type} {x : Except Fault α} :
    Returns (valueError x) ↔ Returns x := by
  cases x <;> simp [valueError, Except.mapError]

/-- Only a list passes. -/
theorem ends_listOf {α : Type} {V : α → Prop} {label : String} {value : Json}
    {f : List Json → Except Raised α} : Ends Raised.IsProtocol V (listOf label value >>= f) ↔
      ∀ items, value = .list items → Ends Raised.IsProtocol V (f items) := by
  unfold listOf
  split
  · simp
  · rename_i hother
    simp only [error_bind, ends_error, isProtocol_malformed, true_iff]
    exact fun items hvalue => absurd hvalue (hother items)

theorem toolFromDict_strict (value : Json) : Strict (toolFromDict value) := by
  unfold toolFromDict
  split
  · trivial
  · exact isProtocol_malformed _

theorem returns_toolFromDict {value : Json} : Returns (toolFromDict value) ↔ IsObject value := by
  cases value <;> simp [toolFromDict, IsObject]

/-- A copied record has texts for keys. -/
theorem textKeys_ofRecord (record : Record) :
    ∀ entry ∈ Mapping.ofRecord record, ∃ key, entry.1 = .string key := by
  intro entry hentry
  obtain ⟨pair, -, rfl⟩ := List.mem_map.mp hentry
  exact ⟨_, rfl⟩

/-- What `dict` makes of the value, if it makes something of it, has texts for keys. -/
def TextPairs (value : Json) : Prop :=
  ∀ mapping, dictOf value = .ok mapping → ∀ entry ∈ mapping, ∃ key, entry.1 = .string key

/-- The fields of a call that are read after its resource and its model are accepted. -/
def CallFieldsAccepted (dd : Record) (messages : List Json) : Prop :=
  (∀ message ∈ messages, Returns (messageFromDict message)) ∧
  (∃ stream, dd.get? "stream" = some (.bool stream)) ∧
  (∀ value, dd.get? "response_format" = some value → value.isNull = true ∨
    Returns (dictOf value)) ∧
  (∀ value, dd.get? "reasoning_effort" = some value → value.isNull = true ∨
    Returns (vSafeId value "protocol.call.reasoning_effort")) ∧
  (∀ value, dd.get? "max_output_tokens" = some value → value.isNull = true ∨
    Returns (vInt value "protocol.call.max_output_tokens" 1)) ∧
  ∀ value, dd.get? "generation_params" = some value → Returns (dictOf value)

/-- The resource and the model of a call are valid when the reader gets to them, and an accepted
    call has mappings of texts. -/
def CallContained (d : Json) : Prop :=
  ∀ dd, payloadShape d callKeys [] "protocol.call" = .ok dd →
    ∀ messages, dd.get? "messages" = some (.list messages) →
    ∀ tools, dd.get? "tools" = some (.list tools) → (∀ tool ∈ tools, IsObject tool) →
      (∀ value, dd.get? "resource" = some value → Returns (resourceFromDict value)) ∧
      (∀ value, dd.get? "model" = some value → Returns (modelFromDict value)) ∧
      (CallFieldsAccepted dd messages →
        ∀ key ∈ ["response_format", "generation_params"], ∀ value,
          dd.get? key = some value → TextPairs value)

/-- An accepted call has mappings of texts exactly when both of its dictionaries have. -/
theorem textKeyed_iff {tools : List Json} {call : AdapterCall} {format params : Json}
    (htools : tools.mapM toolFromDict = .ok call.tools)
    (hformat : nullable dictOf format = .ok call.responseFormat)
    (hparams : dictOf params = .ok call.generationParams) :
    call.TextKeyed ↔ TextPairs format ∧ TextPairs params := by
  have htoolKeys : ∀ mapping ∈ call.tools, ∀ entry ∈ mapping, ∃ key, entry.1 = .string key := by
    intro mapping hmapping
    obtain ⟨tool, -, htool⟩ := exists_of_mem_mapM htools hmapping
    unfold toolFromDict at htool
    split at htool
    · obtain rfl := Except.ok.inj htool
      exact textKeys_ofRecord _
    · cases htool
  have hformatKeys : TextPairs format ↔
      ∀ mapping ∈ call.responseFormat, ∀ entry ∈ mapping, ∃ key, entry.1 = .string key := by
    unfold TextPairs
    unfold nullable at hformat
    split at hformat
    · rename_i hnull
      obtain rfl : format = .null := by
        cases format <;> first | rfl | cases hnull
      rw [← Except.ok.inj hformat]
      simp [dictOf]
    · obtain ⟨mapping, hmapping, hsome⟩ := map_eq_ok.mp hformat
      rw [hmapping, ← hsome]
      simp
  have hparamsKeys : TextPairs params ↔
      ∀ entry ∈ call.generationParams, ∃ key, entry.1 = .string key := by
    unfold TextPairs
    rw [hparams]
    simp
  rw [hformatKeys, hparamsKeys]
  unfold AdapterCall.TextKeyed
  constructor
  · intro h
    refine ⟨fun mapping hmapping => h mapping ?_, h _ List.mem_cons_self⟩
    exact List.mem_cons_of_mem _ (List.mem_append_left _ (Option.mem_toList.mpr hmapping))
  · rintro ⟨hresponse, hgeneration⟩ mapping hmapping
    rcases List.mem_cons.mp hmapping with rfl | hmapping
    · exact hgeneration
    · rcases List.mem_append.mp hmapping with hmapping | hmapping
      · exact hresponse mapping (Option.mem_toList.mp hmapping)
      · exact htoolKeys mapping hmapping

/-- **`adapter_call_from_dict` is strict, and its calls have their declared types, exactly on the
    contained objects.** -/
theorem adapterCallFromDict_ends_iff (d : Json) :
    Ends Raised.IsProtocol AdapterCall.TextKeyed (adapterCallFromDict d) ↔ CallContained d := by
  unfold adapterCallFromDict CallContained
  rw [ends_bind_of_errors (payloadShape_strict _ _ _ _)]
  refine forall₂_congr fun dd hdd => ?_
  obtain ⟨-, -, hkeys⟩ := payloadShape_eq_ok.mp hdd
  simp only [callKeys, Record.hasKeys_cons, Record.hasKeys_nil, and_true,
    Option.isSome_iff_exists] at hkeys
  obtain ⟨⟨resource, hresource⟩, ⟨model, hmodel⟩, ⟨messages, hmessages⟩, ⟨stream, hstream⟩,
    ⟨tools, htools⟩, ⟨choice, hchoice⟩, ⟨format, hformat⟩, ⟨effort, heffort⟩, ⟨limit, hlimit⟩,
    ⟨params, hparams⟩⟩ := hkeys
  simp only [Record.item_of hresource, Record.item_of hmodel, Record.item_of hmessages,
    Record.item_of hstream, Record.item_of htools, Record.item_of hchoice, Record.item_of hformat,
    Record.item_of heffort, Record.item_of hlimit, Record.item_of hparams, ok_bind, ends_listOf,
    hresource, hmodel, hmessages, htools, Option.some.injEq, forall_eq']
  refine forall₂_congr fun messageItems hmessageItems => forall₂_congr fun toolItems _ => ?_
  have htoolsCaught := (show Strict (toolItems.mapM toolFromDict) from
    ends_mapM fun tool _ => toolFromDict_strict tool).caughtWithTypes
  have hmessagesCaught := (show Strict (messageItems.mapM messageFromDict) from
    ends_mapM fun message _ => messageFromDict_strict message).caughtWithTypes
  have haccepted : CallFieldsAccepted dd messageItems ↔
      Returns (messageItems.mapM messageFromDict) ∧
      Returns (valueError (vBool stream "protocol.call.stream")) ∧
      Returns (nullable dictOf format) ∧
      Returns (nullable (fun value => valueError (vSafeId value "protocol.call.reasoning_effort"))
        effort) ∧
      Returns (nullable (fun value => valueError (vInt value "protocol.call.max_output_tokens" 1))
        limit) ∧ Returns (dictOf params) := by
    simp only [CallFieldsAccepted, hstream, hformat, heffort, hlimit, hparams, Option.some.injEq,
      forall_eq', returns_mapM, returns_nullable, returns_valueError]
    refine and_congr_right fun _ => and_congr_left fun _ => ?_
    cases stream <;> simp [vBool]
  rw [ends_exceptValueOrTypeError, ends_bind_of_errors htoolsCaught, haccepted]
  simp only [List.forall_mem_cons, List.not_mem_nil, false_implies, implies_true, and_true,
    hformat, hparams, Option.some.injEq, forall_eq']
  simp only [ends_bind_of_disjoint (resourceIdentityFromDict_ends _) not_caughtWithTypes_capacity,
    ends_bind_of_disjoint (modelFromDict_ends _) not_caughtWithTypes_selection,
    ends_bind_of_errors hmessagesCaught, ends_bind_of_errors (valueError_caughtWithTypes _),
    ends_bind_of_errors (nullable_ends (dictOf_ends _)),
    ends_bind_of_errors (nullable_caughtWithTypes _ _),
    ends_bind_of_errors (dictOf_ends _), ends_ok]
  constructor
  · intro h hobjects
    obtain ⟨toolRecords, htoolRecords⟩ := returns_mapM.mpr fun tool htool =>
      returns_toolFromDict.mpr (hobjects tool htool)
    obtain ⟨readResource, hreadResource, readModel, hreadModel, hrest⟩ :=
      h toolRecords htoolRecords
    refine ⟨⟨_, exceptValueError_eq_ok.mp hreadResource⟩, ⟨_, hreadModel⟩, ?_⟩
    rintro ⟨⟨_, hm⟩, ⟨_, hs⟩, ⟨_, hf⟩, ⟨_, he⟩, ⟨_, hl⟩, ⟨_, hp⟩⟩
    refine Iff.mp ?_ (hrest _ hm _ hs _ hf _ he _ hl _ hp)
    exact textKeyed_iff htoolRecords hf hp
  · intro h toolRecords htoolRecords
    obtain ⟨⟨readResource, hreadResource⟩, ⟨readModel, hreadModel⟩, hrest⟩ :=
      h fun tool htool => returns_toolFromDict.mp (returns_mapM.mp ⟨_, htoolRecords⟩ tool htool)
    refine ⟨readResource, exceptValueError_eq_ok.mpr hreadResource, readModel, hreadModel, ?_⟩
    intro _ hm _ hs _ hf _ he _ hl _ hp
    refine Iff.mpr ?_ (hrest ⟨⟨_, hm⟩, ⟨_, hs⟩, ⟨_, hf⟩, ⟨_, he⟩, ⟨_, hl⟩, ⟨_, hp⟩⟩)
    exact textKeyed_iff htoolRecords hf hp

/-! ### Messages of a worker -/

/-- The message of an `execute_result` is an object, as its declared type says. -/
def WorkerMessage.Valid : WorkerMessage → Prop
  | .executeResult _ _ _ (some message) _ _ => IsObject message
  | _ => True

/-- A type has one name. -/
theorem hasType_unique {record : Record} {a b : String} (ha : record.hasType a = true)
    (hb : record.hasType b = true) : a = b := by
  unfold Record.hasType at ha hb
  split at ha
  · rename_i s hs
    rw [hs] at hb
    exact Text.ofString_inj.mp ((of_decide_eq_true ha).symm.trans (of_decide_eq_true hb))
  · cases ha

theorem versionOf_strict (value : Json) : Strict (versionOf value) := by
  unfold versionOf
  split
  · split_ifs
    · trivial
    · exact isProtocol_malformed _
  · exact isProtocol_malformed _

theorem versionList_strict (value : Json) : Strict (versionList value) := by
  unfold versionList
  split
  · rename_i items
    split_ifs
    · have hitems : Strict (items.mapM versionOf) := ends_mapM fun item _ => versionOf_strict item
      split
      · rename_i e he
        rw [he] at hitems
        exact hitems
      · trivial
    · exact isProtocol_malformed _
  · exact isProtocol_malformed _

theorem objectOf_strict (fault : Fault) (value : Json) : Strict (objectOf fault value) := by
  unfold objectOf
  split
  · trivial
  · exact isProtocol_malformed _

theorem returns_objectOf {fault : Fault} {value : Json} :
    Returns (objectOf fault value) ↔ IsObject value := by
  cases value <;> simp [objectOf, IsObject]

theorem inventoriesOf_strict (value : Option Json) : Strict (inventoriesOf value) := by
  unfold inventoriesOf
  split
  · trivial
  · exact ends_then (ends_check.mpr ⟨fun _ => trivial, fun _ => isProtocol_malformed _⟩)
      fun _ _ => ends_mapM fun item _ => objectOf_strict _ item
  · exact isProtocol_malformed _

section Readers

variable (d : Json)

theorem helloFromPayload_ends : Ends Raised.IsProtocol WorkerMessage.Valid (helloFromPayload d) :=
  fromPayload_ends fun dd hkeys => by
    simp only [Record.hasKeys_cons, Record.hasKeys_nil, and_true] at hkeys
    obtain ⟨-, hid, hcredential, hversions⟩ := hkeys
    refine (ends_item hversions).mpr fun _ _ => ends_then (versionList_strict _).caught fun _ _ => ?_
    refine ends_then (read_caught hid) fun _ _ => ?_
    refine ends_then (read_caught hcredential) fun _ _ => ?_
    exact ends_then readOptional_caught fun _ _ => trivial

theorem pairRequestFromPayload_ends :
    Ends Raised.IsProtocol WorkerMessage.Valid (pairRequestFromPayload d) :=
  fromPayload_ends fun dd hkeys => by
    simp only [Record.hasKeys_cons, Record.hasKeys_nil, and_true] at hkeys
    obtain ⟨-, hcode, hversions⟩ := hkeys
    refine ends_then (read_caught hcode) fun _ _ => ?_
    refine (ends_item hversions).mpr fun _ _ => ends_then (versionList_strict _).caught fun _ _ => ?_
    exact ends_then readOptional_caught fun _ _ => trivial

theorem heartbeatFromPayload_ends :
    Ends Raised.IsProtocol WorkerMessage.Valid (heartbeatFromPayload d) :=
  fromPayload_ends fun dd hkeys => by
    simp only [Record.hasKeys_cons, Record.hasKeys_nil, and_true] at hkeys
    exact ends_then (read_caught hkeys.2) fun _ _ => trivial

theorem stateReportFromPayload_ends :
    Ends Raised.IsProtocol WorkerMessage.Valid (stateReportFromPayload d) :=
  fromPayload_ends fun dd hkeys => by
    simp only [Record.hasKeys_cons, Record.hasKeys_nil, and_true] at hkeys
    refine (ends_item hkeys.2).mpr fun _ _ => ends_then (objectOf_strict _ _).caught fun _ _ => ?_
    exact ends_then (inventoriesOf_strict _).caught fun _ _ => trivial

theorem executeChunkFromPayload_ends :
    Ends Raised.IsProtocol WorkerMessage.Valid (executeChunkFromPayload d) :=
  fromPayload_ends fun dd hkeys => by
    simp only [Record.hasKeys_cons, Record.hasKeys_nil, and_true] at hkeys
    obtain ⟨-, hid, hchunk⟩ := hkeys
    refine (ends_item hchunk).mpr fun _ _ => ends_then (objectOf_strict _ _).caught fun _ _ => ?_
    exact ends_then (read_caught hid) fun _ _ => trivial

theorem attemptInterruptedFromPayload_ends :
    Ends Raised.IsProtocol WorkerMessage.Valid (attemptInterruptedFromPayload d) :=
  fromPayload_ends fun dd hkeys => by
    simp only [Record.hasKeys_cons, Record.hasKeys_nil, and_true] at hkeys
    exact ends_then (read_caught hkeys.2) fun _ _ => trivial

theorem executeToolCallFromPayload_ends :
    Ends Raised.IsProtocol WorkerMessage.Valid (executeToolCallFromPayload d) :=
  fromPayload_ends fun dd hkeys => by
    simp only [Record.hasKeys_cons, Record.hasKeys_nil, and_true] at hkeys
    obtain ⟨-, hid, hcall, hname, harguments⟩ := hkeys
    refine ends_then (read_caught hid) fun _ _ => ?_
    refine ends_then (read_caught hcall) fun _ _ => ?_
    refine ends_then (read_caught hname) fun _ _ => ?_
    refine ends_then (read_caught harguments) fun _ _ => ?_
    exact ends_then readOptional_caught fun _ _ => trivial

theorem rotateCredentialFromPayload_ends :
    Ends Raised.IsProtocol WorkerMessage.Valid (rotateCredentialFromPayload d) :=
  fromPayload_ends fun _ _ => trivial

end Readers

/-- The status of a result is a text when the reader gets to it, and an accepted result has an
    object for its message. -/
def ResultContained (d : Json) : Prop :=
  ∀ dd, payloadShape d ["type", "attempt_id", "status", "calls"]
      ["message", "finish_reason", "note"] "execute_result" = .ok dd →
    dd.hasType "execute_result" = true →
    ∀ calls, dd.get? "calls" = some (.list calls) → (∀ call ∈ calls, IsObject call) →
    ∀ value, dd.get? "status" = some value → ∃ status, value = .string status ∧
      ((∃ known ∈ executeStatuses, status = Text.ofString known.text) →
        Returns (dd.read "attempt_id" (vSafeId · "execute_result.attempt_id")) →
        Returns (dd.readOptional "finish_reason" (vSafeId · "execute_result.finish_reason")) →
        Returns (dd.readOptional "note" (vText · "execute_result.note" 200)) →
        ∀ message, dd.present "message" = some message → IsObject message)

theorem executeStatusOf_strict (status : Text) : Strict (executeStatusOf status) := by
  unfold executeStatusOf
  split
  · trivial
  · exact isProtocol_malformed _

theorem errorCodeOf_strict (code : Text) : Strict (errorCodeOf code) := by
  unfold errorCodeOf
  split
  · trivial
  · exact isProtocol_malformed _

theorem returns_executeStatusOf {status : Text} : Returns (executeStatusOf status) ↔
    ∃ known ∈ executeStatuses, status = Text.ofString known.text := by
  unfold executeStatusOf
  cases hfind : executeStatuses.find? fun s => Text.ofString s.text = status with
  | none =>
    simp only [not_returns_error, false_iff, not_exists, not_and]
    rintro known hknown rfl
    exact List.find?_eq_none.mp hfind known hknown (decide_eq_true rfl)
  | some known =>
    simp only [returns_ok, true_iff]
    have htext := List.find?_some hfind
    rw [decide_eq_true_eq] at htext
    exact ⟨known, List.mem_of_find?_eq_some hfind, htext.symm⟩

theorem ends_typed {α : Type} {V : α → Prop} {dd : Record} {expected : String}
    {f : Unit → Except Raised α} : Ends Raised.IsProtocol V (typed dd expected >>= f) ↔
      (dd.hasType expected = true → Ends Raised.IsProtocol V (f ())) := by
  rw [ends_bind, typed, ends_check, and_iff_left]
  exact fun _ => isProtocol_malformed _

/-- A text that is read outside a `try` raises a `ValueError` when it is no text. -/
theorem ends_readStr {α : Type} {V : α → Prop} {dd : Record} {key field : String} {value : Json}
    {f : Text → Except Raised α} (h : dd.get? key = some value) :
    Ends Raised.IsProtocol V (dd.read key (vStr · field) >>= f) ↔
      ∃ text, value = .string text ∧ Ends Raised.IsProtocol V (f text) := by
  unfold Record.read
  rw [Record.item_of h, ok_bind]
  cases value <;> simp [vStr, valueError, Except.mapError]

/-- **`execute_result` is read strictly and validly exactly from the contained objects.** -/
theorem executeResultFromPayload_ends_iff (d : Json) :
    Ends Raised.IsProtocol WorkerMessage.Valid (executeResultFromPayload d) ↔
      ResultContained d := by
  unfold executeResultFromPayload ResultContained
  rw [ends_bind_of_errors (payloadShape_strict _ _ _ _)]
  refine forall₂_congr fun dd hdd => ?_
  obtain ⟨-, -, hkeys⟩ := payloadShape_eq_ok.mp hdd
  simp only [Record.hasKeys_cons, Record.hasKeys_nil, and_true, Option.isSome_iff_exists] at hkeys
  obtain ⟨-, ⟨attemptId, hid⟩, ⟨status, hstatus⟩, ⟨calls, hcalls⟩⟩ := hkeys
  rw [ends_typed]
  refine imp_congr_right fun _ => ?_
  simp only [Record.item_of hcalls, ok_bind, ends_listOf, hcalls, hstatus, Option.some.injEq,
    forall_eq']
  refine forall₂_congr fun items _ => ?_
  have hitemsStrict : Strict (items.mapM (objectOf
      (.stated "execute_result.calls: expected objects"))) :=
    ends_mapM fun item _ => objectOf_strict _ item
  have hreturns : Returns (items.mapM (objectOf
      (.stated "execute_result.calls: expected objects"))) ↔ ∀ item ∈ items, IsObject item := by
    simp only [returns_mapM, returns_objectOf]
  rw [ends_bind_of_errors hitemsStrict, ← hreturns, Returns, forall_exists_index]
  refine forall₂_congr fun records _ => ?_
  rw [ends_readStr hstatus]
  refine exists_congr fun text => and_congr_right fun _ => ?_
  rw [ends_bind_of_errors (executeStatusOf_strict _), ← returns_executeStatusOf]
  simp only [Returns, forall_exists_index, ends_exceptValueError,
    ends_bind_of_errors (read_caught (Option.isSome_of_eq_some hid)),
    ends_bind_of_errors readOptional_caught, ends_ok]
  refine forall₂_congr fun known _ => forall₂_congr fun id _ => forall₂_congr fun reason _ =>
    forall₂_congr fun note _ => ?_
  cases dd.present "message" <;> simp [WorkerMessage.Valid]

/-- Only an `execute_result` can be left uncontained. -/
def WorkerContained (payload : Record) : Prop :=
  payload.hasType "execute_result" = true → ResultContained (.object payload)

/-- **`parse_worker_message` is strict and valid exactly on the contained objects.** -/
theorem parseWorkerMessage_ends_iff (payload : Record) :
    Ends Raised.IsProtocol WorkerMessage.Valid (parseWorkerMessage payload) ↔
      WorkerContained payload := by
  -- Under another type the condition is empty, and the reader contains its errors.
  have hother : ∀ {name : String} {read : Json → Except Raised WorkerMessage},
      payload.hasType name = true → name ≠ "execute_result" →
      (∀ d, Ends Raised.IsProtocol WorkerMessage.Valid (read d)) →
      (Ends Raised.IsProtocol WorkerMessage.Valid (read (.object payload)) ↔
        WorkerContained payload) := by
    intro name read hname hne hread
    exact iff_of_true (hread _) fun hresult => absurd (hasType_unique hname hresult) hne
  unfold parseWorkerMessage
  dsimp only
  split_ifs with h₁ h₂ h₃ h₄ h₅ h₆ h₇ h₈ h₉
  · exact hother h₁ (by decide) helloFromPayload_ends
  · exact hother h₂ (by decide) pairRequestFromPayload_ends
  · exact hother h₃ (by decide) heartbeatFromPayload_ends
  · exact hother h₄ (by decide) stateReportFromPayload_ends
  · exact hother h₅ (by decide) executeChunkFromPayload_ends
  · rw [executeResultFromPayload_ends_iff]
    exact ⟨fun h _ => h, fun h => h h₆⟩
  · exact hother h₇ (by decide) attemptInterruptedFromPayload_ends
  · exact hother h₈ (by decide) executeToolCallFromPayload_ends
  · exact hother h₉ (by decide) rotateCredentialFromPayload_ends
  · exact iff_of_true (isProtocol_workerProtocol _) fun hresult => absurd hresult h₆

/-! ### Messages of the server -/

/-- The call of an `execute` has mappings of texts, as its declared types say. -/
def ServerMessage.Valid : ServerMessage → Prop
  | .execute _ _ _ _ call => call.TextKeyed
  | _ => True

section Readers

variable (d : Json)

theorem helloAckFromPayload_ends :
    Ends Raised.IsProtocol ServerMessage.Valid (helloAckFromPayload d) :=
  fromPayload_ends fun dd hkeys => by
    simp only [Record.hasKeys_cons, Record.hasKeys_nil, and_true] at hkeys
    obtain ⟨-, hversion, hinterval⟩ := hkeys
    refine ends_then (read_caught hversion) fun _ _ => ?_
    exact ends_then (read_caught hinterval) fun _ _ => trivial

theorem pairResultFromPayload_ends :
    Ends Raised.IsProtocol ServerMessage.Valid (pairResultFromPayload d) :=
  fromPayload_ends fun dd hkeys => by
    simp only [Record.hasKeys_cons, Record.hasKeys_nil, and_true] at hkeys
    obtain ⟨-, hversion, hid, hcredential, hinterval⟩ := hkeys
    refine ends_then (read_caught hversion) fun _ _ => ?_
    refine ends_then (read_caught hid) fun _ _ => ?_
    refine ends_then (read_caught hcredential) fun _ _ => ?_
    exact ends_then (read_caught hinterval) fun _ _ => trivial

theorem heartbeatAckFromPayload_ends :
    Ends Raised.IsProtocol ServerMessage.Valid (heartbeatAckFromPayload d) :=
  fromPayload_ends fun dd hkeys => by
    simp only [Record.hasKeys_cons, Record.hasKeys_nil, and_true] at hkeys
    exact ends_then (read_caught hkeys.2) fun _ _ => trivial

theorem stateReportAckFromPayload_ends :
    Ends Raised.IsProtocol ServerMessage.Valid (stateReportAckFromPayload d) :=
  fromPayload_ends fun _ _ => trivial

theorem cancelFromPayload_ends :
    Ends Raised.IsProtocol ServerMessage.Valid (cancelFromPayload d) :=
  fromPayload_ends fun dd hkeys => by
    simp only [Record.hasKeys_cons, Record.hasKeys_nil, and_true] at hkeys
    exact ends_then (read_caught hkeys.2) fun _ _ => trivial

theorem executeToolResultFromPayload_ends :
    Ends Raised.IsProtocol ServerMessage.Valid (executeToolResultFromPayload d) :=
  fromPayload_ends fun dd hkeys => by
    simp only [Record.hasKeys_cons, Record.hasKeys_nil, and_true] at hkeys
    obtain ⟨-, hid, hcall, hcontent⟩ := hkeys
    refine ends_then (read_caught hid) fun _ _ => ?_
    refine ends_then (read_caught hcall) fun _ _ => ?_
    exact ends_then (read_caught hcontent) fun _ _ => trivial

theorem credentialRotatedFromPayload_ends :
    Ends Raised.IsProtocol ServerMessage.Valid (credentialRotatedFromPayload d) :=
  fromPayload_ends fun dd hkeys => by
    simp only [Record.hasKeys_cons, Record.hasKeys_nil, and_true] at hkeys
    exact ends_then (read_caught hkeys.2) fun _ _ => trivial

end Readers

/-- The call of an `execute` is contained when the reader gets to it. -/
def ExecuteContained (d : Json) : Prop :=
  ∀ dd, payloadShape d ["type", "request_id", "attempt_id", "adapter_id", "deadline", "call"] []
      "execute" = .ok dd →
    dd.hasType "execute" = true →
    Returns (dd.read "request_id" (vSafeId · "execute.request_id")) →
    Returns (dd.read "attempt_id" (vSafeId · "execute.attempt_id")) →
    Returns (dd.read "adapter_id" (vSafeId · "execute.adapter_id")) →
    Returns (dd.read "deadline" (vStr · "execute.deadline")) →
    ∀ call, dd.get? "call" = some call → CallContained call

/-- The code of an error is a text when the reader gets to it. -/
def ErrorContained (d : Json) : Prop :=
  ∀ dd, payloadShape d ["type", "code", "message", "fatal"] [] "error" = .ok dd →
    dd.hasType "error" = true → ∀ value, dd.get? "code" = some value → ∃ code, value = .string code

/-- No `ValueError` passes the wider clause. -/
theorem exceptValueOrTypeError_notValue {α : Type} (x : Except Raised α) :
    Ends (fun e => e.IsCaught → e.IsProtocol) (fun _ => True) (exceptValueOrTypeError x) := by
  cases x with
  | ok a => trivial
  | error e =>
    cases e with
    | workerProtocol error => exact fun _ => isProtocol_workerProtocol error
    | value fault => exact fun _ => isProtocol_malformed fault
    | type fault => exact fun _ => isProtocol_malformed fault
    | _ => exact fun h => absurd h id

theorem listOf_strict (label : String) (value : Json) : Strict (listOf label value) := by
  unfold listOf
  split
  · trivial
  · exact isProtocol_malformed _

/-- A reader under `except ValueError` raises no `ValueError` itself, so a second clause around it
    contains nothing more. -/
theorem adapterCallFromDict_caught_iff {V : AdapterCall → Prop} (d : Json) :
    Ends Raised.IsCaught V (adapterCallFromDict d) ↔
      Ends Raised.IsProtocol V (adapterCallFromDict d) := by
  have hvalue : Ends (fun e => e.IsCaught → e.IsProtocol) (fun _ => True)
      (adapterCallFromDict d) := by
    refine ends_then ((payloadShape_strict _ _ _ _).mono (fun _ he _ => he) fun _ _ _ => trivial)
      fun dd hdd => ?_
    obtain ⟨-, -, hkeys⟩ := payloadShape_eq_ok.mp hdd
    simp only [callKeys, Record.hasKeys_cons, Record.hasKeys_nil, and_true] at hkeys
    obtain ⟨-, -, hmessages, -, htools, -⟩ := hkeys
    refine (ends_item hmessages).mpr fun _ _ => ends_then ((listOf_strict _ _).mono
      (fun _ he _ => he) fun _ _ _ => trivial) fun _ _ => ?_
    refine (ends_item htools).mpr fun _ _ => ends_then ((listOf_strict _ _).mono
      (fun _ he _ => he) fun _ _ _ => trivial) fun _ _ => ?_
    exact exceptValueOrTypeError_notValue _
  cases hread : adapterCallFromDict d with
  | ok call => rfl
  | error e =>
    rw [hread] at hvalue
    exact ⟨fun he => hvalue he, fun he => he.isCaught⟩

/-- **`execute` is read strictly and validly exactly from the contained objects.** -/
theorem executeFromPayload_ends_iff (d : Json) :
    Ends Raised.IsProtocol ServerMessage.Valid (executeFromPayload d) ↔ ExecuteContained d := by
  unfold executeFromPayload fromPayload ExecuteContained
  rw [ends_bind_of_errors (payloadShape_strict _ _ _ _)]
  refine forall₂_congr fun dd hdd => ?_
  obtain ⟨-, -, hkeys⟩ := payloadShape_eq_ok.mp hdd
  simp only [Record.hasKeys_cons, Record.hasKeys_nil, and_true] at hkeys
  obtain ⟨-, hrequest, hattempt, hadapter, hdeadline, hcall⟩ := hkeys
  rw [ends_typed, ends_exceptValueError]
  refine imp_congr_right fun _ => ?_
  simp only [Returns, forall_exists_index, ends_bind_of_errors (read_caught hrequest),
    ends_bind_of_errors (read_caught hattempt), ends_bind_of_errors (read_caught hadapter),
    ends_bind_of_errors (read_caught hdeadline), ends_item hcall]
  refine forall₂_congr fun _ _ => forall₂_congr fun _ _ => forall₂_congr fun _ _ =>
    forall₂_congr fun _ _ => forall₂_congr fun call _ => ?_
  rw [← adapterCallFromDict_ends_iff, ← adapterCallFromDict_caught_iff, ends_bind]
  rfl

/-- **`error` is read strictly exactly from the contained objects.** -/
theorem errorFromPayload_ends_iff (d : Json) :
    Ends Raised.IsProtocol ServerMessage.Valid (errorFromPayload d) ↔ ErrorContained d := by
  unfold errorFromPayload ErrorContained
  rw [ends_bind_of_errors (payloadShape_strict _ _ _ _)]
  refine forall₂_congr fun dd hdd => ?_
  obtain ⟨-, -, hkeys⟩ := payloadShape_eq_ok.mp hdd
  simp only [Record.hasKeys_cons, Record.hasKeys_nil, and_true] at hkeys
  obtain ⟨-, hcode, hmessage, hfatal⟩ := hkeys
  obtain ⟨value, hvalue⟩ := Option.isSome_iff_exists.mp hcode
  rw [ends_typed, ends_readStr hvalue]
  simp only [hvalue, Option.some.injEq, forall_eq']
  refine imp_congr_right fun _ => exists_congr fun text => and_iff_left ?_
  refine ends_then (errorCodeOf_strict text) fun _ _ => ends_exceptValueError.mpr ?_
  refine ends_then (read_caught hmessage) fun _ _ => ?_
  exact ends_then (read_caught hfatal) fun _ _ => trivial

/-- Only an `execute` and an `error` can be left uncontained. -/
def ServerContained (payload : Record) : Prop :=
  (payload.hasType "execute" = true → ExecuteContained (.object payload)) ∧
  (payload.hasType "error" = true → ErrorContained (.object payload))

/-- **`parse_server_message` is strict and valid exactly on the contained objects.** -/
theorem parseServerMessage_ends_iff (payload : Record) :
    Ends Raised.IsProtocol ServerMessage.Valid (parseServerMessage payload) ↔
      ServerContained payload := by
  have hother : ∀ {name : String} {read : Json → Except Raised ServerMessage},
      payload.hasType name = true → name ≠ "execute" → name ≠ "error" →
      (∀ d, Ends Raised.IsProtocol ServerMessage.Valid (read d)) →
      (Ends Raised.IsProtocol ServerMessage.Valid (read (.object payload)) ↔
        ServerContained payload) := by
    intro name read hname hexecute herror hread
    exact iff_of_true (hread _) ⟨fun h => absurd (hasType_unique hname h) hexecute,
      fun h => absurd (hasType_unique hname h) herror⟩
  unfold parseServerMessage
  dsimp only
  split_ifs with h₁ h₂ h₃ h₄ h₅ h₆ h₇ h₈ h₉
  · exact hother h₁ (by decide) (by decide) helloAckFromPayload_ends
  · exact hother h₂ (by decide) (by decide) pairResultFromPayload_ends
  · exact hother h₃ (by decide) (by decide) heartbeatAckFromPayload_ends
  · exact hother h₄ (by decide) (by decide) stateReportAckFromPayload_ends
  · rw [executeFromPayload_ends_iff]
    exact ⟨fun h => ⟨fun _ => h, fun herror => absurd (hasType_unique h₅ herror) (by decide)⟩,
      fun h => h.1 h₅⟩
  · exact hother h₆ (by decide) (by decide) cancelFromPayload_ends
  · exact hother h₇ (by decide) (by decide) executeToolResultFromPayload_ends
  · exact hother h₈ (by decide) (by decide) credentialRotatedFromPayload_ends
  · rw [errorFromPayload_ends_iff]
    exact ⟨fun h => ⟨fun hexecute => absurd hexecute h₅, fun _ => h⟩, fun h => h.2 h₉⟩
  · exact iff_of_true (isProtocol_workerProtocol _)
      ⟨fun h => absurd h h₅, fun h => absurd h h₉⟩

/-! ### All readers -/

/-- **The readers return a valid record or raise a `WorkerProtocolError` exactly on the contained
    objects.** -/
theorem readers_contained (payload : Record) (d : Json) :
    (Ends Raised.IsProtocol WorkerMessage.Valid (parseWorkerMessage payload) ↔
      WorkerContained payload) ∧
    (Ends Raised.IsProtocol ServerMessage.Valid (parseServerMessage payload) ↔
      ServerContained payload) ∧
    (Strict (chunkFromDict d) ↔ ChunkContained d) ∧
    (Strict (callObservationFromDict d) ↔ ObservationContained d) :=
  ⟨parseWorkerMessage_ends_iff payload, parseServerMessage_ends_iff payload,
    chunkFromDict_strict_iff d, callObservationFromDict_strict_iff d⟩

/-- An error whose code is a number escapes as a `ValueError`. -/
theorem errorFromPayload_leaks_value :
    ¬ ∀ d : Dict, Ends Raised.IsProtocol ServerMessage.Valid (parseServerMessage d.members) := by
  intro h
  have hleak := (parseServerMessage_ends_iff _).mp (h ⟨[member "type" (textJson "error"),
    member "code" (.int 5), member "message" (textJson "m"), member "fatal" (.bool true)],
    by decide +kernel⟩)
  obtain ⟨code, hcode⟩ := hleak.2 (by decide +kernel) _ (payloadShape_of (by simp) (by simp))
    (by decide +kernel) (.int 5) (by simp)
  cases hcode

end ScarcityRouter
