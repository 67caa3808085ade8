import ScarcityRouter.Worker.AttemptRuns
import ScarcityRouter.Worker.Strictness
import ScarcityRouter.Gateway.Outcomes

namespace ScarcityRouter

open ScarcityRouter.Lib

/-!
# What a worker's result becomes

`worker_bridged_adapter.py` (`_result_from`, `_calls_from`) over the completion step of the session:
the outcome that the waiter takes is made the result of a dispatch.

* `AdapterResult.make` — the checks of `AdapterResult.__post_init__`.
* `resultFrom` — `_result_from`; `ResultRaised` tells its own error from the ones it lets through.
* `ResultConverts` — the results that reach no unguarded step, in the session or in the adapter.
* `completion_typed_iff` — **the attempt is resolved, and the outcome ends typed, exactly for
  these results.**
-/

/-! ### The record of a result -/

/-- `v_enum` of an optional finish reason. -/
def vFinishReason (reason : Option SafeId) : Except Fault (Option FinishReason) :=
  match reason with
  | none => .ok none
  | some reason =>
    some <$> vEnum finishReasons FinishReason.text reason.json "adapter_result.finish_reason"

/-- The calls come by index, each index once. -/
abbrev IndexOrdered (calls : List CallObservation) : Prop :=
  calls.Pairwise (·.callIndex.1 < ·.callIndex.1)

/-- `AdapterResult.__post_init__`: first the calls, then the message and the finish reason. -/
def AdapterResult.make (status : ResultStatus) (calls : List CallObservation)
    (message : Option AdapterMessage) (finishReason : Option SafeId) :
    Except Fault AdapterResult := do
  check (calls.Pairwise (·.callIndex.1 ≤ ·.callIndex.1))
    (.stated "adapter_result.calls: must be ordered by call_index")
  if hordered : IndexOrdered calls then
    if hmessage : status = .completed → message.isSome = true then
      let finishReason ← vFinishReason finishReason
      if hreason : status = .completed → finishReason.isSome = true then
        .ok
          { status := status
            calls := calls
            message := message
            finishReason := finishReason
            ordered := hordered
            carries_message := fun h => Option.isSome_iff_ne_none.mp (hmessage h)
            carries_reason := fun h => Option.isSome_iff_ne_none.mp (hreason h) }
      else .error (.stated "adapter_result: a completed result carries a finish reason")
    else .error (.stated "adapter_result: a completed result carries its message")
  else .error (.stated "adapter_result.calls: duplicate call_index")

/-! ### The conversion -/

/-- What `_result_from` raises: its own error, or an exception that it lets through. -/
inductive ResultRaised where
  | adapterPermanent (message : Text)
  | through (e : Raised)

/-- `except WorkerProtocolError as exc: raise AdapterPermanentError(…)`. -/
def exceptProtocolError {α : Type} (message : String) : Except Raised α → Except ResultRaised α
  | .ok a => .ok a
  | .error (.workerProtocol _) => .error (.adapterPermanent (Text.ofString message))
  | .error e => .error (.through e)

/-- `outcome_note`. -/
def outcomeNote (outcome : AttemptOutcome) : Text :=
  match outcome.note with
  | some note => if note = "" then noteOfResult else (Text.ofString note).take 200
  | none => noteOfResult
where
  /-- The note of the result, which is not empty. -/
  noteOfResult : Text :=
    match outcome.result.bind ExecuteResultMessage.note with
    | some note => note.1.take 200
    | none => Text.ofString "the worker-reported execution failed"

/-- `_calls_from`. -/
def callsFrom (rawCalls : List Record) : Except ResultRaised (List CallObservation) :=
  rawCalls.mapM fun raw => exceptProtocolError "the worker reported an invalid usage observation"
    (callObservationFromDict (.object raw))

/-- The keys that `sorted` can compare with one another: texts, numbers, or a single key. -/
def comparable (keys : List Json) : Bool :=
  keys.all isText || keys.all isNumber || keys.length ≤ 1
where
  isText : Json → Bool
    | .string _ => true
    | _ => false
  isNumber : Json → Bool
    | .bool _ | .int _ | .float _ => true
    | _ => false

/-- The keys that `message_from_dict` knows. -/
def messageKeys : List String :=
  ["role", "content", "reasoning", "tool_calls", "tool_call_id", "name"]

/-- The keys that a message does not have. -/
def foreignKeys (mapping : Mapping) : List Json :=
  (mapping.map Prod.fst).filter fun key =>
    !messageKeys.any fun name => key.sameKey (textJson name)

/-- `message_from_dict` of a dictionary, whose keys need not be texts: `exact_shape` sorts the
    unknown keys for its message. -/
def messageFromMapping (mapping : Mapping) : Except Raised AdapterMessage :=
  match mapping.record? with
  | some record => messageFromDict (.object record)
  | none =>
    if comparable (foreignKeys mapping) then
      .error (malformed (.stated "protocol.message: unknown keys"))
    else .error (.type (.stated "'<' not supported between instances"))

/-- `message_from_dict(dict(result.message)) if result.message is not None else None`. -/
def messageFrom (message : Option Json) : Except ResultRaised (Option AdapterMessage) :=
  match message with
  | none => .ok none
  | some message =>
    exceptProtocolError "the worker reported an invalid execution result" do
      some <$> messageFromMapping (← dictOf message)

/-- The error of a validated record, which nothing around it catches. -/
def uncaught {α : Type} (x : Except Fault α) : Except ResultRaised α :=
  x.mapError fun fault => .through (.value fault)

/-- What `_result_from` does with a completed result. -/
def completedFrom (calls : List CallObservation) (result : ExecuteResultMessage) :
    Except ResultRaised AdapterResult := do
  match ← messageFrom result.message, result.finishReason with
  | some message, some reason =>
    uncaught (AdapterResult.make .completed calls (some message) (some reason))
  | _, _ =>
    .error (.adapterPermanent (Text.ofString "the worker reported an incomplete execution result"))

/-- `_result_from`. -/
def resultFrom (outcome : AttemptOutcome) : Except ResultRaised AdapterResult :=
  match outcome.result with
  | none =>
    .error (.adapterPermanent (Text.ofString "the worker reported an unusable result"))
  | some result => do
    let calls ← callsFrom result.calls
    match result.status with
    | .failed => .error (.adapterPermanent (outcomeNote outcome))
    | .cancelled => uncaught (AdapterResult.make .cancelled calls none none)
    | .completed => completedFrom calls result

/-! ### Errors -/

/-- The error of `_result_from` itself. -/
def ResultRaised.IsPermanent (e : ResultRaised) : Prop := ∃ message, e = .adapterPermanent message

/-- Every error is an `AdapterPermanentError`. -/
abbrev EndsTyped {α : Type} (x : Except ResultRaised α) : Prop :=
  Ends ResultRaised.IsPermanent (fun _ => True) x

@[simp] theorem isPermanent_adapterPermanent (message : Text) :
    (ResultRaised.adapterPermanent message).IsPermanent := ⟨message, rfl⟩

@[simp] theorem not_isPermanent_through (e : Raised) : ¬ (ResultRaised.through e).IsPermanent :=
  fun ⟨_, h⟩ => nomatch h

/-- **`except WorkerProtocolError`.** -/
@[simp] theorem ends_exceptProtocolError {α : Type} {V : α → Prop} {message : String}
    {x : Except Raised α} : Ends ResultRaised.IsPermanent V (exceptProtocolError message x) ↔
      Ends Raised.IsProtocol V x := by
  cases x with
  | ok a => rfl
  | error e => cases e <;> simp [exceptProtocolError, Raised.IsProtocol]

@[simp] theorem exceptProtocolError_eq_ok {α : Type} {message : String} {x : Except Raised α}
    {a : α} : exceptProtocolError message x = .ok a ↔ x = .ok a := by
  cases x with
  | ok b => simp [exceptProtocolError]
  | error e => cases e <;> simp [exceptProtocolError]

@[simp] theorem endsTyped_uncaught {α : Type} {x : Except Fault α} :
    EndsTyped (uncaught x) ↔ Returns x := by
  cases x <;> simp [uncaught, Except.mapError, EndsTyped]

/-! ### Parts of the conversion -/

theorem returns_vFinishReason {reason : SafeId} : Returns (vFinishReason (some reason)) ↔
    ∃ known ∈ finishReasons, reason.toText = Text.ofString known.text := by
  unfold vFinishReason vEnum SafeId.json
  rw [returns_map, vStr_string, ok_bind]
  cases hfind : finishReasons.find? fun a => Text.ofString a.text = reason.toText with
  | none =>
    simp only [not_returns_error, false_iff, not_exists, not_and]
    intro known hknown heq
    exact List.find?_eq_none.mp hfind known hknown (decide_eq_true heq.symm)
  | some known =>
    simp only [returns_ok, true_iff]
    have htext := List.find?_some hfind
    rw [decide_eq_true_eq] at htext
    exact ⟨known, List.mem_of_find?_eq_some hfind, htext.symm⟩

/-- Distinct indexes that do not fall are increasing. -/
theorem sorted_of_indexOrdered {calls : List CallObservation} (h : IndexOrdered calls) :
    calls.Pairwise (·.callIndex ≤ ·.callIndex) := h.imp le_of_lt

/-- A cancelled result is built exactly from calls in order. -/
theorem returns_make_cancelled {calls : List CallObservation} :
    Returns (AdapterResult.make .cancelled calls none none) ↔ IndexOrdered calls := by
  unfold AdapterResult.make
  rw [returns_check_bind]
  constructor
  · rintro ⟨-, h⟩
    by_contra hordered
    rw [dif_neg hordered] at h
    exact not_returns_error _ h
  · intro hordered
    refine ⟨sorted_of_indexOrdered hordered, ?_⟩
    rw [dif_pos hordered, dif_pos (fun h => nomatch h)]
    exact returns_ok _

/-- A completed result is built exactly from calls in order and a known finish reason. -/
theorem returns_make_completed {calls : List CallObservation} {message : AdapterMessage}
    {reason : SafeId} :
    Returns (AdapterResult.make .completed calls (some message) (some reason)) ↔
      IndexOrdered calls ∧ ∃ known ∈ finishReasons, reason.toText = Text.ofString known.text := by
  have hmessage : ResultStatus.completed = .completed → (some message).isSome = true :=
    fun _ => rfl
  rw [← returns_vFinishReason]
  unfold AdapterResult.make
  rw [returns_check_bind]
  constructor
  · rintro ⟨-, h⟩
    by_cases hordered : IndexOrdered calls
    · rw [dif_pos hordered, dif_pos hmessage, returns_bind] at h
      obtain ⟨found, hfound, -⟩ := h
      exact ⟨hordered, found, hfound⟩
    · rw [dif_neg hordered] at h
      exact absurd h (not_returns_error _)
  · rintro ⟨hordered, hreason⟩
    refine ⟨sorted_of_indexOrdered hordered, ?_⟩
    obtain ⟨found, hfound⟩ := hreason
    have hsome : found.isSome = true := by
      obtain ⟨known, -, rfl⟩ := map_eq_ok.mp hfound
      rfl
    rw [dif_pos hordered, dif_pos hmessage, hfound, ok_bind, dif_pos (fun _ => hsome)]
    exact returns_ok _

/-- The calls of a result are read as the given observations. -/
def CallsRead (rawCalls : List Record) (calls : List CallObservation) : Prop :=
  rawCalls.mapM (fun raw => callObservationFromDict (.object raw)) = .ok calls

/-- The first call that is not read has a status with a hash. -/
def CallsContained (rawCalls : List Record) : Prop :=
  ∀ before raw after, rawCalls = before ++ raw :: after →
    (∀ earlier ∈ before, Returns (callObservationFromDict (.object earlier))) →
    ObservationContained (.object raw)

theorem callsFrom_eq_ok {rawCalls : List Record} {calls : List CallObservation} :
    callsFrom rawCalls = .ok calls ↔ CallsRead rawCalls calls := by
  unfold callsFrom CallsRead
  rw [mapM_eq_ok, mapM_eq_ok]
  simp only [exceptProtocolError_eq_ok]

theorem callsFrom_typed {rawCalls : List Record} :
    EndsTyped (callsFrom rawCalls) ↔ CallsContained rawCalls := by
  unfold callsFrom EndsTyped
  rw [ends_mapM_iff]
  refine forall₂_congr fun before raw => forall₂_congr fun after _ => ?_
  have hreturns : ∀ record, Returns (exceptProtocolError
      "the worker reported an invalid usage observation"
      (callObservationFromDict (.object record))) ↔
      Returns (callObservationFromDict (.object record)) := fun _ =>
    exists_congr fun _ => exceptProtocolError_eq_ok
  simp only [hreturns, ends_exceptProtocolError]
  exact imp_congr_right fun _ => callObservationFromDict_strict_iff _

/-- A message that `dict` takes, and whose unknown keys can be sorted. -/
def MessageContained (message : Json) : Prop :=
  ∃ mapping, dictOf message = .ok mapping ∧
    (mapping.record? = none → comparable (foreignKeys mapping) = true)

/-- The message of a completed result is read as the given one. -/
def MessageRead (message : Json) (read : AdapterMessage) : Prop :=
  (dictOf message >>= messageFromMapping) = .ok read

theorem messageFromMapping_strict_iff {mapping : Mapping} : Strict (messageFromMapping mapping) ↔
    (mapping.record? = none → comparable (foreignKeys mapping) = true) := by
  unfold messageFromMapping
  cases mapping.record? with
  | some record => simpa using messageFromDict_strict (.object record)
  | none =>
    dsimp only
    split_ifs with h
    · simp [Strict, h]
    · simp [Strict, h]

/-- `dict` raises no error of the protocol. -/
theorem dictOf_not_protocol (value : Json) :
    Ends (fun e => ¬ e.IsProtocol) (fun _ => True) (dictOf value) := by
  have hpair : ∀ element,
      Ends (fun e : Raised => ¬ e.IsProtocol) (fun _ => True) (pairOf element) := by
    intro element
    unfold pairOf
    split
    all_goals simp
  unfold dictOf
  split
  · trivial
  · refine ends_foldlM fun mapping element _ => ends_then (hpair element) fun _ _ => ?_
    exact ends_then (ends_check.mpr ⟨fun _ => trivial, fun _ => by simp⟩) fun _ _ => trivial
  all_goals simp

theorem messageFrom_typed {message : Json} :
    EndsTyped (messageFrom (some message)) ↔ MessageContained message := by
  unfold messageFrom EndsTyped MessageContained
  rw [ends_exceptProtocolError,
    ends_bind_of_disjoint (dictOf_not_protocol message) fun _ h => h]
  refine exists_congr fun mapping => and_congr_right fun _ => ?_
  rw [ends_map]
  exact messageFromMapping_strict_iff

theorem messageFrom_eq_ok {message : Json} {read : Option AdapterMessage} :
    messageFrom (some message) = .ok read ↔ ∃ found, MessageRead message found ∧
      read = some found := by
  unfold messageFrom MessageRead
  rw [exceptProtocolError_eq_ok, bind_eq_ok]
  simp only [map_eq_ok, bind_eq_ok]
  constructor
  · rintro ⟨mapping, hmapping, found, hfound, rfl⟩
    exact ⟨found, ⟨mapping, hmapping, hfound⟩, rfl⟩
  · rintro ⟨found, ⟨mapping, hmapping, hfound⟩, rfl⟩
    exact ⟨mapping, hmapping, found, hfound, rfl⟩

/-! ### The conversion -/

/-- The documents of a result reach no unguarded step of `_result_from`. -/
structure ConversionContained (result : ExecuteResultMessage) : Prop where
  calls : CallsContained result.calls
  cancelled : result.status = .cancelled →
    ∀ calls, CallsRead result.calls calls → IndexOrdered calls
  message : result.status = .completed → ∀ calls, CallsRead result.calls calls →
    ∀ message, result.message = some message → MessageContained message
  completed : result.status = .completed → ∀ calls, CallsRead result.calls calls →
    ∀ message read reason, result.message = some message → MessageRead message read →
      result.finishReason = some reason →
      IndexOrdered calls ∧ ∃ known ∈ finishReasons, reason.toText = Text.ofString known.text

/-- A completed result, after its calls. -/
theorem completedFrom_typed {calls : List CallObservation} {result : ExecuteResultMessage} :
    EndsTyped (completedFrom calls result) ↔
      (∀ message, result.message = some message → MessageContained message) ∧
      ∀ message read reason, result.message = some message → MessageRead message read →
        result.finishReason = some reason →
        IndexOrdered calls ∧ ∃ known ∈ finishReasons, reason.toText = Text.ofString known.text := by
  unfold completedFrom EndsTyped
  rw [ends_bind_and]
  cases hmessage : result.message with
  | none => simp [messageFrom]
  | some message =>
    refine and_congr (messageFrom_typed.trans (by simp)) ?_
    simp only [messageFrom_eq_ok]
    constructor
    · intro h found read reason hfound hread hreason
      obtain rfl := Option.some.inj hfound
      have hends := h (some read) ⟨read, hread, rfl⟩
      rw [hreason] at hends
      exact returns_make_completed.mp (endsTyped_uncaught.mp hends)
    · rintro h _ ⟨read, hread, rfl⟩
      cases hreason : result.finishReason with
      | none => exact isPermanent_adapterPermanent _
      | some reason =>
        exact endsTyped_uncaught.mpr (returns_make_completed.mpr
          (h message read reason rfl hread hreason))

/-- **`_result_from` ends typed exactly on the contained results.** -/
theorem resultFrom_typed {outcome : AttemptOutcome} {result : ExecuteResultMessage}
    (hresult : outcome.result = some result) :
    EndsTyped (resultFrom outcome) ↔ ConversionContained result := by
  unfold resultFrom
  rw [hresult]
  dsimp only
  rw [EndsTyped, ends_bind_and]
  simp only [callsFrom_eq_ok]
  constructor
  · rintro ⟨hcalls, hrest⟩
    refine ⟨callsFrom_typed.mp hcalls, ?_, ?_, ?_⟩
    · intro hstatus calls hread
      have hends := hrest calls hread
      rw [hstatus] at hends
      exact returns_make_cancelled.mp (endsTyped_uncaught.mp hends)
    · intro hstatus calls hread
      have hends := hrest calls hread
      rw [hstatus] at hends
      exact (completedFrom_typed.mp hends).1
    · intro hstatus calls hread
      have hends := hrest calls hread
      rw [hstatus] at hends
      exact (completedFrom_typed.mp hends).2
  · intro h
    refine ⟨callsFrom_typed.mpr h.calls, fun calls hread => ?_⟩
    cases hstatus : result.status with
    | failed => exact isPermanent_adapterPermanent _
    | cancelled =>
      exact endsTyped_uncaught.mpr (returns_make_cancelled.mpr (h.cancelled hstatus calls hread))
    | completed =>
      exact completedFrom_typed.mpr ⟨h.message hstatus calls hread, h.completed hstatus calls hread⟩

/-! ### The completion step -/

/-- The attempt that a result names is resolved by the completion step, and the adapter ends the
    outcome with a result or with `AdapterPermanentError`. -/
def CompletesTyped (s : AttemptSession) (result : ExecuteResultMessage) (i : ℕ) : Prop :=
  ∃ taken resolved takenEvents resolvedEvents outcome,
    s.step (.result result) = some (taken, takenEvents) ∧
    taken.step .deliver = some (resolved, resolvedEvents) ∧
    resolved.outcome? i = some outcome ∧ resolved.reader = .reading ∧
    EndsTyped (resultFrom outcome)

/-- The result as `ExecuteResultMessage.from_payload` returns it. -/
def ExecuteResultMessage.parsed (result : ExecuteResultMessage) : WorkerMessage :=
  .executeResult result.attemptId result.status result.calls result.message result.finishReason
    result.note

/-- A completed result without its message or its finish reason. -/
def ExecuteResultMessage.Incomplete (result : ExecuteResultMessage) : Prop :=
  result.status = .completed ∧ (result.message = none ∨ result.finishReason = none)

/-- A result that the completion step turns into a failure of its own, or whose message it can
    search and whose documents the conversion contains. -/
def ResultConverts (s : AttemptSession) (result : ExecuteResultMessage) : Prop :=
  result.Incomplete ∨
    (s.belowVersion 4 = true ∧
      ∃ message, result.message = some message ∧ containsReasoning message = some true) ∨
    ((s.belowVersion 4 = true → ∀ message, result.message = some message →
      (containsReasoning message).isSome = true) ∧ ConversionContained result)

/-- An outcome without a result is unusable, and the adapter's own error. -/
theorem resultFrom_failed {outcome : AttemptOutcome} (h : outcome.result = none) :
    EndsTyped (resultFrom outcome) := by
  unfold resultFrom
  rw [h]
  exact isPermanent_adapterPermanent _

/-- **The outcome of the completion step converts exactly for the results that convert.** -/
theorem outcomeOf_typed {s : AttemptSession} {result : ExecuteResultMessage} :
    (∃ outcome answer, s.outcomeOf result = some (outcome, answer) ∧
      EndsTyped (resultFrom outcome)) ↔ ResultConverts s result := by
  unfold AttemptSession.outcomeOf ResultConverts
  by_cases hincomplete : result.Incomplete
  · have hcond : (result.status = .completed &&
        (result.message.isNone || result.finishReason.isNone)) = true := by
      simpa [ExecuteResultMessage.Incomplete] using hincomplete
    rw [if_pos hcond]
    exact iff_of_true ⟨_, _, rfl, resultFrom_failed rfl⟩ (.inl hincomplete)
  have hcond : ¬ (result.status = .completed &&
      (result.message.isNone || result.finishReason.isNone)) = true := by
    simpa [ExecuteResultMessage.Incomplete] using hincomplete
  rw [if_neg hcond, or_iff_right hincomplete]
  by_cases hbelow : s.belowVersion 4 = true
  · rw [if_pos hbelow]
    cases hmessage : result.message with
    | none =>
      simp only [Option.elim_none, Option.some.injEq, Prod.mk.injEq, and_assoc,
        exists_and_left, exists_eq_left']
      simp [resultFrom_typed]
    | some message =>
      simp only [Option.elim_some]
      cases hcontains : containsReasoning message with
      | none => simp [hbelow, hcontains]
      | some contains =>
        cases contains with
        | true =>
          refine iff_of_true ⟨_, _, rfl, resultFrom_failed rfl⟩ (.inl ⟨hbelow, message, rfl, ?_⟩)
          exact hcontains
        | false =>
          simp only [Option.some.injEq, Prod.mk.injEq, and_assoc, exists_and_left,
            exists_eq_left']
          simp [resultFrom_typed, hcontains]
  · rw [if_neg hbelow]
    simp only [Option.some.injEq, Prod.mk.injEq, and_assoc, exists_and_left, exists_eq_left']
    simp [resultFrom_typed, hbelow]

/-- A tracker of the table is there, and nobody has resolved it. -/
theorem tracked_of_row {workerId : Option SafeId} {negotiatedVersion : Option ℤ}
    {s : AttemptSession} {log : List AttemptEvent}
    (run : attemptMachine.Run (fun _ _ => True) (.opened workerId negotiatedVersion) s log)
    {row : SafeId × ℕ} (hrow : row ∈ s.pending.rows) :
    ∃ tracker, s.tracker? row.2 = some tracker ∧ tracker.outcome = none := by
  obtain ⟨account, -⟩ := accounted_of_run run
  have hcount : 0 < s.inTable.count row.2 :=
    List.count_pos_iff.mpr (List.mem_map.mpr ⟨row, hrow, rfl⟩)
  obtain ⟨tracker, htracker, -⟩ := Option.map_eq_some_iff.mp (account.rows row hrow)
  obtain ⟨-, -, -, houtcome⟩ := account.of_inTable hcount
  unfold AttemptSession.outcome? at houtcome
  rw [htracker] at houtcome
  exact ⟨tracker, htracker, houtcome⟩

/-- **A result fails typed exactly when it converts.**  In every session that a run reaches, while
    the read loop reads, and for every attempt in its table. -/
theorem completion_typed_iff {workerId : Option SafeId} {negotiatedVersion : Option ℤ}
    {s : AttemptSession} {log : List AttemptEvent}
    (run : attemptMachine.Run (fun _ _ => True) (.opened workerId negotiatedVersion) s log)
    (reading : s.reader = .reading) {result : ExecuteResultMessage} {row : SafeId × ℕ}
    (pending : s.pending.row? result.attemptId = some row) :
    CompletesTyped s result row.2 ↔ ResultConverts s result := by
  obtain ⟨tracker, htracker, hopen⟩ := tracked_of_row run (Table.row?_eq_some.mp pending).1
  have hstep : s.step (.result result) = some (s.completeAttempt result) := by
    show s.whileReading (s.completeAttempt result) = _
    unfold AttemptSession.whileReading
    rw [reading]
  rw [← outcomeOf_typed]
  unfold CompletesTyped
  rw [hstep]
  unfold AttemptSession.completeAttempt
  rw [pending]
  cases houtcome : s.outcomeOf result with
  | none =>
    -- The read loop is dead: it delivers nothing.
    refine iff_of_false ?_ fun ⟨_, _, h, _⟩ => nomatch h
    rintro ⟨taken, resolved, _, _, _, htaken, hdeliver, -⟩
    obtain ⟨rfl, -⟩ := Prod.mk.inj (Option.some.inj htaken)
    cases hdeliver
  | some converted =>
    obtain ⟨outcome, answer⟩ := converted
    dsimp only
    have hresolves : ∀ {taken resolved : AttemptSession} {events : List AttemptEvent},
        taken = { s.pop result.attemptId with reader := .resolving row.2 outcome answer } →
        taken.step .deliver = some (resolved, events) →
        resolved.outcome? row.2 = some outcome ∧ resolved.reader = .reading := by
      rintro taken resolved events rfl hdeliver
      obtain ⟨rfl, -⟩ := Prod.mk.inj (Option.some.inj hdeliver)
      refine ⟨?_, rfl⟩
      show (Option.map TrackedAttempt.tracker (List.modify s.attempts row.2 _)[row.2]?).bind _ = _
      obtain ⟨attempt, hattempt, rfl⟩ := Option.map_eq_some_iff.mp htracker
      rw [List.getElem?_modify_eq, hattempt]
      show attempt.tracker.outcome.or (some outcome) = some outcome
      rw [hopen]
      rfl
    constructor
    · rintro ⟨taken, resolved, _, _, found, htaken, hdeliver, hfound, -, htyped⟩
      obtain ⟨htaken, -⟩ := Prod.mk.inj (Option.some.inj htaken)
      rw [(hresolves htaken.symm hdeliver).1] at hfound
      obtain rfl := Option.some.inj hfound
      exact ⟨outcome, answer, rfl, htyped⟩
    · rintro ⟨found, foundAnswer, hfound, htyped⟩
      obtain ⟨rfl, rfl⟩ := Prod.mk.inj (Option.some.inj hfound)
      obtain ⟨houtcome, hreader⟩ := hresolves rfl rfl
      exact ⟨_, _, _, _, outcome, rfl, rfl, houtcome, hreader, htyped⟩

/-- The payload of a completed result with the given finish reason. -/
private def resultPayload (reason : String) : Record :=
  [member "type" (textJson "execute_result"), member "attempt_id" (textJson "attempt-1"),
    member "status" (textJson "completed"), member "calls" (.list []),
    member "message" (.object [member "role" (textJson "assistant"),
      member "content" (textJson "hi")]),
    member "finish_reason" (textJson reason)]

/-- The result that the reader makes of that payload. -/
private def resultWith (reason : SafeId) : ExecuteResultMessage where
  attemptId := .lit "attempt-1"
  status := .completed
  message := some (.object [member "role" (textJson "assistant"),
    member "content" (textJson "hi")])
  finishReason := some reason

/-- A session at version 4 with one pending attempt. -/
private def pendingSession : AttemptSession where
  negotiatedVersion := some 4
  attempts := [{ tracker := { attemptId := .lit "attempt-1" } }]
  pending := ⟨[(.lit "attempt-1", 0)], by decide⟩

private theorem pendingSession_run : ∃ log,
    attemptMachine.Run (fun _ _ => True) (.opened none (some 4)) pendingSession log :=
  ⟨_, Machine.Run.refl.step (.submit (.lit "attempt-1")) trivial rfl⟩

/-- A completed result that is read, and stops: its attempt is resolved and becomes a result. -/
theorem completion_typed_stop :
    executeResultFromPayload (.object (resultPayload "stop")) =
        .ok (resultWith (.lit "stop")).parsed ∧
      CompletesTyped pendingSession (resultWith (.lit "stop")) 0 := by
  obtain ⟨log, run⟩ := pendingSession_run
  have hrow : pendingSession.pending.row? (resultWith (.lit "stop")).attemptId =
    some (.lit "attempt-1", 0) := rfl
  refine ⟨rfl, (completion_typed_iff run rfl hrow).mpr ?_⟩
  refine .inr (.inr ⟨fun h => absurd h (by decide), ?_, nofun, ?_, ?_⟩)
  · intro before raw after hsplit
    simp [resultWith] at hsplit
  · rintro - calls - message hmessage
    obtain rfl := Option.some.inj hmessage
    exact ⟨_, rfl, fun h => absurd h (by decide)⟩
  · rintro - calls hread message read reason - - hreason
    obtain rfl := Option.some.inj hreason
    obtain rfl := Except.ok.inj hread
    exact ⟨.nil, .stop, by decide, by decide⟩

/-- A finish reason that the reader accepts and the record refuses escapes as a `ValueError`. -/
theorem result_escapes :
    ¬ ∀ (workerId : Option SafeId) (negotiatedVersion : Option ℤ) (s : AttemptSession)
      (log : List AttemptEvent),
      attemptMachine.Run (fun _ _ => True) (.opened workerId negotiatedVersion) s log →
      s.reader = .reading → ∀ (payload : Record) (result : ExecuteResultMessage),
        executeResultFromPayload (.object payload) = .ok result.parsed →
        ∀ row, s.pending.row? result.attemptId = some row → CompletesTyped s result row.2 := by
  intro hall
  obtain ⟨log, run⟩ := pendingSession_run
  obtain ⟨taken, resolved, _, _, outcome, htaken, hdeliver, houtcome, -, htyped⟩ :=
    hall none (some 4) pendingSession log run rfl (resultPayload "content_filter")
      (resultWith (.lit "content_filter")) rfl (.lit "attempt-1", 0) rfl
  obtain ⟨rfl, -⟩ := Prod.mk.inj (Option.some.inj htaken)
  obtain ⟨rfl, -⟩ := Prod.mk.inj (Option.some.inj hdeliver)
  obtain rfl := Option.some.inj houtcome
  have hcontained := (resultFrom_typed rfl).mp htyped
  obtain ⟨-, known, hknown, htext⟩ := hcontained.completed rfl [] rfl _ _ (.lit "content_filter")
    rfl (show MessageRead _ ⟨.lit "assistant", some ⟨Text.ofString "hi", by decide⟩, [], none,
      none, none⟩ from rfl) rfl
  revert known
  decide

end ScarcityRouter
