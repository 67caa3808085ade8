import ScarcityRouter.Gateway.ResponsesState

namespace ScarcityRouter

open ScarcityRouter.Lib
open ScarcityRouter.Lib.Stateful

/-!
# The reconciliation of `finish`

`finish` renders what of an outcome was not streamed, and raises where the stream does not fit it.

* `ResponsesStreamEvents.Room` — there is room for what is still to be rendered.
* `ResponsesStreamEvents.Reconciled` — what a part of the reconciliation does to the stream.
* `ResponsesStreamEvents.FinishAccepts` — the outcomes that `finish` accepts.
* `reconcile_spec` — **`finish` accepts exactly these, and the stream then says what they say**.
-/

/-! ### Pieces -/

section Pieces

variable {t : Text} {k n : ℕ}

/-- The first slices of a text are the first part of the text. -/
theorem flatten_slices : ((List.range n).map fun i => (t.drop (i * k)).take k).flatten =
    t.take (n * k) := by
  induction n with
  | zero => simp
  | succ n ih =>
    rw [List.range_succ, List.map_append, List.flatten_append, ih, Nat.succ_mul, List.take_add]
    simp

/-- As many slices as cover a text are the text. -/
theorem flatten_slices_cover (hk : 0 < k) :
    ((List.range ((t.length + k - 1) / k)).map fun i => (t.drop (i * k)).take k).flatten = t := by
  rw [flatten_slices, List.take_of_length_le]
  have hmod := Nat.div_add_mod (t.length + k - 1) k
  have hlt := Nat.mod_lt (t.length + k - 1) hk
  rw [Nat.mul_comm] at hmod
  omega

theorem maxStreamDeltaChars_pos : 0 < maxStreamDeltaChars := Nat.succ_pos _

/-- The slices of a text are the text. -/
theorem flatten_pieces : (ResponsesStreamEvents.pieces t).flatten = t :=
  flatten_slices_cover maxStreamDeltaChars_pos

theorem pieces_nil : ResponsesStreamEvents.pieces [] = [] := by
  have hzero : (([] : Text).length + maxStreamDeltaChars - 1) / maxStreamDeltaChars = 0 := by
    refine Nat.div_eq_of_lt ?_
    rw [List.length_nil, Nat.zero_add]
    exact Nat.sub_lt maxStreamDeltaChars_pos Nat.one_pos
  unfold ResponsesStreamEvents.pieces
  rw [hzero]
  rfl

/-- An encodable text has encodable slices. -/
theorem encodable_pieces (h : Text.encodable t = true) :
    ∀ piece ∈ ResponsesStreamEvents.pieces t, Text.encodable piece = true := by
  intro piece hpiece
  refine Text.encodable_of_subset h fun c hc => ?_
  rw [← flatten_pieces (t := t)]
  exact List.mem_flatten_of_mem hpiece hc

end Pieces

namespace ResponsesStreamEvents

variable {s s' s'' : ResponsesStreamEvents} {kind : PartKind} {text : Text}
  {call : AdapterToolCall} {outcome : CompletionOutcome} {sizes sizes' : List ℕ}

/-! ### Room -/

/-- There is room for what has these sizes. -/
def Room (s : ResponsesStreamEvents) (sizes : List ℕ) : Prop :=
  sizes = [] ∨ s.size + sizes.sum ≤ maxResponseChars ∧ s.chunks + sizes.length ≤ 1000000

/-- Where something was rendered, there is room for the rest if there was for both. -/
theorem room_append (hsize : s'.size = s.size + sizes.sum)
    (hchunks : s'.chunks = s.chunks + sizes.length) :
    s.Room (sizes ++ sizes') ↔ s.Room sizes ∧ s'.Room sizes' := by
  unfold Room
  rw [hsize, hchunks, List.sum_append, List.length_append, List.append_eq_nil_iff]
  constructor
  · rintro (⟨rfl, rfl⟩ | ⟨hsum, hlength⟩)
    · exact ⟨.inl rfl, .inl rfl⟩
    · exact ⟨.inr (by omega), .inr (by omega)⟩
  · rintro ⟨hfirst, rfl | hrest⟩
    · rcases hfirst with rfl | hfirst
      · exact .inl ⟨rfl, rfl⟩
      · exact .inr (by simpa using hfirst)
    · exact .inr (by omega)

theorem room_singleton {n : ℕ} : s.Room [n] ↔ (s.reserved n).Fits := by
  unfold Room Fits reserved
  simp

/-- Room for one thing, and then for the rest. -/
theorem room_cons {n : ℕ} : s.Room (n :: sizes) ↔ (s.reserved n).Fits ∧ (s.reserved n).Room sizes := by
  have happend : s.Room ([n] ++ sizes) ↔ s.Room [n] ∧ (s.reserved n).Room sizes :=
    room_append (by simp [reserved]) rfl
  rw [← room_singleton]
  exact happend

/-- Room for all is room for the first. -/
theorem Room.left (h : s.Room (sizes ++ sizes')) : s.Room sizes := by
  have happend : _ ↔ s.Room sizes ∧ Room { s with
      size := s.size + sizes.sum
      chunks := s.chunks + sizes.length } sizes' := room_append rfl rfl
  exact (happend.mp h).1

theorem room_congr (hsize : s'.size = s.size) (hchunks : s'.chunks = s.chunks) :
    s'.Room sizes ↔ s.Room sizes := by
  unfold Room
  rw [hsize, hchunks]

/-! ### Reconciliations -/

/-- What a part of the reconciliation does: it renders what has these sizes, and leaves these texts
    and calls and the parts that it opened. -/
structure Reconciled (sizes : List ℕ) (text : PartKind → Text) (opened : PartKind → Prop)
    (tools : List AdapterToolCall) (s s' : ResponsesStreamEvents) : Prop
    extends Continues s s' where
  started : s'.started = true
  size : s'.size = s.size + sizes.sum
  chunks : s'.chunks = s.chunks + sizes.length
  finishReason : s'.finishReason = s.finishReason
  text : s'.text = text
  parts : ∀ kind, s'.parts kind = none ↔ s.parts kind = none ∧ ¬ opened kind
  tools : s'.tools = tools

variable {text' text'' : PartKind → Text} {opened opened' : PartKind → Prop}
  {tools tools' : List AdapterToolCall}

theorem Reconciled.refl (h : Coherent s) (hstart : s.started = true) :
    Reconciled [] s.text (fun _ => False) s.tools s s where
  toContinues := .refl h
  started := hstart
  size := rfl
  chunks := rfl
  finishReason := rfl
  text := rfl
  parts _ := by simp
  tools := rfl

theorem Reconciled.trans (h : Reconciled sizes text' opened tools s s')
    (h' : Reconciled sizes' text'' opened' tools' s' s'') :
    Reconciled (sizes ++ sizes') text'' (fun kind => opened kind ∨ opened' kind) tools' s s'' where
  toContinues := h.toContinues.trans h'.toContinues
  started := h'.started
  size := by rw [h'.size, h.size, List.sum_append, Nat.add_assoc]
  chunks := by rw [h'.chunks, h.chunks, List.length_append, Nat.add_assoc]
  finishReason := h'.finishReason.trans h.finishReason
  text := h'.text
  parts kind := by rw [h'.parts, h.parts]; tauto
  tools := h'.tools

/-- The same reconciliation, said otherwise. -/
theorem Reconciled.congr (h : Reconciled sizes text' opened tools s s') (htext : text' = text'')
    (hopened : ∀ kind, s.parts kind = none → (opened kind ↔ opened' kind)) :
    Reconciled sizes text'' opened' tools s s' :=
  { h with
    text := h.text.trans htext
    parts := fun kind => (h.parts kind).trans (and_congr_right fun hkind =>
      not_congr (hopened kind hkind)) }

theorem reconciled_parted (h : Coherent s) (hstart : s.started = true) :
    Reconciled [] s.text (· = kind) s.tools s (s.parted kind) where
  toContinues := continues_parted h hstart
  started := started_parted.trans hstart
  size := by unfold parted; split_ifs <;> rfl
  chunks := by unfold parted; split_ifs <;> rfl
  finishReason := by unfold parted; split_ifs <;> rfl
  text := by unfold parted; split_ifs <;> rfl
  parts kind' := by
    by_cases hkind : kind' = kind
    · subst hkind
      simp [parts_parted]
    · rw [and_iff_left hkind]
      unfold parted
      split_ifs
      · show Function.update s.parts kind _ kind' = none ↔ _
        rw [Function.update_of_ne hkind]
      · rfl
  tools := by unfold parted; split_ifs <;> rfl

theorem reconciled_delta (h : Coherent s) (hstart : s.started = true) :
    Reconciled [text.length] (Function.update s.text kind (s.text kind ++ text)) (· = kind) s.tools s
      (s.withDelta kind text) := by
  have hparted : Reconciled [] (s.reserved text.length).text (· = kind) _ (s.reserved text.length)
      ((s.reserved text.length).parted kind) := reconciled_parted h.reserved hstart
  exact
    { toContinues := continues_withDelta h hstart
      started := started_withDelta.trans hstart
      size := hparted.size.trans (by simp [reserved])
      chunks := hparted.chunks
      finishReason := hparted.finishReason
      text := by
        show Function.update ((s.reserved text.length).parted kind).text kind _ = _
        rw [hparted.text]
        rfl
      parts := hparted.parts
      tools := hparted.tools }

theorem reconciled_call (h : Coherent s) (hstart : s.started = true) :
    Reconciled [call.chars] s.text (fun _ => False) (s.tools ++ [call]) s
      ((s.reserved call.chars).openCall call) where
  toContinues := (continues_reserved h).trans (continues_openCall h.reserved hstart)
  started := hstart
  size := by rw [List.sum_singleton]; rfl
  chunks := rfl
  finishReason := rfl
  text := rfl
  parts kind := by show s.parts kind = none ↔ _; simp
  tools := rfl

/-! ### The loops -/

/-- The rule of `_delta`. -/
theorem leaves_delta {E : GatewayError → ResponsesStreamEvents → Prop}
    {V : Unit → ResponsesStreamEvents → Prop}
    (hV : (s.reserved text.length).Fits → V () (s.withDelta kind text))
    (hE : ∀ e s', ¬ (Text.encodable text = true ∧ (s.reserved text.length).Fits) → E e s') :
    Leaves E V (delta kind text) s := by
  unfold Leaves
  rw [result_delta]
  split_ifs with htext hfits
  · exact hV hfits
  · exact hE _ _ fun h => hfits h.2
  · exact hE _ _ fun h => htext h.1

/-- **The loop over the slices.** -/
theorem deltas_spec {texts : List Text} (h : Coherent s) (hstart : s.started = true) :
    Leaves (fun _ _ => ¬ ((∀ t ∈ texts, Text.encodable t = true) ∧ s.Room (texts.map List.length)))
      (fun _ s' => s.Room (texts.map List.length) ∧ Reconciled (texts.map List.length)
        (Function.update s.text kind (s.text kind ++ texts.flatten))
        (fun kind' => kind' = kind ∧ texts ≠ []) s.tools s s')
      (texts.forM (delta kind)) s := by
  induction texts generalizing s with
  | nil =>
    refine ⟨.inl rfl, (Reconciled.refl h hstart).congr ?_ fun _ _ => by simp⟩
    rw [List.flatten_nil, List.append_nil, Function.update_eq_self]
  | cons t ts ih =>
    rw [List.forM_eq_forM, List.forM_cons, leaves_bind]
    have hdelta : Reconciled [t.length] _ (· = kind) _ s (s.withDelta kind t) :=
      reconciled_delta h hstart
    have hroom : s.Room ((t :: ts).map List.length) ↔
        (s.reserved t.length).Fits ∧ (s.withDelta kind t).Room (ts.map List.length) := by
      rw [List.map_cons, room_cons]
      exact and_congr_right fun _ => (room_congr (by rw [hdelta.size]; simp [reserved])
        (by rw [hdelta.chunks]; rfl)).symm
    refine leaves_delta (fun hfits => ?_) fun _ _ hnot hall => ?_
    · refine (ih hdelta.coherent hdelta.started).mono ?_ ?_
      · rintro _ s' hnot ⟨hencodable, hall⟩
        exact hnot ⟨fun t' ht' => hencodable t' (List.mem_cons_of_mem _ ht'), (hroom.mp hall).2⟩
      · rintro _ s' ⟨hrest, hreconciled⟩
        refine ⟨hroom.mpr ⟨hfits, hrest⟩, ?_⟩
        rw [hdelta.tools, hdelta.text] at hreconciled
        refine (hdelta.trans hreconciled).congr ?_ fun kind' _ => ?_
        · rw [Function.update_idem, Function.update_self, List.flatten_cons, List.append_assoc]
        · simp only [ne_eq, reduceCtorEq, not_false_eq_true, and_true]
          exact or_iff_left_of_imp And.left
    · exact hnot ⟨hall.1 t List.mem_cons_self, (hroom.mp hall.2).1⟩

/-- The outcome's text of a kind. -/
def finalText (outcome : CompletionOutcome) : PartKind → Option Text
  | .text => outcome.message.content.map Subtype.val
  | .reasoning => outcome.message.reasoning.map Subtype.val

/-- The sizes of what is still to be rendered of a text. -/
def textSizes (kind : PartKind) (final : Option Text) (s : ResponsesStreamEvents) : List ℕ :=
  final.elim [] fun final => (pieces (final.drop (s.text kind).length)).map List.length

/-- The rest of a text that was streamed in part. -/
theorem textSizes_append {rest : Text} : textSizes kind (some (s.text kind ++ rest)) s =
    (pieces rest).map List.length := by
  unfold textSizes
  rw [Option.elim_some, List.drop_left]

/-- **The loop of `finish`, for one kind of text.** -/
theorem reconcileText_spec {final : Option Text} (h : Coherent s) (hstart : s.started = true) :
    Leaves (fun _ _ => ¬ ((∀ t, final = some t → s.text kind <+: t ∧ Text.encodable t = true) ∧
        s.Room (textSizes kind final s)))
      (fun _ s' => (∀ t, final = some t → s.text kind <+: t) ∧ s.Room (textSizes kind final s) ∧
        Reconciled (textSizes kind final s)
          (Function.update s.text kind (final.getD (s.text kind)))
          (fun kind' => kind' = kind ∧ final ≠ none) s.tools s s')
      (reconcileText kind final) s := by
  unfold reconcileText
  cases final with
  | none =>
    refine ⟨nofun, .inl rfl, (Reconciled.refl h hstart).congr ?_ fun _ _ => by simp⟩
    exact (Function.update_eq_self _ _).symm
  | some final =>
    simp only [leaves_bind, leaves_get, leaves_raise, Option.some.injEq, forall_eq', Option.getD_some,
      ne_eq, reduceCtorEq, not_false_eq_true, and_true]
    refine ⟨fun _ hbegins => ?_, fun _ herror hall => ?_⟩
    · obtain ⟨rest, rfl⟩ := check_eq_ok.mp hbegins
      rw [textSizes_append, List.drop_left]
      split_ifs with hempty
      · -- An empty text that has no part yet: its part is opened.
        obtain ⟨hnil, hpart⟩ := hempty
        obtain ⟨htext, rfl⟩ := List.append_eq_nil_iff.mp hnil
        rw [pieces_nil, List.map_nil, leaves_bind]
        unfold Leaves
        rw [result_part]
        refine ⟨List.prefix_append _ _, .inl rfl, ?_⟩
        refine (reconciled_parted h hstart).congr ?_ fun _ _ => Iff.rfl
        rw [List.append_nil, Function.update_eq_self]
      · refine (deltas_spec h hstart).mono ?_ ?_
        · rintro _ s' hnot ⟨⟨-, hencodable⟩, hroom⟩
          refine hnot ⟨encodable_pieces ?_, hroom⟩
          exact Text.encodable_of_subset hencodable fun c hc => List.mem_append_right _ hc
        · rintro _ s' ⟨hroom, hreconciled⟩
          refine ⟨List.prefix_append _ _, hroom, hreconciled.congr ?_ fun kind' hkind' => ?_⟩
          · rw [flatten_pieces]
          · refine and_iff_left_of_imp ?_
            rintro rfl hnone
            -- Without a part nothing was streamed, so all of the text is rendered.
            have hrest : rest = [] := by
              rw [← flatten_pieces (t := rest), hnone]
              rfl
            exact hempty ⟨by rw [h.unparted _ hkind', hrest]; rfl, hkind'⟩
    · have hnot : ¬ s.text kind <+: final := by
        intro hbegins
        rw [check_pos hbegins] at herror
        cases herror
      exact hnot hall.1.1

/-- The calls that may be pushed. -/
structure CallsAllowed (s : ResponsesStreamEvents) (calls : List AdapterToolCall) : Prop where
  allowed : ∀ call ∈ calls, s.request.Allows call ∧ ∀ t ∈ call.texts, Text.encodable t = true
  length : (s.tools ++ calls).length ≤ maxTools
  distinct : ((s.tools ++ calls).map (·.id)).Nodup
  parallel : s.request.parallelToolCalls = true ∨ (s.tools ++ calls).length ≤ 1

/-- The first of the calls that may be pushed passes the checks. -/
theorem CallsAllowed.check {calls : List AdapterToolCall} (h : CallsAllowed s (call :: calls)) :
    checkPushedCall call s = .ok () := by
  obtain ⟨hallowed, hlength, hdistinct, hparallel⟩ := h
  obtain ⟨hallows, htexts⟩ := hallowed call List.mem_cons_self
  rw [List.length_append, List.length_cons] at hlength hparallel
  have hprior : ∀ prior ∈ s.tools, prior.id ≠ call.id := by
    rw [List.map_append, List.nodup_append] at hdistinct
    intro prior hprior
    exact hdistinct.2.2 _ (List.mem_map_of_mem hprior) _ List.mem_cons_self
  have houtput : call.texts.forM outputText = .ok () :=
    forM_eq_ok.mpr fun t ht => check_pos (htexts t ht) _
  have hroom : s.tools.length < maxTools := by omega
  have hsingle : s.tools = [] ∨ s.request.parallelToolCalls = true := by
    rcases hparallel with hparallel | hlength
    · exact .inr hparallel
    · exact .inl (List.length_eq_zero_iff.mp (by omega))
  unfold checkPushedCall
  refine bind_eq_ok.mpr ⟨(), check_pos hallows _, bind_eq_ok.mpr ⟨(), houtput, ?_⟩⟩
  exact check_bind_eq_ok.mpr ⟨⟨hroom, hprior⟩, check_pos hsingle _⟩

/-- The others of the calls may be pushed after it. -/
theorem CallsAllowed.rest {calls : List AdapterToolCall} (h : CallsAllowed s (call :: calls))
    (hrequest : s'.request = s.request) (htools : s'.tools = s.tools ++ [call]) :
    CallsAllowed s' calls := by
  have hall : s'.tools ++ calls = s.tools ++ call :: calls := by
    rw [htools, List.append_assoc]
    rfl
  exact
    { allowed := fun c hc => hrequest ▸ h.allowed c (List.mem_cons_of_mem _ hc)
      length := hall ▸ h.length
      distinct := hall ▸ h.distinct
      parallel := by rw [hall, hrequest]; exact h.parallel }

/-- The rule of `push` for a call, in the reconciliation. -/
theorem leaves_pushTool {E : GatewayError → ResponsesStreamEvents → Prop}
    {V : Unit → ResponsesStreamEvents → Prop} (hstart : s.started = true) (hdone : s.done = false)
    (hreason : s.finishReason = none)
    (hV : (s.reserved call.chars).Fits → V () ((s.reserved call.chars).openCall call))
    (hE : ∀ e s', ¬ (checkPushedCall call s = .ok () ∧ (s.reserved call.chars).Fits) → E e s') :
    Leaves E V (pushChunk (.toolCall call)) s := by
  have hopen : s.refuses (.toolCall call) = false := by
    unfold refuses
    rw [hdone, hreason]
    rfl
  have hbegun : s.begun = s := if_pos hstart
  unfold Leaves pushChunk
  rw [result_bind, result_get]
  dsimp only
  rw [result_bind, check_pos hopen, result_raise]
  dsimp only
  rw [result_bind, result_begin, hbegun]
  dsimp only [pushOpened]
  rw [result_pushCall]
  cases hcheck : checkPushedCall call s with
  | error e => exact hE _ _ fun h => by rw [hcheck] at h; cases h.1
  | ok _ =>
    dsimp only
    split_ifs with hfits
    · exact hV hfits
    · exact hE _ _ fun h => hfits h.2

/-- **The loop over the calls that were not streamed.** -/
theorem calls_spec {calls : List AdapterToolCall} (h : Coherent s) (hstart : s.started = true)
    (hdone : s.done = false) (hreason : s.finishReason = none) :
    Leaves (fun _ _ => ¬ (CallsAllowed s calls ∧ s.Room (calls.map AdapterToolCall.chars)))
      (fun _ s' => s.Room (calls.map AdapterToolCall.chars) ∧
        Reconciled (calls.map AdapterToolCall.chars) s.text (fun _ => False) (s.tools ++ calls) s s')
      (calls.forM fun call => pushChunk (.toolCall call)) s := by
  induction calls generalizing s with
  | nil =>
    refine ⟨.inl rfl, ?_⟩
    rw [List.append_nil]
    exact .refl h hstart
  | cons call calls ih =>
    rw [List.forM_eq_forM, List.forM_cons, leaves_bind]
    have hcall : Reconciled [call.chars] _ _ _ s ((s.reserved call.chars).openCall call) :=
      reconciled_call h hstart
    have hroom : s.Room ((call :: calls).map AdapterToolCall.chars) ↔
        (s.reserved call.chars).Fits ∧
          ((s.reserved call.chars).openCall call).Room (calls.map AdapterToolCall.chars) := by
      rw [List.map_cons, room_cons]
      exact and_congr_right fun _ => (room_congr (by rw [hcall.size]; simp [reserved])
        (by rw [hcall.chunks]; rfl)).symm
    refine leaves_pushTool hstart hdone hreason (fun hfits => ?_) fun _ _ hnot hall => ?_
    · have hrest := ih hcall.coherent hcall.started (hcall.done.trans hdone)
        (hcall.finishReason.trans hreason)
      refine hrest.mono ?_ ?_
      · rintro _ s' hnot ⟨hallowed, hall⟩
        exact hnot ⟨hallowed.rest hcall.request hcall.tools, (hroom.mp hall).2⟩
      · rintro _ s' ⟨hrest, hreconciled⟩
        refine ⟨hroom.mpr ⟨hfits, hrest⟩, ?_⟩
        rw [hcall.tools, hcall.text, List.append_assoc] at hreconciled
        exact (hcall.trans hreconciled).congr rfl fun _ _ => or_false _ ▸ Iff.rfl
    · exact hnot ⟨hall.1.check, (hroom.mp hall.2).1⟩

/-! ### The texts of the items -/

/-- The parts of a kind say what was streamed. -/
def Told (kind : PartKind) (s : ResponsesStreamEvents) : Prop :=
  ∀ (i : ℕ) id status text, s.output[i]? = some (.part kind id status text) → text = some (s.text kind)

/-- An item of the output, after the text of a part was set. -/
theorem getElem?_setText (i : ℕ) : (setText kind s).output[i]? =
    if s.parts kind = some i then (s.output[i]?).map (withText (s.text kind)) else s.output[i]? := by
  unfold setText
  cases hpart : s.parts kind with
  | none => rfl
  | some index =>
    show (s.output.modify index _)[i]? = _
    rw [List.getElem?_modify]
    by_cases hindex : index = i
    · simp [hindex]
    · simp [hindex]

/-- Only the texts of the items differ. -/
structure Retold (s s' : ResponsesStreamEvents) : Prop where
  built : s'.built = s.built
  sequence : s'.sequence = s.sequence
  started : s'.started = s.started
  parts : s'.parts = s.parts
  text : s'.text = s.text
  tools : s'.tools = s.tools
  request : s'.request = s.request
  responseId : s'.responseId = s.responseId
  done : s'.done = s.done
  length : s'.output.length = s.output.length

theorem retold_setText (kind : PartKind) (s : ResponsesStreamEvents) :
    Retold s (setText kind s) := by
  unfold setText
  split
  · exact ⟨rfl, rfl, rfl, rfl, rfl, rfl, rfl, rfl, rfl, rfl⟩
  · exact ⟨rfl, rfl, rfl, rfl, rfl, rfl, rfl, rfl, rfl, List.length_modify _ _ _⟩

/-- The part of a kind is the item at its index. -/
theorem Coherent.part_at (h : Coherent s) {i : ℕ} {id : Text} {status : ItemStatus}
    {said : Option Text} (hitem : s.output[i]? = some (.part kind id status said)) :
    s.parts kind = some i := by
  cases h.items i _ hitem with
  | part hpart _ => exact hpart

/-- An item at the index of a part is the part. -/
theorem Coherent.item_at (h : Coherent s) {i : ℕ} (hpart : s.parts kind = some i) :
    ∃ id status said, s.output[i]? = some (.part kind id status (some said)) ∧
      (setText kind s).output[i]? = some (.part kind id status (some (s.text kind))) := by
  obtain ⟨id, status, said, hitem⟩ := h.parts kind i hpart
  refine ⟨id, status, said, hitem, ?_⟩
  rw [getElem?_setText, if_pos hpart, hitem]
  rfl

/-- Setting the text of a part keeps the stream coherent. -/
theorem Coherent.setText (h : Coherent s) : Coherent (setText kind s) := by
  obtain ⟨hbuilt, hsequence, hstarted, hparts, htext, htools, -, -, -, hlength⟩ :=
    retold_setText kind s
  have hbodies : (ResponsesStreamEvents.setText kind s).bodies = s.bodies := by
    unfold bodies
    rw [hbuilt]
  refine
    { numbered := by rw [hbuilt, hsequence]; exact h.numbered
      unopened := fun hstart => ?_
      opened := by rw [hbodies, hstarted]; exact h.opened
      addedItems := by rw [hbodies, hlength]; exact h.addedItems
      added := by rw [hbodies]; exact h.added
      items := fun i item hitem => ?_
      parts := fun kind' i hkind' => ?_
      unparted := by rw [hparts, htext]; exact h.unparted
      calls := ?_
      unclosed := by rw [hbodies]; exact h.unclosed
      beyond := by rw [hbodies, hlength]; exact h.beyond }
  · rw [hstarted] at hstart
    obtain ⟨hnone, houtput⟩ := h.unopened hstart
    exact ⟨hbuilt.trans hnone, List.length_eq_zero_iff.mp (by rw [hlength, houtput]; rfl)⟩
  · have hopen : OpenItem s i item := by
      by_cases hpart : s.parts kind = some i
      · obtain ⟨id, status, said, hitem', hset⟩ := h.item_at hpart
        obtain rfl := Option.some.inj (hset.symm.trans hitem)
        cases h.items i _ hitem' with
        | part _ hsaid => exact .part hpart hsaid
      · rw [getElem?_setText, if_neg hpart] at hitem
        exact h.items i item hitem
    exact hopen.congr (by rw [hbodies]) fun kind' hkind' =>
      ⟨by rw [hparts]; exact hkind', by rw [htext]⟩
  · rw [hparts] at hkind'
    by_cases hpart : s.parts kind = some i
    · obtain ⟨id, status, said, hitem', hset⟩ := h.item_at hpart
      obtain ⟨id', status', said', hitem⟩ := h.parts kind' i hkind'
      obtain ⟨rfl, rfl, rfl, -⟩ := OutputItem.part.inj (Option.some.inj (hitem.symm.trans hitem'))
      exact ⟨_, _, _, hset⟩
    · rw [getElem?_setText, if_neg hpart]
      exact h.parts kind' i hkind'
  · rw [htools, ← h.calls]
    unfold ResponsesStreamEvents.setText
    cases hpart : s.parts kind with
    | none => rfl
    | some index =>
      obtain ⟨id, status, said, hitem, -⟩ := h.item_at hpart
      show callsOf (s.output.modify index _) = callsOf s.output
      -- Neither the part nor the part with its text is a call.
      obtain ⟨hlt, hget⟩ := List.getElem?_eq_some_iff.mp hitem
      have hsplit : s.output = s.output.take index ++
          .part kind id status (some said) :: s.output.drop (index + 1) := by
        rw [← hget, ← List.drop_eq_getElem_cons hlt, List.take_append_drop]
      rw [List.modify_eq_take_cons_drop hlt, hget]
      conv_rhs => rw [hsplit]
      rw [callsOf_append, callsOf_append]
      rfl

/-- The text of a part is set to what was streamed. -/
theorem told_setText (h : Coherent s) : Told kind (setText kind s) := by
  intro i id status text hitem
  have hpart : s.parts kind = some i := by
    rw [← (retold_setText kind s).parts]
    exact h.setText.part_at hitem
  obtain ⟨id', status', said, -, hset⟩ := h.item_at hpart
  obtain ⟨-, -, -, rfl⟩ := OutputItem.part.inj (Option.some.inj (hset.symm.trans hitem))
  rw [(retold_setText kind s).text]

/-- The other part stays as it is. -/
theorem Told.setText {other : PartKind} (htold : Told other s) (h : Coherent s)
    (hne : other ≠ kind) : Told other (setText kind s) := by
  intro i id status text hitem
  rw [(retold_setText kind s).text]
  by_cases hpart : s.parts kind = some i
  · obtain ⟨id', status', said, -, hset⟩ := h.item_at hpart
    exact absurd (OutputItem.part.inj (Option.some.inj (hitem.symm.trans hset))).1 hne
  · rw [getElem?_setText, if_neg hpart] at hitem
    exact htold i id status text hitem

/-! ### The reconciliation -/

/-- The sizes of what is still to be rendered of an outcome. -/
def remaining (outcome : CompletionOutcome) (s : ResponsesStreamEvents) : List ℕ :=
  textSizes .reasoning (finalText outcome .reasoning) s ++
    textSizes .text (finalText outcome .text) s ++
      (outcome.message.toolCalls.drop s.tools.length).map AdapterToolCall.chars

/-- The outcome passes the checks of a response, goes on where the stream is and leaves room for the
    rest. -/
structure GoesOn (s : ResponsesStreamEvents) (outcome : CompletionOutcome) : Prop where
  output : checkOutput s.request outcome = .ok ()
  text : ∀ kind t, finalText outcome kind = some t → s.text kind <+: t
  tools : s.tools <+: outcome.message.toolCalls
  room : s.Room (remaining outcome s)

/-- **The outcomes that `finish` accepts.** -/
structure FinishAccepts (s : ResponsesStreamEvents) (outcome : CompletionOutcome) : Prop
    extends GoesOn s outcome where
  addressed : s.Addressed outcome

/-- What a reconciliation leaves: a stream that says what the outcome says. -/
structure Settled (outcome : CompletionOutcome) (s s' : ResponsesStreamEvents) : Prop
    extends Continues s s' where
  started : s'.started = true
  told : ∀ kind, Told kind s'
  text : ∀ kind, s'.text kind = (finalText outcome kind).getD (s.text kind)
  parts : ∀ kind, s'.parts kind = none ↔ s.parts kind = none ∧ finalText outcome kind = none
  tools : s'.tools = outcome.message.toolCalls

theorem leaves_begin {E : GatewayError → ResponsesStreamEvents → Prop}
    {V : Unit → ResponsesStreamEvents → Prop} : Leaves E V begin s ↔ V () s.begun := by
  unfold Leaves
  rw [result_begin]

theorem reconciled_begun (h : Coherent s) :
    Reconciled [] s.text (fun _ => False) s.tools s s.begun where
  toContinues := continues_begun h
  started := started_begun
  size := by unfold begun; split_ifs <;> rfl
  chunks := by unfold begun; split_ifs <;> rfl
  finishReason := by unfold begun; split_ifs <;> rfl
  text := by unfold begun; split_ifs <;> rfl
  parts kind := by
    rw [not_false_eq_true, and_true]
    unfold begun
    split_ifs <;> rfl
  tools := by unfold begun; split_ifs <;> rfl

theorem textSizes_congr {final : Option Text} (h : s'.text kind = s.text kind) :
    textSizes kind final s' = textSizes kind final s := by
  unfold textSizes
  rw [h]

/-- What the checks of a response say of the calls and of the texts. -/
theorem checkOutput_eq_ok {request : ResponsesRequest} (h : checkOutput request outcome = .ok ()) :
    outcome.message.toolCalls.length ≤ maxTools ∧
      (outcome.message.toolCalls.map (·.id)).Nodup ∧ Consistent request outcome ∧
        (∀ call ∈ outcome.message.toolCalls,
          request.Allows call ∧ ∀ t ∈ call.texts, Text.encodable t = true) ∧
          ∀ kind t, finalText outcome kind = some t → Text.encodable t = true := by
  unfold checkOutput at h
  obtain ⟨-, h⟩ := check_bind_eq_ok.mp h
  obtain ⟨⟨hlength, hdistinct⟩, h⟩ := check_bind_eq_ok.mp h
  obtain ⟨hconsistent, h⟩ := check_bind_eq_ok.mp h
  obtain ⟨_, hcalls, h⟩ := bind_eq_ok.mp h
  obtain ⟨_, hcontent, hreasoning⟩ := bind_eq_ok.mp h
  refine ⟨hlength, hdistinct, hconsistent, fun call hcall => ?_, fun kind t ht => ?_⟩
  · obtain ⟨_, hallows, htexts⟩ := bind_eq_ok.mp (forM_eq_ok.mp hcalls call hcall)
    exact ⟨check_eq_ok.mp hallows, fun t ht => check_eq_ok.mp (forM_eq_ok.mp htexts t ht)⟩
  · cases kind with
    | text =>
      obtain ⟨text, htext, rfl⟩ := Option.map_eq_some_iff.mp ht
      rw [htext] at hcontent
      exact check_eq_ok.mp hcontent
    | reasoning =>
      obtain ⟨text, htext, rfl⟩ := Option.map_eq_some_iff.mp ht
      rw [htext] at hreasoning
      exact check_eq_ok.mp hreasoning

/-- The calls that were not streamed may be pushed, if the outcome passes the checks. -/
theorem callsAllowed_drop (h : checkOutput s.request outcome = .ok ())
    (hbegins : s.tools <+: outcome.message.toolCalls) :
    CallsAllowed s (outcome.message.toolCalls.drop s.tools.length) := by
  obtain ⟨hlength, hdistinct, hconsistent, hcalls, -⟩ := checkOutput_eq_ok h
  have hall : s.tools ++ outcome.message.toolCalls.drop s.tools.length =
      outcome.message.toolCalls := List.prefix_iff_eq_append.mp hbegins
  exact
    { allowed := fun call hcall => hcalls call (List.mem_of_mem_drop hcall)
      length := hall.symm ▸ hlength
      distinct := hall.symm ▸ hdistinct
      parallel := by rw [hall]; exact hconsistent.1 }

/-- The response of an outcome, with the output of a stream. -/
theorem responsePayload_output {request : ResponsesRequest} {output : List OutputItem}
    {result : Except GatewayError Response}
    (h : responsePayload request outcome (some output) = result) :
    (checkOutput request outcome = .ok () ∧ result = .ok (responseFields request outcome.requestId
      outcome.created outcome.responseStatus output (some outcome))) ∨
      ∃ e, checkOutput request outcome = .error e ∧ result = .error e := by
  subst h
  unfold responsePayload
  cases hcheck : checkOutput request outcome with
  | ok _ => exact .inl ⟨rfl, rfl⟩
  | error e => exact .inr ⟨e, rfl, rfl⟩

/-- **The part of `finish` for the calls.** -/
theorem reconcileTools_spec {final : List AdapterToolCall} (h : Coherent s)
    (hstart : s.started = true) (hdone : s.done = false) (hreason : s.finishReason = none) :
    Leaves (fun _ _ => ¬ (s.tools <+: final ∧ CallsAllowed s (final.drop s.tools.length) ∧
        s.Room ((final.drop s.tools.length).map AdapterToolCall.chars)))
      (fun _ s' => s.tools <+: final ∧
        s.Room ((final.drop s.tools.length).map AdapterToolCall.chars) ∧
          Reconciled ((final.drop s.tools.length).map AdapterToolCall.chars) s.text
            (fun _ => False) final s s')
      (reconcileTools final) s := by
  unfold reconcileTools
  simp only [leaves_bind, leaves_get, leaves_raise]
  refine ⟨fun _ htake => ?_, fun _ herror hall => ?_⟩
  · have htake : s.tools = final.take s.tools.length := check_eq_ok.mp htake
    refine (calls_spec h hstart hdone hreason).mono ?_ ?_
    · rintro _ s' hnot ⟨-, hall⟩
      exact hnot hall
    · rintro _ s' ⟨hroom, hreconciled⟩
      have hbegins := List.prefix_iff_eq_take.mpr htake
      rw [List.prefix_iff_eq_append.mp hbegins] at hreconciled
      exact ⟨hbegins, hroom, hreconciled⟩
  · rw [check_pos (List.prefix_iff_eq_take.mp hall.1)] at herror
    cases herror

/-- The last part: the texts of the items are set, and the response is checked. -/
theorem settle_spec (htold : Reconciled sizes text' opened tools s s') :
    Leaves (fun _ _ => checkOutput s.request outcome ≠ .ok ())
      (fun response s'' => checkOutput s.request outcome = .ok () ∧
        response = responseFields s.request outcome.requestId outcome.created
          outcome.responseStatus s''.output (some outcome) ∧
        Continues s s'' ∧ s''.started = true ∧ (∀ kind, Told kind s'') ∧ s''.text = text' ∧
          s''.parts = s'.parts ∧ s''.tools = tools)
      (do
        modify fun s => setText .text (setText .reasoning s)
        let s ← get
        raise (responsePayload s.request outcome (some s.output))) s' := by
  have hcoherent : Coherent (setText .reasoning s') := htold.coherent.setText
  obtain ⟨hbuilt₁, -, hstarted₁, hparts₁, htext₁, htools₁, hrequest₁, hid₁, hdone₁, -⟩ :=
    retold_setText .reasoning s'
  obtain ⟨hbuilt₂, -, hstarted₂, hparts₂, htext₂, htools₂, hrequest₂, hid₂, hdone₂, -⟩ :=
    retold_setText .text (setText .reasoning s')
  have hrequest := hrequest₂.trans (hrequest₁.trans htold.request)
  simp only [leaves_bind, leaves_modify, leaves_get, leaves_raise]
  rw [hrequest]
  refine ⟨fun response hresponse => ?_, fun e herror hcheck => ?_⟩
  · rcases responsePayload_output hresponse with ⟨hcheck, hok⟩ | ⟨e, -, he⟩
    · refine ⟨hcheck, Except.ok.inj hok, ⟨hcoherent.setText, ?_, hrequest, ?_, ?_⟩, ?_, ?_, ?_, ?_, ?_⟩
      · rw [hbuilt₂, hbuilt₁]
        exact htold.grows
      · exact hid₂.trans (hid₁.trans htold.responseId)
      · exact hdone₂.trans (hdone₁.trans htold.done)
      · exact hstarted₂.trans (hstarted₁.trans htold.started)
      · intro kind
        cases kind with
        | text => exact told_setText hcoherent
        | reasoning => exact (told_setText htold.coherent).setText hcoherent (by simp)
      · exact htext₂.trans (htext₁.trans htold.text)
      · exact hparts₂.trans hparts₁
      · exact htools₂.trans (htools₁.trans htold.tools)
    · cases he
  · rcases responsePayload_output herror with ⟨-, hok⟩ | ⟨e, he, -⟩
    · cases hok
    · rw [hcheck] at he
      cases he

/-- The reconciliation of an outcome, once the stream is open. -/
theorem goesOn_spec (h : Coherent s) (hdone : s.done = false) (hreason : s.finishReason = none) :
    Leaves (fun _ _ => ¬ GoesOn s outcome)
      (fun response s' => GoesOn s outcome ∧ Settled outcome s s' ∧
        response = responseFields s.request outcome.requestId outcome.created
          outcome.responseStatus s'.output (some outcome))
      (do
        begin
        reconcileText .reasoning (finalText outcome .reasoning)
        reconcileText .text (finalText outcome .text)
        reconcileTools outcome.message.toolCalls
        modify fun s => setText .text (setText .reasoning s)
        let s ← get
        raise (responsePayload s.request outcome (some s.output))) s := by
  have hopen := reconciled_begun h
  rw [leaves_bind, leaves_begin]
  generalize s.begun = s₁ at hopen
  -- The reasoning comes first, with its room.
  rw [leaves_bind]
  have hsizes₁ : textSizes .reasoning (finalText outcome .reasoning) s₁ =
      textSizes .reasoning (finalText outcome .reasoning) s := textSizes_congr (congrFun hopen.text _)
  refine (reconcileText_spec hopen.coherent hopen.started).mono ?_ ?_
  · rintro _ s' hnot hgoes
    refine hnot ⟨fun t ht => ⟨?_, (checkOutput_eq_ok hgoes.output).2.2.2.2 .reasoning t ht⟩, ?_⟩
    · rw [hopen.text]
      exact hgoes.text .reasoning t ht
    · rw [hsizes₁, room_congr hopen.size hopen.chunks]
      exact hgoes.room.left.left
  rintro _ s₂ ⟨hbegins₁, hfits₁, htold₁⟩
  rw [hsizes₁] at hfits₁ htold₁
  have hall₂ := hopen.trans htold₁
  rw [List.nil_append] at hall₂
  -- Then the text.
  rw [leaves_bind]
  have htext₂ : s₂.text .text = s.text .text := by
    have hne : PartKind.text ≠ .reasoning := nofun
    rw [htold₁.text, Function.update_of_ne hne, hopen.text]
  have hsizes₂ : textSizes .text (finalText outcome .text) s₂ =
      textSizes .text (finalText outcome .text) s := textSizes_congr htext₂
  refine (reconcileText_spec htold₁.coherent htold₁.started).mono ?_ ?_
  · rintro _ s' hnot hgoes
    refine hnot ⟨fun t ht => ⟨?_, (checkOutput_eq_ok hgoes.output).2.2.2.2 .text t ht⟩, ?_⟩
    · rw [htext₂]
      exact hgoes.text .text t ht
    · rw [hsizes₂]
      exact ((room_append hall₂.size hall₂.chunks).mp hgoes.room.left).2
  rintro _ s₃ ⟨hbegins₂, hfits₂, htold₂⟩
  rw [hsizes₂] at hfits₂ htold₂
  have hall₃ := hall₂.trans htold₂
  -- Then the calls.
  rw [leaves_bind]
  have htools₃ : s₃.tools = s.tools := by rw [htold₂.tools, htold₁.tools, hopen.tools]
  refine (reconcileTools_spec htold₂.coherent htold₂.started (hall₃.done.trans hdone)
    (hall₃.finishReason.trans hreason)).mono ?_ ?_
  · rintro _ s' hnot hgoes
    refine hnot ⟨htools₃ ▸ hgoes.tools, callsAllowed_drop ?_ (htools₃ ▸ hgoes.tools), ?_⟩
    · rw [hall₃.request]
      exact hgoes.output
    · rw [htools₃]
      exact ((room_append hall₃.size hall₃.chunks).mp hgoes.room).2
  rintro _ s₄ ⟨hbegins₃, hfits₃, htold₃⟩
  rw [htools₃] at hbegins₃ hfits₃ htold₃
  have hall₄ := hall₃.trans htold₃
  refine (settle_spec hall₄).mono ?_ ?_
  · rintro _ s' hnot hgoes
    exact hnot hgoes.output
  rintro response s₅ ⟨houtput, hresponse, hcontinues, hstarted, htold, htext, hparts, htools⟩
  refine ⟨⟨houtput, fun kind t ht => ?_, hbegins₃, ?_⟩, ⟨hcontinues, hstarted, htold, fun kind => ?_,
    fun kind => ?_, htools⟩, hresponse⟩
  · cases kind with
    | text => exact htext₂ ▸ hbegins₂ t ht
    | reasoning =>
      have hbegins := hbegins₁ t ht
      rw [hopen.text] at hbegins
      exact hbegins
  · have hroom₂ := (room_append hall₂.size hall₂.chunks).mpr
      ⟨(room_congr hopen.size hopen.chunks).mp hfits₁, hfits₂⟩
    exact (room_append hall₃.size hall₃.chunks).mpr ⟨hroom₂, hfits₃⟩
  · rw [htext, htold₂.text]
    cases kind with
    | text => rw [Function.update_self, htext₂]
    | reasoning =>
      have hne : PartKind.reasoning ≠ .text := nofun
      rw [Function.update_of_ne hne, htold₁.text, Function.update_self, hopen.text]
  · rw [hparts, hall₄.parts]
    cases kind <;> simp

/-- **What the reconciliation leaves**: it returns exactly for the outcomes that `finish`
    accepts. -/
theorem reconcile_spec (h : Coherent s) (hdone : s.done = false) (haddressed : s.Addressed outcome) :
    Leaves (fun _ _ => ¬ FinishAccepts s outcome)
      (fun response s' => FinishAccepts s outcome ∧ Settled outcome s s' ∧
        response = responseFields s.request outcome.requestId outcome.created
          outcome.responseStatus s'.output (some outcome))
      (reconcile outcome) s := by
  have hcoherent : Coherent { s with finishReason := none } :=
    h.of_same ⟨rfl, rfl, rfl, rfl, rfl, rfl, rfl⟩
  unfold reconcile
  rw [leaves_bind, leaves_modify]
  refine (goesOn_spec hcoherent hdone rfl).mono ?_ ?_
  · rintro _ s' hnot haccepts
    exact hnot ⟨haccepts.output, haccepts.text, haccepts.tools, haccepts.room⟩
  · rintro response s' ⟨hgoes, hsettled, hresponse⟩
    have hcontinues : Continues s s' := ⟨hsettled.coherent, hsettled.grows, hsettled.request,
      hsettled.responseId, hsettled.done⟩
    exact ⟨⟨⟨hgoes.output, hgoes.text, hgoes.tools, hgoes.room⟩, haddressed⟩, ⟨hcontinues,
      hsettled.started, hsettled.told, hsettled.text, hsettled.parts, hsettled.tools⟩, hresponse⟩

end ResponsesStreamEvents

end ScarcityRouter
