import ScarcityRouter.Gateway.ResponsesEvents

namespace ScarcityRouter

open ScarcityRouter.Lib
open ScarcityRouter.Lib.Stateful

/-!
# What a stream has built

The state of a response stream and the events it has built, as long as it is not done.

* `deltasOf` — what the deltas of an item say.
* `ResponsesStreamEvents.Coherent` — **what holds of the state and of everything it has built**, in
  every state, also after a call that raised.
* `result_delta`, `result_pushCall`, `pushChunk_spec` — what the methods leave.
-/

/-! ### Events by item -/

namespace EventBody

/-- The event that adds an item. -/
def adds (i : ℕ) : EventBody → Bool
  | itemAdded index _ => index = i
  | _ => false

/-- What an event adds to the text or to the arguments of an item. -/
def deltaAt (i : ℕ) : EventBody → Option Text
  | delta _ index _ text | argumentsDelta index _ text => if index = i then some text else none
  | _ => none

/-- The event that closes an item. -/
def closes (i : ℕ) : EventBody → Bool
  | itemDone index _ => index = i
  | _ => false

/-- What the other closing events say of the text or of the arguments of an item. -/
def echoAt (i : ℕ) : EventBody → Option Text
  | textDone _ index _ text | partDone index _ _ text | argumentsDone index _ text =>
    if index = i then some text else none
  | _ => none

/-- A terminal event. -/
def terminal : EventBody → Bool
  | completed _ | incomplete _ | error .. => true
  | _ => false

/-- The response of a successful terminal event. -/
def response? : EventBody → Option Response
  | completed response | incomplete response => some response
  | _ => none

end EventBody

/-- The deltas of an item, joined. -/
def deltasOf (i : ℕ) (bodies : List EventBody) : Text := (bodies.filterMap (·.deltaAt i)).flatten

/-- The text or the arguments of an item. -/
def OutputItem.said : OutputItem → Text
  | part _ _ _ text => text.getD []
  | functionCall _ _ _ _ arguments => arguments

namespace ResponsesStreamEvents

variable {s s' : ResponsesStreamEvents} {body : EventBody} {kind : PartKind} {text : Text}
  {call : AdapterToolCall} {chunk : AdapterStreamChunk} {outcome : CompletionOutcome} {i : ℕ}

/-! ### What has been built -/

/-- What the events say that were built. -/
def bodies (s : ResponsesStreamEvents) : List EventBody := s.built.map (·.body)

@[simp] theorem bodies_build : (s.build body).bodies = s.bodies ++ [body] := by
  simp [bodies, build]

/-- An open item: what it is, and what its deltas have said. -/
inductive OpenItem (s : ResponsesStreamEvents) (i : ℕ) : OutputItem → Prop
  | part {kind : PartKind} {id : Text} {status : ItemStatus} {text : Text}
      (hpart : s.parts kind = some i) (hsaid : deltasOf i s.bodies = s.text kind) :
      OpenItem s i (.part kind id status (some text))
  | call {id : Text} {status : ItemStatus} {callId name arguments : Text}
      (hsaid : deltasOf i s.bodies = arguments) :
      OpenItem s i (.functionCall id status callId name arguments)

/-- The calls of an output, in their order. -/
def callsOf (output : List OutputItem) : List (Text × Text × Text) :=
  output.filterMap fun item => match item with
    | .part .. => none
    | .functionCall _ _ callId name arguments => some (callId, name, arguments)

/-- What is compared of a call. -/
def callTexts (call : AdapterToolCall) : Text × Text × Text :=
  (call.id.1, call.name.1, call.arguments.1)

/-- **What holds of the state and of the events it has built**, as long as it is not done. -/
structure Coherent (s : ResponsesStreamEvents) : Prop where
  numbered : s.built.map (·.sequenceNumber) = List.range s.sequence
  unopened : s.started = false → s.built = [] ∧ s.output = []
  opened : s.started = true → ∃ response rest, s.bodies = .created response :: rest
  /-- The items that are added are those of the output. -/
  addedItems : ∀ i, s.bodies.countP (·.adds i) = if i < s.output.length then 1 else 0
  added : ∀ before body after i, s.bodies = before ++ body :: after → body.deltaAt i ≠ none →
    before.countP (·.adds i) = 1
  items : ∀ i item, s.output[i]? = some item → OpenItem s i item
  parts : ∀ kind i, s.parts kind = some i → ∃ id status text,
    s.output[i]? = some (.part kind id status (some text))
  unparted : ∀ kind, s.parts kind = none → s.text kind = []
  calls : callsOf s.output = s.tools.map callTexts
  unclosed : ∀ body ∈ s.bodies, body.terminal = false ∧ ∀ i, body.closes i = false ∧
    body.echoAt i = none
  /-- No delta belongs to an item that is not there. -/
  beyond : ∀ i, s.output.length ≤ i → deltasOf i s.bodies = []

/-- A new stream. -/
theorem coherent_new {request : ResponsesRequest} {responseId : SafeId} {created : ℕ}
    {tokenHex : ℕ → String} : Coherent { request, responseId, created, tokenHex } where
  numbered := rfl
  unopened _ := ⟨rfl, rfl⟩
  opened h := absurd h Bool.false_ne_true
  addedItems i := by simp [bodies]
  added before body after i h := by simp [bodies] at h
  items i item h := by simp at h
  parts kind i h := by simp at h
  unparted _ _ := rfl
  calls := rfl
  unclosed body h := by simp [bodies] at h
  beyond i _ := by simp [bodies, deltasOf]

/-- An event more is numbered. -/
theorem numbered_build (h : s.built.map (·.sequenceNumber) = List.range s.sequence) :
    (s.build body).built.map (·.sequenceNumber) = List.range (s.build body).sequence := by
  show (s.built ++ [_]).map _ = List.range (s.sequence + 1)
  rw [List.map_append, h, List.range_succ]
  rfl

/-- A list that goes on with an element: where a split of the longer list falls. -/
theorem split_concat {α : Type*} {xs before after : List α} {x y : α}
    (h : xs ++ [x] = before ++ y :: after) :
    (∃ rest, xs = before ++ y :: rest) ∨ (xs = before ∧ x = y) := by
  rcases List.eq_nil_or_concat after with rfl | ⟨rest, z, rfl⟩
  · obtain ⟨rfl, hxy⟩ := List.append_inj' h rfl
    exact .inr ⟨rfl, (List.cons.inj hxy).1⟩
  · rw [List.concat_eq_append, ← List.cons_append, ← List.append_assoc] at h
    exact .inl ⟨rest, (List.append_inj' h rfl).1⟩

theorem deltasOf_append {bs cs : List EventBody} :
    deltasOf i (bs ++ cs) = deltasOf i bs ++ deltasOf i cs := by
  unfold deltasOf
  rw [List.filterMap_append, List.flatten_append]

theorem deltasOf_singleton : deltasOf i [body] = (body.deltaAt i).getD [] := by
  unfold deltasOf
  cases h : body.deltaAt i <;> simp [h]

/-- The events of an item are preceded by the one that adds it, also after one event more. -/
theorem added_concat {bs : List EventBody}
    (h : ∀ before body after i, bs = before ++ body :: after → body.deltaAt i ≠ none →
      before.countP (·.adds i) = 1)
    (hbody : ∀ i, body.deltaAt i ≠ none → bs.countP (·.adds i) = 1) :
    ∀ before other after i, bs ++ [body] = before ++ other :: after → other.deltaAt i ≠ none →
      before.countP (·.adds i) = 1 := by
  intro before other after i hsplit hdelta
  rcases split_concat hsplit with ⟨rest, hbs⟩ | ⟨rfl, rfl⟩
  · exact h before other rest i hbs hdelta
  · exact hbody i hdelta

/-- The calls of an output with an item more. -/
theorem callsOf_append {output more : List OutputItem} :
    callsOf (output ++ more) = callsOf output ++ callsOf more := List.filterMap_append

/-- The new item is the last one. -/
theorem set_concat {α : Type*} {xs : List α} {x y : α} :
    (xs ++ [x]).set xs.length y = xs ++ [y] := by
  rw [List.set_append_right _ _ le_rfl, Nat.sub_self, List.set_cons_zero]

/-! ### What each step builds -/

/-- The state after `_begin` has opened the stream. -/
def opening (s : ResponsesStreamEvents) : ResponsesStreamEvents :=
  build (.inProgress s.announced) (build (.created s.announced) { s with started := true })

/-- The state after `_part` has added a part. -/
def openPart (kind : PartKind) (s : ResponsesStreamEvents) : ResponsesStreamEvents :=
  let id := kind.itemId s.responseId
  build (.partAdded s.output.length id kind) <|
    replace s.output.length (.part kind id .inProgress (some [])) <|
      build (.itemAdded s.output.length (.part kind id .inProgress none)) (addPart kind s)

/-- The state after `_delta` has added a delta. -/
def addDelta (kind : PartKind) (index : ℕ) (text : Text) (s : ResponsesStreamEvents) :
    ResponsesStreamEvents :=
  let s := addText kind text s
  build (.delta kind index (s.itemIdAt index) text) s

/-- The state after `push` has added a call. -/
def openCall (call : AdapterToolCall) (s : ResponsesStreamEvents) : ResponsesStreamEvents :=
  let id := callItemId s.responseId s.tools.length
  build (.argumentsDelta s.output.length id call.arguments.1) <|
    replace s.output.length
      (.functionCall id .inProgress call.id.1 call.name.1 call.arguments.1) <|
        build (.itemAdded s.output.length (emptyCallItem call s)) (addCall call s)

theorem Coherent.opening (h : Coherent s) (hstart : s.started = false) : Coherent s.opening := by
  obtain ⟨hbuilt, houtput⟩ := h.unopened hstart
  have hbodies : s.bodies = [] := by
    unfold bodies
    rw [hbuilt, List.map_nil]
  have hopening : s.opening.bodies = [.created s.announced, .inProgress s.announced] := by
    unfold ResponsesStreamEvents.opening
    rw [bodies_build, bodies_build]
    show s.bodies ++ _ ++ _ = _
    rw [hbodies]
    rfl
  have hdeltas : ∀ i, deltasOf i s.opening.bodies = deltasOf i s.bodies := by
    intro i
    rw [hopening, hbodies]
    rfl
  have hsilent : ∀ body ∈ s.opening.bodies, ∀ i, body.adds i = false ∧ body.deltaAt i = none := by
    rw [hopening]
    intro body hmem i
    rcases List.mem_pair.mp hmem with rfl | rfl <;> exact ⟨rfl, rfl⟩
  exact
    { numbered := numbered_build (numbered_build h.numbered)
      unopened := nofun
      opened := fun _ => ⟨_, _, hopening⟩
      addedItems := fun i => by
        rw [List.countP_eq_zero.mpr fun body hmem => by simp [hsilent body hmem i]]
        show 0 = if i < s.output.length then 1 else 0
        rw [houtput]
        rfl
      added := fun before body after i hsplit hdelta =>
        absurd (hsilent body (hsplit ▸ List.mem_append_right _ List.mem_cons_self) i).2 hdelta
      items := fun i item hitem => by
        have hnone : s.output[i]? = some item := hitem
        rw [houtput] at hnone
        cases hnone
      parts := h.parts
      unparted := h.unparted
      calls := h.calls
      unclosed := by
        rw [hopening]
        intro body hmem
        rcases List.mem_pair.mp hmem with rfl | rfl <;> exact ⟨rfl, fun _ => ⟨rfl, rfl⟩⟩
      beyond := fun i hi => (hdeltas i).trans (h.beyond i hi) }

/-- An item of an output with one more: it is of the output, or the new one. -/
theorem getElem?_concat {xs : List OutputItem} {x item : OutputItem}
    (h : (xs ++ [x])[i]? = some item) : xs[i]? = some item ∧ i < xs.length ∨
      i = xs.length ∧ item = x := by
  by_cases hi : i < xs.length
  · rw [List.getElem?_append_left hi] at h
    exact .inl ⟨h, hi⟩
  · rw [List.getElem?_append_right (not_lt.mp hi)] at h
    have hzero : i - xs.length = 0 := by
      by_contra hpos
      rw [List.getElem?_eq_none (by simp; omega)] at h
      cases h
    rw [hzero, List.getElem?_cons_zero] at h
    exact .inr ⟨by omega, (Option.some.inj h).symm⟩

/-- The events of a new item add it, after those of the other items. -/
theorem countP_adds_new {bs : List EventBody} {n : ℕ} {item : OutputItem}
    (h : ∀ i, bs.countP (EventBody.adds i) = if i < n then 1 else 0)
    (hbody : ∀ i, body.adds i = false) :
    ∀ i, (bs ++ [EventBody.itemAdded n item] ++ [body]).countP (EventBody.adds i) =
      if i < n + 1 then 1 else 0 := by
  intro i
  rw [List.countP_append, List.countP_append, h i, List.countP_singleton, List.countP_singleton,
    hbody i]
  simp only [EventBody.adds, decide_eq_true_eq, Bool.false_eq_true, if_false, Nat.add_zero]
  split_ifs <;> omega

/-- The deltas of the other items stay. -/
theorem OpenItem.congr {item : OutputItem} (h : OpenItem s i item)
    (hdeltas : deltasOf i s'.bodies = deltasOf i s.bodies)
    (hparts : ∀ kind, s.parts kind = some i →
      s'.parts kind = some i ∧ s'.text kind = s.text kind) : OpenItem s' i item := by
  cases h with
  | part hpart hsaid =>
    obtain ⟨hpart', htext⟩ := hparts _ hpart
    exact .part hpart' (hdeltas.trans (hsaid.trans htext.symm))
  | call hsaid => exact .call (hdeltas.trans hsaid)

theorem Coherent.openPart (h : Coherent s) (hstart : s.started = true)
    (hpart : s.parts kind = none) : Coherent (s.openPart kind) := by
  have hbodies : (s.openPart kind).bodies = s.bodies ++
      [.itemAdded s.output.length (.part kind (kind.itemId s.responseId) .inProgress none)] ++
        [.partAdded s.output.length (kind.itemId s.responseId) kind] := by
    unfold ResponsesStreamEvents.openPart
    rw [bodies_build]
    show (build _ (addPart kind s)).bodies ++ _ = _
    rw [bodies_build]
    rfl
  have houtput : (s.openPart kind).output =
      s.output ++ [.part kind (kind.itemId s.responseId) .inProgress (some [])] := set_concat
  have hdeltas : ∀ i, deltasOf i (s.openPart kind).bodies = deltasOf i s.bodies := by
    intro i
    rw [hbodies, deltasOf_append, deltasOf_append, deltasOf_singleton, deltasOf_singleton]
    exact (List.append_nil _).trans (List.append_nil _)
  have hparts : ∀ kind' i, s.parts kind' = some i → (s.openPart kind).parts kind' = some i := by
    intro kind' i hkind'
    have hne : kind' ≠ kind := by
      rintro rfl
      rw [hpart] at hkind'
      cases hkind'
    exact (Function.update_of_ne hne _ _).trans hkind'
  obtain ⟨response, rest, hopen⟩ := h.opened hstart
  refine
    { numbered := numbered_build (numbered_build h.numbered)
      unopened := fun hnot => absurd (hstart.symm.trans hnot) (by decide)
      opened := fun _ => ⟨response, _, by rw [hbodies, hopen]; rfl⟩
      addedItems := ?_
      added := ?_
      items := fun i item hitem => ?_
      parts := fun kind' i hkind' => ?_
      unparted := fun kind' hkind' => ?_
      calls := ?_
      unclosed := ?_
      beyond := fun i hi => ?_ }
  · rw [hbodies, houtput, List.length_append, List.length_singleton]
    exact countP_adds_new h.addedItems fun _ => rfl
  · rw [hbodies]
    exact added_concat (added_concat h.added nofun) nofun
  · rw [houtput] at hitem
    rcases getElem?_concat hitem with ⟨hitem, -⟩ | ⟨rfl, rfl⟩
    · exact (h.items i item hitem).congr (hdeltas i) fun kind' hkind' =>
        ⟨hparts kind' i hkind', rfl⟩
    · refine .part (Function.update_self _ _ _) ?_
      rw [hdeltas, h.beyond _ le_rfl]
      exact (h.unparted kind hpart).symm
  · rw [houtput]
    by_cases hne : kind' = kind
    · subst hne
      have hsome : (s.openPart kind').parts kind' = some s.output.length :=
        Function.update_self _ _ _
      obtain rfl := Option.some.inj (hsome.symm.trans hkind')
      exact ⟨_, _, _, List.getElem?_concat_length⟩
    · have hbefore : s.parts kind' = some i := (Function.update_of_ne hne _ _).symm.trans hkind'
      obtain ⟨id, status, text, hitem⟩ := h.parts kind' i hbefore
      refine ⟨id, status, text, ?_⟩
      rw [List.getElem?_append_left (List.getElem?_eq_some_iff.mp hitem).1]
      exact hitem
  · have hne : kind' ≠ kind := by
      rintro rfl
      have hsome : (s.openPart kind').parts kind' = some s.output.length :=
        Function.update_self _ _ _
      rw [hsome] at hkind'
      cases hkind'
    exact h.unparted kind' ((Function.update_of_ne hne _ _).symm.trans hkind')
  · rw [houtput, callsOf_append, h.calls]
    exact List.append_nil _
  · rw [hbodies]
    intro body hmem
    rcases List.mem_append.mp hmem with hmem | hmem
    · rcases List.mem_append.mp hmem with hmem | hmem
      · exact h.unclosed body hmem
      · obtain rfl := List.mem_singleton.mp hmem
        exact ⟨rfl, fun _ => ⟨rfl, rfl⟩⟩
    · obtain rfl := List.mem_singleton.mp hmem
      exact ⟨rfl, fun _ => ⟨rfl, rfl⟩⟩
  · rw [houtput, List.length_append] at hi
    exact (hdeltas i).trans (h.beyond i (by omega))

theorem Coherent.addDelta (h : Coherent s) (hstart : s.started = true)
    (hpart : s.parts kind = some i) : Coherent (s.addDelta kind i text) := by
  obtain ⟨id, status, before, hitem⟩ := h.parts kind i hpart
  have hlt : i < s.output.length := (List.getElem?_eq_some_iff.mp hitem).1
  have hbodies : (s.addDelta kind i text).bodies =
      s.bodies ++ [.delta kind i ((addText kind text s).itemIdAt i) text] := bodies_build
  have hdeltas : ∀ j, deltasOf j (s.addDelta kind i text).bodies =
      deltasOf j s.bodies ++ if i = j then text else [] := by
    intro j
    rw [hbodies, deltasOf_append, deltasOf_singleton]
    congr 1
    show (if i = j then some text else none).getD [] = _
    split_ifs <;> rfl
  obtain ⟨response, rest, hopen⟩ := h.opened hstart
  refine
    { numbered := numbered_build h.numbered
      unopened := fun hnot => absurd (hstart.symm.trans hnot) (by decide)
      opened := fun _ => ⟨response, _, by rw [hbodies, hopen]; rfl⟩
      addedItems := fun j => ?_
      added := ?_
      items := fun j item hitem' => ?_
      parts := h.parts
      unparted := fun kind' hkind' => ?_
      calls := h.calls
      unclosed := ?_
      beyond := fun j hj => ?_ }
  · rw [hbodies, List.countP_append, h.addedItems]
    exact Nat.add_zero _
  · rw [hbodies]
    refine added_concat h.added fun j hj => ?_
    have hj : i = j := by
      by_contra hne
      exact hj (if_neg hne)
    rw [h.addedItems, if_pos (hj ▸ hlt)]
  · by_cases hj : i = j
    · subst hj
      obtain rfl := Option.some.inj (hitem.symm.trans hitem')
      refine .part hpart ?_
      rw [hdeltas, if_pos rfl]
      have hsaid : deltasOf i s.bodies = s.text kind := by
        cases h.items i _ hitem with
        | part _ hsaid => exact hsaid
      rw [hsaid]
      exact (Function.update_self kind (s.text kind ++ text) s.text).symm
    · refine (h.items j item hitem').congr (by rw [hdeltas, if_neg hj, List.append_nil])
        fun kind' hkind' => ⟨hkind', Function.update_of_ne ?_ _ _⟩
      rintro rfl
      exact hj (Option.some.inj (hpart.symm.trans hkind'))
  · have hne : kind' ≠ kind := by
      rintro rfl
      have hsome : s.parts kind' = none := hkind'
      rw [hpart] at hsome
      cases hsome
    exact (Function.update_of_ne hne _ _).trans (h.unparted kind' hkind')
  · rw [hbodies]
    intro body hmem
    rcases List.mem_append.mp hmem with hmem | hmem
    · exact h.unclosed body hmem
    · obtain rfl := List.mem_singleton.mp hmem
      exact ⟨rfl, fun _ => ⟨rfl, rfl⟩⟩
  · have hj : s.output.length ≤ j := hj
    rw [hdeltas, if_neg (by omega), List.append_nil]
    exact h.beyond j hj

theorem Coherent.openCall (h : Coherent s) (hstart : s.started = true) :
    Coherent (s.openCall call) := by
  have hbodies : (s.openCall call).bodies = s.bodies ++
      [.itemAdded s.output.length (emptyCallItem call s)] ++
        [.argumentsDelta s.output.length (callItemId s.responseId s.tools.length)
          call.arguments.1] := by
    unfold ResponsesStreamEvents.openCall
    rw [bodies_build]
    show (build _ (addCall call s)).bodies ++ _ = _
    rw [bodies_build]
    rfl
  have houtput : (s.openCall call).output = s.output ++
      [.functionCall (callItemId s.responseId s.tools.length) .inProgress call.id.1 call.name.1
        call.arguments.1] := set_concat
  have hdeltas : ∀ j, deltasOf j (s.openCall call).bodies =
      deltasOf j s.bodies ++ if s.output.length = j then call.arguments.1 else [] := by
    intro j
    rw [hbodies, deltasOf_append, deltasOf_append, deltasOf_singleton, deltasOf_singleton]
    show (deltasOf j s.bodies ++ []) ++
      (if s.output.length = j then some call.arguments.1 else none).getD [] = _
    rw [List.append_nil]
    split_ifs <;> rfl
  obtain ⟨response, rest, hopen⟩ := h.opened hstart
  refine
    { numbered := numbered_build (numbered_build h.numbered)
      unopened := fun hnot => absurd (hstart.symm.trans hnot) (by decide)
      opened := fun _ => ⟨response, _, by rw [hbodies, hopen]; rfl⟩
      addedItems := ?_
      added := ?_
      items := fun j item hitem => ?_
      parts := fun kind' j hkind' => ?_
      unparted := h.unparted
      calls := ?_
      unclosed := ?_
      beyond := fun j hj => ?_ }
  · rw [hbodies, houtput, List.length_append, List.length_singleton]
    exact countP_adds_new h.addedItems fun _ => rfl
  · rw [hbodies]
    refine added_concat (added_concat h.added nofun) fun j hj => ?_
    have hj : s.output.length = j := by
      by_contra hne
      exact hj (if_neg hne)
    subst hj
    rw [List.countP_append, h.addedItems, if_neg (lt_irrefl _), List.countP_singleton]
    simp [EventBody.adds]
  · rw [houtput] at hitem
    rcases getElem?_concat hitem with ⟨hitem, hlt⟩ | ⟨rfl, rfl⟩
    · refine (h.items j item hitem).congr ?_ fun kind' hkind' => ⟨hkind', rfl⟩
      rw [hdeltas, if_neg (by omega), List.append_nil]
    · refine .call ?_
      rw [hdeltas, if_pos rfl, h.beyond _ le_rfl, List.nil_append]
  · obtain ⟨id, status, text, hitem⟩ := h.parts kind' j hkind'
    refine ⟨id, status, text, ?_⟩
    rw [houtput, List.getElem?_append_left (List.getElem?_eq_some_iff.mp hitem).1]
    exact hitem
  · rw [houtput, callsOf_append, h.calls]
    show _ = (s.tools ++ [call]).map callTexts
    rw [List.map_append]
    rfl
  · rw [hbodies]
    intro body hmem
    rcases List.mem_append.mp hmem with hmem | hmem
    · rcases List.mem_append.mp hmem with hmem | hmem
      · exact h.unclosed body hmem
      · obtain rfl := List.mem_singleton.mp hmem
        exact ⟨rfl, fun _ => ⟨rfl, rfl⟩⟩
    · obtain rfl := List.mem_singleton.mp hmem
      exact ⟨rfl, fun _ => ⟨rfl, rfl⟩⟩
  · rw [houtput, List.length_append, List.length_singleton] at hj
    rw [hdeltas, if_neg (by omega), List.append_nil]
    exact h.beyond j (by omega)

/-- What the state of a stream is, apart from its counters. -/
structure SameItems (s s' : ResponsesStreamEvents) : Prop where
  built : s'.built = s.built
  sequence : s'.sequence = s.sequence
  started : s'.started = s.started
  output : s'.output = s.output
  parts : s'.parts = s.parts
  text : s'.text = s.text
  tools : s'.tools = s.tools

/-- The counters of a stream do not matter to its events. -/
theorem Coherent.of_same (h : Coherent s) (hsame : SameItems s s') : Coherent s' := by
  obtain ⟨hbuilt, hsequence, hstarted, houtput, hparts, htext, htools⟩ := hsame
  have hbodies : s'.bodies = s.bodies := by
    unfold bodies
    rw [hbuilt]
  exact
    { numbered := by rw [hbuilt, hsequence]; exact h.numbered
      unopened := by rw [hbuilt, hstarted, houtput]; exact h.unopened
      opened := by rw [hbodies, hstarted]; exact h.opened
      addedItems := by rw [hbodies, houtput]; exact h.addedItems
      added := by rw [hbodies]; exact h.added
      items := by
        rw [houtput]
        exact fun i item hitem => (h.items i item hitem).congr (by rw [hbodies])
          fun kind hkind => ⟨by rw [hparts]; exact hkind, by rw [htext]⟩
      parts := by rw [hparts, houtput]; exact h.parts
      unparted := by rw [hparts, htext]; exact h.unparted
      calls := by rw [houtput, htools]; exact h.calls
      unclosed := by rw [hbodies]; exact h.unclosed
      beyond := by rw [houtput, hbodies]; exact h.beyond }

/-! ### What the methods leave -/

/-- The state after `_reserve` has counted. -/
def reserved (characters : ℕ) (s : ResponsesStreamEvents) : ResponsesStreamEvents :=
  { s with
    size := s.size + characters
    chunks := s.chunks + 1 }

theorem result_reserve {characters : ℕ} : (reserve characters).result s =
    (check (s.reserved characters).Fits streamError, s.reserved characters) := by
  unfold reserve
  rw [result_bind, result_modify]
  dsimp only
  rw [result_bind, result_get]
  dsimp only
  rw [result_raise]
  rfl

/-- The state after `_begin`. -/
def begun (s : ResponsesStreamEvents) : ResponsesStreamEvents :=
  if s.started then s else s.opening

theorem result_begin : begin.result s = (.ok (), s.begun) := by
  unfold begin begun
  rw [result_bind, result_get]
  dsimp only
  split_ifs <;> rfl

theorem Coherent.begun (h : Coherent s) : Coherent s.begun := by
  unfold ResponsesStreamEvents.begun
  split_ifs with hstart
  · exact h
  · exact h.opening (Bool.not_eq_true _ ▸ hstart)

@[simp] theorem started_begun : s.begun.started = true := by
  unfold begun
  split_ifs with hstart
  · exact hstart
  · rfl

/-- The state after `_part`. -/
def parted (kind : PartKind) (s : ResponsesStreamEvents) : ResponsesStreamEvents :=
  if s.parts kind = none then s.openPart kind else s

/-- The index that `_part` returns. -/
def partIndex (kind : PartKind) (s : ResponsesStreamEvents) : ℕ :=
  (s.parts kind).getD s.output.length

theorem result_part : (part kind).result s = (.ok (s.partIndex kind), s.parted kind) := by
  unfold part partIndex parted
  rw [result_bind, result_get]
  dsimp only
  cases hpart : s.parts kind with
  | none => rfl
  | some index => rfl

/-- After `_part` there is the part. -/
theorem parts_parted : (s.parted kind).parts kind = some (s.partIndex kind) := by
  unfold parted partIndex
  cases hpart : s.parts kind with
  | none =>
    rw [if_pos rfl]
    exact Function.update_self _ _ _
  | some index =>
    rw [if_neg (by simp)]
    exact hpart

theorem Coherent.parted (h : Coherent s) (hstart : s.started = true) :
    Coherent (s.parted kind) := by
  unfold ResponsesStreamEvents.parted
  split_ifs with hpart
  · exact h.openPart hstart hpart
  · exact h

theorem started_parted : (s.parted kind).started = s.started := by
  unfold parted
  split_ifs <;> rfl

/-- The state after `_delta`. -/
def withDelta (kind : PartKind) (text : Text) (s : ResponsesStreamEvents) :
    ResponsesStreamEvents :=
  ((s.reserved text.length).parted kind).addDelta kind ((s.reserved text.length).partIndex kind)
    text

/-- **What `_delta` leaves.** -/
theorem result_delta : (delta kind text).result s =
    if Text.encodable text = true then
      if (s.reserved text.length).Fits then (.ok (), s.withDelta kind text)
      else (.error streamError, s.reserved text.length)
    else (.error (unsupportedResponse "unrepresentable Responses output"), s) := by
  unfold delta
  rw [result_bind, result_raise]
  unfold outputText
  by_cases htext : Text.encodable text = true
  · rw [check_pos htext, if_pos htext]
    dsimp only
    rw [result_bind, result_reserve]
    by_cases hfits : (s.reserved text.length).Fits
    · rw [check_pos hfits, if_pos hfits]
      dsimp only
      rw [result_bind, result_part]
      rfl
    · rw [check_neg hfits, if_neg hfits]
  · rw [check_neg htext, if_neg htext]

theorem sameItems_reserved {characters : ℕ} : SameItems s (s.reserved characters) :=
  ⟨rfl, rfl, rfl, rfl, rfl, rfl, rfl⟩

theorem Coherent.reserved {characters : ℕ} (h : Coherent s) : Coherent (s.reserved characters) :=
  h.of_same sameItems_reserved

theorem Coherent.withDelta (h : Coherent s) (hstart : s.started = true) :
    Coherent (s.withDelta kind text) := by
  have hparted : Coherent ((s.reserved text.length).parted kind) := h.reserved.parted hstart
  exact hparted.addDelta (started_parted.trans hstart) parts_parted

/-- **What `push` leaves for a call.** -/
theorem result_pushCall : (pushCall call).result s =
    match checkPushedCall call s with
    | .error e => (.error e, s)
    | .ok () =>
      if (s.reserved call.chars).Fits then (.ok (), (s.reserved call.chars).openCall call)
      else (.error streamError, s.reserved call.chars) := by
  unfold pushCall
  rw [result_bind, result_get]
  dsimp only
  rw [result_bind, result_raise]
  cases checkPushedCall call s with
  | error e => rfl
  | ok _ =>
    dsimp only
    rw [result_bind, result_reserve]
    by_cases hfits : (s.reserved call.chars).Fits
    · rw [check_pos hfits, if_pos hfits]
      rfl
    · rw [check_neg hfits, if_neg hfits]

/-! ### Steps -/

/-- What every step does: it adds to the events that were built. -/
structure Continues (s s' : ResponsesStreamEvents) : Prop where
  coherent : Coherent s'
  grows : s.built <+: s'.built
  request : s'.request = s.request
  responseId : s'.responseId = s.responseId
  done : s'.done = s.done

theorem Continues.refl (h : Coherent s) : Continues s s := ⟨h, List.prefix_rfl, rfl, rfl, rfl⟩

theorem Continues.trans {s'' : ResponsesStreamEvents} (h : Continues s s')
    (h' : Continues s' s'') : Continues s s'' :=
  ⟨h'.coherent, h.grows.trans h'.grows, h'.request.trans h.request,
    h'.responseId.trans h.responseId, h'.done.trans h.done⟩

theorem continues_begun (h : Coherent s) : Continues s s.begun := by
  refine ⟨h.begun, ?_, ?_, ?_, ?_⟩ <;> unfold begun <;> split_ifs
  · exact List.prefix_rfl
  · exact (List.prefix_append _ _).trans (List.prefix_append _ _)
  all_goals rfl

theorem continues_reserved {characters : ℕ} (h : Coherent s) :
    Continues s (s.reserved characters) :=
  ⟨h.reserved, List.prefix_rfl, rfl, rfl, rfl⟩

theorem continues_parted (h : Coherent s) (hstart : s.started = true) :
    Continues s (s.parted kind) := by
  refine ⟨h.parted hstart, ?_, ?_, ?_, ?_⟩ <;> unfold parted <;> split_ifs
  · exact (List.prefix_append _ _).trans (List.prefix_append _ _)
  · exact List.prefix_rfl
  all_goals rfl

theorem continues_withDelta (h : Coherent s) (hstart : s.started = true) :
    Continues s (s.withDelta kind text) := by
  have hparted : Continues (s.reserved text.length) ((s.reserved text.length).parted kind) :=
    continues_parted h.reserved hstart
  exact ⟨h.withDelta hstart, hparted.grows.trans (List.prefix_append _ _), hparted.request,
    hparted.responseId, hparted.done⟩

theorem continues_openCall (h : Coherent s) (hstart : s.started = true) :
    Continues s (s.openCall call) :=
  ⟨h.openCall hstart, (List.prefix_append _ _).trans (List.prefix_append _ _), rfl, rfl, rfl⟩

theorem started_withDelta : (s.withDelta kind text).started = s.started :=
  started_parted (s := s.reserved text.length)

/-- `_delta` builds nothing where it raises. -/
theorem delta_spec (h : Coherent s) (hstart : s.started = true) :
    Leaves (fun _ s' => Continues s s' ∧ s'.built = s.built)
      (fun _ s' => Continues s s' ∧ s'.started = true) (delta kind text) s := by
  unfold Leaves
  rw [result_delta]
  split_ifs with htext hfits
  · exact ⟨continues_withDelta h hstart, started_withDelta.trans hstart⟩
  · exact ⟨continues_reserved h, rfl⟩
  · exact ⟨.refl h, rfl⟩

/-- Nor does `push` for a call. -/
theorem pushCall_spec (h : Coherent s) (hstart : s.started = true) :
    Leaves (fun _ s' => Continues s s' ∧ s'.built = s.built)
      (fun _ s' => Continues s s' ∧ s'.started = true) (pushCall call) s := by
  unfold Leaves
  rw [result_pushCall]
  cases checkPushedCall call s with
  | error e => exact ⟨.refl h, rfl⟩
  | ok _ =>
    dsimp only
    split_ifs with hfits
    · exact ⟨(continues_reserved h).trans (continues_openCall h.reserved hstart), hstart⟩
    · exact ⟨continues_reserved h, rfl⟩

/-- Nor does the rest of `push`, once the stream is open. -/
theorem pushOpened_spec (h : Coherent s) (hstart : s.started = true) :
    Leaves (fun _ s' => Continues s s' ∧ s'.built = s.built)
      (fun _ s' => Continues s s' ∧ s'.started = true) (pushOpened chunk) s := by
  cases chunk with
  | textDelta text => exact delta_spec h hstart
  | reasoningDelta text => exact delta_spec h hstart
  | toolCall call => exact pushCall_spec h hstart
  | finish reason => exact ⟨⟨h.of_same ⟨rfl, rfl, rfl, rfl, rfl, rfl, rfl⟩, List.prefix_rfl, rfl,
      rfl, rfl⟩, hstart⟩
  | usage tokens =>
    unfold pushOpened
    rw [leaves_bind]
    unfold Leaves
    rw [result_reserve]
    by_cases hfits : (s.reserved 0).Fits
    · rw [check_pos hfits]
      exact ⟨⟨h.of_same ⟨rfl, rfl, rfl, rfl, rfl, rfl, rfl⟩, List.prefix_rfl, rfl, rfl, rfl⟩, hstart⟩
    · rw [check_neg hfits]
      exact ⟨continues_reserved h, rfl⟩

/-- **What `push` leaves**: where it raises it has built nothing, but for the events that open the
    stream. -/
theorem pushChunk_spec (h : Coherent s) :
    Leaves (fun _ s' => Continues s s' ∧
        s'.built = if s.refuses chunk = true then s.built else s.begun.built)
      (fun _ s' => Continues s s' ∧ s'.started = true) (pushChunk chunk) s := by
  unfold pushChunk
  simp only [leaves_bind, leaves_get, leaves_raise]
  refine ⟨fun _ hchecked => ?_, fun _ hrefused => ?_⟩
  · have hopen : s.refuses chunk = false := check_eq_ok.mp hchecked
    unfold Leaves
    rw [result_begin]
    refine (pushOpened_spec h.begun started_begun).mono ?_ ?_
    · rintro _ s' ⟨hcontinues, hbuilt⟩
      rw [hopen, if_neg Bool.false_ne_true]
      exact ⟨(continues_begun h).trans hcontinues, hbuilt⟩
    · rintro _ s' ⟨hcontinues, hstart⟩
      exact ⟨(continues_begun h).trans hcontinues, hstart⟩
  · have hrefuses : s.refuses chunk = true := by
      by_contra hnot
      rw [check_pos (Bool.not_eq_true _ ▸ hnot)] at hrefused
      cases hrefused
    rw [if_pos hrefuses]
    exact ⟨.refl h, rfl⟩

end ResponsesStreamEvents

end ScarcityRouter
