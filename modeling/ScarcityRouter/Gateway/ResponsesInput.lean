import ScarcityRouter.Gateway.Responses

namespace ScarcityRouter

open ScarcityRouter.Lib

/-!
# Histories of Responses requests

`_messages` of `gateway_responses.py`: the conversation that an input list is translated to.

* `HistoryItem`, `readItem` — one item of the input, and how its JSON is read.
* `InputState.step` — one pass of the loop; `inputMessages` — `_messages`.
* `WellFormed` — **each group of calls is followed by exactly one result for each of its calls**.
* `Grouped` — no call follows a result while an earlier call is open.
* `history_iff` — an accepted history is told in full, and it is well-formed exactly if it is
  grouped.

Open calls are looked for at a message and at the end, but not where a call begins a new group.
-/

namespace ResponsesInput

/-! ### Readers -/

/-- The roles of a message. -/
def roles : List Text :=
  [Text.ofString "system", Text.ofString "developer", Text.ofString "user", Text.ofString "assistant"]

/-- The role of an assistant. -/
def assistant : Text := Text.ofString "assistant"

/-- The role of a tool. -/
def tool : Text := Text.ofString "tool"

/-- `_invalid`. -/
def invalid (param : String)
    (message : String := "invalid or unsupported Responses parameter") : GatewayError :=
  .invalidRequest message (some "unsupported_parameter") (some param)

/-- `_object`. -/
def exactObject (value : Json) (allowed required : List String) (param : String) :
    Except GatewayError Record :=
  match value with
  | .object members => do
    check (Record.extraKeys members allowed = [] ∧ Record.missing members required = [])
      (invalid param)
    return members
  | _ => .error (invalid param)

/-- `_text`, of a text. -/
def limitedText (s : Text) (param : String) (limit : ℕ) (empty : Bool) : Except GatewayError Text :=
  do
    check (s.length ≤ limit ∧ (empty = true ∨ s ≠ [])) (invalid param)
    return s

/-- `_text`. -/
def wireText (value : Option Json) (param : String) (limit : ℕ := maxResponseChars)
    (empty : Bool := false) : Except GatewayError Text :=
  match value with
  | some (.string s) => limitedText s param limit empty
  | _ => .error (invalid param)

/-- A member is this text. -/
def isText (value : Option Json) (s : String) : Bool :=
  match value with
  | some (.string t) => t = Text.ofString s
  | _ => false

/-- A member that is absent or null. -/
def isNone (value : Option Json) : Bool :=
  match value with
  | none | some .null => true
  | _ => false

/-- A member that is absent, null or an empty list. -/
def isBlank (value : Option Json) : Bool :=
  match value with
  | none | some .null | some (.list []) => true
  | _ => false

/-- The refusal of content that is not one text part. -/
def multipart : GatewayError :=
  invalid "input" "only single text parts are supported; multipart input is not flattened"

/-- `_content`. -/
def wireContent (value : Option Json) (role : Text) : Except GatewayError Text :=
  match value with
  | some (.string s) => limitedText s "input" maxResponseChars true
  | some (.list [part]) => do
    let part ← exactObject part ["type", "text", "annotations", "logprobs"] ["type", "text"] "input"
    let kind := part.get? "type"
    check (isText kind "input_text" ∨ role = assistant ∧ isText kind "output_text") (invalid "input")
    check (isBlank (part.get? "annotations") ∧ isBlank (part.get? "logprobs"))
      (invalid "input" "annotated or probabilistic history is not representable")
    wireText (part.get? "text") "input" maxResponseChars true
  | _ => .error multipart

/-! ### Messages -/

/-- One call of an assistant message. -/
structure WireCall where
  id : Text
  name : Text
  arguments : Text
  deriving DecidableEq

/-- One canonical message: its `tool_calls` are absent while there are none. -/
structure WireMessage where
  role : Text
  content : Option Text
  toolCalls : List WireCall := []
  toolCallId : Option Text := none
  deriving DecidableEq

/-- The message of a tool result. -/
def resultMessage (id content : Text) : WireMessage where
  role := tool
  content := some content
  toolCallId := some id

/-- The state of the loop. -/
structure InputState where
  messages : List WireMessage := []
  identifiers : List Text := []
  calls : Finset Text := ∅
  answered : Finset Text := ∅

/-- A call joins the last message if that is an assistant's. -/
def addCall (messages : List WireMessage) (call : WireCall) : List WireMessage :=
  match messages.getLast? with
  | some last =>
    if last.role = assistant then
      messages.dropLast ++ [{ last with toolCalls := last.toolCalls ++ [call] }]
    else messages ++ [⟨assistant, none, [call], none⟩]
  | none => messages ++ [⟨assistant, none, [call], none⟩]

namespace InputState

/-- An item of type `message`. -/
def message (s : InputState) (item : Record) : Except GatewayError InputState := do
  let item ← exactObject (.object item) ["type", "role", "content", "id", "phase", "status"]
    ["role", "content"] "input"
  let role ← wireText (item.get? "role") "input" 32
  check (role ∈ roles ∧ isNone (item.get? "phase") ∧
      (item.get? "status" = none ∨ isText (item.get? "status") "completed"))
    (invalid "input" "roles, phase and complete-history semantics must be representable")
  check (s.calls = s.answered)
    (invalid "input" "a prior function call has no result; history is not repaired")
  let content ← wireContent (item.get? "content") role
  return { s with messages := s.messages ++ [{ role, content := some content }] }

/-- An item of type `function_call`. -/
def functionCall (s : InputState) (item : Record) : Except GatewayError InputState := do
  let item ← exactObject (.object item) ["type", "id", "call_id", "name", "arguments", "status",
    "async", "caller", "namespace"] ["type", "call_id", "name", "arguments"] "input"
  check ((isNone (item.get? "status") ∨ isText (item.get? "status") "completed") ∧
      (isNone (item.get? "async") ∨ item.get? "async" matches some (.bool false)))
    (invalid "input")
  check (isNone (item.get? "caller") ∧ isNone (item.get? "namespace")) (invalid "input")
  let id ← wireText (item.get? "call_id") "input" 256
  check (id ∉ s.calls) (invalid "input" "duplicate function call identity")
  let name ← wireText (item.get? "name") "input" 256
  let arguments ← wireText (item.get? "arguments") "input" 1048576
  return { s with
    messages := addCall s.messages ⟨id, name, arguments⟩
    calls := insert id s.calls }

/-- An item of type `function_call_output`. -/
def functionCallOutput (s : InputState) (item : Record) : Except GatewayError InputState := do
  let item ← exactObject (.object item) ["type", "id", "call_id", "output"]
    ["type", "call_id", "output"] "input"
  let id ← wireText (item.get? "call_id") "input" 256
  check (id ∈ s.calls ∧ id ∉ s.answered)
    (invalid "input" "orphaned or repeated function result; call identity is never guessed")
  let content ← wireText (item.get? "output") "input" maxResponseChars true
  return { s with
    messages := s.messages ++ [resultMessage id content]
    answered := insert id s.answered }

/-- The identity of an item. -/
def identify (s : InputState) (item : Record) : Except GatewayError InputState :=
  match item.get? "id" with
  | none | some .null => .ok s
  | value => do
    let identity ← wireText value "input" 256
    check (identity ∉ s.identifiers) (invalid "input" "duplicate concrete input item identity")
    return { s with identifiers := s.identifiers ++ [identity] }

/-- The branches of the loop, by the type of the item. -/
def branch (s : InputState) (item : Record) : Except GatewayError InputState :=
  if isText (item.get? "type") "function_call" then s.functionCall item
  else if isText (item.get? "type") "function_call_output" then s.functionCallOutput item
  else if item.get? "type" = none ∨ isText (item.get? "type") "message" then s.message item
  else .error (invalid "input"
    "state references, reasoning replay and hosted items are not supported")

/-- One pass of the loop. -/
def step (s : InputState) (raw : Json) : Except GatewayError InputState := do
  let item ← exactObject raw ["type", "role", "content", "id", "phase", "status", "call_id",
    "name", "arguments", "output", "async", "caller", "namespace"] [] "input"
  let s ← s.branch item
  s.identify item

end InputState

/-- `MAX_MESSAGES`. -/
def maxMessages : ℕ := 1024

/-- `_messages`. -/
def inputMessages (value : Json) : Except GatewayError (List WireMessage × List Text) :=
  match value with
  | .string s => do
    let content ← limitedText s "input" maxResponseChars false
    return ([{ role := Text.ofString "user", content := some content }], [])
  | .list items => do
    check (items ≠ [] ∧ items.length ≤ maxMessages) (invalid "input")
    let s ← items.foldlM InputState.step {}
    check (s.messages ≠ [] ∧ s.calls = s.answered)
      (invalid "input" "complete function history is required; missing results are not invented")
    return (s.messages, s.identifiers)
  | _ => .error (invalid "input")

/-! ### Histories -/

/-- One item of a history. -/
inductive HistoryItem where
  | message (role content : Text)
  | call (call : WireCall)
  | output (id content : Text)
  deriving DecidableEq

/-- The text of a member. -/
def memberText? (item : Record) (key : String) : Option Text :=
  match item.get? key with
  | some (.string s) => some s
  | _ => none

/-- What an item of the input says. -/
def readItem : Json → Option HistoryItem
  | .object members =>
    let item : Record := members
    if isText (item.get? "type") "function_call" then do
      let id ← memberText? item "call_id"
      let name ← memberText? item "name"
      let arguments ← memberText? item "arguments"
      return .call ⟨id, name, arguments⟩
    else if isText (item.get? "type") "function_call_output" then do
      let id ← memberText? item "call_id"
      let content ← memberText? item "output"
      return .output id content
    else do
      let role ← memberText? item "role"
      let content ← (wireContent (item.get? "content") role).toOption
      return .message role content
  | _ => none

/-- The items that a canonical message tells. -/
def WireMessage.items (m : WireMessage) : List HistoryItem :=
  match m.toolCallId, m.content with
  | some id, some content => [.output id content]
  | none, some content => .message m.role content :: m.toolCalls.map .call
  | _, none => m.toolCalls.map .call

/-- The call of an item. -/
def HistoryItem.callId? : HistoryItem → Option Text
  | .call c => some c.id
  | _ => none

/-- The call that an item answers. -/
def HistoryItem.answerId? : HistoryItem → Option Text
  | .output id _ => some id
  | _ => none

/-- The message is a tool result. -/
def WireMessage.isTool (m : WireMessage) : Bool := m.role = tool

/-- The calls of a message. -/
def WireMessage.callIds (m : WireMessage) : List Text := m.toolCalls.map WireCall.id

/-- **Each group of calls is answered**: the tool results up to the next other message are exactly
    one for each of its calls. -/
def WellFormed (messages : List WireMessage) : Prop :=
  ∀ before m after, messages = before ++ m :: after → m.toolCalls ≠ [] →
    ((after.takeWhile WireMessage.isTool).filterMap WireMessage.toolCallId).Perm m.callIds

/-- **No call follows a result while an earlier call is open.** -/
def Grouped (items : List HistoryItem) : Prop :=
  ∀ before id content call after, items = before ++ .output id content :: .call call :: after →
    ∀ earlier ∈ before.filterMap HistoryItem.callId?,
      earlier = id ∨ earlier ∈ before.filterMap HistoryItem.answerId?

/-! ### Passes -/

/-- What one pass does to the conversation. -/
inductive Applies (s : InputState) : HistoryItem → InputState → Prop
  | message {role content : Text} {identifiers : List Text} (hrole : role ∈ roles)
      (closed : s.calls = s.answered) : Applies s (.message role content) { s with
        messages := s.messages ++ [{ role, content := some content }]
        identifiers }
  | call {call : WireCall} {identifiers : List Text} (fresh : call.id ∉ s.calls) :
      Applies s (.call call) { s with
        messages := addCall s.messages call
        calls := insert call.id s.calls
        identifiers }
  | output {id content : Text} {identifiers : List Text} (called : id ∈ s.calls)
      (pending : id ∉ s.answered) : Applies s (.output id content) { s with
        messages := s.messages ++ [resultMessage id content]
        answered := insert id s.answered
        identifiers }

theorem exactObject_eq_ok {value : Json} {allowed required : List String} {param : String}
    {item : Record} (h : exactObject value allowed required param = .ok item) :
    value = .object item := by
  unfold exactObject at h
  split at h
  · obtain ⟨-, h⟩ := check_bind_eq_ok.mp h
    rw [Except.ok.inj h]
  · cases h

theorem wireText_eq_ok {item : Record} {key param : String} {limit : ℕ} {empty : Bool} {s : Text}
    (h : wireText (item.get? key) param limit empty = .ok s) : memberText? item key = some s := by
  unfold wireText at h
  unfold memberText?
  split at h
  · obtain ⟨-, h⟩ := check_bind_eq_ok.mp h
    exact congrArg some (Except.ok.inj h)
  · cases h

/-- The identity of an item does not touch the conversation. -/
theorem identify_eq_ok {s s' : InputState} {item : Record} (h : s.identify item = .ok s') :
    s' = { s with identifiers := s'.identifiers } := by
  unfold InputState.identify at h
  split at h
  · rw [← Except.ok.inj h]
  · rw [← Except.ok.inj h]
  · obtain ⟨identity, -, h⟩ := bind_eq_ok.mp h
    obtain ⟨-, h⟩ := check_bind_eq_ok.mp h
    rw [← Except.ok.inj h]

/-- **What one pass does.** -/
theorem step_cases {s s' : InputState} {raw : Json} (h : s.step raw = .ok s') :
    ∃ item, readItem raw = some item ∧ Applies s item s' := by
  obtain ⟨item, hitem, hrest⟩ := bind_eq_ok.mp h
  obtain ⟨s₁, hbranch, hidentify⟩ := bind_eq_ok.mp hrest
  obtain rfl := exactObject_eq_ok hitem
  have hsame := identify_eq_ok hidentify
  generalize s'.identifiers = identifiers at hsame
  subst hsame
  dsimp only [readItem]
  unfold InputState.branch at hbranch
  split_ifs at hbranch with hcall houtput
  · obtain ⟨item', hitem', hbranch⟩ := bind_eq_ok.mp hbranch
    cases exactObject_eq_ok hitem'
    obtain ⟨-, hbranch⟩ := check_bind_eq_ok.mp hbranch
    obtain ⟨-, hbranch⟩ := check_bind_eq_ok.mp hbranch
    obtain ⟨id, hid, hbranch⟩ := bind_eq_ok.mp hbranch
    obtain ⟨hfresh, hbranch⟩ := check_bind_eq_ok.mp hbranch
    obtain ⟨name, hname, hbranch⟩ := bind_eq_ok.mp hbranch
    obtain ⟨arguments, harguments, hbranch⟩ := bind_eq_ok.mp hbranch
    obtain rfl := Except.ok.inj hbranch
    rw [if_pos hcall, wireText_eq_ok hid, wireText_eq_ok hname, wireText_eq_ok harguments]
    exact ⟨.call ⟨id, name, arguments⟩, rfl, .call hfresh⟩
  · obtain ⟨item', hitem', hbranch⟩ := bind_eq_ok.mp hbranch
    cases exactObject_eq_ok hitem'
    obtain ⟨id, hid, hbranch⟩ := bind_eq_ok.mp hbranch
    obtain ⟨⟨hcalled, hpending⟩, hbranch⟩ := check_bind_eq_ok.mp hbranch
    obtain ⟨content, hcontent, hbranch⟩ := bind_eq_ok.mp hbranch
    obtain rfl := Except.ok.inj hbranch
    rw [if_neg hcall, if_pos houtput, wireText_eq_ok hid, wireText_eq_ok hcontent]
    exact ⟨.output id content, rfl, .output hcalled hpending⟩
  · obtain ⟨item', hitem', hbranch⟩ := bind_eq_ok.mp hbranch
    cases exactObject_eq_ok hitem'
    obtain ⟨role, hrole, hbranch⟩ := bind_eq_ok.mp hbranch
    obtain ⟨⟨hroles, -⟩, hbranch⟩ := check_bind_eq_ok.mp hbranch
    obtain ⟨hclosed, hbranch⟩ := check_bind_eq_ok.mp hbranch
    obtain ⟨content, hcontent, hbranch⟩ := bind_eq_ok.mp hbranch
    obtain rfl := Except.ok.inj hbranch
    rw [if_neg hcall, if_neg houtput, wireText_eq_ok hrole]
    refine ⟨.message role content, ?_, .message hroles hclosed⟩
    show ((wireContent (item.get? "content") role).toOption.bind _) = _
    rw [hcontent]
    rfl

/-! ### Groups -/

section Groups

variable {messages front before tools rest : List WireMessage} {m x x' next : WireMessage}

/-- The results of a run of tool messages. -/
def answerIds (tools : List WireMessage) : List Text := tools.filterMap WireMessage.toolCallId

/-- Every group that another message has followed is answered. -/
def GroupsAnswered (messages : List WireMessage) : Prop :=
  ∀ before m tools next rest, messages = before ++ m :: (tools ++ next :: rest) →
    (∀ t ∈ tools, t.isTool = true) → next.isTool = false → m.toolCalls ≠ [] →
    (answerIds tools).Perm m.callIds

/-- The last group is answered. -/
def LastAnswered (messages : List WireMessage) : Prop :=
  ∀ front m tools, messages = front ++ m :: tools → (∀ t ∈ tools, t.isTool = true) →
    m.toolCalls ≠ [] → (answerIds tools).Perm m.callIds

/-- A conversation is well-formed if all its groups are answered, with the last one. -/
theorem wellFormed_iff : WellFormed messages ↔ GroupsAnswered messages ∧ LastAnswered messages := by
  constructor
  · intro h
    refine ⟨fun before m tools next rest hsplit htools hnext hcalls => ?_,
      fun front m tools hsplit htools hcalls => ?_⟩
    · have hrun := h before m (tools ++ next :: rest) hsplit hcalls
      rwa [List.takeWhile_append_of_pos htools, List.takeWhile_cons_of_neg (by simp [hnext]),
        List.append_nil] at hrun
    · have hrun := h front m tools hsplit hcalls
      rwa [List.takeWhile_eq_self_iff.mpr htools] at hrun
  · rintro ⟨hgroups, hlast⟩ before m after hsplit hcalls
    have htools : ∀ t ∈ after.takeWhile WireMessage.isTool, t.isTool = true :=
      fun t ht => List.mem_takeWhile_imp ht
    have hafter := List.takeWhile_append_dropWhile (p := WireMessage.isTool) (l := after)
    cases hdrop : after.dropWhile WireMessage.isTool with
    | nil =>
      rw [hdrop, List.append_nil] at hafter
      rw [← hafter] at hsplit
      exact hlast before m _ hsplit htools hcalls
    | cons next rest =>
      have hnext : next.isTool = false := by
        have hhead := List.head_dropWhile_not WireMessage.isTool
          (show after.dropWhile WireMessage.isTool ≠ [] by rw [hdrop]; simp)
        simpa [hdrop] using hhead
      rw [hdrop] at hafter
      rw [← hafter] at hsplit
      exact hgroups before m _ next rest hsplit htools hnext hcalls

/-- A tool message ends no group. -/
theorem groupsAnswered_concat_tool (hx : x.isTool = true) :
    GroupsAnswered (messages ++ [x]) ↔ GroupsAnswered messages := by
  constructor
  · intro h before m tools next rest hsplit
    refine h before m tools next (rest ++ [x]) ?_
    rw [hsplit]
    simp
  · intro h before m tools next rest hsplit htools hnext
    rcases List.eq_nil_or_concat rest with rfl | ⟨rest, y, rfl⟩
    · -- The last message would be the next one, which is no tool's.
      have hlast := congrArg List.getLast? hsplit
      simp only [List.getLast?_append, List.getLast?_cons, List.getLast?_nil] at hlast
      obtain rfl : x = next := by simpa using hlast
      rw [hx] at hnext
      cases hnext
    · refine h before m tools next rest ?_ htools hnext
      have hsplit' : messages ++ [x] = (before ++ m :: (tools ++ next :: rest)) ++ [y] := by
        rw [hsplit]
        simp
      exact (List.append_inj' hsplit' rfl).1

/-- Another message ends the last group. -/
theorem groupsAnswered_concat_other (hx : x.isTool = false) :
    GroupsAnswered (messages ++ [x]) ↔ WellFormed messages := by
  rw [wellFormed_iff]
  constructor
  · intro h
    refine ⟨fun before m tools next rest hsplit => ?_, fun front m tools hsplit htools => ?_⟩
    · refine h before m tools next (rest ++ [x]) ?_
      rw [hsplit]
      simp
    · refine h front m tools x [] ?_ htools hx
      rw [hsplit]
      simp
  · rintro ⟨hgroups, hlast⟩ before m tools next rest hsplit htools hnext
    rcases List.eq_nil_or_concat rest with rfl | ⟨rest, y, rfl⟩
    · refine hlast before m tools ?_ htools
      have hsplit' : messages ++ [x] = (before ++ m :: tools) ++ [next] := by
        rw [hsplit]
        simp
      exact (List.append_inj' hsplit' rfl).1
    · refine hgroups before m tools next rest ?_ htools hnext
      have hsplit' : messages ++ [x] = (before ++ m :: (tools ++ next :: rest)) ++ [y] := by
        rw [hsplit]
        simp
      exact (List.append_inj' hsplit' rfl).1

/-- Some message before is no tool's: there is a last one. -/
theorem exists_last_other (h : ∃ m ∈ messages, m.isTool = false) :
    ∃ front m tools, messages = front ++ m :: tools ∧ m.isTool = false ∧
      ∀ t ∈ tools, t.isTool = true := by
  induction messages using List.reverseRecOn with
  | nil =>
    obtain ⟨m, hm, -⟩ := h
    cases hm
  | append_singleton messages x ih =>
    cases hx : x.isTool with
    | false => exact ⟨messages, x, [], rfl, hx, fun t ht => by cases ht⟩
    | true =>
      obtain ⟨m, hm, hother⟩ := h
      have hm' : m ∈ messages := by
        rcases List.mem_append.mp hm with hm | hm
        · exact hm
        · rw [List.mem_singleton.mp hm, hx] at hother
          cases hother
      obtain ⟨front, m, tools, rfl, hother, htools⟩ := ih ⟨m, hm', hother⟩
      refine ⟨front, m, tools ++ [x], by simp, hother, fun t ht => ?_⟩
      rcases List.mem_append.mp ht with ht | ht
      · exact htools t ht
      · rwa [List.mem_singleton.mp ht]

end Groups

/-! ### The invariant -/

section Invariant

variable {s s' : InputState} {items : List HistoryItem} {item : HistoryItem}

/-- A call that no item has answered. -/
def InputState.Pending (s : InputState) (id : Text) : Prop := id ∈ s.calls ∧ id ∉ s.answered

/-- What the state knows of the items that were read. -/
structure Tracks (s : InputState) (items : List HistoryItem) : Prop where
  told : s.messages.flatMap WireMessage.items = items
  calls : ∀ id, id ∈ s.calls ↔ id ∈ items.filterMap HistoryItem.callId?
  answered : ∀ id, id ∈ s.answered ↔ id ∈ items.filterMap HistoryItem.answerId?
  callers : ∀ m ∈ s.messages, m.toolCalls ≠ [] → m.role = assistant
  answers : ∀ m ∈ s.messages, m.toolCallId ≠ none → m.role = tool
  owned : ∀ id ∈ s.calls, ∃ m ∈ s.messages, id ∈ m.callIds
  last : ∀ m, s.messages.getLast? = some m → m.isTool = true →
    ∃ before id content, items = before ++ [.output id content]
  result : ∀ before id content, items = before ++ [.output id content] →
    ∃ m, s.messages.getLast? = some m ∧ m.isTool = true
  subset : s.answered ⊆ s.calls

/-- The last group: its calls are the ones that its results answer, and the pending ones. -/
structure OpenGroup (s : InputState) (m : WireMessage) (tools : List WireMessage) : Prop where
  calls_nodup : m.callIds.Nodup
  answers_nodup : (answerIds tools).Nodup
  split : ∀ id, id ∈ m.callIds ↔ id ∈ answerIds tools ∨ s.Pending id
  answered : ∀ id ∈ answerIds tools, id ∈ s.answered

/-- What holds of a conversation as long as its history is grouped. -/
structure InOrder (s : InputState) : Prop where
  groups : GroupsAnswered s.messages
  tail : ∀ front m tools, s.messages = front ++ m :: tools → m.isTool = false →
    (∀ t ∈ tools, t.isTool = true) → OpenGroup s m tools

/-- **The invariant of the loop.** -/
structure History (s : InputState) (items : List HistoryItem) : Prop where
  tracks : Tracks s items
  ordered : Grouped items → InOrder s
  broken : ¬ Grouped items → ¬ GroupsAnswered s.messages

/-- Nothing is pending if everything was answered. -/
theorem not_pending (h : s.calls = s.answered) (id : Text) : ¬ s.Pending id := by
  rintro ⟨hcall, hpending⟩
  rw [h] at hcall
  exact hpending hcall

/-- A group with nothing pending is answered. -/
theorem OpenGroup.perm {m : WireMessage} {tools : List WireMessage} (h : OpenGroup s m tools)
    (hnone : ∀ id, ¬ s.Pending id) : (answerIds tools).Perm m.callIds := by
  rw [List.perm_ext_iff_of_nodup h.answers_nodup h.calls_nodup]
  intro id
  rw [h.split id]
  exact (or_iff_left (hnone id)).symm

/-- A conversation in order with nothing pending is well-formed. -/
theorem InOrder.wellFormed (h : InOrder s) (htracks : Tracks s items)
    (hnone : ∀ id, ¬ s.Pending id) : WellFormed s.messages := by
  refine wellFormed_iff.mpr ⟨h.groups, fun front m tools hsplit htools hcalls => ?_⟩
  have hother : m.isTool = false := by
    have hrole := htracks.callers m (by rw [hsplit]; simp) hcalls
    unfold WireMessage.isTool
    rw [hrole]
    decide +kernel
  exact (h.tail front m tools hsplit hother htools).perm hnone

/-- A longer history is grouped if the shorter one is, and the new item closes nothing too early. -/
theorem grouped_concat : Grouped (items ++ [item]) ↔ Grouped items ∧
    ∀ before id content call, items = before ++ [.output id content] → item = .call call →
      ∀ earlier ∈ before.filterMap HistoryItem.callId?,
        earlier = id ∨ earlier ∈ before.filterMap HistoryItem.answerId? := by
  constructor
  · intro h
    refine ⟨fun before id content call after hsplit => ?_,
      fun before id content call hsplit hitem => ?_⟩
    · refine h before id content call (after ++ [item]) ?_
      rw [hsplit]
      simp
    · refine h before id content call [] ?_
      rw [hsplit, hitem]
      simp
  · rintro ⟨hgrouped, hnew⟩ before id content call after hsplit
    rcases List.eq_nil_or_concat after with rfl | ⟨after, last, rfl⟩
    · have hsplit' : items ++ [item] = (before ++ [.output id content]) ++ [.call call] := by
        rw [hsplit]
        simp
      obtain ⟨hitems, hitem⟩ := List.append_inj' hsplit' rfl
      exact hnew before id content call hitems (List.singleton_inj.mp hitem)
    · refine hgrouped before id content call after ?_
      have hsplit' : items ++ [item] =
          (before ++ .output id content :: .call call :: after) ++ [last] := by
        rw [hsplit]
        simp
      exact (List.append_inj' hsplit' rfl).1

/-- An item that is no call keeps a history grouped. -/
theorem grouped_concat_of_not_call (h : item.callId? = none) :
    Grouped (items ++ [item]) ↔ Grouped items := by
  rw [grouped_concat]
  refine and_iff_left ?_
  rintro before id content call - rfl
  cases h

/-- A call keeps a history grouped if it does not follow a result while a call is pending. -/
theorem grouped_concat_call {call : WireCall} (htracks : Tracks s items) :
    Grouped (items ++ [.call call]) ↔ Grouped items ∧
      ((∃ before id content, items = before ++ [.output id content]) → ∀ id, ¬ s.Pending id) := by
  rw [grouped_concat]
  refine and_congr_right fun _ => ⟨?_, ?_⟩
  · rintro hnew ⟨before, id, content, hitems⟩ earlier ⟨hcall, hpending⟩
    refine hpending ((htracks.answered earlier).mpr ?_)
    have hbefore : earlier ∈ before.filterMap HistoryItem.callId? := by
      have hmem := (htracks.calls earlier).mp hcall
      rw [hitems, List.filterMap_append] at hmem
      rcases List.mem_append.mp hmem with hmem | hmem
      · exact hmem
      · cases hmem
    rw [hitems, List.filterMap_append]
    rcases hnew before id content call hitems rfl earlier hbefore with rfl | hanswered
    · exact List.mem_append_right _ List.mem_cons_self
    · exact List.mem_append_left _ hanswered
  · intro hnone before id content call' hitems _ earlier hearlier
    by_contra hopen
    rw [not_or] at hopen
    refine hnone ⟨before, id, content, hitems⟩ earlier ⟨?_, fun hanswered => ?_⟩
    · rw [htracks.calls, hitems, List.filterMap_append]
      exact List.mem_append_left _ hearlier
    · rw [htracks.answered, hitems, List.filterMap_append] at hanswered
      rcases List.mem_append.mp hanswered with hmem | hmem
      · exact hopen.2 hmem
      · exact hopen.1 (List.mem_singleton.mp hmem)

/-! ### The steps -/

theorem isTool_of_role {m : WireMessage} (h : m.role ∈ roles) : m.isTool = false := by
  have hroles : tool ∉ roles := by decide +kernel
  unfold WireMessage.isTool
  rw [decide_eq_false_iff_not]
  rintro hrole
  rw [hrole] at h
  exact hroles h

theorem isTool_of_assistant {m : WireMessage} (h : m.role = assistant) : m.isTool = false := by
  refine isTool_of_role ?_
  rw [h]
  decide +kernel

/-- A new message at the end, and where a split of the longer conversation comes from. -/
theorem split_concat {messages front tools : List WireMessage} {x m : WireMessage}
    (h : messages ++ [x] = front ++ m :: tools) :
    (front = messages ∧ m = x ∧ tools = []) ∨
      ∃ tools', tools = tools' ++ [x] ∧ messages = front ++ m :: tools' := by
  rcases List.eq_nil_or_concat tools with rfl | ⟨tools', y, rfl⟩
  · obtain ⟨hfront, hx⟩ := List.append_inj' h rfl
    exact .inl ⟨hfront.symm, (List.singleton_inj.mp hx).symm, rfl⟩
  · rw [List.concat_eq_append] at h ⊢
    have h' : messages ++ [x] = (front ++ m :: tools') ++ [y] := by
      rw [h]
      simp
    obtain ⟨hmessages, hx⟩ := List.append_inj' h' rfl
    rw [List.singleton_inj.mp hx]
    exact .inr ⟨tools', rfl, hmessages⟩

/-- A message that carries no call, on a conversation without pending calls. -/
theorem History.message {role content : Text} {identifiers : List Text} (h : History s items)
    (hrole : role ∈ roles) (closed : s.calls = s.answered) :
    History { s with
      messages := s.messages ++ [{ role, content := some content }]
      identifiers } (items ++ [.message role content]) := by
  have hother : WireMessage.isTool { role, content := some content } = false := isTool_of_role hrole
  have hgrouped : Grouped (items ++ [.message role content]) ↔ Grouped items :=
    grouped_concat_of_not_call rfl
  refine ⟨⟨?_, fun id => ?_, fun id => ?_, ?_, ?_, fun id hid => ?_, fun m hm htool => ?_,
      fun before id text hitems => ?_, h.tracks.subset⟩,
    fun hitems => ⟨?_, fun front m tools hsplit hm htools => ?_⟩, fun hitems => ?_⟩
  · rw [List.flatMap_append, h.tracks.told]
    rfl
  · rw [List.filterMap_append]
    exact (h.tracks.calls id).trans (by simp [HistoryItem.callId?])
  · rw [List.filterMap_append]
    exact (h.tracks.answered id).trans (by simp [HistoryItem.answerId?])
  · refine List.forall_mem_append.mpr ⟨h.tracks.callers, fun m hm hcalls => ?_⟩
    rw [List.mem_singleton.mp hm] at hcalls
    exact absurd rfl hcalls
  · refine List.forall_mem_append.mpr ⟨h.tracks.answers, fun m hm hid => ?_⟩
    rw [List.mem_singleton.mp hm] at hid
    exact absurd rfl hid
  · obtain ⟨m, hm, hcall⟩ := h.tracks.owned id hid
    exact ⟨m, List.mem_append_left _ hm, hcall⟩
  · rw [List.getLast?_concat] at hm
    rw [← Option.some.inj hm, hother] at htool
    cases htool
  · cases List.singleton_inj.mp (List.append_inj' hitems rfl).2
  · exact (groupsAnswered_concat_other hother).mpr
      ((h.ordered (hgrouped.mp hitems)).wellFormed h.tracks (not_pending closed))
  · rcases split_concat hsplit with ⟨-, rfl, rfl⟩ | ⟨tools', rfl, -⟩
    · exact ⟨List.nodup_nil, List.nodup_nil,
        fun id => iff_of_false List.not_mem_nil
          (not_or_intro List.not_mem_nil (not_pending (s := s) closed id)),
        fun id hid => by cases hid⟩
    · have hx := htools _ (List.mem_append_right _ List.mem_cons_self)
      rw [hother] at hx
      cases hx
  · rw [groupsAnswered_concat_other hother, wellFormed_iff]
    exact fun hwell => h.broken (fun hi => hitems (hgrouped.mpr hi)) hwell.1

/-- A result of a pending call. -/
theorem History.output {id content : Text} {identifiers : List Text} (h : History s items)
    (called : id ∈ s.calls) (pending : id ∉ s.answered) :
    History { s with
      messages := s.messages ++ [resultMessage id content]
      answered := insert id s.answered
      identifiers } (items ++ [.output id content]) := by
  have htool : (resultMessage id content).isTool = true := decide_eq_true rfl
  have hgrouped : Grouped (items ++ [.output id content]) ↔ Grouped items :=
    grouped_concat_of_not_call rfl
  refine ⟨⟨?_, fun other => ?_, fun other => ?_, ?_, ?_, fun other hid => ?_, fun m hm _ => ?_,
      fun before other text _ => ?_, ?_⟩,
    fun hitems => ⟨?_, fun front m tools hsplit hm htools => ?_⟩, fun hitems => ?_⟩
  · rw [List.flatMap_append, h.tracks.told]
    rfl
  · rw [List.filterMap_append]
    exact (h.tracks.calls other).trans (by simp [HistoryItem.callId?])
  · rw [List.filterMap_append, Finset.mem_insert, List.mem_append, ← h.tracks.answered other,
      or_comm]
    simp [HistoryItem.answerId?, eq_comm]
  · refine List.forall_mem_append.mpr ⟨h.tracks.callers, fun m hm hcalls => ?_⟩
    rw [List.mem_singleton.mp hm] at hcalls
    exact absurd rfl hcalls
  · refine List.forall_mem_append.mpr ⟨h.tracks.answers, fun m hm _ => ?_⟩
    rw [List.mem_singleton.mp hm]
    rfl
  · obtain ⟨m, hm, hcall⟩ := h.tracks.owned other hid
    exact ⟨m, List.mem_append_left _ hm, hcall⟩
  · exact ⟨items, id, content, rfl⟩
  · exact ⟨_, List.getLast?_concat, htool⟩
  · exact Finset.insert_subset called h.tracks.subset
  · exact (groupsAnswered_concat_tool htool).mpr (h.ordered (hgrouped.mp hitems)).groups
  · rcases split_concat hsplit with ⟨-, rfl, rfl⟩ | ⟨tools', rfl, hmessages⟩
    · rw [htool] at hm
      cases hm
    · have hgroup := (h.ordered (hgrouped.mp hitems)).tail front m tools' hmessages hm
        (fun t ht => htools t (List.mem_append_left _ ht))
      have hanswers : answerIds (tools' ++ [resultMessage id content]) =
          answerIds tools' ++ [id] := by
        unfold answerIds
        rw [List.filterMap_append]
        rfl
      have hfresh : id ∉ answerIds tools' := fun hid => pending (hgroup.answered id hid)
      refine ⟨hgroup.calls_nodup, ?_, fun other => ?_, fun other hother => ?_⟩
      · rw [hanswers]
        exact List.nodup_append.mpr ⟨hgroup.answers_nodup, List.nodup_singleton id,
          fun a ha b hb => by
            rintro rfl
            exact hfresh (List.mem_singleton.mp hb ▸ ha)⟩
      · rw [hanswers, hgroup.split other, List.mem_append, List.mem_singleton]
        unfold InputState.Pending
        simp only [Finset.mem_insert, not_or]
        by_cases hsame : other = id
        · subst hsame
          exact iff_of_true (.inr ⟨called, pending⟩) (.inl (.inr rfl))
        · simp only [hsame, not_false_eq_true, true_and, or_false]
      · rw [hanswers] at hother
        rcases List.mem_append.mp hother with hother | hother
        · exact Finset.mem_insert_of_mem (hgroup.answered other hother)
        · rw [List.mem_singleton.mp hother]
          exact Finset.mem_insert_self id _
  · rw [groupsAnswered_concat_tool htool]
    exact h.broken fun hi => hitems (hgrouped.mpr hi)

/-- A call that begins a message. -/
def callMessage (call : WireCall) : WireMessage := ⟨assistant, none, [call], none⟩

/-- A message with one call more. -/
def WireMessage.withCall (m : WireMessage) (call : WireCall) : WireMessage :=
  { m with toolCalls := m.toolCalls ++ [call] }

/-- Where a call goes. -/
theorem addCall_cases (messages : List WireMessage) (call : WireCall) :
    (∃ front last, messages = front ++ [last] ∧ last.role = assistant ∧
        addCall messages call = front ++ [last.withCall call]) ∨
      (∀ last, messages.getLast? = some last → last.role ≠ assistant) ∧
        addCall messages call = messages ++ [callMessage call] := by
  unfold addCall
  cases hlast : messages.getLast? with
  | none => exact .inr ⟨fun _ h => (by cases h), rfl⟩
  | some last =>
    obtain ⟨front, rfl⟩ := List.getLast?_eq_some_iff.mp hlast
    dsimp only
    split_ifs with hrole
    · rw [List.dropLast_concat]
      exact .inl ⟨front, last, rfl, hrole, rfl⟩
    · refine .inr ⟨fun other hother => ?_, rfl⟩
      rwa [← Option.some.inj hother]

/-- What a call adds to what is tracked, wherever it goes. -/
theorem Tracks.call {call : WireCall} {identifiers : List Text} (h : Tracks s items) :
    Tracks { s with
      messages := addCall s.messages call
      calls := insert call.id s.calls
      identifiers } (items ++ [.call call]) := by
  have hcalls : ∀ id, id ∈ insert call.id s.calls ↔
      id ∈ (items ++ [HistoryItem.call call]).filterMap HistoryItem.callId? := fun id => by
    rw [List.filterMap_append, Finset.mem_insert, List.mem_append, ← h.calls id, or_comm]
    simp [HistoryItem.callId?, eq_comm]
  have hanswered : ∀ id, id ∈ s.answered ↔
      id ∈ (items ++ [HistoryItem.call call]).filterMap HistoryItem.answerId? := fun id => by
    rw [List.filterMap_append]
    exact (h.answered id).trans (by simp [HistoryItem.answerId?])
  have hresult : ∀ before id content, items ++ [.call call] = before ++ [.output id content] →
      False := fun before id content hitems => by
    cases List.singleton_inj.mp (List.append_inj' hitems rfl).2
  have hsubset : s.answered ⊆ insert call.id s.calls :=
    h.subset.trans (Finset.subset_insert _ _)
  rcases addCall_cases s.messages call with ⟨front, last, hsplit, hrole, hadd⟩ | ⟨-, hadd⟩
  · have htoolCallId : last.toolCallId = none := by
      by_contra hid
      have htool := h.answers last (by rw [hsplit]; simp) hid
      rw [hrole] at htool
      exact absurd htool (by decide +kernel)
    have hitems : (last.withCall call).items = last.items ++ [.call call] := by
      unfold WireMessage.items WireMessage.withCall
      rw [htoolCallId]
      cases last.content <;> simp
    refine ⟨?_, hcalls, hanswered, ?_, ?_, fun id hid => ?_, fun m hm htool => ?_,
      fun before id content hitems => (hresult before id content hitems).elim, hsubset⟩
    · show (addCall s.messages call).flatMap _ = _
      rw [hadd, List.flatMap_append, List.flatMap_singleton, hitems, ← h.told, hsplit,
        List.flatMap_append, List.flatMap_singleton, List.append_assoc]
    · show ∀ m ∈ addCall s.messages call, _
      rw [hadd]
      refine List.forall_mem_append.mpr ⟨fun m hm => h.callers m ?_, fun m hm _ => ?_⟩
      · rw [hsplit]
        exact List.mem_append_left _ hm
      · rw [List.mem_singleton.mp hm]
        exact hrole
    · show ∀ m ∈ addCall s.messages call, _
      rw [hadd]
      refine List.forall_mem_append.mpr ⟨fun m hm => h.answers m ?_, fun m hm hid => ?_⟩
      · rw [hsplit]
        exact List.mem_append_left _ hm
      · rw [List.mem_singleton.mp hm] at hid
        exact absurd htoolCallId hid
    · show ∃ m ∈ addCall s.messages call, _
      rw [hadd]
      rcases Finset.mem_insert.mp hid with rfl | hid
      · exact ⟨last.withCall call, by simp, by simp [WireMessage.callIds, WireMessage.withCall]⟩
      · obtain ⟨m, hm, hcall⟩ := h.owned id hid
        rw [hsplit] at hm
        rcases List.mem_append.mp hm with hm | hm
        · exact ⟨m, List.mem_append_left _ hm, hcall⟩
        · refine ⟨last.withCall call, by simp, ?_⟩
          rw [List.mem_singleton.mp hm] at hcall
          unfold WireMessage.callIds WireMessage.withCall
          rw [List.map_append]
          exact List.mem_append_left _ hcall
    · have hm' : (addCall s.messages call).getLast? = some m := hm
      rw [hadd, List.getLast?_concat] at hm'
      have hother : (last.withCall call).isTool = false := isTool_of_assistant hrole
      rw [← Option.some.inj hm', hother] at htool
      cases htool
  · refine ⟨?_, hcalls, hanswered, ?_, ?_, fun id hid => ?_, fun m hm htool => ?_,
      fun before id content hitems => (hresult before id content hitems).elim, hsubset⟩
    · show (addCall s.messages call).flatMap _ = _
      rw [hadd, List.flatMap_append, h.told]
      rfl
    · show ∀ m ∈ addCall s.messages call, _
      rw [hadd]
      refine List.forall_mem_append.mpr ⟨h.callers, fun m hm _ => ?_⟩
      rw [List.mem_singleton.mp hm]
      rfl
    · show ∀ m ∈ addCall s.messages call, _
      rw [hadd]
      refine List.forall_mem_append.mpr ⟨h.answers, fun m hm hid => ?_⟩
      rw [List.mem_singleton.mp hm] at hid
      exact absurd rfl hid
    · show ∃ m ∈ addCall s.messages call, _
      rw [hadd]
      rcases Finset.mem_insert.mp hid with rfl | hid
      · exact ⟨callMessage call, by simp, by simp [WireMessage.callIds, callMessage]⟩
      · obtain ⟨m, hm, hcall⟩ := h.owned id hid
        exact ⟨m, List.mem_append_left _ hm, hcall⟩
    · have hm' : (addCall s.messages call).getLast? = some m := hm
      rw [hadd, List.getLast?_concat] at hm'
      have hother : (callMessage call).isTool = false := isTool_of_assistant rfl
      rw [← Option.some.inj hm', hother] at htool
      cases htool

/-- A call that joins the last message. -/
theorem History.join {call : WireCall} {identifiers : List Text} {front : List WireMessage}
    {last : WireMessage} (h : History s items) (fresh : call.id ∉ s.calls)
    (hsplit : s.messages = front ++ [last]) (hrole : last.role = assistant)
    (hadd : addCall s.messages call = front ++ [last.withCall call]) :
    History { s with
      messages := addCall s.messages call
      calls := insert call.id s.calls
      identifiers } (items ++ [.call call]) := by
  have hother : last.isTool = false := isTool_of_assistant hrole
  have hother' : (last.withCall call).isTool = false := isTool_of_assistant hrole
  -- The last message is no tool's, so the last item was no result.
  have hgrouped : Grouped (items ++ [.call call]) ↔ Grouped items := by
    rw [grouped_concat_call h.tracks]
    refine and_iff_left ?_
    rintro ⟨before, id, content, hitems⟩
    obtain ⟨m, hm, htool⟩ := h.tracks.result before id content hitems
    rw [hsplit, List.getLast?_concat] at hm
    rw [← Option.some.inj hm, hother] at htool
    cases htool
  refine ⟨h.tracks.call, fun hitems => ⟨?_, fun front' m tools hsplit' hm htools => ?_⟩,
    fun hitems => ?_⟩
  · show GroupsAnswered (addCall s.messages call)
    rw [hadd, groupsAnswered_concat_other hother', ← groupsAnswered_concat_other hother, ← hsplit]
    exact (h.ordered (hgrouped.mp hitems)).groups
  · have hsplit'' : front ++ [last.withCall call] = front' ++ m :: tools := hadd.symm.trans hsplit'
    rcases split_concat hsplit'' with ⟨-, rfl, rfl⟩ | ⟨tools', rfl, -⟩
    · have hgroup := (h.ordered (hgrouped.mp hitems)).tail front last [] hsplit hother
        fun t ht => by cases ht
      have hids : (last.withCall call).callIds = last.callIds ++ [call.id] := by
        unfold WireMessage.callIds WireMessage.withCall
        rw [List.map_append]
        rfl
      have hpending : ∀ id, id ∈ last.callIds ↔ s.Pending id := fun id =>
        (hgroup.split id).trans (or_iff_right List.not_mem_nil)
      refine ⟨?_, List.nodup_nil, fun id => ?_, fun id hid => by cases hid⟩
      · rw [hids]
        refine List.nodup_append.mpr ⟨hgroup.calls_nodup, List.nodup_singleton _,
          fun a ha b hb => ?_⟩
        rintro rfl
        rw [List.mem_singleton.mp hb] at ha
        exact fresh ((hpending _).mp ha).1
      · rw [hids, List.mem_append, List.mem_singleton, hpending id]
        refine Iff.trans ?_ (or_iff_right List.not_mem_nil).symm
        unfold InputState.Pending
        rw [Finset.mem_insert]
        constructor
        · rintro (⟨hcall, hopen⟩ | rfl)
          · exact ⟨.inr hcall, hopen⟩
          · exact ⟨.inl rfl, fun hanswered => fresh (h.tracks.subset hanswered)⟩
        · rintro ⟨rfl | hcall, hopen⟩
          · exact .inr rfl
          · exact .inl ⟨hcall, hopen⟩
    · have hx := htools _ (List.mem_append_right _ List.mem_cons_self)
      rw [hother'] at hx
      cases hx
  · show ¬ GroupsAnswered (addCall s.messages call)
    rw [hadd, groupsAnswered_concat_other hother', ← groupsAnswered_concat_other hother, ← hsplit]
    exact h.broken fun hi => hitems (hgrouped.mpr hi)

/-- Where the last message is neither an assistant's nor a tool's, nothing is pending. -/
theorem InOrder.not_pending (h : InOrder s) (htracks : Tracks s items)
    (hlast : ∀ last, s.messages.getLast? = some last →
      last.role ≠ assistant ∧ last.isTool = false) (id : Text) : ¬ s.Pending id := by
  intro hpending
  obtain ⟨owner, howner, -⟩ := htracks.owned id hpending.1
  rcases List.eq_nil_or_concat s.messages with hnil | ⟨front, last, hsplit⟩
  · rw [hnil] at howner
    cases howner
  · rw [List.concat_eq_append] at hsplit
    obtain ⟨hrole, hother⟩ := hlast last (by rw [hsplit, List.getLast?_concat])
    have hgroup := h.tail front last [] hsplit hother fun t ht => by cases ht
    have hcalls : last.toolCalls = [] := by
      by_contra hne
      exact hrole (htracks.callers last (by rw [hsplit]; simp) hne)
    have hmem := (hgroup.split id).mpr (.inr hpending)
    unfold WireMessage.callIds at hmem
    rw [hcalls] at hmem
    cases hmem

/-- A call that begins a message: the conversation before it has to be well-formed. -/
theorem History.begin {call : WireCall} {identifiers : List Text} (h : History s items)
    (fresh : call.id ∉ s.calls)
    (hlast : ∀ last, s.messages.getLast? = some last → last.role ≠ assistant)
    (hadd : addCall s.messages call = s.messages ++ [callMessage call]) :
    History { s with
      messages := addCall s.messages call
      calls := insert call.id s.calls
      identifiers } (items ++ [.call call]) := by
  have hother : (callMessage call).isTool = false := isTool_of_assistant rfl
  -- A grouped history has nothing pending here.
  have hnone : Grouped (items ++ [.call call]) → Grouped items ∧ ∀ id, ¬ s.Pending id := by
    intro hitems
    obtain ⟨hgrouped, hresult⟩ := (grouped_concat_call h.tracks).mp hitems
    refine ⟨hgrouped, ?_⟩
    cases hend : s.messages.getLast? with
    | none =>
      exact (h.ordered hgrouped).not_pending h.tracks fun last hl => by
        rw [hend] at hl
        cases hl
    | some last =>
      cases htool : last.isTool with
      | true => exact hresult (h.tracks.last last hend htool)
      | false =>
        refine (h.ordered hgrouped).not_pending h.tracks fun last' hl => ?_
        obtain rfl : last = last' := Option.some.inj (hend.symm.trans hl)
        exact ⟨hlast last hend, htool⟩
  refine ⟨h.tracks.call, fun hitems => ⟨?_, fun front m tools hsplit hm htools => ?_⟩,
    fun hitems => ?_⟩
  · show GroupsAnswered (addCall s.messages call)
    rw [hadd, groupsAnswered_concat_other hother]
    exact (h.ordered (hnone hitems).1).wellFormed h.tracks (hnone hitems).2
  · have hsplit' : s.messages ++ [callMessage call] = front ++ m :: tools := hadd.symm.trans hsplit
    rcases split_concat hsplit' with ⟨-, rfl, rfl⟩ | ⟨tools', rfl, -⟩
    · refine ⟨List.nodup_singleton _, List.nodup_nil, fun id => ?_, fun id hid => by cases hid⟩
      refine Iff.trans (List.mem_singleton) (Iff.trans ?_ (or_iff_right List.not_mem_nil).symm)
      unfold InputState.Pending
      rw [Finset.mem_insert]
      constructor
      · rintro rfl
        exact ⟨.inl rfl, fun hanswered => fresh (h.tracks.subset hanswered)⟩
      · rintro ⟨rfl | hcall, hopen⟩
        · rfl
        · exact absurd ⟨hcall, hopen⟩ ((hnone hitems).2 id)
    · have hx := htools _ (List.mem_append_right _ List.mem_cons_self)
      rw [hother] at hx
      cases hx
  · show ¬ GroupsAnswered (addCall s.messages call)
    rw [hadd, groupsAnswered_concat_other hother, wellFormed_iff]
    rintro ⟨hgroups, hanswered⟩
    by_cases hgrouped : Grouped items
    · -- A pending call belongs to the last group, which would be answered.
      rw [grouped_concat_call h.tracks] at hitems
      push Not at hitems
      obtain ⟨-, id, hpending⟩ := hitems hgrouped
      obtain ⟨owner, howner, hcall⟩ := h.tracks.owned id hpending.1
      have hcalls : owner.toolCalls ≠ [] := by
        rintro hnil
        unfold WireMessage.callIds at hcall
        rw [hnil] at hcall
        cases hcall
      obtain ⟨front, m, tools, hsplit, hm, htools⟩ := exists_last_other
        ⟨owner, howner, isTool_of_assistant (h.tracks.callers owner howner hcalls)⟩
      have hgroup := (h.ordered hgrouped).tail front m tools hsplit hm htools
      have hmem : id ∈ m.callIds := (hgroup.split id).mpr (.inr hpending)
      have hne : m.toolCalls ≠ [] := by
        rintro hnil
        unfold WireMessage.callIds at hmem
        rw [hnil] at hmem
        cases hmem
      have hperm := hanswered front m tools hsplit htools hne
      exact hpending.2 (hgroup.answered id (hperm.mem_iff.mpr hmem))
    · exact h.broken hgrouped hgroups

/-- **One pass keeps the invariant.** -/
theorem History.step {raw : Json} (h : History s items) (hstep : s.step raw = .ok s') :
    ∃ item, readItem raw = some item ∧ History s' (items ++ [item]) := by
  obtain ⟨item, hread, happlies⟩ := step_cases hstep
  refine ⟨item, hread, ?_⟩
  cases happlies with
  | message hrole closed => exact h.message hrole closed
  | @call call identifiers fresh =>
    rcases addCall_cases s.messages call with ⟨front, last, hsplit, hrole, hadd⟩ | ⟨hlast, hadd⟩
    · exact h.join fresh hsplit hrole hadd
    · exact h.begin fresh hlast hadd
  | output called pending => exact h.output called pending

/-- The loop keeps the invariant. -/
theorem History.fold {raws : List Json} (h : History s items)
    (hfold : raws.foldlM InputState.step s = .ok s') :
    ∃ read, raws.mapM readItem = some read ∧ History s' (items ++ read) := by
  induction raws generalizing s items with
  | nil =>
    obtain rfl := Except.ok.inj hfold
    exact ⟨[], rfl, by rwa [List.append_nil]⟩
  | cons raw raws ih =>
    rw [List.foldlM_cons] at hfold
    obtain ⟨s₁, hstep, hrest⟩ := bind_eq_ok.mp hfold
    obtain ⟨item, hread, hhistory⟩ := h.step hstep
    obtain ⟨read, hreads, hend⟩ := ih hhistory hrest
    refine ⟨item :: read, ?_, ?_⟩
    · rw [List.mapM_cons, hread, hreads]
      rfl
    · rwa [List.append_cons]

/-- Nothing was read yet. -/
theorem History.start : History {} [] := by
  refine ⟨⟨rfl, fun id => ?_, fun id => ?_, nofun, nofun, nofun, nofun, ?_, fun _ h => h⟩,
    fun _ => ⟨?_, ?_⟩, fun h => absurd ?_ h⟩
  · exact iff_of_false (Finset.notMem_empty id) List.not_mem_nil
  · exact iff_of_false (Finset.notMem_empty id) List.not_mem_nil
  · rintro before id content hitems
    exact absurd hitems.symm (List.append_ne_nil_of_right_ne_nil _ (List.cons_ne_nil _ _))
  · rintro before m tools next rest hsplit
    exact absurd hsplit.symm (List.append_ne_nil_of_right_ne_nil _ (List.cons_ne_nil _ _))
  · rintro before m tools hsplit
    exact absurd hsplit.symm (List.append_ne_nil_of_right_ne_nil _ (List.cons_ne_nil _ _))
  · rintro before id content call after hsplit
    exact absurd hsplit.symm (List.append_ne_nil_of_right_ne_nil _ (List.cons_ne_nil _ _))

end Invariant

/-! ### Accepted histories -/

/-- The conversation tells the history of the input, and it is well-formed. -/
def Conversation (raws : List Json) (messages : List WireMessage) : Prop :=
  ∃ history, raws.mapM readItem = some history ∧
    messages.flatMap WireMessage.items = history ∧ WellFormed messages

/-- What an accepted input list leaves. -/
theorem history_spec {raws : List Json} {messages : List WireMessage} {identifiers : List Text}
    (h : inputMessages (.list raws) = .ok (messages, identifiers)) :
    ∃ history, raws.mapM readItem = some history ∧
      messages.flatMap WireMessage.items = history ∧ (WellFormed messages ↔ Grouped history) := by
  obtain ⟨-, h⟩ := check_bind_eq_ok.mp h
  obtain ⟨s, hfold, h⟩ := bind_eq_ok.mp h
  obtain ⟨⟨-, hclosed⟩, h⟩ := check_bind_eq_ok.mp h
  obtain ⟨rfl, -⟩ := Prod.ext_iff.mp (Except.ok.inj h)
  obtain ⟨read, hread, hhistory⟩ := History.start.fold hfold
  rw [List.nil_append] at hhistory
  refine ⟨read, hread, hhistory.tracks.told, fun hwell => ?_, fun hgrouped => ?_⟩
  · by_contra hnot
    exact hhistory.broken hnot (wellFormed_iff.mp hwell).1
  · exact (hhistory.ordered hgrouped).wellFormed hhistory.tracks (not_pending hclosed)

/-- **An accepted input list is translated to a conversation exactly if no call follows a result
    while an earlier call is open.** -/
theorem history_iff (raws : List Json) (messages : List WireMessage) (identifiers : List Text)
    (h : inputMessages (.list raws) = .ok (messages, identifiers)) :
    Conversation raws messages ↔ ∀ history, raws.mapM readItem = some history → Grouped history := by
  obtain ⟨history, hread, htold, hiff⟩ := history_spec h
  constructor
  · rintro ⟨history', hread', -, hwell⟩ other hother
    obtain rfl : history = other := Option.some.inj (hread.symm.trans hother)
    exact hiff.mp hwell
  · exact fun hgrouped => ⟨history, hread, htold, hiff.mpr (hgrouped history hread)⟩

/-- A call with an empty object as its arguments. -/
def callJson (id : String) : Json :=
  .object [member "type" (.string (Text.ofString "function_call")),
    member "call_id" (.string (Text.ofString id)), member "name" (.string (Text.ofString "read")),
    member "arguments" (.string (Text.ofString "\x7b\x7d"))]

/-- Its result. -/
def resultJson (id : String) : Json :=
  .object [member "type" (.string (Text.ofString "function_call_output")),
    member "call_id" (.string (Text.ofString id)), member "output" (.string (Text.ofString "done"))]

/-- Two parallel calls that are answered out of order. -/
def parallelInput : List Json := [callJson "a", callJson "b", resultJson "b", resultJson "a"]

/-- The items of that input. -/
def readCall (id : String) : WireCall :=
  ⟨Text.ofString id, Text.ofString "read", Text.ofString "\x7b\x7d"⟩

/-- The conversation that it is translated to. -/
def parallelMessages : List WireMessage :=
  [⟨assistant, none, [readCall "a", readCall "b"], none⟩,
    resultMessage (Text.ofString "b") (Text.ofString "done"),
    resultMessage (Text.ofString "a") (Text.ofString "done")]

theorem parallel_conversation : Conversation parallelInput parallelMessages := by
  have haccepted : inputMessages (.list parallelInput) = .ok (parallelMessages, []) := by
    decide +kernel
  have hread : parallelInput.mapM readItem = some [.call (readCall "a"), .call (readCall "b"),
      .output (Text.ofString "b") (Text.ofString "done"),
      .output (Text.ofString "a") (Text.ofString "done")] := by
    decide +kernel
  refine (history_iff parallelInput parallelMessages [] haccepted).mpr fun history hhistory => ?_
  obtain rfl := Option.some.inj (hread.symm.trans hhistory)
  -- No call follows a result.
  intro before id content call after hsplit
  rcases before with _ | ⟨_, _ | ⟨_, _ | ⟨_, _ | ⟨_, before⟩⟩⟩⟩ <;> simp at hsplit

/-- A third call that begins before the second one is answered. -/
def overlappingInput : List Json :=
  [callJson "a", callJson "b", resultJson "a", callJson "c", resultJson "b", resultJson "c"]

/-- The conversation that it is translated to. -/
def overlappingMessages : List WireMessage :=
  [⟨assistant, none, [readCall "a", readCall "b"], none⟩,
    resultMessage (Text.ofString "a") (Text.ofString "done"),
    ⟨assistant, none, [readCall "c"], none⟩,
    resultMessage (Text.ofString "b") (Text.ofString "done"),
    resultMessage (Text.ofString "c") (Text.ofString "done")]

/-- **It is accepted**, though the first group has one result only before the next message. -/
theorem overlapping_history : ¬ ∀ (raws : List Json) (messages : List WireMessage)
    (identifiers : List Text), inputMessages (.list raws) = .ok (messages, identifiers) →
    Conversation raws messages := by
  intro h
  have haccepted : inputMessages (.list overlappingInput) = .ok (overlappingMessages, []) := by
    decide +kernel
  obtain ⟨-, -, -, hwell⟩ := h overlappingInput overlappingMessages [] haccepted
  have hlength := (hwell [] _ _ rfl (List.cons_ne_nil _ _)).length_eq
  exact absurd hlength (by decide +kernel)

end ResponsesInput

end ScarcityRouter
