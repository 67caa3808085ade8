import ScarcityRouter.Gateway.Connection

namespace ScarcityRouter

open ScarcityRouter.Lib
open ScarcityRouter.Lib.Stateful

/-!
# Message boundaries of a connection

Which bytes of a connection are parsed as the start of a request.

* `RequestHead.declared` — the length of the body that a request declares.
* `Boundary` — where a message of the stream starts.
* `Consumed` — a request was closed, or exactly its body was read.
* `Framed` — the requests that are answered so.
* `framing_kept` — **in every run whose requests are framed, every request starts at a message
  boundary**.

An exit before the body is read closes the connection only in `_read_json_object`, and on the
Responses surface.
-/

/-! ### Boundaries -/

namespace RequestHead

/-- The length of the declared body; none if the headers do not determine one. -/
def declared (head : RequestHead) : Option ℕ :=
  if head.getAll "transfer-encoding" = [] then
    match head.getAll "content-length" with
    | [] => some 0
    | [value] => (lengthDigits value).map digitsValue
    | _ => none
  else none

/-- The routes that read a body. -/
def readsBody (head : RequestHead) : Prop :=
  head.method = .post ∧ (head.target = Text.ofString "/v1/chat/completions" ∨
    head.target = Text.ofString "/v1/responses" ∨ head.target = Text.ofString "/v1/route")

/-- The declared length has too many digits for `int`. -/
def overlong (head : RequestHead) : Prop :=
  ∃ value digits, head.getAll "content-length" = [value] ∧ lengthDigits value = some digits ∧
    Json.maxStrDigits < digits.length

end RequestHead

/-- A message of the stream starts where these bytes are unread. -/
inductive Boundary [RequestParser] (stream : List UInt8) : List UInt8 → Prop
  | start : Boundary stream stream
  | next {unread rest : List UInt8} {head : RequestHead} {n : ℕ} (h : Boundary stream unread)
      (parsed : RequestParser.parse unread = .request head rest) (declared : head.declared = some n)
      (whole : n ≤ rest.length) : Boundary stream (rest.drop n)

/-- The requests that are refused before a route is chosen. -/
def Refused (backend : Backend) (head : RequestHead) : Prop :=
  ∀ client, admitRequest backend head ≠ .ok client

/-- **The requests that are answered at a boundary**: the connection ends with them, or they declare
    no body, or the exit that they take closes it, or their body is read. -/
def Framed (backend : Backend) (head : RequestHead) : Prop :=
  head.closes = true ∨ head.method = .other ∨ head.declared = some 0 ∨
    (head.responsesSurface = true ∧
      (Refused backend head ∨ head.method ∈ [Method.get, .post, .head])) ∨
    (¬ Refused backend head ∧ head.readsBody ∧ ¬ head.overlong)

/-! ### Bodies -/

section Request

variable {backend : Backend} {head : RequestHead} {rest : List UInt8} {c c' : Connection}
  {o : Output}

/-- Exactly the declared body was read. -/
def BodyRead (head : RequestHead) (rest : List UInt8) (c : Connection) : Prop :=
  ∃ n, head.declared = some n ∧ n ≤ rest.length ∧ c.unread = rest.drop n

/-- The connection is closed, or exactly the declared body was read. -/
def Consumed (head : RequestHead) (rest : List UInt8) (c : Connection) : Prop :=
  c.output.closeConnection = true ∨ BodyRead head rest c

/-- The rule of a writing method: the unread bytes stay. -/
theorem leaves_answer {α : Type} {E : HandlerException → Connection → Prop}
    {V : α → Connection → Prop} {method : Answering α} :
    Leaves E V (answer method) c ↔ Leaves (fun e o => E e { c with output := o })
      (fun a o => V a { c with output := o }) method c.output := by
  unfold Leaves
  have hanswer : (answer method).result c =
      ((method.result c.output).1, { c with output := (method.result c.output).2 }) := rfl
  rw [hanswer]
  rcases method.result c.output with ⟨_ | _, _⟩ <;> rfl

/-- Whatever a method writes, a body that was read stays so. -/
theorem bodyRead_answer {α : Type} {method : Answering α} (h : BodyRead head rest c) :
    Leaves (fun _ => BodyRead head rest) (fun _ => BodyRead head rest) (answer method) c := by
  rw [leaves_answer]
  unfold Leaves
  rcases method.result c.output with ⟨_ | _, _⟩ <;> exact h

/-- The declared length, with its digits. -/
theorem declared_of_digits {value digits : Text} (hencoding : head.getAll "transfer-encoding" = [])
    (hlength : head.getAll "content-length" = [value])
    (hdigits : lengthDigits value = some digits) :
    head.declared = some (digitsValue digits) := by
  unfold RequestHead.declared
  rw [if_pos hencoding, hlength]
  show (lengthDigits value).map digitsValue = _
  rw [hdigits]
  rfl

/-- A refused body leaves the output alone, and raises an error of the gateway unless the length is
    overlong. -/
theorem readBody_spec (hunread : c.unread = rest) :
    Leaves (fun e c' => c'.output = c.output ∧
        ((∃ error, e = .gateway error) ∨ (head.overlong ∧ c' = c)))
      (fun _ c' => c'.output = c.output ∧ BodyRead head rest c') (readBody backend head) c := by
  unfold readBody
  rw [leaves_bind, leaves_raise]
  refine ⟨fun _ hencoding => ?_, fun e hencoding => ?_⟩
  · have hnone : head.getAll "transfer-encoding" = [] := check_eq_ok.mp hencoding
    match hlength : head.getAll "content-length" with
    | [] | _ :: _ :: _ => exact ⟨rfl, .inl ⟨_, rfl⟩⟩
    | [value] =>
      dsimp only
      match hdigits : lengthDigits value with
      | none => exact ⟨rfl, .inl ⟨_, rfl⟩⟩
      | some digits =>
        dsimp only
        rw [leaves_bind, leaves_raise]
        refine ⟨fun length hint => ?_, fun e hint => ?_⟩
        · have hvalue : length = digitsValue digits := by
            unfold intOfDigits at hint
            split_ifs at hint
            exact (Except.ok.inj hint).symm
          rw [leaves_ite]
          refine ⟨fun _ => ?_, fun _ => ?_⟩
          · rw [leaves_bind, leaves_modify]
            exact ⟨rfl, .inl ⟨_, rfl⟩⟩
          · rw [leaves_bind, leaves_get, leaves_bind, leaves_modify, leaves_bind, leaves_raise]
            refine ⟨fun _ hwhole => ?_, fun e hwhole => ⟨rfl, .inl ?_⟩⟩
            · refine ⟨rfl, length, ?_, ?_, ?_⟩
              · rw [hvalue, declared_of_digits hnone hlength hdigits]
              · rw [← hunread]
                exact check_eq_ok.mp hwhole
              · rw [← hunread]
                rfl
            · exact ⟨_, (check_eq_error.mp hwhole).2.symm⟩
        · refine ⟨rfl, .inr ⟨⟨value, digits, hlength, hdigits, ?_⟩, rfl⟩⟩
          unfold intOfDigits at hint
          split_ifs at hint with hfits
          omega
  · exact ⟨rfl, .inl ⟨_, (check_eq_error.mp hencoding).2.symm⟩⟩

/-- A refused content type is an error of the gateway. -/
theorem requireJsonContentType_gateway {e : HandlerException}
    (h : requireJsonContentType head = .error e) : ∃ error, e = .gateway error := by
  have hspec : Ends (fun e => ∃ error, e = HandlerException.gateway error) (fun _ => True)
      (requireJsonContentType head) := by
    unfold requireJsonContentType
    split
    · exact ⟨_, rfl⟩
    · rw [ends_bind, ends_check]
      refine ⟨fun _ => ?_, fun _ => ⟨_, rfl⟩⟩
      rw [ends_check]
      exact ⟨fun _ => trivial, fun _ => ⟨_, rfl⟩⟩
  rw [h] at hspec
  exact hspec

/-- A read body is exactly the declared one; a refused one closes the connection, unless the length
    is overlong. -/
theorem readJsonObject_spec (hunread : c.unread = rest) :
    Leaves (fun _ c' => c'.output.responsesSurface = c.output.responsesSurface ∧
        (Consumed head rest c' ∨ (head.overlong ∧ c' = c)))
      (fun _ c' => BodyRead head rest c') (readJsonObject backend head) c := by
  unfold readJsonObject
  rw [leaves_tryCatch]
  have hbounded : Leaves (fun e c' => c'.output = c.output ∧
        ((∃ error, e = .gateway error) ∨ BodyRead head rest c' ∨ (head.overlong ∧ c' = c)))
      (fun _ c' => BodyRead head rest c') (readJsonObjectBounded backend head) c := by
    unfold readJsonObjectBounded
    rw [leaves_bind, leaves_raise]
    refine ⟨fun _ _ => ?_, fun e htype => ⟨rfl, .inl ?_⟩⟩
    · rw [leaves_bind]
      refine (readBody_spec hunread).mono (fun e c' h => ⟨h.1, ?_⟩) fun body c' h => ?_
      · rcases h.2 with h | h
        · exact .inl h
        · exact .inr (.inr h)
      · rw [leaves_bind, leaves_raise]
        refine ⟨fun document _ => ?_, fun e _ => ⟨h.1, .inr (.inl h.2)⟩⟩
        cases document with
        | object members => exact h.2
        | _ => exact ⟨h.1, .inl ⟨_, rfl⟩⟩
    · exact requireJsonContentType_gateway htype
  refine hbounded.mono (fun e c' h => ?_) fun _ _ h => h
  obtain ⟨houtput, herror⟩ := h
  cases e with
  | gateway error =>
    show Leaves _ _ (answer (modify Output.close) >>= fun _ => throw _) c'
    rw [leaves_bind, leaves_answer]
    refine ⟨?_, .inl (.inl rfl)⟩
    show c'.output.responsesSurface = c.output.responsesSurface
    rw [houtput]
  | _ =>
    refine ⟨congrArg Output.responsesSurface houtput, ?_⟩
    rcases herror with ⟨_, herror⟩ | h | h
    · cases herror
    · exact .inl (.inr h)
    · exact .inr h

/-! ### Answers -/

/-- The events of a failure leave the connection as it is. -/
theorem failResponses_keeps {error : GatewayError} {stream : ResponsesStreamEvents} :
    Leaves (fun _ _ => False) (fun _ o' => o'.closeConnection = o.closeConnection)
      (failResponses error stream) o := by
  unfold failResponses
  rcases (ResponsesStreamEvents.fail error).result stream with ⟨_ | _, _⟩ <;> rfl

/-- An error is answered without opening the connection again, and on the Responses surface the
    connection is closed. -/
theorem sendGatewayError_closes {error : GatewayError} :
    Leaves (fun _ _ => knownErrorStatus error.httpStatus = false)
      (fun _ o' => o.closeConnection = true ∨ o.responsesSurface = true →
        o'.closeConnection = true)
      (sendGatewayError error) o := by
  unfold sendGatewayError
  rw [leaves_bind, leaves_modify, leaves_bind, leaves_get]
  generalize hstart : (if o.responsesSurface = true then o.close else o) = o₁
  -- The first assignment already closes what has to be closed.
  have hclosed : o.closeConnection = true ∨ o.responsesSurface = true →
      o₁.closeConnection = true := by
    rw [← hstart]
    split_ifs with hsurface
    · exact fun _ => rfl
    · exact fun h => h.resolve_right hsurface
  split
  · exact failResponses_keeps.mono (fun _ _ h => h.elim) fun _ o' h hc => h.trans (hclosed hc)
  · rw [leaves_ite]
    refine ⟨fun _ => fun _ => rfl, fun _ => ?_⟩
    rw [leaves_ite]
    exact ⟨fun _ => hclosed, fun hstatus => Bool.eq_false_iff.mpr hstatus⟩

/-- So is every exception. -/
theorem handleException_closes {e : HandlerException} :
    Leaves (fun _ _ => True)
      (fun _ o' => o.closeConnection = true ∨ o.responsesSurface = true →
        o'.closeConnection = true)
      (handleException e) o := by
  cases e with
  | gateway error => exact sendGatewayError_closes.mono (fun _ _ _ => trivial) fun _ _ h => h
  | rejected error =>
    show Leaves _ _ (sendGatewayError error >>= fun _ => modify Output.close) o
    rw [leaves_bind]
    exact sendGatewayError_closes.mono (fun _ _ _ => trivial) fun _ _ _ _ => rfl
  | disconnected => exact fun _ => rfl
  | other => exact sendGatewayError_closes.mono (fun _ _ _ => trivial) fun _ _ h => h

/-! ### Routes -/

/-- What a route leaves when it raises: the body was read or the connection closed, or it raised
    before it read anything. -/
def RouteRaised (backend : Backend) (head : RequestHead) (rest : List UInt8) (c c' : Connection) :
    Prop :=
  c'.output.responsesSurface = c.output.responsesSurface ∧ c' = c ∧
    ¬ (¬ Refused backend head ∧ head.readsBody ∧ ¬ head.overlong) ∨
  c'.output.responsesSurface = c.output.responsesSurface ∧ Consumed head rest c' ∨
  BodyRead head rest c'

/-- What a route leaves when it answers: the body was read, or the route reads none. -/
def RouteAnswered (backend : Backend) (head : RequestHead) (rest : List UInt8)
    (c c' : Connection) : Prop :=
  BodyRead head rest c' ∨
    ¬ Refused backend head ∧ ¬ head.readsBody ∧ c'.unread = c.unread ∧
      (c.output.closeConnection = true → c'.output.closeConnection = true) ∧
      (c.output.responsesSurface = true → head.method ∈ [Method.get, .post, .head] →
        c'.output.closeConnection = true)

/-- A route that reads a body, and then goes on with it. -/
theorem reading_spec {serve : Json → Serving Unit} (hunread : c.unread = rest)
    (hserve : ∀ document c', BodyRead head rest c' →
      Leaves (fun _ => BodyRead head rest) (fun _ => BodyRead head rest) (serve document) c') :
    Leaves (fun _ => RouteRaised backend head rest c) (fun _ => RouteAnswered backend head rest c)
      (readJsonObject backend head >>= serve) c := by
  rw [leaves_bind]
  refine (readJsonObject_spec hunread).mono (fun e c' h => ?_) fun document c' h => ?_
  · obtain ⟨hsurface, hconsumed | ⟨hoverlong, rfl⟩⟩ := h
    · exact .inr (.inl ⟨hsurface, hconsumed⟩)
    · exact .inl ⟨rfl, rfl, fun hread => hread.2.2 hoverlong⟩
  · exact (hserve document c' h).mono (fun _ _ h => .inr (.inr h)) fun _ _ h => .inl h

theorem route_spec (hunread : c.unread = rest)
    (hsurface : c.output.responsesSurface = head.responsesSurface) :
    Leaves (fun _ => RouteRaised backend head rest c) (fun _ => RouteAnswered backend head rest c)
      (route backend head) c := by
  unfold route
  rw [leaves_bind, leaves_raise]
  refine ⟨fun client hadmitted => ?_, fun e hadmitted => ?_⟩
  · have hadmitted : ¬ Refused backend head := fun h => h client hadmitted
    dsimp only
    rw [leaves_ite]
    refine ⟨fun hmodels => ?_, fun hmodels => ?_⟩
    · -- `GET /v1/models` reads no body, and is not on the Responses surface.
      have hreads : ¬ head.readsBody := fun h => by
        rw [h.1] at hmodels
        cases hmodels.1
      rw [leaves_bind, leaves_raise]
      refine ⟨fun _ _ => ?_, fun e _ => .inl ⟨rfl, rfl, fun h => hreads h.2.1⟩⟩
      refine leaves_answer.mpr (.inr ⟨hadmitted, hreads, rfl, id, fun hs => ?_⟩)
      rw [hsurface, RequestHead.responsesSurface, hmodels.2] at hs
      exact absurd hs (by decide +kernel)
    · rw [leaves_ite]
      refine ⟨fun hchat => ?_, fun hchat => ?_⟩
      · exact reading_spec hunread fun document c' h => bodyRead_answer h
      · rw [leaves_ite]
        refine ⟨fun hresponses => ?_, fun hresponses => ?_⟩
        · exact reading_spec hunread fun document c' h => bodyRead_answer h
        · rw [leaves_ite]
          refine ⟨fun hroute => ?_, fun hroute => ?_⟩
          · refine reading_spec hunread fun document c' h => ?_
            rw [leaves_bind, leaves_raise]
            exact ⟨fun _ _ => bodyRead_answer h, fun _ _ => h⟩
          · have hreads : ¬ head.readsBody := by
              rintro ⟨hpost, htarget | htarget | htarget⟩
              · exact hchat ⟨hpost, htarget⟩
              · exact hresponses ⟨hpost, htarget⟩
              · exact hroute ⟨hpost, htarget⟩
            rw [leaves_ite]
            refine ⟨fun hmethod => ?_, fun hmethod => ?_⟩
            · rw [leaves_answer]
              refine sendGatewayError_closes.mono (fun _ o' h => ?_) fun _ o' h => ?_
              · cases h
              · exact .inr ⟨hadmitted, hreads, rfl, fun hc => h (.inl hc),
                  fun hs _ => h (.inr hs)⟩
            · rw [leaves_answer]
              exact .inr ⟨hadmitted, hreads, rfl, id, fun _ h => absurd h hmethod⟩
  · refine .inl ⟨rfl, rfl, fun h => h.1 fun client hclient => ?_⟩
    rw [hadmitted] at hclient
    cases hclient

/-! ### Requests -/

/-- **A framed request is consumed**, or the connection is closed. -/
theorem dispatchRequest_spec (hunread : c.unread = rest)
    (hcloses : c.output.closeConnection = head.closes) (hframed : Framed backend head)
    (hmethod : head.method ≠ .other) :
    Leaves (fun _ _ => True) (fun _ => Consumed head rest) (dispatchRequest backend head) c := by
  unfold dispatchRequest
  rw [leaves_bind, leaves_answer, leaves_modify, leaves_tryCatch]
  set start : Connection :=
    { c with output := { c.output with
        responsesSurface := head.responsesSurface
        responsesStream := none } } with hstart
  have hclosed : start.output.closeConnection = head.closes := hcloses
  have hsurface : start.output.responsesSurface = head.responsesSurface := rfl
  have hstartUnread : start.unread = rest := hunread
  refine (route_spec hstartUnread hsurface).mono (fun e c' h => ?_) fun _ c' h => ?_
  · -- The route raised: what handles the exception closes the connection if anything does.
    rw [leaves_answer]
    refine handleException_closes.mono (fun _ _ _ => trivial) fun _ o' ho => ?_
    rcases h with ⟨_, rfl, hunserved⟩ | ⟨_, hconsumed⟩ | hread
    · rcases hframed with h | h | h | h | h
      · exact .inl (ho (.inl (hclosed.trans h)))
      · exact absurd h hmethod
      · exact .inr ⟨0, h, Nat.zero_le _, hstartUnread⟩
      · exact .inl (ho (.inr (hsurface.trans h.1)))
      · exact absurd h hunserved
    · rcases hconsumed with hclosed | hread
      · exact .inl (ho (.inl hclosed))
      · exact .inr hread
    · exact .inr hread
  · rcases h with hread | ⟨hadmitted, hreads, hunread', hkeeps, hon⟩
    · exact .inr hread
    · rcases hframed with h | h | h | ⟨hs, hrefused | hread⟩ | h
      · exact .inl (hkeeps (hclosed.trans h))
      · exact absurd h hmethod
      · exact .inr ⟨0, h, Nat.zero_le _, hunread'.trans hstartUnread⟩
      · exact absurd hrefused hadmitted
      · exact .inl (hon (hsurface.trans hs) hread)
      · exact absurd h.2.1 hreads

/-- What a framed request leaves on an open connection. -/
theorem serveParsed_spec (hframed : Framed backend head)
    (h : serveParsed backend head rest c = some c') : BodyRead head rest c' := by
  unfold serveParsed at h
  set start : Connection :=
    { unread := rest, output := { c.output with closeConnection := head.closes } } with hstart
  have hspec : Leaves (fun _ _ => True) (fun _ => Consumed head rest) (serveRequest backend head)
      start := by
    unfold serveRequest
    split_ifs with hmethod
    · exact .inl rfl
    · exact dispatchRequest_spec rfl rfl hframed hmethod
  unfold Leaves at hspec
  rcases hresult : (serveRequest backend head).result start with ⟨_ | _, left⟩
  · rw [hresult] at h
    cases h
  · rw [hresult] at h hspec
    dsimp only at h hspec
    split_ifs at h with hopen
    obtain rfl := Option.some.inj h
    exact hspec.resolve_left hopen

end Request

/-! ### Runs -/

section Runs

variable [RequestParser] {stream : List UInt8} {output : Output} {s : Option Connection}
  {log : List ServedRequest}

/-- What holds of an answered request: it starts at a boundary, and what it leaves on an open
    connection follows exactly its body. -/
def ServedRequest.Framed (stream : List UInt8) (answered : ServedRequest) : Prop :=
  Boundary stream answered.start ∧ ∀ unread, answered.left = some unread →
    ∃ n, answered.head.declared = some n ∧ n ≤ answered.rest.length ∧
      unread = answered.rest.drop n

/-- The next request of a connection is a framed one. -/
def NextFramed (s : Option Connection) (backend : Backend) : Prop :=
  ∀ c head rest, s = some c → RequestParser.parse c.unread = .request head rest →
    Framed backend head

/-- **In every run whose requests are framed**, every request starts at a message boundary, and a
    connection that stays open is at one. -/
theorem framing_kept
    (run : connectionMachine.Run NextFramed (some ⟨stream, output⟩) s log) :
    (∀ answered ∈ log, answered.Framed stream) ∧ ∀ c, s = some c → Boundary stream c.unread := by
  refine run.invariant (I := fun s log => (∀ answered ∈ log, answered.Framed stream) ∧
    ∀ c, s = some c → Boundary stream c.unread) ?_ ?_
  · refine ⟨fun _ h => absurd h List.not_mem_nil, fun c hc => ?_⟩
    obtain rfl := Option.some.inj hc
    exact .start
  · rintro s s' log events backend _ ⟨hlog, hboundary⟩ hnext hstep
    cases s with
    | none => cases hstep
    | some c =>
      have hc : Boundary stream c.unread := hboundary c rfl
      change connectionStep (some c) backend = _ at hstep
      unfold connectionStep at hstep
      dsimp only at hstep
      split at hstep
      case h_1 | h_2 =>
        cases hstep
        rw [List.append_nil]
        exact ⟨hlog, fun c hc => by cases hc⟩
      case h_3 head rest hparse =>
        injection hstep with hstep
        injection hstep with hserved' hevents
        subst hserved' hevents
        have hread : ∀ c', serveParsed backend head rest c = some c' → BodyRead head rest c' :=
          fun c' h => serveParsed_spec (hnext c head rest rfl hparse) h
        refine ⟨fun answered ha => ?_, fun c' hserved => ?_⟩
        · rcases List.mem_append.mp ha with ha | ha
          · exact hlog answered ha
          · obtain rfl := List.mem_singleton.mp ha
            refine ⟨hc, fun unread hleft => ?_⟩
            obtain ⟨c', hserved, rfl⟩ := Option.map_eq_some_iff.mp hleft
            exact hread c' hserved
        · obtain ⟨n, hdeclared, hwhole, hunread⟩ := hread c' hserved
          rw [hunread]
          exact hc.next hparse hdeclared hwhole

end Runs

/-! ### Two requests -/

/-- The bytes of an ASCII text. -/
def asciiBytes (text : String) : List UInt8 := text.toList.map fun c => UInt8.ofNat c.toNat

/-- A backend that knows every key and answers every request. -/
def openBackend : Backend where
  boundHost := Text.ofString "0.0.0.0"
  boundPort := 8080
  directory := some fun _ => some (.lit "app")
  maxRequestBodyBytes := 1048576
  decode _ := .ok (.object [])
  models _ := .ok ()
  chat _ _ := .error .other
  responses _ _ := sendJson 200 .success
  selectExecutable _ _ := .ok ()

/-- A request with a body of so many bytes. -/
def bodyHead (method : Method) (path length : String) : RequestHead where
  method := method
  path := Text.ofString path
  headers := [(Text.ofString "Host", Text.ofString "router"),
    (Text.ofString "Authorization", Text.ofString "Bearer key"),
    (Text.ofString "Content-Type", Text.ofString "application/json"),
    (Text.ofString "Content-Length", Text.ofString length)]
  closes := false

/-- The bytes of that request. -/
def requestBytes (line length body : String) : List UInt8 :=
  asciiBytes (line ++ " HTTP/1.1\r\nHost: router\r\nAuthorization: Bearer key\r\n" ++
    "Content-Type: application/json\r\nContent-Length: " ++ length ++ "\r\n\r\n" ++ body)

/-- A connection whose client has sent a stream. -/
def openConnection (stream : List UInt8) : Connection where
  unread := stream
  output := { closeConnection := false }

/-- A parser that knows one request; elsewhere the client has ended the connection. -/
@[reducible] def onlyRequest (bytes : List UInt8) (head : RequestHead) (body : List UInt8) :
    RequestParser :=
  ⟨fun unread => if unread = bytes then .request head body else .ended⟩

theorem parse_only {bytes body : List UInt8} {head : RequestHead} :
    (onlyRequest bytes head body).parse bytes = .request head body := if_pos rfl

/-- That parser's connection makes one step. -/
theorem step_only {bytes body : List UInt8} {head : RequestHead} {backend : Backend} :
    (@connectionMachine (onlyRequest bytes head body)).step (some (openConnection bytes)) backend =
      some (serveParsed backend head body (openConnection bytes),
        [⟨bytes, head, body,
          (serveParsed backend head body (openConnection bytes)).map Connection.unread⟩]) := by
  have hparse : (onlyRequest bytes head body).parse (openConnection bytes).unread =
      .request head body := parse_only
  dsimp only [connectionMachine]
  unfold connectionStep
  dsimp only
  rw [hparse]
  rfl

/-- The request of that parser is the next one. -/
theorem nextFramed_only {bytes body : List UInt8} {head : RequestHead} {backend : Backend}
    (h : Framed backend head) :
    @NextFramed (onlyRequest bytes head body) (some (openConnection bytes)) backend := by
  intro c head' rest hc hparse
  obtain rfl := Option.some.inj hc
  obtain ⟨rfl, rfl⟩ : head = head' ∧ body = rest := by
    have hknown : ParsedRequest.request head body = .request head' rest :=
      parse_only.symm.trans hparse
    injection hknown with hhead hrest
    exact ⟨hhead, hrest⟩
  exact h

/-- The checks let the request pass. -/
theorem admitted_of_isOk {backend : Backend} {head : RequestHead}
    (h : (admitRequest backend head).isOk = true) :
    ∃ client, admitRequest backend head = .ok client := by
  cases hadmitted : admitRequest backend head with
  | error e =>
    rw [hadmitted] at h
    cases h
  | ok client => exact ⟨client, rfl⟩

/-- `POST /v1/route` with an empty object. -/
def routeBytes : List UInt8 := requestBytes "POST /v1/route" "2" "\x7b\x7d"

/-- Its head. -/
def routeHead : RequestHead := bodyHead .post "/v1/route" "2"

/-- Its body. -/
def routeBody : List UInt8 := asciiBytes "\x7b\x7d"

theorem routeHead_framed : Framed openBackend routeHead := by
  have hlength : routeHead.getAll "content-length" = [Text.ofString "2"] := by decide +kernel
  have hdigits : lengthDigits (Text.ofString "2") = some (Text.ofString "2") := by decide +kernel
  obtain ⟨client, hadmitted⟩ : ∃ client, admitRequest openBackend routeHead = .ok client :=
    admitted_of_isOk (by decide +kernel)
  refine .inr (.inr (.inr (.inr ⟨fun h => h client hadmitted, ?_, ?_⟩)))
  · exact ⟨rfl, .inr (.inr (by decide +kernel))⟩
  · rintro ⟨value, digits, hvalue, hvalueDigits, hlong⟩
    rw [hlength] at hvalue
    obtain rfl := List.singleton_inj.mp hvalue
    rw [hdigits] at hvalueDigits
    obtain rfl := Option.some.inj hvalueDigits
    revert hlong
    decide +kernel

/-- The body of `POST /v1/route` is read, and the connection stays open at its end. -/
theorem route_framed :
    @Boundary (onlyRequest routeBytes routeHead routeBody) routeBytes [] := by
  have hleft : (serveParsed openBackend routeHead routeBody (openConnection routeBytes)).map
      Connection.unread = some [] := by
    decide +kernel
  obtain ⟨c, hserved, hunread⟩ := Option.map_eq_some_iff.mp hleft
  have hnext := @nextFramed_only routeBytes routeBody routeHead openBackend routeHead_framed
  have hstep := @step_only routeBytes routeBody routeHead openBackend
  have run := Machine.Run.refl.step openBackend hnext hstep
  have hkept := (@framing_kept (onlyRequest routeBytes routeHead routeBody) _ _ _ _ run).2 c hserved
  rw [hunread] at hkept
  exact hkept

/-- `GET /v1/models` with a body that is a request of its own. -/
def smuggledBytes : List UInt8 :=
  requestBytes "GET /v1/models" "27" "GET /v1/models HTTP/1.1\r\n\r\n"

/-- Its head. -/
def smuggledHead : RequestHead := bodyHead .get "/v1/models" "27"

/-- Its body. -/
def smuggledBody : List UInt8 := asciiBytes "GET /v1/models HTTP/1.1\r\n\r\n"

/-- **A body is parsed as the next request**: the listing of the models leaves it unread on an open
    connection. -/
theorem smuggled_body :
    letI : RequestParser := onlyRequest smuggledBytes smuggledHead smuggledBody
    ¬ ∀ (stream : List UInt8) (output : Output) (s : Option Connection) (log : List ServedRequest),
      connectionMachine.Run (fun _ _ => True) (some ⟨stream, output⟩) s log →
      (∀ answered ∈ log, answered.Framed stream) ∧ ∀ c, s = some c → Boundary stream c.unread := by
  intro h
  have hstep := @step_only smuggledBytes smuggledBody smuggledHead openBackend
  have hleft : (serveParsed openBackend smuggledHead smuggledBody
      (openConnection smuggledBytes)).map Connection.unread = some smuggledBody := by
    decide +kernel
  have hanswered := (h _ _ _ _ (Machine.Run.refl.step openBackend trivial hstep)).1 _
    List.mem_cons_self
  obtain ⟨n, hdeclared, -, hunread⟩ := hanswered.2 _ hleft
  have hn : smuggledHead.declared = some 27 := by decide +kernel
  obtain rfl : 27 = n := Option.some.inj (hn.symm.trans hdeclared)
  exact absurd hunread (by decide +kernel)

end ScarcityRouter
