import ScarcityRouter.Gateway.Handler
import ScarcityRouter.Worker.IdentityStore

namespace ScarcityRouter

open ScarcityRouter.Lib
open ScarcityRouter.Lib.Stateful

/-!
# Requests of one connection

The reading half of `GatewayRequestHandler`: how a request is admitted, how its body is read, and
which requests of a connection are served.

* `RequestHead` — the request line and the headers, as the standard library hands them over.
* `Backend` — what one request gets from the application and from the libraries.
* `readJsonObject`, `route`, `serveRequest` — `_read_json_object`, and `_dispatch` without a control
  plane.
* `connectionMachine` — the loop of the standard library over one connection, with its parser as a
  parameter.
-/

/-! ### Heads -/

/-- The request methods; `other` has no `do_…` method. -/
inductive Method where
  | get | post | head | put | patch | delete | options | other
  deriving DecidableEq

/-- The request line and the headers. -/
structure RequestHead where
  method : Method
  path : Text
  headers : List (Text × Text)
  /-- What the parser leaves in `close_connection`. -/
  closes : Bool
  deriving DecidableEq

/-- `str.lower`, on what is compared with an ASCII text. -/
def asciiLower (c : CodePoint) : CodePoint :=
  if 65 ≤ c.val ∧ c.val ≤ 90 then Fin.ofNat _ (c.val + 32) else c

namespace RequestHead

/-- `headers.get_all`, of a name in lower case. -/
def getAll (head : RequestHead) (name : String) : List Text :=
  head.headers.filterMap fun header =>
    if header.1.map asciiLower = Text.ofString name then some header.2 else none

/-- The path without its query and its fragment. -/
def target (head : RequestHead) : Text :=
  (head.path.takeWhile (· ≠ codePoint '?')).takeWhile (· ≠ codePoint '#')

/-- The request is one of the Responses surface. -/
def responsesSurface (head : RequestHead) : Bool := head.target = Text.ofString "/v1/responses"

end RequestHead

/-! ### Backends -/

/-- A chat completion, as its parser leaves it. -/
inductive ChatPlan where
  | streaming (stream : ChatStream) (execution : Execution)
  | whole (execution : Execution)

/-- What one request gets from the server, from the application and from the libraries. -/
structure Backend where
  boundHost : Text
  boundPort : ℕ
  /-- `client_key_directory.authenticate`, if there is a directory. -/
  directory : Option (Text → Option SafeId)
  maxRequestBodyBytes : ℕ
  /-- `body.decode("utf-8")` and `load_strict_json`. -/
  decode : List UInt8 → Except HandlerException Json
  models : SafeId → Except HandlerException Unit
  chat : SafeId → Json → Except HandlerException ChatPlan
  /-- Everything that `_route_responses` does after the body is read. -/
  responses : SafeId → Json → Answering Unit
  selectExecutable : SafeId → Json → Except HandlerException Unit

/-- `BIND_HOST` and the other names of the loopback interface. -/
def loopbackHosts : List Text :=
  [Text.ofString "127.0.0.1", Text.ofString "localhost", Text.ofString "::1"]

/-- `_require_single_host`. -/
def requireSingleHost (backend : Backend) (head : RequestHead) : Except HandlerException Unit :=
  match head.getAll "host" with
  | [value] =>
    check (backend.boundHost ∈ loopbackHosts → value = backend.boundHost ∨
        value = backend.boundHost ++ Text.ofString ":" ++ Text.ofString (toString backend.boundPort))
      (.gateway (.invalidRequest "Host header must identify this listener" (some "invalid_host")))
  | _ => .error (.gateway
      (.invalidRequest "exactly one Host header is required" (some "invalid_host")))

/-- `GatewayError.authentication`. -/
def authenticationError (message : String) : HandlerException :=
  .gateway ⟨401, .authentication, message, none, none⟩

/-- `_MAX_KEY_LENGTH`. -/
def maxKeyLength : ℕ := 4096

/-- `_bearer_key`. -/
def bearerKey (head : RequestHead) : Except HandlerException Text :=
  match head.getAll "authorization" with
  | [value] =>
    let header := strip value
    let scheme := header.takeWhile (· ≠ codePoint ' ')
    let rest := header.drop (scheme.length + 1)
    let key := strip rest
    if scheme.map asciiLower = Text.ofString "bearer" ∧ rest ≠ [] ∧ key ≠ [] ∧
        key.length ≤ maxKeyLength then .ok key
    else .error (authenticationError "invalid API key")
  | _ => .error (authenticationError "missing API key")

/-- `_authenticate`. -/
def authenticate (backend : Backend) (head : RequestHead) : Except HandlerException SafeId :=
  match backend.directory with
  | none => .error (authenticationError "authentication is unavailable")
  | some directory => do
    let key ← bearerKey head
    match directory key with
    | none => .error (authenticationError "invalid API key")
    | some client => .ok client

/-- `_refuse_router_loops`. -/
def refuseRouterLoops (head : RequestHead) : Except HandlerException Unit :=
  check (head.getAll "x-scarcity-router-gateway" = [])
    (.gateway (.invalidRequest ("refusing gateway-originated traffic: a Scarcity Router " ++
      "endpoint must not serve as another router's backend") (some "router_loop_detected")))

/-- The checks before any body is read. -/
def admitRequest (backend : Backend) (head : RequestHead) : Except HandlerException SafeId := do
  requireSingleHost backend head
  let client ← authenticate backend head
  refuseRouterLoops head
  return client

/-! ### Connections -/

/-- A connection: the bytes that were not read, and the state of the handler. -/
structure Connection where
  unread : List UInt8
  output : Output

/-- A method of the handler. -/
abbrev Serving (α : Type) : Type := Stateful HandlerException Connection α

/-- A writing method, on a connection. -/
def answer {α : Type} (method : Answering α) : Serving α := fun c =>
  let ended := method.result c.output
  (ended.1, { c with output := ended.2 })

/-- The value of a `Content-Length` header: digits between blanks and tabs. -/
def lengthDigits (value : Text) : Option Text :=
  let blank : CodePoint → Bool := fun c => c.val = 32 || c.val = 9
  let raw := ((value.dropWhile blank).reverse.dropWhile blank).reverse
  if raw ≠ [] ∧ raw.all fun c => 48 ≤ c.val ∧ c.val ≤ 57 then some raw else none

/-- The number that digits write. -/
def digitsValue (digits : Text) : ℕ := digits.foldl (fun n c => 10 * n + (c.val - 48)) 0

/-- `int(raw)`: too many digits raise a `ValueError`. -/
def intOfDigits (digits : Text) : Except HandlerException ℕ :=
  if digits.length ≤ Json.maxStrDigits then .ok (digitsValue digits) else .error .other

/-- Bytes are read. -/
def Connection.drop (n : ℕ) (c : Connection) : Connection := { c with unread := c.unread.drop n }

/-- `_MAX_DRAIN_BYTES`. -/
def maxDrainBytes : ℕ := 4 * 1048576

/-- A refused request. -/
def refuse (message code : String) : HandlerException := .gateway (.invalidRequest message (some code))

/-- `_read_body`. -/
def readBody (backend : Backend) (head : RequestHead) : Serving (List UInt8) := do
  raise (check (head.getAll "transfer-encoding" = [])
    (refuse "transfer-encoding is not supported" "invalid_transfer"))
  match head.getAll "content-length" with
  | [value] =>
    match lengthDigits value with
    | none => throw (refuse "content-length must be a decimal integer" "invalid_content_length")
    | some digits => do
      let length ← raise (intOfDigits digits)
      if backend.maxRequestBodyBytes < length then do
        modify (Connection.drop (min length (max maxDrainBytes backend.maxRequestBodyBytes)))
        throw (.gateway ⟨413, .invalidRequest, "request body exceeds the maximum request size",
          some "request_too_large", none⟩)
      else do
        let c ← get
        modify (Connection.drop length)
        raise (check (length ≤ c.unread.length) (refuse "incomplete request body" "invalid_body"))
        return c.unread.take length
  | _ => throw (refuse "exactly one content-length header is required" "invalid_content_length")

/-- Split at semicolons. -/
def splitParameters (value : Text) : List Text := value.splitOn (codePoint ';')

/-- `_require_json_content_type`. -/
def requireJsonContentType (head : RequestHead) : Except HandlerException Unit :=
  match head.getAll "content-type" with
  | [] => .error (refuse "content-type application/json is required" "invalid_content_type")
  | value :: _ => do
    let parameters := (splitParameters (value.map asciiLower)).map strip
    check (parameters.head? = some (Text.ofString "application/json"))
      (refuse "content-type must be application/json" "invalid_content_type")
    check (∀ parameter ∈ parameters.tail, parameter = Text.ofString "charset=utf-8")
      (refuse "only the charset=utf-8 parameter is accepted" "invalid_content_type")

/-- `_read_json_object_bounded`. -/
def readJsonObjectBounded (backend : Backend) (head : RequestHead) : Serving Json := do
  raise (requireJsonContentType head)
  let body ← readBody backend head
  let document ← raise (backend.decode body)
  match document with
  | .object members => return .object members
  | _ => throw (refuse "request body must be a JSON object" "invalid_json")

/-- `_read_json_object`: a refusal closes the connection. -/
def readJsonObject (backend : Backend) (head : RequestHead) : Serving Json :=
  tryCatch (readJsonObjectBounded backend head) fun e => do
    match e with
    | .gateway _ => answer (modify Output.close)
    | _ => pure ()
    throw e

/-- `_route_chat_completions`, after the body is read. -/
def answerChat (backend : Backend) (client : SafeId) (document : Json) : Answering Unit := do
  match ← raise (backend.chat client document) with
  | .streaming stream execution => runStreaming stream execution
  | .whole execution => do
    let _ ← raise execution.result
    sendJson 200 .success

/-- The routes of `_dispatch`. -/
def route (backend : Backend) (head : RequestHead) : Serving Unit := do
  let client ← raise (admitRequest backend head)
  let target := head.target
  if head.method = .get ∧ target = Text.ofString "/v1/models" then do
    raise (backend.models client)
    answer (sendJson 200 .success)
  else if head.method = .post ∧ target = Text.ofString "/v1/chat/completions" then do
    let document ← readJsonObject backend head
    answer (answerChat backend client document)
  else if head.method = .post ∧ target = Text.ofString "/v1/responses" then do
    let document ← readJsonObject backend head
    answer (backend.responses client document)
  else if head.method = .post ∧ target = Text.ofString "/v1/route" then do
    let document ← readJsonObject backend head
    raise (backend.selectExecutable client document)
    answer (sendJson 200 .success)
  else if head.method ∈ [.get, .post, .head] then
    answer (sendGatewayError (.notFound "unknown request URL"))
  else answer (sendEmpty 405)

/-- `_dispatch`, for a method that the handler has. -/
def dispatchRequest (backend : Backend) (head : RequestHead) : Serving Unit := do
  answer (modify fun o => { o with
    responsesSurface := head.responsesSurface
    responsesStream := none })
  tryCatch (route backend head) fun e => answer (handleException e)

/-- `send_error`. -/
def sendError (code : ℕ) : Answering Unit := do
  modify Output.close
  sendEmpty code

/-- One request is served. -/
def serveRequest (backend : Backend) (head : RequestHead) : Serving Unit :=
  if head.method = .other then answer (sendError 501) else dispatchRequest backend head

/-! ### The loop -/

/-- What the parser of the standard library finds. -/
inductive ParsedRequest where
  /-- The client has ended the connection. -/
  | ended
  /-- The request line or the headers are bad; the answer closes the connection. -/
  | bad (status : ℕ)
  | request (head : RequestHead) (rest : List UInt8)

/-- The parser of the standard library. -/
class RequestParser where
  parse : List UInt8 → ParsedRequest

/-- A request that was served: where it starts, what follows its head, and what is left unread if
    the connection stays open. -/
structure ServedRequest where
  start : List UInt8
  head : RequestHead
  rest : List UInt8
  left : Option (List UInt8)
  deriving DecidableEq

/-- The request whose head was parsed is served; none once the connection is closed. -/
def serveParsed (backend : Backend) (head : RequestHead) (rest : List UInt8) (c : Connection) :
    Option Connection :=
  match (serveRequest backend head).result
      { unread := rest
        output := { c.output with closeConnection := head.closes } } with
  | (.ok _, c') => if c'.output.closeConnection then none else some c'
  -- An exception that leaves the handler ends the connection.
  | (.error _, _) => none

/-- The loop: the state is none once the connection is closed. -/
def connectionStep [RequestParser] (c : Option Connection) (backend : Backend) :
    Option (Option Connection × List ServedRequest) :=
  match c with
  | none => none
  | some c =>
    match RequestParser.parse c.unread with
    | .ended | .bad _ => some (none, [])
    | .request head rest =>
      let served := serveParsed backend head rest c
      some (served, [⟨c.unread, head, rest, served.map Connection.unread⟩])

/-- **The loop of one connection**: each step serves one request with any backend. -/
def connectionMachine [RequestParser] : Machine (Option Connection) Backend ServedRequest :=
  ⟨connectionStep⟩

end ScarcityRouter
