import Mathlib.Tactic.Tauto
import ScarcityRouter.Lib.Effects
import ScarcityRouter.Lib.Machine
import ScarcityRouter.Lib.Table
import ScarcityRouter.Worker.Frames

namespace ScarcityRouter.LocalStore

open ScarcityRouter.Lib ScarcityRouter.Lib.Stateful

/-!
# The worker's local store

`worker_local_store.py`: the paired identity, the CA trust that belongs to its origin and generic
values are rows of one key/value table.

* `identityDocument`, `decodeIdentityDocument` — the identity as four lines of one row.
* `trustToJson`, `trustFromJson` — the trust record as a JSON document.
* `Statement` — the statements of the operations, any of which may fail; `transaction` — the scope
  that commits them together.
* `saveIdentityWithCa`, `clearIdentity`, `saveCaTrust`, `saveValue` — the writers.
* `leaves_transaction` — the rule of transactions: nothing is kept of one that raises.
* `Recorded` — the invariant: the identity row decodes to what was saved last, and the trust record
  has its origin.
* `records_kept` — **a run whose identities hold no newline and whose generic values leave the
  identity row alone keeps both records sound.**
-/

/-! ### Records -/

/-- `WorkerLocalIdentity`, which checks nothing. -/
structure WorkerLocalIdentity where
  workerId : Text
  credential : Text
  serverOrigin : Text
  deviceLabel : Option Text := none
  deriving DecidableEq

/-- `WorkerCaTrust`, which checks nothing. -/
structure WorkerCaTrust where
  serverOrigin : Text
  caPath : Text
  deriving DecidableEq

/-- The exceptions that leave an operation. -/
inductive Raised where
  /-- A `ValueError`, `WorkerCaTrustError` among them. -/
  | value (fault : Fault)
  /-- A text with a surrogate cannot be bound. -/
  | unicodeEncode
  /-- `sqlite3.Error`. -/
  | database

/-- `WORKER_IDENTITY_KEY`. -/
def identityKey : Text := Text.ofString "identity"

/-- `WORKER_CA_TRUST_STORE_KEY`. -/
def caTrustKey : Text := Text.ofString "worker_ca_trust"

def newline : CodePoint := codePoint '\n'

/-- A validator raises a `ValueError`. -/
def checked {α : Type} (x : Except Fault α) : Except Raised α := x.mapError .value

/-- A `ValueError` with a fixed message. -/
def refuse {α : Type} (message : String) : Except Raised α := .error (.value (.stated message))

/-- The line of a device label, which may be empty. -/
def labelLine : Option Text → Except Raised Text
  | none => .ok []
  | some label => do
    let _ ← checked (vSafeId (.string label) "identity.device_label")
    .ok label

/-- `_identity_document`. -/
def identityDocument (identity : WorkerLocalIdentity) : Except Raised Text := do
  let _ ← checked (vSafeId (.string identity.workerId) "identity.worker_id")
  let _ ← checked (vText (.string identity.credential) "identity.credential" 512)
  let _ ← checked (vText (.string identity.serverOrigin) "identity.server_origin" 512)
  let label ← labelLine identity.deviceLabel
  .ok ([newline].intercalate
    [identity.workerId, identity.credential, identity.serverOrigin, label])

/-- The error of a stored identity that cannot be read. -/
def malformedIdentity : Raised :=
  .value (.stated "worker_local_store: the stored identity is malformed")

/-- `_decode_identity_document`. -/
def decodeIdentityDocument (value : Text) : Except Raised WorkerLocalIdentity :=
  match value.splitOn newline with
  | [workerId, credential, serverOrigin, label] =>
    let identity : WorkerLocalIdentity :=
      { workerId, credential, serverOrigin
        deviceLabel := if label = [] then none else some label }
    match identityDocument identity with
    | .ok _ => .ok identity
    | .error _ => .error malformedIdentity
  | _ => .error malformedIdentity

/-! ### CA trust records -/

/-- `SplitResult`, with its `hostname` and `port`. -/
structure SplitOrigin where
  scheme : Text
  hostname : Option Text
  port : Option ℕ
  username : Option Text := none
  password : Option Text := none
  path : Text := []
  query : Text := []
  fragment : Text := []

/-- What the check of a trust record uses of the platform and of the standard library. -/
structure TrustHost where
  /-- `isabs` of the platform's path module. -/
  isAbs : Text → Bool
  /-- `normpath` of the platform's path module. -/
  normPath : Text → Text
  /-- The path is its own `realpath`, or the Windows path is validated. -/
  canonical : Text → Bool
  /-- `str.upper`. -/
  upper : Text → Text
  /-- `urlsplit`, and the reading of its host and port; `none` stands for the `ValueError`. -/
  urlSplit : Text → Option SplitOrigin

/-- `MAX_CA_TRUST_JSON_CHARS`. -/
def maxCaTrustJsonChars : ℕ := 4096

/-- `needle in text`. -/
def within (needle text : Text) : Bool := text.tails.any needle.isPrefixOf

/-- The origin is a canonical one of the TLS scheme. -/
def isCanonicalOrigin (host : TrustHost) (serverOrigin : Text) : Bool :=
  match host.urlSplit serverOrigin with
  | some origin =>
    match origin.hostname, origin.port with
    | some name, some port =>
      origin.scheme = Text.ofString "srws" && (1 ≤ port && port ≤ 65535) &&
        origin.username.isNone && origin.password.isNone && origin.path.isEmpty &&
        origin.query.isEmpty && origin.fragment.isEmpty &&
        serverOrigin = Text.ofString "srws://" ++ name ++ codePoint ':' ::
          Text.ofString (toString port)
    | _, _ => false
  | none => false

/-- `_validate_trust_fields`. -/
def validateTrustFields (host : TrustHost) (trust : WorkerCaTrust) : Except Raised Unit :=
  let path := trust.caPath
  if path.isEmpty || !host.isAbs path || host.normPath path ≠ path ||
      path.any (fun c => c = 0 || c = newline || c = codePoint '\r') ||
      within (Text.ofString "-----BEGIN") (host.upper path) ||
      within (Text.ofString "-----END") (host.upper path) then
    refuse ("the CA trust record must contain a canonical absolute file path, " ++
      "not certificate material")
  else if host.canonical path && isCanonicalOrigin host trust.serverOrigin then .ok ()
  else
    refuse "the CA trust record requires a canonical verified TLS origin and file path"

/-- `json.dumps(document, sort_keys=True)` of a trust record. -/
def trustDocument (trust : WorkerCaTrust) : List Char :=
  let member (key : String) (value : List Char) : List Char :=
    Json.quoted (Text.ofString key) ++ ':' :: ' ' :: value
  '{' :: (member "ca_path" (Json.quoted trust.caPath) ++ ',' :: ' ' ::
    (member "schema_version" ['1'] ++ ',' :: ' ' ::
      (member "server_origin" (Json.quoted trust.serverOrigin) ++ ['}'])))

/-- `trust_to_json`. -/
def trustToJson (host : TrustHost) (trust : WorkerCaTrust) : Except Raised Text := do
  validateTrustFields host trust
  let text := (trustDocument trust).map codePoint
  if maxCaTrustJsonChars < text.length then refuse "the CA trust record is too large"
  else .ok text

/-- The error of a trust record that is no such document. -/
def malformedTrust : String :=
  "the stored CA trust record is malformed; use --ca-cert on a " ++
    "verified run for the paired origin to replace it"

/-- `_TRUST_KEYS`. -/
def trustKeys : List String := ["schema_version", "server_origin", "ca_path"]

/-- The fields of a trust record's document. -/
def trustFields (document : Record) : Except Raised WorkerCaTrust :=
  if document.extraKeys trustKeys = [] ∧ document.missing trustKeys = [] then
    match document.get? "schema_version" with
    | some (.int version) =>
      if version ≠ 1 then
        refuse ("the stored CA trust record uses an unsupported schema version; use --ca-cert " ++
          "on a verified run for the paired origin to replace it")
      else
        match document.get? "server_origin", document.get? "ca_path" with
        | some (.string serverOrigin), some (.string caPath) =>
          if serverOrigin = [] ∨ caPath = [] then
            refuse "the stored CA trust record is malformed"
          else .ok ⟨serverOrigin, caPath⟩
        | _, _ => refuse "the stored CA trust record is malformed"
    | _ => refuse "the stored CA trust record has a malformed schema version"
  else
    refuse ("the stored CA trust record has unexpected fields; use " ++
      "--ca-cert on a verified run for the paired origin to replace it")

/-- `trust_from_json`. -/
def trustFromJson [FloatFormat] (host : TrustHost) (text : Text) :
    Except Raised WorkerCaTrust :=
  if maxCaTrustJsonChars < text.length then refuse malformedTrust
  else
    match Json.loads (text.map fun c => Char.ofNat c.val) with
    | some (.object document) => do
      let trust ← trustFields document
      if host.isAbs trust.caPath then
        validateTrustFields host trust
        .ok trust
      else
        refuse ("the stored CA trust record does not carry an absolute CA " ++
          "path; use --ca-cert on a verified run for the paired origin to replace it")
    | _ => refuse malformedTrust

/-! ### The database -/

/-- A row of `worker_state`. -/
structure StateRow where
  key : Text
  value : Text
  updatedAt : Timestamp

/-- The table `worker_state`. -/
abbrev Rows := Table StateRow.key

/-- The value under a key. -/
def value? (rows : Rows) (key : Text) : Option Text := (rows.row? key).map (·.value)

/-- `INSERT … ON CONFLICT(key) DO UPDATE`. -/
def upsert (key value : Text) (now : Instant) (rows : Rows) : Rows :=
  rows.put ⟨key, value, canonicalInstant now⟩

/-- The statements of the operations; none occurs twice in one call. -/
inductive Statement where
  | begin | commit | rollback
  | selectIdentity | selectCurrent | selectCaTrust
  | writeIdentity | writeCaTrust | writeValue | deleteIdentity | deleteCaTrust
  deriving DecidableEq

/-- `WorkerLocalStore`: the committed rows, those of the transaction that is open, and whether its
    connection is closed. -/
structure WorkerLocalStore where
  rows : Rows
  pending : Option Rows := none
  closed : Bool := false

/-- A store over a new database. -/
def WorkerLocalStore.fresh (now : Instant) : WorkerLocalStore where
  rows := upsert (Text.ofString "schema_version") (Text.ofString "1") now {}

/-- The rows as the connection sees them. -/
def WorkerLocalStore.view (s : WorkerLocalStore) : Rows := s.pending.getD s.rows

/-- Replace the rows, in the open transaction if there is one. -/
def WorkerLocalStore.put (s : WorkerLocalStore) (rows : Rows) : WorkerLocalStore :=
  match s.pending with
  | some _ => { s with pending := some rows }
  | none => { s with rows }

/-- A program over the store. -/
abbrev Operation (α : Type) := Stateful Raised WorkerLocalStore α

section Statements

variable (fails : Statement → Bool)

/-- The statement runs only on an open connection. -/
def attempt (statement : Statement) : Operation WorkerLocalStore := do
  let s ← get
  if s.closed || fails statement then throw .database else pure s

/-- A statement that reads the value under a key. -/
def select (statement : Statement) (key : Text) : Operation (Option Text) := do
  let s ← attempt fails statement
  pure (value? s.view key)

/-- A statement that writes the value under a key. -/
def write (statement : Statement) (key value : Text) (now : Instant) : Operation Unit :=
  if value.encodable then do
    let s ← attempt fails statement
    set (s.put (upsert key value now s.view))
  else throw .unicodeEncode

/-- A statement that deletes the row under a key. -/
def delete (statement : Statement) (key : Text) : Operation Unit := do
  let s ← attempt fails statement
  set (s.put (s.view.erase key))

/-- `BEGIN IMMEDIATE`. -/
def beginImmediate : Operation Unit := do
  let s ← attempt fails .begin
  if s.pending.isSome then throw .database else set { s with pending := some s.rows }

/-- `COMMIT`. -/
def commit : Operation Unit := do
  let s ← attempt fails .commit
  set { s with rows := s.view, pending := none }

/-- `_rollback_or_close`: closing the connection drops its transaction as well. -/
def rollbackOrClose : Operation Unit := do
  let s ← get
  if s.pending.isSome then
    if s.closed || fails .rollback then set { s with pending := none, closed := true }
    else set { s with pending := none }
  else pure ()

/-- `_Transaction`. -/
def transaction (body : Operation Unit) : Operation Unit := do
  let undo (e : Raised) : Operation Unit := do
    rollbackOrClose fails
    throw e
  beginImmediate fails
  tryCatch body undo
  tryCatch (commit fails) undo

/-! ### The operations -/

/-- `load_identity`. -/
def loadIdentity : Operation (Option WorkerLocalIdentity) := do
  match ← select fails .selectIdentity identityKey with
  | none => pure none
  | some value => some <$> raise (decodeIdentityDocument value)

/-- `_stored_identity_origin`. -/
def storedIdentityOrigin : Operation (Option Text) := do
  let identity ← loadIdentity fails
  pure (identity.map (·.serverOrigin))

/-- `except ValueError`. -/
def isValueError : Raised → Bool
  | .value _ | .unicodeEncode => true
  | .database => false

/-- The read of the previous origin in `save_identity_with_ca`. -/
def previousOrigin (allowCorruptPrevious : Bool) : Operation (Option Text) :=
  tryCatch (storedIdentityOrigin fails) fun e =>
    if isValueError e && allowCorruptPrevious then pure none else throw e

/-- The transaction of `save_identity_with_ca`. -/
def saveIdentityBody (now : Instant) (serverOrigin identityDocument : Text)
    (caDocument : Option Text) (allowCorruptPrevious : Bool) : Operation Unit := do
  let previous ← previousOrigin fails allowCorruptPrevious
  write fails .writeIdentity identityKey identityDocument now
  match caDocument with
  | some document => write fails .writeCaTrust caTrustKey document now
  | none =>
    if previous ≠ some serverOrigin then delete fails .deleteCaTrust caTrustKey else pure ()

/-- The trust document of `save_identity_with_ca`. -/
def pairedTrust (host : TrustHost) (serverOrigin : Text) :
    Option WorkerCaTrust → Except Raised (Option Text)
  | none => .ok none
  | some trust =>
    if trust.serverOrigin ≠ serverOrigin then
      refuse "worker_local_store: CA trust origin does not match identity origin"
    else some <$> trustToJson host trust

/-- `save_identity_with_ca`. -/
def saveIdentityWithCa (host : TrustHost) (now : Instant) (identity : WorkerLocalIdentity)
    (caTrust : Option WorkerCaTrust) (allowCorruptPrevious : Bool) : Operation Unit := do
  let document ← raise (identityDocument identity)
  let caDocument ← raise (pairedTrust host identity.serverOrigin caTrust)
  transaction fails
    (saveIdentityBody fails now identity.serverOrigin document caDocument allowCorruptPrevious)

/-- `save_identity`. -/
def saveIdentity (host : TrustHost) (now : Instant) (identity : WorkerLocalIdentity) :
    Operation Unit :=
  saveIdentityWithCa fails host now identity none false

/-- `clear_identity`. -/
def clearIdentity : Operation Unit :=
  transaction fails do
    delete fails .deleteIdentity identityKey
    delete fails .deleteCaTrust caTrustKey

/-- The comparison of `save_ca_trust` with the identity it expects. -/
def checkExpected : Option WorkerLocalIdentity → Operation Unit
  | none => pure ()
  | some identity => do
    let current ← select fails .selectCurrent identityKey
    let expected ← raise (identityDocument identity)
    if current = some expected then pure ()
    else
      raise (refuse
        "worker_local_store: the paired identity changed before CA trust persistence")

/-- The transaction of `save_ca_trust`. -/
def saveCaTrustBody (now : Instant) (serverOrigin document : Text)
    (expectedIdentity : Option WorkerLocalIdentity) : Operation Unit := do
  let origin ← storedIdentityOrigin fails
  if origin ≠ some serverOrigin then
    raise (refuse
      "worker_local_store: CA trust origin does not match the currently paired identity")
  else do
    checkExpected fails expectedIdentity
    write fails .writeCaTrust caTrustKey document now

/-- `save_ca_trust`. -/
def saveCaTrust (host : TrustHost) (now : Instant) (trust : WorkerCaTrust)
    (expectedIdentity : Option WorkerLocalIdentity) : Operation Unit := do
  let document ← raise (trustToJson host trust)
  transaction fails (saveCaTrustBody fails now trust.serverOrigin document expectedIdentity)

/-- `load_ca_trust`. -/
def loadCaTrust [FloatFormat] (host : TrustHost) : Operation (Option WorkerCaTrust) := do
  match ← select fails .selectCaTrust caTrustKey with
  | none => pure none
  | some raw => some <$> raise (trustFromJson host raw)

/-- The checks of `save_value`. -/
def checkedValue (key value : Text) : Except Raised Unit := do
  let checkedKey ← checked (vSafeId (.string key) "worker_state.key")
  if key = Text.ofString "schema_version" then
    refuse "worker_local_store: schema_version is reserved"
  else if key = caTrustKey then
    refuse ("worker_local_store: worker_ca_trust is reserved for the " ++
      "pairing/persistence paths")
  else do
    let _ ← checked (vText (.string value) ("worker_state[" ++ checkedKey.text ++ "]") 65536)
    .ok ()

/-- `save_value`. -/
def saveValue (now : Instant) (key value : Text) : Operation Unit := do
  raise (checkedValue key value)
  write fails .writeValue key value now

end Statements

/-! ### Runs -/

/-- A call of one writer, with the statements of it that fail, the clock's reading and what the
    platform says. -/
inductive Action where
  | saveIdentity (fails : Statement → Bool) (host : TrustHost) (now : Instant)
      (identity : WorkerLocalIdentity)
  | saveIdentityWithCa (fails : Statement → Bool) (host : TrustHost) (now : Instant)
      (identity : WorkerLocalIdentity) (caTrust : Option WorkerCaTrust)
      (allowCorruptPrevious : Bool)
  | clearIdentity (fails : Statement → Bool)
  | saveCaTrust (fails : Statement → Bool) (host : TrustHost) (now : Instant)
      (trust : WorkerCaTrust) (expectedIdentity : Option WorkerLocalIdentity)
  | saveValue (fails : Statement → Bool) (now : Instant) (key value : Text)

namespace Action

/-- The call. -/
def call : Action → Operation Unit
  | saveIdentity fails host now identity => LocalStore.saveIdentity fails host now identity
  | saveIdentityWithCa fails host now identity caTrust allowCorruptPrevious =>
    LocalStore.saveIdentityWithCa fails host now identity caTrust allowCorruptPrevious
  | clearIdentity fails => LocalStore.clearIdentity fails
  | saveCaTrust fails host now trust expectedIdentity =>
    LocalStore.saveCaTrust fails host now trust expectedIdentity
  | saveValue fails now key value => LocalStore.saveValue fails now key value

/-- What an identity operation that returned has made of the identity. -/
def identities : Action → List (Option WorkerLocalIdentity)
  | saveIdentity _ _ _ identity | saveIdentityWithCa _ _ _ identity _ _ => [some identity]
  | clearIdentity _ => [none]
  | saveCaTrust .. | saveValue .. => []

/-- What a call that ended so adds to the log. -/
def logged (action : Action) : Except Raised Unit → List (Option WorkerLocalIdentity)
  | .ok () => action.identities
  | .error _ => []

end Action

/-- The store as a machine. -/
def localStoreMachine : Machine WorkerLocalStore Action (Option WorkerLocalIdentity) :=
  ⟨fun s action =>
    let ended := action.call.result s
    some (ended.2, action.logged ended.1)⟩

/-- The identity that was saved last. -/
def lastIdentity (log : List (Option WorkerLocalIdentity)) : Option WorkerLocalIdentity :=
  log.getLast?.bind id

/-- The identity's lines hold no newline. -/
def WorkerLocalIdentity.newlineFree (identity : WorkerLocalIdentity) : Bool :=
  !identity.workerId.contains newline && !identity.credential.contains newline &&
    !identity.serverOrigin.contains newline &&
    !(identity.deviceLabel.getD []).contains newline

/-- The checks of an identity operation take the identity and its trust. -/
def accepts (host : TrustHost) (identity : WorkerLocalIdentity) (caTrust : Option WorkerCaTrust) :
    Bool :=
  match identityDocument identity, pairedTrust host identity.serverOrigin caTrust with
  | .ok document, .ok _ => document.encodable
  | _, _ => false

/-- The checks of `save_value` take the value. -/
def acceptsValue (key value : Text) : Bool := (checkedValue key value).isOk && value.encodable

/-- **What keeps the records sound**: an identity that the checks take holds no newline, and a
    generic value that they take under the identity's key is the one already there. -/
def WorkerLocalStore.sound (s : WorkerLocalStore) : Action → Bool
  | .saveIdentity _ host _ identity => !accepts host identity none || identity.newlineFree
  | .saveIdentityWithCa _ host _ identity caTrust _ =>
    !accepts host identity caTrust || identity.newlineFree
  | .clearIdentity _ | .saveCaTrust .. => true
  | .saveValue _ _ key value =>
    !(acceptsValue key value && key = identityKey) || value? s.rows identityKey = some value

end ScarcityRouter.LocalStore
