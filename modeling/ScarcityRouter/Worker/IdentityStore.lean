import ScarcityRouter.Lib.Machine
import ScarcityRouter.Lib.Table
import ScarcityRouter.Worker.Frames

namespace ScarcityRouter

open ScarcityRouter.Lib

/-!
# The worker identity store

`worker_identity_store.py`: pairing codes and per-device credentials in one database, hashed at
rest, where every statement commits on its own.

* `WorkerIdentityStore` — the two tables; `StoreStatement` — the statements of its operations, any
  one of which may fail.
* `beginPairing`, `redeemPairingCode`, `authenticate`, `rotateCredential`, `revoke` — the
  operations, each with how it ends and the tables it leaves.
* `IdentityEvent`, `codeYield`, `latestCredential` — what was done so far, and what it comes to.
* `StoreEffect`, `effect_of_step` — everything a step can do to the tables.
* `TablesRecorded` — the invariant: the tables say what the log says.
* `identities_recorded` — **each code yields at most one identity, and a credential is accepted
  exactly while it is the latest** and its identity is not revoked.
-/

/-! ### Secrets -/

/-- `[A-Za-z0-9_-]`, the alphabet of `secrets.token_urlsafe`. -/
def isUrlSafe (c : CodePoint) : Bool :=
  (0x41 ≤ c.val && c.val ≤ 0x5A) || (0x61 ≤ c.val && c.val ≤ 0x7A) ||
    (0x30 ≤ c.val && c.val ≤ 0x39) || c.val = 0x5F || c.val = 0x2D

/-- A URL-safe token of a fixed length. -/
structure UrlSafeToken (size : ℕ) where
  text : Text
  length_eq : text.length = size := by decide
  urlSafe : text.all isUrlSafe = true := by decide
  deriving DecidableEq

/-- `secrets.token_urlsafe(_CREDENTIAL_LENGTH_BYTES)`. -/
abbrev Credential := UrlSafeToken 43

/-- `secrets.token_urlsafe(_PAIRING_CODE_LENGTH_BYTES)`, drawn until it does not start with a
    dash. -/
structure PairingToken extends UrlSafeToken 22 where
  noDash : text.head? ≠ some (codePoint '-') := by decide
  deriving DecidableEq

/-- The hash of a text under the salt of the store. -/
class SecretHash where
  digest : Text → String

/-- The exceptions that leave an operation. -/
inductive IdentityException where
  /-- A `WorkerIdentityError`. -/
  | identity (code : ProtocolErrorCode) (message : String)
  /-- A `ValueError` of a validator. -/
  | valueError (fault : Fault)
  /-- A text with a surrogate has no UTF-8 encoding. -/
  | unicodeEncode
  /-- A statement failed. -/
  | database

/-- `_hash_secret`. -/
def hashSecret [SecretHash] (secret : Text) : Except IdentityException String :=
  if secret.any fun c => isHigh c || isLow c then .error .unicodeEncode
  else .ok (SecretHash.digest secret)

/-! ### The tables -/

/-- `redeemed_by`, where it is not `NULL`. -/
inductive RedeemedBy where
  /-- Between the claim of a code and the statement that names its identity. -/
  | claimed
  | worker (workerId : SafeId)
  deriving DecidableEq

/-- The text of the column. -/
def RedeemedBy.text : RedeemedBy → Text
  | claimed => "claimed"
  | worker workerId => workerId.toText

/-- A row of `pairing_codes`. -/
structure PairingCodeRow where
  codeHash : String
  label : Option Text
  createdAt : Timestamp
  expiresAt : Timestamp
  redeemedBy : Option RedeemedBy := none
  redeemedAt : Option Timestamp := none
  deriving DecidableEq

inductive IdentityStatus where
  | active | revoked
  deriving DecidableEq

/-- A row of `worker_identities`. -/
structure IdentityRow where
  workerId : SafeId
  label : Option Text
  credentialHash : String
  status : IdentityStatus
  createdAt : Timestamp
  credentialRotatedAt : Option Timestamp := none
  deriving DecidableEq

/-- The store: the lifetime of its codes in seconds, and its tables. -/
structure WorkerIdentityStore where
  pairingCodeTtl : { n : ℕ // 1 ≤ n ∧ n ≤ 3600 } := ⟨600, by decide⟩
  pairingCodes : Table PairingCodeRow.codeHash := {}
  identities : Table IdentityRow.workerId := {}

/-- The statements of the operations. -/
inductive StoreStatement where
  | pruneCodes | countCodes | insertCode
  | selectCode | claimCode | markCode | selectLabel | insertIdentity
  | selectIdentity | updateCredential | updateStatus
  deriving DecidableEq

/-- `MAX_OUTSTANDING_PAIRING_CODES`. -/
def maxOutstandingPairingCodes : ℕ := 16

/-- A number of seconds, in microseconds. -/
def seconds (n : ℕ) : Instant := n * 1000000

/-- `str.isspace`. -/
def isSpace (c : CodePoint) : Bool :=
  (0x09 ≤ c.val && c.val ≤ 0x0D) || (0x1C ≤ c.val && c.val ≤ 0x20) || c.val = 0x85 ||
    c.val = 0xA0 || c.val = 0x1680 || (0x2000 ≤ c.val && c.val ≤ 0x200A) || c.val = 0x2028 ||
    c.val = 0x2029 || c.val = 0x202F || c.val = 0x205F || c.val = 0x3000

/-- `str.strip`. -/
def strip (t : Text) : Text := ((t.dropWhile isSpace).reverse.dropWhile isSpace).reverse

/-- The check of a label. -/
def checkedLabel : Option Text → Except Fault (Option Text)
  | none => .ok none
  | some label => (fun t => some t.1) <$> vText (.string (strip label)) "pairing.label" 200

/-- The code's time has run out. -/
def PairingCodeRow.expired (row : PairingCodeRow) (now : Instant) : Bool :=
  row.expiresAt.instant < now

/-- One outstanding one-time pairing code, as it is shown once. -/
structure PairingCode where
  pairingCode : Text
  expiresAt : Timestamp
  label : Option Text
  deriving DecidableEq

namespace WorkerIdentityStore

variable [SecretHash] (s : WorkerIdentityStore) (failing : Option StoreStatement) (now : Instant)

/-! ### The operations -/

/-- `_prune_expired_locked`. -/
def pruneExpired : WorkerIdentityStore :=
  { s with
    pairingCodes := s.pairingCodes.delete fun row =>
      row.expiresAt < canonicalInstant (now - seconds 86400) }

/-- The rows that `begin_pairing` counts. -/
def unredeemed : List PairingCodeRow := s.pairingCodes.rows.filter (·.redeemedBy.isNone)

/-- `begin_pairing`, with the clock's reading and the token it draws. -/
def beginPairing (label : Option Text) (pairingCode : PairingToken) :
    Except IdentityException PairingCode × WorkerIdentityStore :=
  match checkedLabel label with
  | .error fault => (.error (.valueError fault), s)
  | .ok label =>
    if failing = some .pruneCodes then (.error .database, s)
    else
      let pruned := s.pruneExpired now
      let expiresAt := canonicalInstant (now + seconds s.pairingCodeTtl)
      let row : PairingCodeRow :=
        { codeHash := SecretHash.digest pairingCode.text
          label
          createdAt := canonicalInstant now
          expiresAt }
      if failing = some .countCodes then (.error .database, pruned)
      else if maxOutstandingPairingCodes ≤ pruned.unredeemed.length then
        (.error (.identity .pairingUnavailable
          "the pairing-code backlog is full; revoke or wait for outstanding codes to expire"),
          pruned)
      else if failing = some .insertCode then (.error .database, pruned)
      -- The hash is the primary key of the table.
      else if h : pruned.pairingCodes.row? row.codeHash = none then
        (.ok ⟨pairingCode.text, expiresAt, label⟩,
          { pruned with pairingCodes := pruned.pairingCodes.insert row h })
      else (.error .database, pruned)

/-- The statement that claims a code. -/
def claimCode (codeHash : String) : WorkerIdentityStore :=
  { s with
    pairingCodes := s.pairingCodes.modify codeHash
      (fun row => { row with
        redeemedBy := some .claimed
        redeemedAt := some (canonicalInstant now) }) fun _ => rfl }

/-- The statement that names the identity of a code. -/
def markCode (codeHash : String) (workerId : SafeId) : WorkerIdentityStore :=
  { s with
    pairingCodes := s.pairingCodes.modify codeHash
      (fun row => { row with redeemedBy := some (.worker workerId) }) fun _ => rfl }

/-- `_label_for`. -/
def labelFor (codeHash : String) : Option Text := (s.pairingCodes.row? codeHash).bind (·.label)

/-- The statements of `redeem_pairing_code` that follow the claim. -/
def completeRedemption (codeHash : String) (workerId : SafeId) (credential : Credential) :
    Except IdentityException (SafeId × Credential) × WorkerIdentityStore :=
  if failing = some .markCode then (.error .database, s)
  else
    let marked := s.markCode codeHash workerId
    let identity : IdentityRow :=
      { workerId
        label := marked.labelFor codeHash
        credentialHash := SecretHash.digest credential.text
        status := .active
        createdAt := canonicalInstant now }
    if failing = some .selectLabel ∨ failing = some .insertIdentity then (.error .database, marked)
    -- The identifier is the primary key of the table.
    else if h : marked.identities.row? identity.workerId = none then
      (.ok (workerId, credential),
        { marked with identities := marked.identities.insert identity h })
    else (.error .database, marked)

/-- `redeem_pairing_code`, with the clock's reading, the identifier and the credential it draws. -/
def redeemPairingCode (pairingCode : Text) (workerId : SafeId) (credential : Credential) :
    Except IdentityException (SafeId × Credential) × WorkerIdentityStore :=
  match vText (.string pairingCode) "pairing_code" 512, hashSecret pairingCode with
  | .error fault, _ => (.error (.valueError fault), s)
  | .ok _, .error e => (.error e, s)
  | .ok _, .ok codeHash =>
    if failing = some .selectCode then (.error .database, s)
    else
      match s.pairingCodes.row? codeHash with
      | none => (.error (.identity .pairingInvalid "the pairing code is not valid"), s)
      | some row =>
        if row.expired now then
          (.error (.identity .pairingExpired "the pairing code has expired"), s)
        else if failing = some .claimCode then (.error .database, s)
        else if row.redeemedBy.isSome then
          (.error (.identity .pairingUsed "the pairing code was already used"), s)
        else
          (s.claimCode now codeHash).completeRedemption failing now codeHash workerId credential

/-- `authenticate`: unknown identifier, revoked identity and wrong credential are distinct
    outcomes. -/
def authenticate (workerId credential : Text) : Except IdentityException Unit :=
  match vSafeId (.string workerId) "worker_id", vText (.string credential) "credential" 512 with
  | .error fault, _ | .ok _, .error fault => .error (.valueError fault)
  | .ok workerId, .ok _ =>
    if failing = some .selectIdentity then .error .database
    else
      match s.identities.row? workerId with
      | none => .error (.identity .unauthorized "the worker identity is not recognized")
      | some row =>
        if row.status ≠ .active then
          .error (.identity .credentialRevoked "the worker identity is revoked")
        else do
          let credentialHash ← hashSecret credential
          if credentialHash = row.credentialHash then .ok ()
          else .error (.identity .unauthorized "the worker credential is not valid")

/-- `is_active`. -/
def isActive (workerId : SafeId) : Bool :=
  match s.identities.row? workerId with
  | none => false
  | some row => row.status = .active

/-- `rotate_credential`, with the clock's reading and the credential it draws. -/
def rotateCredential (workerId : Text) (credential : Credential) :
    Except IdentityException Credential × WorkerIdentityStore :=
  match vSafeId (.string workerId) "worker_id" with
  | .error fault => (.error (.valueError fault), s)
  | .ok workerId =>
    if failing = some .updateCredential then (.error .database, s)
    else if s.isActive workerId then
      (.ok credential, { s with
        identities := s.identities.modify workerId
          (fun row => { row with
            credentialHash := SecretHash.digest credential.text
            credentialRotatedAt := some (canonicalInstant now) }) fun _ => rfl })
    else (.error (.identity .unauthorized "no active worker identity with that id"), s)

/-- `revoke`. -/
def revoke (workerId : Text) : Except IdentityException Unit × WorkerIdentityStore :=
  match vSafeId (.string workerId) "worker_id" with
  | .error fault => (.error (.valueError fault), s)
  | .ok workerId =>
    if failing = some .updateStatus then (.error .database, s)
    else if (s.identities.row? workerId).isSome then
      (.ok (), { s with
        identities := s.identities.modify workerId
          (fun row => { row with status := .revoked }) fun _ => rfl })
    else (.error (.identity .unauthorized "no worker identity with that id"), s)

end WorkerIdentityStore

/-! ### Runs -/

/-- A call of one operation, with the statement of it that fails, if any, the clock's reading and
    what it draws. -/
inductive IdentityAction where
  | beginPairing (failing : Option StoreStatement) (now : Instant) (label : Option Text)
      (pairingCode : PairingToken)
  | redeemPairingCode (failing : Option StoreStatement) (now : Instant) (pairingCode : Text)
      (workerId : SafeId) (credential : Credential)
  | authenticate (failing : Option StoreStatement) (workerId credential : Text)
  | rotateCredential (failing : Option StoreStatement) (now : Instant) (workerId : Text)
      (credential : Credential)
  | revoke (failing : Option StoreStatement) (workerId : Text)

/-- What an operation that returned has done. -/
inductive IdentityEvent where
  | issuedCode (pairingCode : Text)
  | paired (pairingCode workerId credential : Text)
  | rotated (workerId credential : Text)
  | revoked (workerId : Text)
  deriving DecidableEq

/-- The secrets an action names. -/
def IdentityAction.secrets : IdentityAction → List Text
  | beginPairing _ _ _ pairingCode => [pairingCode.text]
  | redeemPairingCode _ _ pairingCode _ credential => [pairingCode, credential.text]
  | authenticate _ _ credential => [credential]
  | rotateCredential _ _ _ credential => [credential.text]
  | revoke _ _ => []

/-! ### What the log says -/

/-- What an event does to the identity that a code has yielded. -/
def IdentityEvent.yields (pairingCode : Text) (yielded : Option Text) :
    IdentityEvent → Option Text
  | issuedCode code => if code = pairingCode then none else yielded
  | paired code workerId _ => if code = pairingCode then some workerId else yielded
  | rotated _ _ | revoked _ => yielded

/-- The identity a code has yielded since it was last issued. -/
def codeYield (pairingCode : Text) (log : List IdentityEvent) : Option Text :=
  log.foldl (IdentityEvent.yields pairingCode) none

/-- What an event does to the latest credential of an identity. -/
def IdentityEvent.credits (workerId : Text) (latest : Option Text) : IdentityEvent → Option Text
  | paired _ w credential | rotated w credential =>
    if w = workerId then some credential else latest
  | issuedCode _ | revoked _ => latest

/-- The credential last issued to an identity. -/
def latestCredential (workerId : Text) (log : List IdentityEvent) : Option Text :=
  log.foldl (IdentityEvent.credits workerId) none

/-- Between two identities of one code it was issued anew. -/
def YieldsOnce (log : List IdentityEvent) : Prop :=
  ∀ before between after pairingCode w w' c c',
    log = before ++ .paired pairingCode w c :: (between ++ .paired pairingCode w' c' :: after) →
    .issuedCode pairingCode ∈ between

section Log

variable {code worker credential : Text} {log : List IdentityEvent}

@[simp] theorem codeYield_concat {e : IdentityEvent} :
    codeYield code (log ++ [e]) = e.yields code (codeYield code log) :=
  List.foldl_concat ..

@[simp] theorem latestCredential_concat {e : IdentityEvent} :
    latestCredential worker (log ++ [e]) = e.credits worker (latestCredential worker log) :=
  List.foldl_concat ..

/-- A code that yielded an identity has yielded one until it is issued anew. -/
theorem issued_of_codeYield_eq_none {before between : List IdentityEvent}
    (h : codeYield code (before ++ .paired code worker credential :: between) = none) :
    .issuedCode code ∈ between := by
  by_contra hissued
  -- From the identity on, no event of the rest forgets it.
  have hkeeps : ∀ rest : List IdentityEvent, .issuedCode code ∉ rest →
      codeYield code (before ++ .paired code worker credential :: rest) ≠ none := by
    intro rest hrest
    induction rest using List.reverseRecOn with
    | nil => simp [IdentityEvent.yields]
    | append_singleton rest e ih =>
      rw [List.mem_append, not_or, List.mem_singleton] at hrest
      rw [← List.cons_append, ← List.append_assoc, codeYield_concat]
      cases e with
      | issuedCode code' =>
        have hne : code' ≠ code := fun h => hrest.2 (h ▸ rfl)
        simpa [IdentityEvent.yields, hne] using ih hrest.1
      | paired code' _ _ =>
        by_cases hcode : code' = code
        · simp [IdentityEvent.yields, hcode]
        · simpa [IdentityEvent.yields, hcode] using ih hrest.1
      | rotated | revoked => exact ih hrest.1
  exact hkeeps between hissued h

/-- One more event: if it yields an identity, the code has none at that point. -/
theorem YieldsOnce.concat {e : IdentityEvent} (h : YieldsOnce log)
    (hnew : ∀ code w c, e = .paired code w c → codeYield code log = none) :
    YieldsOnce (log ++ [e]) := by
  intro before between after code w w' c c' heq
  rw [← List.cons_append, ← List.append_assoc] at heq
  rcases append_eq_append_cons heq with ⟨rest, hlog, -⟩ | ⟨rest, hbefore, hlast⟩
  · refine h before between rest code w w' c c' ?_
    rw [hlog, ← List.cons_append, ← List.append_assoc]
  · -- The second identity is the new event.
    obtain ⟨rfl, rfl, -⟩ : rest = [] ∧ e = .paired code w' c' ∧ after = [] := by
      cases rest with
      | nil => simpa using hlast
      | cons x rest => simp at hlast
    rw [List.append_nil] at hbefore
    subst hbefore
    exact issued_of_codeYield_eq_none (hnew _ _ _ rfl)

end Log

/-! ### Steps -/

section Runs

variable [SecretHash]

/-- One call. -/
def WorkerIdentityStore.step (s : WorkerIdentityStore) :
    IdentityAction → WorkerIdentityStore × List IdentityEvent
  | .beginPairing failing now label pairingCode =>
    match s.beginPairing failing now label pairingCode with
    | (.ok issued, s') => (s', [.issuedCode issued.pairingCode])
    | (.error _, s') => (s', [])
  | .redeemPairingCode failing now pairingCode workerId credential =>
    match s.redeemPairingCode failing now pairingCode workerId credential with
    | (.ok (workerId, credential), s') =>
      (s', [.paired pairingCode workerId.toText credential.text])
    | (.error _, s') => (s', [])
  | .authenticate _ _ _ => (s, [])
  | .rotateCredential failing now workerId credential =>
    match s.rotateCredential failing now workerId credential with
    | (.ok credential, s') => (s', [.rotated workerId credential.text])
    | (.error _, s') => (s', [])
  | .revoke failing workerId =>
    match s.revoke failing workerId with
    | (.ok (), s') => (s', [.revoked workerId])
    | (.error _, s') => (s', [])

section State

variable {s : WorkerIdentityStore} {failing : Option StoreStatement} {now : Instant}
  {worker : Text} {credential : Credential}

theorem step_beginPairing_fst {label : Option Text} {pairingCode : PairingToken} :
    (s.step (.beginPairing failing now label pairingCode)).1 =
      (s.beginPairing failing now label pairingCode).2 := by
  unfold WorkerIdentityStore.step
  dsimp only
  rcases s.beginPairing failing now label pairingCode with ⟨_ | _, _⟩ <;> rfl

theorem step_redeemPairingCode_fst {pairingCode : Text} {workerId : SafeId} :
    (s.step (.redeemPairingCode failing now pairingCode workerId credential)).1 =
      (s.redeemPairingCode failing now pairingCode workerId credential).2 := by
  unfold WorkerIdentityStore.step
  dsimp only
  rcases s.redeemPairingCode failing now pairingCode workerId credential with ⟨_ | _, _⟩ <;> rfl

theorem step_rotateCredential_fst :
    (s.step (.rotateCredential failing now worker credential)).1 =
      (s.rotateCredential failing now worker credential).2 := by
  unfold WorkerIdentityStore.step
  dsimp only
  rcases s.rotateCredential failing now worker credential with ⟨_ | _, _⟩ <;> rfl

theorem step_revoke_fst : (s.step (.revoke failing worker)).1 = (s.revoke failing worker).2 := by
  unfold WorkerIdentityStore.step
  dsimp only
  rcases s.revoke failing worker with ⟨_ | _, _⟩ <;> rfl

end State

/-- The store as a machine. -/
def identityMachine : Machine WorkerIdentityStore IdentityAction IdentityEvent :=
  ⟨fun s action => some (s.step action)⟩

/-- The redemption would claim its code. -/
def WorkerIdentityStore.claims (s : WorkerIdentityStore) (failing : Option StoreStatement)
    (now : Instant) (pairingCode : Text) : Bool :=
  failing ≠ some .selectCode && failing ≠ some .claimCode &&
    (s.pairingCodes.row? (SecretHash.digest pairingCode)).any fun row =>
      !row.expired now && row.redeemedBy.isNone

/-- The outstanding rows that `begin_pairing` counts at an instant. -/
def WorkerIdentityStore.outstanding (s : WorkerIdentityStore) (now : Instant) :
    List PairingCodeRow :=
  (s.pruneExpired now).unredeemed

/-- The call of `begin_pairing` gets as far as the size of the backlog. -/
def readsBacklog (failing : Option StoreStatement) (label : Option Text) : Bool :=
  failing ≠ some .pruneCodes && failing ≠ some .countCodes && (checkedLabel label).toBool

/-- What keeps the books straight: no statement fails once a code is claimed, the identifier drawn
    for it is not in use, and `begin_pairing` finds no expired code in a full backlog. -/
def WorkerIdentityStore.sound (s : WorkerIdentityStore) : IdentityAction → Bool
  | .redeemPairingCode failing now pairingCode workerId _ =>
    !s.claims failing now pairingCode ||
      (failing ∉ [some .markCode, some .selectLabel, some .insertIdentity] &&
        (s.identities.row? workerId).isNone)
  | .beginPairing failing now label _ =>
    !readsBacklog failing label || (s.outstanding now).length < maxOutstandingPairingCodes ||
      (s.outstanding now).all (!·.expired now)
  | _ => true

variable {s s' : WorkerIdentityStore} {events : List IdentityEvent}

/-- **Everything a sound step can do to the tables**, with what it logs and the secrets it is
    given. -/
inductive StoreEffect (s : WorkerIdentityStore) (secrets : List Text) :
    WorkerIdentityStore → List IdentityEvent → Prop
  | unchanged : StoreEffect s secrets s []
  | pruned (now : Instant) : StoreEffect s secrets (s.pruneExpired now) []
  | issued (now : Instant) (code : Text) (row : PairingCodeRow) (given : code ∈ secrets)
      (hash : row.codeHash = SecretHash.digest code) (unredeemed : row.redeemedBy = none)
      (unused : (s.pruneExpired now).pairingCodes.row? row.codeHash = none) :
      StoreEffect s secrets { s.pruneExpired now with
        pairingCodes := (s.pruneExpired now).pairingCodes.insert row unused }
        [.issuedCode code]
  | paired (now : Instant) (code : Text) (credential : Credential) (row : PairingCodeRow)
      (identity : IdentityRow) (givenCode : code ∈ secrets) (given : credential.text ∈ secrets)
      (found : s.pairingCodes.row? (SecretHash.digest code) = some row)
      (unredeemed : row.redeemedBy = none)
      (hash : identity.credentialHash = SecretHash.digest credential.text)
      (active : identity.status = .active)
      (unused : s.identities.row? identity.workerId = none) :
      StoreEffect s secrets
        { (s.claimCode now (SecretHash.digest code)).markCode (SecretHash.digest code)
            identity.workerId with
          identities := s.identities.insert identity unused }
        [.paired code identity.workerId.toText credential.text]
  | rotated (now : Instant) (workerId : SafeId) (credential : Credential)
      (given : credential.text ∈ secrets) (active : s.isActive workerId = true) :
      StoreEffect s secrets { s with
        identities := s.identities.modify workerId
          (fun row => { row with
            credentialHash := SecretHash.digest credential.text
            credentialRotatedAt := some (canonicalInstant now) }) fun _ => rfl }
        [.rotated workerId.toText credential.text]
  | revoked (workerId : SafeId) (known : (s.identities.row? workerId).isSome = true) :
      StoreEffect s secrets { s with
        identities := s.identities.modify workerId
          (fun row => { row with status := .revoked }) fun _ => rfl }
        [.revoked workerId.toText]

/-- A call of `begin_pairing`. -/
theorem effect_of_beginPairing {failing : Option StoreStatement} {now : Instant}
    {label : Option Text} {pairingCode : PairingToken}
    (h : s.step (.beginPairing failing now label pairingCode) = (s', events)) :
    StoreEffect s [pairingCode.text] s' events := by
  unfold WorkerIdentityStore.step WorkerIdentityStore.beginPairing at h
  cases hlabel : checkedLabel label with
  | error fault =>
    simp only [hlabel] at h
    obtain ⟨rfl, rfl⟩ := Prod.mk.inj h
    exact .unchanged
  | ok label =>
    simp only [hlabel] at h
    split_ifs at h with hprune hcount hfull hinsert hunused
    · obtain ⟨rfl, rfl⟩ := Prod.mk.inj h
      exact .unchanged
    · obtain ⟨rfl, rfl⟩ := Prod.mk.inj h
      exact .pruned now
    · obtain ⟨rfl, rfl⟩ := Prod.mk.inj h
      exact .pruned now
    · obtain ⟨rfl, rfl⟩ := Prod.mk.inj h
      exact .pruned now
    · obtain ⟨rfl, rfl⟩ := Prod.mk.inj h
      exact .issued now pairingCode.text _ List.mem_cons_self rfl rfl hunused
    · obtain ⟨rfl, rfl⟩ := Prod.mk.inj h
      exact .pruned now

/-- A secret that can be hashed has its digest. -/
theorem digest_of_hashSecret {secret : Text} {hash : String} (h : hashSecret secret = .ok hash) :
    hash = SecretHash.digest secret := by
  unfold hashSecret at h
  split_ifs at h
  exact (Except.ok.inj h).symm

/-- A sound redemption that claims its code completes it. -/
theorem completes_of_sound {failing : Option StoreStatement} {now : Instant} {pairingCode : Text}
    {workerId : SafeId} {credential : Credential} {row : PairingCodeRow}
    (hsound : s.sound (.redeemPairingCode failing now pairingCode workerId credential) = true)
    (hselect : failing ≠ some .selectCode) (hclaim : failing ≠ some .claimCode)
    (hrow : s.pairingCodes.row? (SecretHash.digest pairingCode) = some row)
    (hexpired : row.expired now = false) (hopen : row.redeemedBy = none) :
    failing ≠ some .markCode ∧ ¬ (failing = some .selectLabel ∨ failing = some .insertIdentity) ∧
      s.identities.row? workerId = none := by
  have hclaims : s.claims failing now pairingCode = true := by
    simp [WorkerIdentityStore.claims, hselect, hclaim, hrow, hexpired, hopen]
  simp only [WorkerIdentityStore.sound, hclaims, Bool.not_true, Bool.false_or, Bool.and_eq_true,
    Option.isNone_iff_eq_none] at hsound
  simpa [and_assoc] using hsound

/-- A call of `redeem_pairing_code` that completes its claim, if it makes one. -/
theorem effect_of_redeemPairingCode {failing : Option StoreStatement} {now : Instant}
    {pairingCode : Text} {workerId : SafeId} {credential : Credential}
    (hsound : s.sound (.redeemPairingCode failing now pairingCode workerId credential) = true)
    (h : s.step (.redeemPairingCode failing now pairingCode workerId credential) = (s', events)) :
    StoreEffect s [pairingCode, credential.text] s' events := by
  unfold WorkerIdentityStore.step WorkerIdentityStore.redeemPairingCode at h
  cases htext : vText (.string pairingCode) "pairing_code" 512 with
  | error fault =>
    simp only [htext] at h
    obtain ⟨rfl, rfl⟩ := Prod.mk.inj h
    exact .unchanged
  | ok text =>
    cases hhash : hashSecret pairingCode with
    | error e =>
      simp only [htext, hhash] at h
      obtain ⟨rfl, rfl⟩ := Prod.mk.inj h
      exact .unchanged
    | ok codeHash =>
      obtain rfl := digest_of_hashSecret hhash
      simp only [htext, hhash] at h
      by_cases hselect : failing = some .selectCode
      · rw [if_pos hselect] at h
        obtain ⟨rfl, rfl⟩ := Prod.mk.inj h
        exact .unchanged
      rw [if_neg hselect] at h
      cases hrow : s.pairingCodes.row? (SecretHash.digest pairingCode) with
      | none =>
        simp only [hrow] at h
        obtain ⟨rfl, rfl⟩ := Prod.mk.inj h
        exact .unchanged
      | some row =>
        simp only [hrow] at h
        by_cases hexpired : row.expired now = true
        · rw [if_pos hexpired] at h
          obtain ⟨rfl, rfl⟩ := Prod.mk.inj h
          exact .unchanged
        rw [if_neg hexpired] at h
        by_cases hclaim : failing = some .claimCode
        · rw [if_pos hclaim] at h
          obtain ⟨rfl, rfl⟩ := Prod.mk.inj h
          exact .unchanged
        rw [if_neg hclaim] at h
        by_cases hused : row.redeemedBy.isSome = true
        · rw [if_pos hused] at h
          obtain ⟨rfl, rfl⟩ := Prod.mk.inj h
          exact .unchanged
        -- From here on the code is claimed, and a sound step completes the redemption.
        have hopen : row.redeemedBy = none := by simpa using hused
        obtain ⟨hmark, hrest, hunused⟩ := completes_of_sound hsound hselect hclaim hrow
          (Bool.not_eq_true _ ▸ hexpired) hopen
        unfold WorkerIdentityStore.completeRedemption at h
        rw [if_neg hused, if_neg hmark] at h
        dsimp only at h
        rw [if_neg hrest] at h
        split_ifs at h with hfresh
        · obtain ⟨rfl, rfl⟩ := Prod.mk.inj h
          exact .paired now pairingCode credential row
            { workerId, label := _, credentialHash := _, status := .active, createdAt := _ }
            (by simp) (by simp) hrow hopen rfl rfl hfresh
        · exact absurd hunused hfresh

/-- A call of `rotate_credential`. -/
theorem effect_of_rotateCredential {failing : Option StoreStatement} {now : Instant}
    {workerId : Text} {credential : Credential}
    (h : s.step (.rotateCredential failing now workerId credential) = (s', events)) :
    StoreEffect s [credential.text] s' events := by
  unfold WorkerIdentityStore.step WorkerIdentityStore.rotateCredential at h
  cases hid : vSafeId (.string workerId) "worker_id" with
  | error fault =>
    simp only [hid] at h
    obtain ⟨rfl, rfl⟩ := Prod.mk.inj h
    exact .unchanged
  | ok id =>
    simp only [hid] at h
    split_ifs at h with hfails hactive
    · obtain ⟨rfl, rfl⟩ := Prod.mk.inj h
      exact .unchanged
    · obtain ⟨rfl, rfl⟩ := Prod.mk.inj h
      rw [← toText_of_vSafeId hid]
      exact .rotated now id credential List.mem_cons_self hactive
    · obtain ⟨rfl, rfl⟩ := Prod.mk.inj h
      exact .unchanged

/-- A call of `revoke`. -/
theorem effect_of_revoke {failing : Option StoreStatement} {workerId : Text}
    (h : s.step (.revoke failing workerId) = (s', events)) : StoreEffect s [] s' events := by
  unfold WorkerIdentityStore.step WorkerIdentityStore.revoke at h
  cases hid : vSafeId (.string workerId) "worker_id" with
  | error fault =>
    simp only [hid] at h
    obtain ⟨rfl, rfl⟩ := Prod.mk.inj h
    exact .unchanged
  | ok id =>
    simp only [hid] at h
    split_ifs at h with hfails hknown
    · obtain ⟨rfl, rfl⟩ := Prod.mk.inj h
      exact .unchanged
    · obtain ⟨rfl, rfl⟩ := Prod.mk.inj h
      rw [← toText_of_vSafeId hid]
      exact .revoked id hknown
    · obtain ⟨rfl, rfl⟩ := Prod.mk.inj h
      exact .unchanged

/-- **What a sound step does.** -/
theorem effect_of_step {action : IdentityAction} (hsound : s.sound action = true)
    (h : s.step action = (s', events)) : StoreEffect s action.secrets s' events := by
  cases action with
  | beginPairing => exact effect_of_beginPairing h
  | redeemPairingCode => exact effect_of_redeemPairingCode hsound h
  | authenticate =>
    obtain ⟨rfl, rfl⟩ := Prod.mk.inj h
    exact .unchanged
  | rotateCredential => exact effect_of_rotateCredential h
  | revoke => exact effect_of_revoke h

/-! ### Revoked identities -/

/-- The identity has a row, and it is revoked. -/
def RevokedIdentity (s : WorkerIdentityStore) (workerId : SafeId) : Prop :=
  ∃ row, s.identities.row? workerId = some row ∧ row.status = .revoked

variable {workerId : SafeId}

omit [SecretHash] in
theorem RevokedIdentity.isActive (h : RevokedIdentity s workerId) :
    s.isActive workerId = false := by
  obtain ⟨row, hrow, hstatus⟩ := h
  simp [WorkerIdentityStore.isActive, hrow, hstatus]

/-- A redemption adds an identity, or none. -/
theorem identities_completeRedemption {failing : Option StoreStatement} {now : Instant}
    {codeHash : String} {id : SafeId} {credential : Credential} :
    (s.completeRedemption failing now codeHash id credential).2.identities = s.identities ∨
      ∃ row h, (s.completeRedemption failing now codeHash id credential).2.identities =
        s.identities.insert row h := by
  unfold WorkerIdentityStore.completeRedemption
  by_cases hmark : failing = some .markCode
  · rw [if_pos hmark]
    exact .inl rfl
  · rw [if_neg hmark]
    dsimp only
    split
    · exact .inl rfl
    · split
      · rename_i hunused
        exact .inr ⟨⟨id, _, _, _, _, _⟩, hunused, rfl⟩
      · exact .inl rfl

theorem RevokedIdentity.completeRedemption {failing : Option StoreStatement} {now : Instant}
    {codeHash : String} {id : SafeId} {credential : Credential} (h : RevokedIdentity s workerId) :
    RevokedIdentity (s.completeRedemption failing now codeHash id credential).2 workerId := by
  obtain ⟨row, hrow, hstatus⟩ := h
  refine ⟨row, ?_, hstatus⟩
  rcases identities_completeRedemption (s := s) with heq | ⟨new, hunused, heq⟩
  · rw [heq]
    exact hrow
  · rw [heq, Table.row?_insert, if_neg ?_]
    · exact hrow
    · rintro rfl
      rw [hunused] at hrow
      cases hrow

theorem RevokedIdentity.redeemPairingCode {failing : Option StoreStatement} {now : Instant}
    {pairingCode : Text} {id : SafeId} {credential : Credential}
    (h : RevokedIdentity s workerId) :
    RevokedIdentity (s.redeemPairingCode failing now pairingCode id credential).2 workerId := by
  unfold WorkerIdentityStore.redeemPairingCode
  split
  · exact h
  · exact h
  · by_cases hselect : failing = some .selectCode
    · rw [if_pos hselect]
      exact h
    · rw [if_neg hselect]
      split
      · exact h
      · split_ifs
        · exact h
        · exact h
        · exact h
        · exact RevokedIdentity.completeRedemption h

/-- `begin_pairing` leaves the identities as they are. -/
theorem identities_beginPairing {failing : Option StoreStatement} {now : Instant}
    {label : Option Text} {pairingCode : PairingToken} :
    (s.beginPairing failing now label pairingCode).2.identities = s.identities := by
  unfold WorkerIdentityStore.beginPairing
  split
  · rfl
  · dsimp only
    split_ifs <;> rfl

omit [SecretHash] in
/-- An identity whose row is rewritten stays revoked if the row does. -/
theorem RevokedIdentity.modify {id : SafeId} {f : IdentityRow → IdentityRow}
    (h : RevokedIdentity s workerId) (hf : ∀ row, (f row).workerId = row.workerId)
    (heq : s'.identities = s.identities.modify id f hf)
    (hstatus : ∀ row, row.status = .revoked → (f row).status = .revoked) :
    RevokedIdentity s' workerId := by
  obtain ⟨row, hrow, hrevoked⟩ := h
  unfold RevokedIdentity
  rw [heq, Table.row?_modify, hrow]
  split_ifs
  · exact ⟨f row, rfl, hstatus row hrevoked⟩
  · exact ⟨row, rfl, hrevoked⟩

theorem RevokedIdentity.rotateCredential {failing : Option StoreStatement} {now : Instant}
    {worker : Text} {credential : Credential} (h : RevokedIdentity s workerId) :
    RevokedIdentity (s.rotateCredential failing now worker credential).2 workerId := by
  unfold WorkerIdentityStore.rotateCredential
  split
  · exact h
  · split_ifs
    · exact h
    · refine h.modify ?_ rfl ?_
      · exact fun _ => rfl
      · exact fun _ hrevoked => hrevoked
    · exact h

omit [SecretHash] in
theorem RevokedIdentity.revoke {failing : Option StoreStatement} {worker : Text}
    (h : RevokedIdentity s workerId) : RevokedIdentity (s.revoke failing worker).2 workerId := by
  unfold WorkerIdentityStore.revoke
  split
  · exact h
  · split_ifs
    · exact h
    · refine h.modify ?_ rfl ?_
      · exact fun _ => rfl
      · exact fun _ _ => rfl
    · exact h

/-- **No operation takes a revocation back.** -/
theorem RevokedIdentity.step (h : RevokedIdentity s workerId) (action : IdentityAction) :
    RevokedIdentity (s.step action).1 workerId := by
  cases action with
  | beginPairing failing now label pairingCode =>
    rw [step_beginPairing_fst]
    obtain ⟨row, hrow, hrevoked⟩ := h
    refine ⟨row, ?_, hrevoked⟩
    rw [identities_beginPairing]
    exact hrow
  | redeemPairingCode failing now pairingCode id credential =>
    rw [step_redeemPairingCode_fst]
    exact h.redeemPairingCode
  | authenticate failing worker credential => exact h
  | rotateCredential failing now worker credential =>
    rw [step_rotateCredential_fst]
    exact h.rotateCredential
  | revoke failing worker =>
    rw [step_revoke_fst]
    exact h.revoke

omit [SecretHash] in
/-- A call of `revoke` that returns has revoked the identity. -/
theorem revokedIdentity_of_revoke {failing : Option StoreStatement} {worker : Text}
    (hid : safeId? worker = some workerId) (h : s.revoke failing worker = (.ok (), s')) :
    RevokedIdentity s' workerId := by
  obtain rfl := toText_of_safeId? hid
  have hchecked : vSafeId (.string workerId.toText) "worker_id" = .ok workerId := by
    simp [vSafeId, vStr]
  unfold WorkerIdentityStore.revoke at h
  simp only [hchecked] at h
  split_ifs at h with hfails hknown
  · cases h
  · obtain ⟨-, rfl⟩ := Prod.mk.inj h
    obtain ⟨row, hrow⟩ := Option.isSome_iff_exists.mp hknown
    refine ⟨{ row with status := .revoked }, ?_, rfl⟩
    rw [Table.row?_modify, if_pos rfl, hrow]
    rfl
  · cases h

/-! ### The invariant -/

/-- **The tables say what the log says.** -/
structure TablesRecorded (secrets : Set Text) (s : WorkerIdentityStore) (log : List IdentityEvent) :
    Prop where
  codes : ∀ hash row, s.pairingCodes.row? hash = some row → ∃ code ∈ secrets,
    SecretHash.digest code = hash ∧ row.redeemedBy.map RedeemedBy.text = codeYield code log
  yielded : ∀ code worker, codeYield code log = some worker →
    ∃ id : SafeId, id.toText = worker ∧ (s.identities.row? id).isSome = true
  identities : ∀ id row, s.identities.row? id = some row → ∃ credential : Credential,
    credential.text ∈ secrets ∧ SecretHash.digest credential.text = row.credentialHash ∧
      latestCredential id.toText log = some credential.text ∧
      (row.status = .active ↔ .revoked id.toText ∉ log)
  unknown : ∀ worker, (∀ id : SafeId, id.toText = worker → s.identities.row? id = none) →
    latestCredential worker log = none ∧ .revoked worker ∉ log
  once : YieldsOnce log

namespace TablesRecorded

variable {secrets : Set Text} {log : List IdentityEvent}

theorem initial {ttl : { n : ℕ // 1 ≤ n ∧ n ≤ 3600 }} :
    TablesRecorded secrets { pairingCodeTtl := ttl } [] where
  codes _ _ h := nomatch h
  yielded _ _ h := nomatch h
  identities _ _ h := nomatch h
  unknown _ _ := ⟨rfl, List.not_mem_nil⟩
  once before _ _ _ _ _ _ _ h := by
    have hlength := congrArg List.length h
    simp at hlength

/-- Deleting old codes. -/
theorem prune (h : TablesRecorded secrets s log) (now : Instant) :
    TablesRecorded secrets (s.pruneExpired now) log where
  codes hash row hrow := by
    have hrow' : (s.pairingCodes.delete _).row? hash = some row := hrow
    rw [Table.row?_delete, Option.filter_eq_some_iff] at hrow'
    exact h.codes hash row hrow'.1
  yielded := h.yielded
  identities := h.identities
  unknown := h.unknown
  once := h.once

/-- A code is issued. -/
theorem issue (h : TablesRecorded secrets s log) {code : Text} {row : PairingCodeRow}
    (hgiven : code ∈ secrets) (hhash : row.codeHash = SecretHash.digest code)
    (hopen : row.redeemedBy = none) (hunused : s.pairingCodes.row? row.codeHash = none) :
    TablesRecorded secrets { s with pairingCodes := s.pairingCodes.insert row hunused }
      (log ++ [.issuedCode code]) where
  codes hash row' hrow' := by
    have hrow : (s.pairingCodes.insert row hunused).row? hash = some row' := hrow'
    rw [Table.row?_insert] at hrow
    split_ifs at hrow with hkey
    · obtain rfl := Option.some.inj hrow
      refine ⟨code, hgiven, by rw [← hkey, hhash], ?_⟩
      rw [codeYield_concat, hopen]
      exact (if_pos rfl).symm
    · obtain ⟨code', hcode', hdigest, hyield⟩ := h.codes hash row' hrow
      refine ⟨code', hcode', hdigest, ?_⟩
      have hne : code ≠ code' := by
        rintro rfl
        exact hkey (by rw [hhash, hdigest])
      rw [codeYield_concat, hyield]
      exact (if_neg hne).symm
  yielded code' worker hyield := by
    rw [codeYield_concat] at hyield
    simp only [IdentityEvent.yields] at hyield
    split_ifs at hyield
    exact h.yielded code' worker hyield
  identities id row' hrow' := by
    obtain ⟨credential, hsecret, hdigest, hlatest, hactive⟩ := h.identities id row' hrow'
    refine ⟨credential, hsecret, hdigest, ?_, by simpa using hactive⟩
    rw [latestCredential_concat]
    exact hlatest
  unknown worker hunknown := by
    obtain ⟨hlatest, hrevoked⟩ := h.unknown worker hunknown
    refine ⟨?_, by simpa using hrevoked⟩
    rw [latestCredential_concat]
    exact hlatest
  once := h.once.concat fun _ _ _ he => nomatch he

omit [SecretHash] in
/-- The row of a code after the claim and the statement that names its identity. -/
theorem row?_markCode {now : Instant} {codeHash hash : String} {workerId : SafeId} :
    ((s.claimCode now codeHash).markCode codeHash workerId).pairingCodes.row? hash =
      if codeHash = hash then (s.pairingCodes.row? hash).map fun row =>
        { row with
          redeemedBy := some (.worker workerId)
          redeemedAt := some (canonicalInstant now) }
      else s.pairingCodes.row? hash := by
  unfold WorkerIdentityStore.claimCode WorkerIdentityStore.markCode
  rw [Table.row?_modify, Table.row?_modify]
  split_ifs
  · rw [Option.map_map]
    rfl
  · rfl

/-- A code yields an identity. -/
theorem pair (h : TablesRecorded secrets s log) (hcollision : Set.InjOn SecretHash.digest secrets)
    {now : Instant} {code : Text} {credential : Credential} {row : PairingCodeRow}
    {identity : IdentityRow} (hcode : code ∈ secrets) (hsecret : credential.text ∈ secrets)
    (hfound : s.pairingCodes.row? (SecretHash.digest code) = some row)
    (hopen : row.redeemedBy = none)
    (hhash : identity.credentialHash = SecretHash.digest credential.text)
    (hactive : identity.status = .active)
    (hunused : s.identities.row? identity.workerId = none) :
    TablesRecorded secrets
      { (s.claimCode now (SecretHash.digest code)).markCode (SecretHash.digest code)
          identity.workerId with
        identities := s.identities.insert identity hunused }
      (log ++ [.paired code identity.workerId.toText credential.text]) where
  codes hash row' hrow' := by
    have hrow : ((s.claimCode now (SecretHash.digest code)).markCode (SecretHash.digest code)
      identity.workerId).pairingCodes.row? hash = some row' := hrow'
    rw [row?_markCode] at hrow
    split_ifs at hrow with hkey
    · obtain ⟨old, -, rfl⟩ := Option.map_eq_some_iff.mp hrow
      refine ⟨code, hcode, hkey, ?_⟩
      rw [codeYield_concat]
      exact (if_pos rfl).symm
    · obtain ⟨code', hcode', hdigest, hyield⟩ := h.codes hash row' hrow
      refine ⟨code', hcode', hdigest, ?_⟩
      have hne : code ≠ code' := by
        rintro rfl
        exact hkey hdigest
      rw [codeYield_concat, hyield]
      exact (if_neg hne).symm
  yielded code' worker hyield := by
    rw [codeYield_concat] at hyield
    show ∃ id : SafeId, id.toText = worker ∧
      ((s.identities.insert identity hunused).row? id).isSome = true
    simp only [IdentityEvent.yields] at hyield
    split_ifs at hyield with hsame
    · refine ⟨identity.workerId, Option.some.inj hyield, ?_⟩
      rw [Table.row?_insert, if_pos rfl]
      rfl
    · obtain ⟨id, hid, hknown⟩ := h.yielded code' worker hyield
      refine ⟨id, hid, ?_⟩
      rw [Table.row?_insert]
      split_ifs
      · rfl
      · exact hknown
  identities id row' hrow' := by
    have hrow : (s.identities.insert identity hunused).row? id = some row' := hrow'
    rw [Table.row?_insert] at hrow
    rw [latestCredential_concat]
    split_ifs at hrow with hkey
    · obtain rfl := Option.some.inj hrow
      subst hkey
      refine ⟨credential, hsecret, hhash.symm, if_pos rfl, ?_⟩
      -- The identifier is new, so that it was never revoked.
      obtain ⟨-, hrevoked⟩ := h.unknown identity.workerId.toText fun id hid => by
        rw [SafeId.toText_injective hid]
        exact hunused
      simpa [hactive] using hrevoked
    · obtain ⟨credential', hsecret', hdigest, hlatest, hstatus⟩ := h.identities id row' hrow
      refine ⟨credential', hsecret', hdigest, ?_, by simpa using hstatus⟩
      exact (if_neg fun hid => hkey (SafeId.toText_injective hid)).trans hlatest
  unknown worker hunknown := by
    have hrows : ∀ id : SafeId, id.toText = worker →
        (s.identities.insert identity hunused).row? id = none := hunknown
    rw [latestCredential_concat]
    have hne : identity.workerId.toText ≠ worker := by
      intro hid
      have hnone := hrows _ hid
      rw [Table.row?_insert, if_pos rfl] at hnone
      cases hnone
    obtain ⟨hlatest, hrevoked⟩ := h.unknown worker fun id hid => by
      have hnone := hrows id hid
      rw [Table.row?_insert] at hnone
      split_ifs at hnone
      exact hnone
    exact ⟨(if_neg hne).trans hlatest, by simpa using hrevoked⟩
  once := by
    refine h.once.concat fun code' worker c he => ?_
    obtain ⟨rfl, rfl, rfl⟩ := IdentityEvent.paired.inj he
    -- The code of an unredeemed row has yielded nothing since it was issued.
    obtain ⟨code', hcode', hdigest, hyield⟩ := h.codes _ row hfound
    obtain rfl := hcollision hcode' hcode hdigest
    rw [← hyield, hopen]
    rfl

/-- One row of the identities is rewritten, by an event about that identity. -/
theorem rewriteIdentity (h : TablesRecorded secrets s log) {workerId : SafeId}
    {f : IdentityRow → IdentityRow} {e : IdentityEvent} (hf : ∀ row, (f row).workerId = row.workerId)
    (hknown : (s.identities.row? workerId).isSome = true)
    (hyields : ∀ code yielded, e.yields code yielded = yielded)
    (hother : ∀ worker, workerId.toText ≠ worker →
      e ≠ .revoked worker ∧ ∀ latest, e.credits worker latest = latest)
    (hrow : ∀ row, s.identities.row? workerId = some row → ∃ credential : Credential,
      credential.text ∈ secrets ∧ SecretHash.digest credential.text = (f row).credentialHash ∧
        latestCredential workerId.toText (log ++ [e]) = some credential.text ∧
        ((f row).status = .active ↔ .revoked workerId.toText ∉ log ++ [e]))
    (honce : ∀ code worker credential, e ≠ .paired code worker credential) :
    TablesRecorded secrets { s with identities := s.identities.modify workerId f hf } (log ++ [e]) where
  codes hash row hrow := by
    obtain ⟨code, hcode, hdigest, hyield⟩ := h.codes hash row hrow
    refine ⟨code, hcode, hdigest, ?_⟩
    rw [codeYield_concat, hyields]
    exact hyield
  yielded code worker hyield := by
    rw [codeYield_concat, hyields] at hyield
    obtain ⟨id, hid, hfound⟩ := h.yielded code worker hyield
    exact ⟨id, hid, by rw [Table.isSome_row?_modify]; exact hfound⟩
  identities id row hfound := by
    rw [Table.row?_modify] at hfound
    split_ifs at hfound with hkey
    · subst hkey
      obtain ⟨old, hold, rfl⟩ := Option.map_eq_some_iff.mp hfound
      exact hrow old hold
    · obtain ⟨credential, hsecret, hdigest, hlatest, hstatus⟩ := h.identities id row hfound
      obtain ⟨hrevoked, hcredits⟩ :=
        hother id.toText fun hid => hkey (SafeId.toText_injective hid)
      refine ⟨credential, hsecret, hdigest, ?_, ?_⟩
      · rw [latestCredential_concat, hcredits]
        exact hlatest
      · simpa [Ne.symm hrevoked] using hstatus
  unknown worker hunknown := by
    have hrows : ∀ id : SafeId, id.toText = worker → s.identities.row? id = none :=
      fun id hid => (Table.row?_modify_eq_none hf).mp (hunknown id hid)
    have hne : workerId.toText ≠ worker := by
      intro hid
      rw [hrows workerId hid] at hknown
      cases hknown
    obtain ⟨hrevoked, hcredits⟩ := hother worker hne
    obtain ⟨hlatest, hlog⟩ := h.unknown worker hrows
    rw [latestCredential_concat, hcredits]
    exact ⟨hlatest, by simpa [Ne.symm hrevoked] using hlog⟩
  once := h.once.concat fun _ _ _ he => absurd he (honce _ _ _)

/-- A credential is replaced. -/
theorem rotate (h : TablesRecorded secrets s log) {now : Instant} {workerId : SafeId}
    {credential : Credential} (hsecret : credential.text ∈ secrets)
    (hactive : s.isActive workerId = true) :
    TablesRecorded secrets { s with
      identities := s.identities.modify workerId
        (fun row => { row with
          credentialHash := SecretHash.digest credential.text
          credentialRotatedAt := some (canonicalInstant now) }) fun _ => rfl }
      (log ++ [.rotated workerId.toText credential.text]) := by
  refine h.rewriteIdentity _ ?_ (fun _ _ => rfl) (fun worker hne => ⟨?_, fun _ => if_neg hne⟩)
    (fun row hrow => ?_) fun _ _ _ he => by cases he
  · unfold WorkerIdentityStore.isActive at hactive
    split at hactive
    · cases hactive
    · rename_i hrow
      rw [hrow]
      rfl
  · intro he
    cases he
  · obtain ⟨-, -, -, -, hstatus⟩ := h.identities workerId row hrow
    refine ⟨credential, hsecret, rfl, ?_, by simpa using hstatus⟩
    rw [latestCredential_concat]
    exact if_pos rfl

/-- An identity is revoked. -/
theorem revoke (h : TablesRecorded secrets s log) {workerId : SafeId}
    (hknown : (s.identities.row? workerId).isSome = true) :
    TablesRecorded secrets { s with
      identities := s.identities.modify workerId
        (fun row => { row with status := .revoked }) fun _ => rfl }
      (log ++ [.revoked workerId.toText]) := by
  refine h.rewriteIdentity _ hknown (fun _ _ => rfl) (fun worker hne => ⟨?_, fun _ => rfl⟩)
    (fun row hrow => ?_) fun _ _ _ he => nomatch he
  · exact fun he => hne (IdentityEvent.revoked.inj he)
  · obtain ⟨credential, hsecret, hdigest, hlatest, -⟩ := h.identities workerId row hrow
    refine ⟨credential, hsecret, hdigest, ?_, by simp⟩
    rw [latestCredential_concat]
    exact hlatest

/-- **A sound step keeps the invariant.** -/
theorem effect (h : TablesRecorded secrets s log) (hcollision : Set.InjOn SecretHash.digest secrets)
    {given : List Text} (hgiven : ∀ secret ∈ given, secret ∈ secrets)
    (heffect : StoreEffect s given s' events) : TablesRecorded secrets s' (log ++ events) := by
  cases heffect with
  | unchanged =>
    rw [List.append_nil]
    exact h
  | pruned now =>
    rw [List.append_nil]
    exact h.prune now
  | issued now code row hcode hhash hopen hunused =>
    exact (h.prune now).issue (hgiven _ hcode) hhash hopen hunused
  | paired now code credential row identity hcode hsecret hfound hopen hhash hactive hunused =>
    exact h.pair hcollision (hgiven _ hcode) (hgiven _ hsecret) hfound hopen hhash hactive hunused
  | rotated now workerId credential hsecret hactive => exact h.rotate (hgiven _ hsecret) hactive
  | revoked workerId hknown => exact h.revoke hknown

end TablesRecorded

variable {secrets : Set Text} {log : List IdentityEvent} {ttl : { n : ℕ // 1 ≤ n ∧ n ≤ 3600 }}

/-- What a run may do: sound steps, with secrets of the given set. -/
def WorkerIdentityStore.Permits (secrets : Set Text) (s : WorkerIdentityStore)
    (action : IdentityAction) : Prop :=
  s.sound action = true ∧ ∀ secret ∈ action.secrets, secret ∈ secrets

/-- The invariant holds in every state of a sound run. -/
theorem tablesRecorded_of_run (hcollision : Set.InjOn SecretHash.digest secrets)
    (run : identityMachine.Run (WorkerIdentityStore.Permits secrets) { pairingCodeTtl := ttl }
      s log) : TablesRecorded secrets s log := by
  refine run.invariant (I := TablesRecorded secrets) .initial ?_
  intro s s' log events action _ hrecorded hpermits hstep
  have hstep' : s.step action = (s', events) := Option.some.inj hstep
  exact hrecorded.effect hcollision hpermits.2 (effect_of_step hpermits.1 hstep')

/-! ### Credentials -/

/-- An issued credential can be hashed. -/
theorem hashSecret_token {size : ℕ} (token : UrlSafeToken size) :
    hashSecret token.text = .ok (SecretHash.digest token.text) := by
  have hplain : (token.text.any fun c => isHigh c || isLow c) = false := by
    rw [List.any_eq_false]
    intro c hc
    have hsafe := List.all_eq_true.mp token.urlSafe c hc
    simp only [isUrlSafe, isHigh, isLow, Bool.or_eq_true, Bool.and_eq_true,
      decide_eq_true_eq] at hsafe ⊢
    omega
  unfold hashSecret
  rw [hplain]
  rfl

omit [SecretHash] in
/-- An issued credential passes its check. -/
theorem vText_credential (credential : Credential) :
    ∃ text, vText (.string credential.text) "credential" 512 = .ok text := by
  have hlength := credential.length_eq
  have hne : credential.text ≠ [] := by
    intro h
    rw [h] at hlength
    cases hlength
  have hle : credential.text.length ≤ 512 := by omega
  refine ⟨⟨credential.text, hne, hle⟩, ?_⟩
  unfold vText vStr
  rw [ok_bind, dif_neg hne, dif_neg (not_lt.mpr hle)]

/-- What an accepted credential passed. -/
theorem authenticate_eq_ok {failing : Option StoreStatement} {worker credential : Text} :
    s.authenticate failing worker credential = .ok () ↔
      failing ≠ some .selectIdentity ∧ ∃ id : SafeId, id.toText = worker ∧
        (∃ text, vText (.string credential) "credential" 512 = .ok text) ∧
        ∃ row, s.identities.row? id = some row ∧ row.status = .active ∧
          hashSecret credential = .ok row.credentialHash := by
  unfold WorkerIdentityStore.authenticate
  cases hid : vSafeId (.string worker) "worker_id" with
  | error fault =>
    refine iff_of_false (by simp) ?_
    rintro ⟨-, id, rfl, -⟩
    simp [vSafeId, vStr] at hid
  | ok id =>
    have hworker := toText_of_vSafeId hid
    cases htext : vText (.string credential) "credential" 512 with
    | error fault => simp
    | ok text =>
      by_cases hfails : failing = some .selectIdentity
      · simp [hfails]
      have hunique : ∀ id' : SafeId, id'.toText = worker ↔ id' = id := fun id' =>
        ⟨fun h => SafeId.toText_injective (h.trans hworker.symm), fun h => h ▸ hworker⟩
      simp only [hunique, ne_eq, hfails, not_false_eq_true, true_and, exists_eq_left,
        Except.ok.injEq, exists_eq']
      cases hrow : s.identities.row? id with
      | none => simp
      | some row =>
        by_cases hactive : row.status = .active
        · cases hhash : hashSecret credential with
          | error e => simp [hactive]
          | ok hash =>
            by_cases hsame : hash = row.credentialHash <;> simp [hactive, hsame]
        · simp [hactive]

/-- **A credential is accepted exactly while it is the latest** of an identity that is not
    revoked. -/
theorem TablesRecorded.authenticate_iff (h : TablesRecorded secrets s log)
    (hcollision : Set.InjOn SecretHash.digest secrets) {failing : Option StoreStatement}
    {worker credential : Text} (hcredential : credential ∈ secrets) :
    s.authenticate failing worker credential = .ok () ↔ failing ≠ some .selectIdentity ∧
      latestCredential worker log = some credential ∧ .revoked worker ∉ log := by
  rw [authenticate_eq_ok]
  refine and_congr_right fun _ => ⟨?_, ?_⟩
  · rintro ⟨id, rfl, -, row, hrow, hactive, hhash⟩
    obtain ⟨latest, hsecret, hdigest, hlatest, hstatus⟩ := h.identities id row hrow
    have hsame : latest.text = credential := by
      apply hcollision hsecret hcredential
      rw [hdigest, digest_of_hashSecret hhash]
    rw [hlatest, hsame]
    exact ⟨rfl, hstatus.mp hactive⟩
  · rintro ⟨hlatest, hrevoked⟩
    -- An identity with a credential has a row.
    obtain ⟨id, hid, hrow⟩ : ∃ id : SafeId, id.toText = worker ∧ s.identities.row? id ≠ none := by
      by_contra hnone
      push Not at hnone
      rw [(h.unknown worker hnone).1] at hlatest
      cases hlatest
    obtain ⟨row, hrow⟩ := Option.ne_none_iff_exists'.mp hrow
    subst hid
    obtain ⟨latest, -, hdigest, hlatest', hstatus⟩ := h.identities id row hrow
    obtain rfl : latest.text = credential := Option.some.inj (hlatest'.symm.trans hlatest)
    refine ⟨id, rfl, vText_credential latest, row, hrow, hstatus.mpr hrevoked, ?_⟩
    rw [hashSecret_token, hdigest]

/-! ### Pairing codes -/

/-- A refusal finds the backlog full. -/
theorem refused_of_beginPairing {failing : Option StoreStatement} {now : Instant}
    {label : Option Text} {pairingCode : PairingToken} {message : String}
    (h : (s.beginPairing failing now label pairingCode).1 =
      .error (.identity .pairingUnavailable message)) :
    readsBacklog failing label = true ∧
      maxOutstandingPairingCodes ≤ (s.outstanding now).length := by
  unfold WorkerIdentityStore.beginPairing at h
  cases hlabel : checkedLabel label with
  | error fault =>
    simp only [hlabel] at h
    cases h
  | ok checked =>
    simp only [hlabel] at h
    by_cases hprune : failing = some .pruneCodes
    · rw [if_pos hprune] at h
      cases h
    by_cases hcount : failing = some .countCodes
    · rw [if_neg hprune, if_pos hcount] at h
      cases h
    refine ⟨by simp [readsBacklog, hprune, hcount, hlabel, Except.toBool], ?_⟩
    by_contra hfew
    have hfew' : ¬ maxOutstandingPairingCodes ≤ (s.pruneExpired now).unredeemed.length := hfew
    rw [if_neg hprune, if_neg hcount, if_neg hfew'] at h
    split_ifs at h
    all_goals cases h

/-- A full backlog is refused. -/
theorem refused_of_full {now : Instant} {pairingCode : PairingToken}
    (h : maxOutstandingPairingCodes ≤ (s.outstanding now).length) :
    (s.beginPairing none now none pairingCode).1 = .error (.identity .pairingUnavailable
      "the pairing-code backlog is full; revoke or wait for outstanding codes to expire") := by
  have hfull : maxOutstandingPairingCodes ≤ (s.pruneExpired now).unredeemed.length := h
  simp [WorkerIdentityStore.beginPairing, checkedLabel, hfull]

/-- The codes that can still be redeemed. -/
def WorkerIdentityStore.redeemable (s : WorkerIdentityStore) (now : Instant) :
    List PairingCodeRow :=
  s.pairingCodes.rows.filter fun row => row.redeemedBy.isNone && !row.expired now

omit [SecretHash] in
/-- A backlog without expired codes can all be redeemed. -/
theorem length_outstanding_le {now : Instant}
    (h : (s.outstanding now).all (!·.expired now) = true) :
    (s.outstanding now).length ≤ (s.redeemable now).length := by
  have hsub : (s.outstanding now).Sublist s.unredeemed :=
    List.Sublist.filter _ List.filter_sublist
  have hall : (s.outstanding now).filter (!·.expired now) = s.outstanding now :=
    List.filter_eq_self.mpr (List.all_eq_true.mp h)
  rw [← hall]
  refine (List.Sublist.filter _ hsub).length_le.trans (le_of_eq ?_)
  unfold WorkerIdentityStore.unredeemed WorkerIdentityStore.redeemable
  rw [List.filter_filter]
  congr 2
  funext row
  exact Bool.and_comm ..

/-- A refusal of a sound step is one of a backlog that can all be redeemed. -/
theorem redeemable_of_refused {failing : Option StoreStatement} {now : Instant}
    {label : Option Text} {pairingCode : PairingToken} {message : String}
    (hsound : s.sound (.beginPairing failing now label pairingCode) = true)
    (h : (s.beginPairing failing now label pairingCode).1 =
      .error (.identity .pairingUnavailable message)) :
    maxOutstandingPairingCodes ≤ (s.redeemable now).length := by
  obtain ⟨hreads, hfull⟩ := refused_of_beginPairing h
  simp only [WorkerIdentityStore.sound, hreads, Bool.not_true, Bool.false_or, Bool.or_eq_true,
    decide_eq_true_eq] at hsound
  rcases hsound with hfew | hlive
  · omega
  · exact hfull.trans (length_outstanding_le hlive)

/-- A code of the store is marked exactly if its identity exists. -/
theorem TablesRecorded.redeemed_iff (h : TablesRecorded secrets s log)
    (hcollision : Set.InjOn SecretHash.digest secrets) {code : Text} (hcode : code ∈ secrets)
    {row : PairingCodeRow} (hrow : s.pairingCodes.row? (SecretHash.digest code) = some row) :
    row.redeemedBy.isSome = true ↔
      ∃ identity ∈ s.identities.rows, codeYield code log = some identity.workerId.toText := by
  obtain ⟨code', hcode', hdigest, hyield⟩ := h.codes _ row hrow
  obtain rfl := hcollision hcode' hcode hdigest
  have hmarked : row.redeemedBy.isSome = (codeYield code' log).isSome := by
    rw [← hyield, Option.isSome_map]
  rw [hmarked]
  constructor
  · intro hsome
    obtain ⟨worker, hworker⟩ := Option.isSome_iff_exists.mp hsome
    obtain ⟨id, rfl, hknown⟩ := h.yielded code' worker hworker
    obtain ⟨identity, hidentity⟩ := Option.isSome_iff_exists.mp hknown
    obtain ⟨hmem, rfl⟩ := Table.row?_eq_some.mp hidentity
    exact ⟨identity, hmem, hworker⟩
  · rintro ⟨identity, -, hworker⟩
    rw [hworker]
    rfl

/-! ### Every run -/

/-- What the store keeps in step with its history. -/
structure IdentityLifecycle (secrets : Set Text) (s : WorkerIdentityStore)
    (log : List IdentityEvent) : Prop where
  once : YieldsOnce log
  redeemed_iff : ∀ code ∈ secrets, ∀ row,
    s.pairingCodes.row? (SecretHash.digest code) = some row →
      (row.redeemedBy.isSome = true ↔
        ∃ identity ∈ s.identities.rows, codeYield code log = some identity.workerId.toText)
  refused : ∀ failing now label pairingCode message,
    s.sound (.beginPairing failing now label pairingCode) = true →
      (s.beginPairing failing now label pairingCode).1 =
        .error (.identity .pairingUnavailable message) →
      maxOutstandingPairingCodes ≤ (s.redeemable now).length
  authenticate_iff : ∀ failing worker, ∀ credential ∈ secrets,
    (s.authenticate failing worker credential = .ok () ↔ failing ≠ some .selectIdentity ∧
      latestCredential worker log = some credential ∧ .revoked worker ∉ log)

/-- **In every run of sound steps** each code yields at most one identity and is marked redeemed
    exactly if that identity exists, `begin_pairing` is refused only for a full backlog of codes
    that can be redeemed, and a credential is accepted exactly while it is the latest of an identity
    that is not revoked. -/
theorem identities_recorded (hcollision : Set.InjOn SecretHash.digest secrets)
    (run : identityMachine.Run (WorkerIdentityStore.Permits secrets) { pairingCodeTtl := ttl }
      s log) : IdentityLifecycle secrets s log := by
  have hrecorded := tablesRecorded_of_run hcollision run
  constructor
  · exact hrecorded.once
  · intro code hcode row hrow
    exact hrecorded.redeemed_iff hcollision hcode hrow
  · intro failing now label pairingCode message hsound hrefused
    exact redeemable_of_refused hsound hrefused
  · intro failing worker credential hcredential
    exact hrecorded.authenticate_iff hcollision hcredential

end Runs

/-! ### Examples -/

/-- A hash that keeps the text. -/
@[reducible] def plainSecretHash : SecretHash :=
  ⟨fun t => String.ofList (t.map fun c => Char.ofNat c.val)⟩

/-- One character, repeated. -/
def repeatedToken (size : ℕ) (c : Char)
    (h : isUrlSafe (codePoint c) = true := by exact Eq.refl true) :
    UrlSafeToken size where
  text := List.replicate size (codePoint c)
  length_eq := List.length_replicate
  urlSafe := by simp [h]

/-- A code of one character, repeated. -/
def sampleCode (c : Char) (h : isUrlSafe (codePoint c) = true := by decide)
    (hdash : (repeatedToken 22 c h).text.head? ≠ some (codePoint '-') := by decide) :
    PairingToken where
  toUrlSafeToken := repeatedToken 22 c h
  noDash := hdash

/-- The secrets of the examples. -/
def sampleSecrets : List Text :=
  ["aaaaaaaaaaaaaaaaaaaaaa", "ccccccccccccccccccccccccccccccccccccccccccc",
    "ddddddddddddddddddddddddddddddddddddddddddd"]

/-- A device is paired, its credential rotated, and its identity revoked. -/
def devicePaired : List IdentityAction :=
  [.beginPairing none 0 (some "atlas") (sampleCode 'a'),
    .redeemPairingCode none (seconds 60) (sampleCode 'a').text (SafeId.lit "w-0a")
      (repeatedToken 43 'c'),
    .redeemPairingCode none (seconds 61) (sampleCode 'a').text (SafeId.lit "w-0b")
      (repeatedToken 43 'd'),
    .rotateCredential none (seconds 90) "w-0a" (repeatedToken 43 'd'),
    .revoke none "w-0a"]

theorem identities_recorded_device : let _ := plainSecretHash
    ∃ s, IdentityLifecycle { t | t ∈ sampleSecrets } s
      [.issuedCode (sampleCode 'a').text,
        .paired (sampleCode 'a').text "w-0a" (repeatedToken 43 'c').text,
        .rotated "w-0a" (repeatedToken 43 'd').text, .revoked "w-0a"] := by
  intro _
  obtain ⟨s, -, run⟩ := identityMachine.exists_run_of_exec
    (fun s action => s.sound action && action.secrets.all (· ∈ sampleSecrets)) {} devicePaired
    (show _ = some [.issuedCode (sampleCode 'a').text,
      .paired (sampleCode 'a').text "w-0a" (repeatedToken 43 'c').text,
      .rotated "w-0a" (repeatedToken 43 'd').text, .revoked "w-0a"] by decide +kernel)
  have hcollision : ∀ a ∈ sampleSecrets, ∀ b ∈ sampleSecrets,
      SecretHash.digest a = SecretHash.digest b → a = b := by decide +kernel
  refine ⟨s, identities_recorded (fun a ha b hb => hcollision a ha b hb)
    (run.mono fun s action h => ?_)⟩
  simpa [WorkerIdentityStore.Permits] using h

/-- Sixteen codes are issued at once. -/
def codesIssued : List IdentityAction :=
  [sampleCode 'a', sampleCode 'b', sampleCode 'c', sampleCode 'd', sampleCode 'e', sampleCode 'f',
    sampleCode 'g', sampleCode 'h', sampleCode 'i', sampleCode 'j', sampleCode 'k', sampleCode 'l',
    sampleCode 'm', sampleCode 'n', sampleCode 'o', sampleCode 'p'].map (.beginPairing none 0 none)

/-- The last statement of a redemption fails. -/
def redemptionCut : List IdentityAction :=
  [.beginPairing none 0 none (sampleCode 'a'),
    .redeemPairingCode (some .insertIdentity) 0 (sampleCode 'a').text (SafeId.lit "w-0a")
      (repeatedToken 43 'c')]

/-- A statement that fails after the claim leaves a redeemed code without its identity, and a
    backlog of expired codes refuses the next one. -/
theorem redeemed_without_identity : let _ := plainSecretHash
    (¬ ∀ s log, identityMachine.Run (fun _ _ => True) {} s log →
      ∀ row ∈ s.pairingCodes.rows, row.redeemedBy.isSome = true →
        ∃ identity ∈ s.identities.rows, row.redeemedBy = some (.worker identity.workerId)) ∧
    ¬ ∀ s log, identityMachine.Run (fun _ _ => True) {} s log →
      ∀ now label pairingCode message, (s.beginPairing none now label pairingCode).1 =
        .error (.identity .pairingUnavailable message) →
      maxOutstandingPairingCodes ≤ (s.redeemable now).length := by
  intro _
  constructor
  · intro h
    have hcut : (identityMachine.exec (fun _ _ => true) {} [] redemptionCut).map (fun r =>
        (r.1.pairingCodes.rows.map (·.redeemedBy), r.1.identities.rows)) =
        some ([some (.worker (SafeId.lit "w-0a"))], []) := by decide +kernel
    obtain ⟨⟨s, log⟩, hexec, hrows⟩ := Option.map_eq_some_iff.mp hcut
    obtain ⟨hmarked, hnone⟩ := Prod.mk.inj hrows
    obtain ⟨row, hrow, hredeemed⟩ := List.mem_map.mp (hmarked ▸ List.mem_cons_self)
    obtain ⟨identity, hidentity, -⟩ :=
      h s log ((Machine.run_of_exec .refl hexec).mono fun _ _ _ => trivial) row hrow
        (by rw [hredeemed]; rfl)
    dsimp only at hnone
    rw [hnone] at hidentity
    cases hidentity
  · intro h
    have hbacklog : (identityMachine.exec (fun _ _ => true) {} [] codesIssued).map (fun r =>
        ((r.1.outstanding (seconds 601)).length, (r.1.redeemable (seconds 601)).length)) =
        some (16, 0) := by decide +kernel
    obtain ⟨⟨s, log⟩, hexec, hlengths⟩ := Option.map_eq_some_iff.mp hbacklog
    obtain ⟨hfull, hnone⟩ := Prod.mk.inj hlengths
    have hkept := h s log ((Machine.run_of_exec .refl hexec).mono fun _ _ _ => trivial)
      (seconds 601) none (sampleCode 'q') _ (refused_of_full (le_of_eq hfull.symm))
    rw [hnone] at hkept
    exact absurd hkept (by decide)

end ScarcityRouter
