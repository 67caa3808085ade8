import ScarcityRouter.Providers.ZaiQuota
import ScarcityRouter.Worker.Frames

namespace ScarcityRouter.ZaiQuota

open ScarcityRouter.Lib

/-!
# The Z.ai quota acquisition

`zai_acquisition.py`: from the stored credential and one HTTP exchange to a capacity snapshot.

* `Decoder`, `Exchange` — the JSON decoder and the transport, with everything that they may raise.
* `readStoredCredential`, `collectZaiCapacity` — the acquisition, in which an exception that no
  handler names escapes.
* `Contained` — no such exception is raised.
* `zai_observation_total_iff` — **an observation ends in a snapshot exactly if it is contained.**
-/

/-! ### The environment -/

/-- What `json.loads` raises. -/
inductive DecodeFault where
  | jsonDecodeError
  /-- Another `ValueError`: an integer of too many digits, or a repeated key that a hook refuses. -/
  | valueError
  | recursionError
  deriving DecidableEq

/-- `json.loads`, as it is and with `_object_without_duplicate_keys`. -/
structure Decoder where
  loads : List Char → Except DecodeFault Json
  loadsUnique : List Char → Except DecodeFault Json

/-- How the one request ends. -/
inductive Exchange where
  /-- `HTTPError`: every status that is no success, redirects among them. -/
  | httpError (code : ℤ)
  /-- `HTTPException` while the response is established. -/
  | httpException
  /-- `OSError` while the response is established. -/
  | osError
  /-- Another exception of the opener: the `ValueError` of a redirect to a malformed location. -/
  | raised
  /-- `OSError` or `HTTPException` while the body is read. -/
  | bodyFailed
  | body (content : Bytes)

/-- What escapes. -/
inductive Escape where
  | decoder (fault : DecodeFault)
  | transport
  deriving DecidableEq

/-! ### Bounded reads -/

/-- `MAX_BODY_BYTES`. -/
def maxBodyBytes : ℕ := 64 * 1024

/-- `MAX_AUTH_FILE_BYTES`. -/
def maxAuthFileBytes : ℕ := 1024 * 1024

/-- `read(bound + 1)`, and nothing if that is more than the bound. -/
def readBounded (bound : ℕ) (content : Bytes) : Option Bytes :=
  let raw := content.take (bound + 1)
  if bound < raw.length then none else some raw

theorem readBounded_eq_some {bound : ℕ} {content raw : Bytes} :
    readBounded bound content = some raw ↔ raw = content ∧ content.length ≤ bound := by
  unfold readBounded
  simp only [List.length_take, ite_eq_iff, reduceCtorEq, and_false, false_or, Option.some.injEq]
  constructor
  · rintro ⟨hlength, rfl⟩
    have hle : content.length ≤ bound := by omega
    exact ⟨List.take_of_length_le (by omega), hle⟩
  · rintro ⟨rfl, hle⟩
    exact ⟨by omega, List.take_of_length_le (by omega)⟩

/-! ### The credential -/

/-- `_is_safe_authorization_value`. -/
def isSafeAuthorizationValue (value : Text) : Bool := value.all fun c => 0x20 ≤ c.val && c.val ≤ 0x7E

/-- The key of the exact provider entry of the auth document. -/
def storedKey (document : Json) : Option Text := do
  let document ← asMapping document
  let entry ← (document.get? "zai-coding-plan").bind asMapping
  guard ((entry.get? "type").any (Json.isOneOf ["api"]))
  match entry.get? "key" with
  | some (.string key) =>
    guard (key ≠ [])
    guard (isSafeAuthorizationValue key)
    return key
  | _ => none

/-- `_read_stored_credential`, of a file that may not be readable: a `ValueError` is caught. -/
def readStoredCredential (decoder : Decoder) (file : Option Bytes) :
    Except DecodeFault (Option Text) :=
  match (file.bind (readBounded maxAuthFileBytes)).bind decodeUtf8 with
  | none => .ok none
  | some text =>
    match decoder.loadsUnique text with
    | .ok document => .ok (storedKey document)
    | .error .recursionError => .error .recursionError
    | .error .jsonDecodeError | .error .valueError => .ok none

/-! ### The acquisition -/

/-- The part of `collect_zai_capacity` for a body that was read: only a `UnicodeDecodeError` and a
    `JSONDecodeError` are caught. -/
def decodeBody (decoder : Decoder) (body : Bytes) (retrievedAt : Timestamp) :
    Except Escape CapacitySnapshot :=
  match decodeUtf8 body with
  | none => .ok (failure .schemaChanged .schemaChanged retrievedAt)
  | some text =>
    match decoder.loads text with
    | .ok payload => .ok (parseZaiQuotaResponse payload retrievedAt)
    | .error .jsonDecodeError => .ok (failure .schemaChanged .schemaChanged retrievedAt)
    | .error fault => .error (.decoder fault)

/-- The part of `collect_zai_capacity` for the exchange. -/
def observeExchange (decoder : Decoder) (exchange : Exchange) (retrievedAt : Timestamp) :
    Except Escape CapacitySnapshot :=
  match exchange with
  | .httpError code =>
    if code = 401 then .ok (failure .authRequired .authRequired retrievedAt)
    else .ok (failure .unknown .telemetryUnknown retrievedAt)
  | .httpException | .osError | .bodyFailed =>
    .ok (failure .unavailable .sourceUnavailable retrievedAt)
  | .raised => .error .transport
  | .body content =>
    match readBounded maxBodyBytes content with
    | none => .ok (failure .unknown .telemetryUnknown retrievedAt)
    | some body => decodeBody decoder body retrievedAt

/-- `collect_zai_capacity`. -/
def collectZaiCapacity (decoder : Decoder) (file : Option Bytes) (transport : Text → Exchange)
    (retrievedAt : Timestamp) : Except Escape CapacitySnapshot :=
  match readStoredCredential decoder file with
  | .error fault => .error (.decoder fault)
  | .ok none => .ok (failure .authRequired .authRequired retrievedAt)
  | .ok (some credential) => observeExchange decoder (transport credential) retrievedAt

/-! ### What is contained -/

/-- The exchange raises nothing that is not caught: the opener nothing else, and the decoder nothing
    but a `JSONDecodeError` on a body within the bound. -/
structure ExchangeContained (decoder : Decoder) (exchange : Exchange) : Prop where
  opened : exchange ≠ .raised
  decoded : ∀ content, exchange = .body content → content.length ≤ maxBodyBytes →
    ∀ text ∈ decodeUtf8 content, ∀ fault, decoder.loads text = .error fault →
      fault = .jsonDecodeError

/-- Nothing is raised that is not caught, on the auth document or in the exchange. -/
structure Contained (decoder : Decoder) (file : Option Bytes) (transport : Text → Exchange) :
    Prop where
  auth : ∀ content ∈ file, content.length ≤ maxAuthFileBytes →
    ∀ text ∈ decodeUtf8 content, decoder.loadsUnique text ≠ .error .recursionError
  exchange : ∀ credential, readStoredCredential decoder file = .ok (some credential) →
    ExchangeContained decoder (transport credential)

/-- The snapshot of an observation. -/
structure ObservedAt (retrievedAt : Timestamp) (snapshot : CapacitySnapshot) : Prop where
  provider : snapshot.provider = provider
  source : snapshot.source = source
  retrievedAt : snapshot.retrievedAt = retrievedAt

variable {decoder : Decoder} {file : Option Bytes} {transport : Text → Exchange}
  {retrievedAt : Timestamp}

theorem observedAt_failure {status : HealthStatus} {code : DiagnosticCode}
    {h : status.requiredCode = some code} : ObservedAt retrievedAt (failure status code retrievedAt h) :=
  ⟨rfl, rfl, rfl⟩

theorem observedAt_parse (payload : Json) :
    ObservedAt retrievedAt (parseZaiQuotaResponse payload retrievedAt) := by
  unfold parseZaiQuotaResponse
  split
  · exact observedAt_failure
  · split_ifs
    · exact observedAt_failure
    · exact observedAt_failure
    · split
      · exact observedAt_failure
      · exact ⟨rfl, rfl, rfl⟩

/-- What is decoded of a content is that of a content within the bound. -/
theorem decode_of_bounded {bound : ℕ} {content : Bytes} {text : List Char} :
    (readBounded bound content).bind decodeUtf8 = some text ↔
      content.length ≤ bound ∧ decodeUtf8 content = some text := by
  rw [Option.bind_eq_some_iff]
  constructor
  · rintro ⟨raw, hraw, htext⟩
    obtain ⟨rfl, hle⟩ := readBounded_eq_some.mp hraw
    exact ⟨hle, htext⟩
  · rintro ⟨hle, htext⟩
    exact ⟨content, readBounded_eq_some.mpr ⟨rfl, hle⟩, htext⟩

/-- The auth document gives a credential, or none, exactly if the stack holds it. -/
theorem returns_readStoredCredential : Returns (readStoredCredential decoder file) ↔
    ∀ content ∈ file, content.length ≤ maxAuthFileBytes →
      ∀ text ∈ decodeUtf8 content, decoder.loadsUnique text ≠ .error .recursionError := by
  have htexts : (∀ content ∈ file, content.length ≤ maxAuthFileBytes →
      ∀ text ∈ decodeUtf8 content, decoder.loadsUnique text ≠ .error .recursionError) ↔
      ∀ text ∈ (file.bind (readBounded maxAuthFileBytes)).bind decodeUtf8,
        decoder.loadsUnique text ≠ .error .recursionError := by
    simp only [Option.mem_def, Option.bind_assoc, Option.bind_eq_some_iff (x := file),
      decode_of_bounded]
    exact ⟨fun h text ⟨content, hcontent, hle, htext⟩ => h content hcontent hle text htext,
      fun h content hcontent hle text htext => h text ⟨content, hcontent, hle, htext⟩⟩
  rw [htexts]
  unfold readStoredCredential
  cases (file.bind (readBounded maxAuthFileBytes)).bind decodeUtf8 with
  | none => simp
  | some text =>
    simp only [Option.mem_def, Option.some.injEq, forall_eq']
    cases decoder.loadsUnique text with
    | ok document => simp
    | error fault => cases fault <;> simp

/-- A body ends in a snapshot exactly if the decoder raises nothing but a `JSONDecodeError`. -/
theorem decodeBody_observed_iff {body : Bytes} :
    (∃ snapshot, decodeBody decoder body retrievedAt = .ok snapshot ∧
      ObservedAt retrievedAt snapshot) ↔
    ∀ text ∈ decodeUtf8 body, ∀ fault, decoder.loads text = .error fault →
      fault = .jsonDecodeError := by
  unfold decodeBody
  cases decodeUtf8 body with
  | none => simpa using observedAt_failure
  | some text =>
    simp only [Option.mem_def, Option.some.injEq, forall_eq']
    cases decoder.loads text with
    | ok payload => simpa using observedAt_parse payload
    | error fault =>
      cases fault with
      | jsonDecodeError => simpa using observedAt_failure
      | valueError => simp
      | recursionError => simp

/-- So does an exchange. -/
theorem observeExchange_observed_iff {exchange : Exchange} :
    (∃ snapshot, observeExchange decoder exchange retrievedAt = .ok snapshot ∧
      ObservedAt retrievedAt snapshot) ↔ ExchangeContained decoder exchange := by
  have hquiet : ∀ exchange' : Exchange, exchange' ≠ .raised → (∀ content, exchange' ≠ .body content) →
      ExchangeContained decoder exchange' := fun _ hraised hbody =>
    ⟨hraised, fun content h => absurd h (hbody content)⟩
  cases exchange with
  | httpError code =>
    refine iff_of_true ?_ (hquiet _ (by simp) (by simp))
    simp only [observeExchange]
    split_ifs <;> exact ⟨_, rfl, observedAt_failure⟩
  | httpException => exact iff_of_true ⟨_, rfl, observedAt_failure⟩ (hquiet _ (by simp) (by simp))
  | osError => exact iff_of_true ⟨_, rfl, observedAt_failure⟩ (hquiet _ (by simp) (by simp))
  | bodyFailed => exact iff_of_true ⟨_, rfl, observedAt_failure⟩ (hquiet _ (by simp) (by simp))
  | raised =>
    refine iff_of_false ?_ fun h => h.opened rfl
    rintro ⟨_, h, -⟩
    cases h
  | body content =>
    have hcontained : ExchangeContained decoder (.body content) ↔
        (content.length ≤ maxBodyBytes → ∀ text ∈ decodeUtf8 content, ∀ fault,
          decoder.loads text = .error fault → fault = .jsonDecodeError) :=
      ⟨fun h => h.decoded content rfl, fun h => ⟨by simp, fun _ heq => by
        cases heq
        exact h⟩⟩
    rw [hcontained]
    simp only [observeExchange]
    cases hread : readBounded maxBodyBytes content with
    | none =>
      have hlong : ¬content.length ≤ maxBodyBytes := fun hle => by
        rw [readBounded_eq_some.mpr ⟨rfl, hle⟩] at hread
        cases hread
      exact iff_of_true ⟨_, rfl, observedAt_failure⟩ fun hle => absurd hle hlong
    | some body =>
      obtain ⟨rfl, hle⟩ := readBounded_eq_some.mp hread
      rw [forall_prop_of_true hle]
      exact decodeBody_observed_iff

/-- An observation ends in a snapshot exactly if it is contained. -/
theorem collect_observed_iff :
    (∃ snapshot, collectZaiCapacity decoder file transport retrievedAt = .ok snapshot ∧
      ObservedAt retrievedAt snapshot) ↔ Contained decoder file transport := by
  have hcontained : Contained decoder file transport ↔
      Returns (readStoredCredential decoder file) ∧
        ∀ credential, readStoredCredential decoder file = .ok (some credential) →
          ExchangeContained decoder (transport credential) :=
    ⟨fun h => ⟨returns_readStoredCredential.mpr h.auth, h.exchange⟩,
      fun h => ⟨returns_readStoredCredential.mp h.1, h.2⟩⟩
  rw [hcontained]
  unfold collectZaiCapacity
  cases readStoredCredential decoder file with
  | error fault => simp
  | ok found =>
    cases found with
    | none => simpa using observedAt_failure
    | some credential =>
      simpa using observeExchange_observed_iff

/-- **An observation is total and faithful exactly if it is contained**: it ends in a snapshot, and
    every payload is reported faithfully. -/
theorem zai_observation_total_iff (decoder : Decoder) (file : Option Bytes)
    (transport : Text → Exchange) (retrievedAt : Timestamp) :
    ((∃ snapshot, collectZaiCapacity decoder file transport retrievedAt = .ok snapshot ∧
        ObservedAt retrievedAt snapshot) ∧
      ∀ payload, QuotaFaithful payload retrievedAt (parseZaiQuotaResponse payload retrievedAt)) ↔
    Contained decoder file transport := by
  rw [collect_observed_iff]
  exact and_iff_left fun payload => parseZaiQuotaResponse_faithful payload retrievedAt

/-! ### An integer of too many digits -/

/-- The decoder, of which an integer literal of more than 4300 digits is refused with a plain
    `ValueError`. -/
def digitLimited : Decoder where
  loads text :=
    if 4300 < text.length ∧ text.all Char.isDigit then .error .valueError
    else (@Json.loads binaryFormat text).elim (.error .jsonDecodeError) .ok
  loadsUnique text := (@Json.loads binaryFormat text).elim (.error .valueError) .ok

/-- The text of an auth document with a credential. -/
def authText : List Char := "\x7b\"zai-coding-plan\":\x7b\"type\":\"api\",\"key\":\"k\"\x7d\x7d".toList

/-- A body that is one integer of 5000 digits. -/
def longInteger : List Char := List.replicate 5000 '1'

/-- A text of ASCII within a bound is read back. -/
theorem decode_ascii {bound : ℕ} {text : List Char} (hascii : ∀ c ∈ text, c.toNat < 0x80)
    (hlength : text.length ≤ bound) :
    (readBounded bound (encodeUtf8 text)).bind decodeUtf8 = some text := by
  rw [decode_of_bounded, length_encodeUtf8 hascii]
  exact ⟨hlength, decodeUtf8_encodeUtf8 text⟩

/-- An integer of too many digits. -/
theorem loads_digits {text : List Char} (hlong : 4300 < text.length)
    (hdigits : ∀ c ∈ text, c.isDigit = true) : digitLimited.loads text = .error .valueError :=
  if_pos ⟨hlong, List.all_eq_true.mpr hdigits⟩

theorem readStoredCredential_authText :
    readStoredCredential digitLimited (some (encodeUtf8 authText)) =
      .ok (some (Text.ofString "k")) := by
  have hdocument : (digitLimited.loadsUnique authText).map storedKey =
      .ok (some (Text.ofString "k")) := by decide +kernel
  obtain ⟨document, hloads, hkey⟩ : ∃ document, digitLimited.loadsUnique authText = .ok document ∧
      storedKey document = some (Text.ofString "k") := by
    cases hloads : digitLimited.loadsUnique authText with
    | error fault => rw [hloads] at hdocument; cases hdocument
    | ok document =>
      rw [hloads] at hdocument
      exact ⟨document, rfl, Except.ok.inj hdocument⟩
  have hascii : authText.all (·.toNat < 0x80) = true := by decide +kernel
  unfold readStoredCredential
  rw [Option.bind_some, decode_ascii (fun c hc => of_decide_eq_true (List.all_eq_true.mp hascii c hc))
    (by decide +kernel)]
  simp only [hloads, hkey]

/-- **A received body within the bound takes the observation down**: its integer has too many
    digits. -/
theorem long_integer_escapes : ¬ ∀ (decoder : Decoder) (file : Option Bytes)
    (transport : Text → Exchange) (retrievedAt : Timestamp),
      ∃ snapshot, collectZaiCapacity decoder file transport retrievedAt = .ok snapshot := by
  intro h
  obtain ⟨snapshot, hsnapshot⟩ := h digitLimited (some (encodeUtf8 authText))
    (fun _ => .body (encodeUtf8 longInteger)) 0
  have hdigits : ∀ c ∈ longInteger, c = '1' := fun c hc => List.eq_of_mem_replicate hc
  have hlength : longInteger.length = 5000 := List.length_replicate
  have hread : (readBounded maxBodyBytes (encodeUtf8 longInteger)).bind decodeUtf8 =
      some longInteger := by
    refine decode_ascii (fun c hc => ?_) (by rw [hlength]; decide)
    rw [hdigits c hc]
    decide
  have hraise : digitLimited.loads longInteger = .error .valueError := by
    refine loads_digits (by rw [hlength]; decide) fun c hc => ?_
    rw [hdigits c hc]
    decide
  obtain ⟨body, hbody, hdecode⟩ := Option.bind_eq_some_iff.mp hread
  simp only [collectZaiCapacity, readStoredCredential_authText, observeExchange, hbody, decodeBody,
    hdecode, hraise] at hsnapshot
  cases hsnapshot

end ScarcityRouter.ZaiQuota
