import ScarcityRouter.Worker.LocalStore

namespace ScarcityRouter.LocalStore

open ScarcityRouter.Lib ScarcityRouter.Lib.Stateful

/-!
# The records of the worker's local store

The two records stay sound over every run of the writers, whatever statement fails in it, as long
as no identity holds a newline and no generic value replaces the identity row.

* `decode_identityDocument` — the four lines are read back.
* `trustFromJson_document` — a trust document is read back with its origin.
* `leaves_transaction` — **a transaction that raises keeps nothing of what it wrote.**
* `Recorded` — the invariant of the rows; `leaves_call` — what each call leaves of it.
* `records_kept` — **the claim over runs**; `identity_unreadable` — a newline in a credential is
  enough to break it.
-/

/-! ### Lines -/

/-- **The four lines are read back**, unless one of them holds a newline. -/
theorem decode_identityDocument {identity : WorkerLocalIdentity} {document : Text}
    (h : identityDocument identity = .ok document) (hlines : identity.newlineFree = true) :
    decodeIdentityDocument document = .ok identity := by
  have hall := h
  obtain ⟨workerId, -, h⟩ := bind_eq_ok.mp h
  obtain ⟨credential, -, h⟩ := bind_eq_ok.mp h
  obtain ⟨serverOrigin, -, h⟩ := bind_eq_ok.mp h
  obtain ⟨label, hlabel, h⟩ := bind_eq_ok.mp h
  obtain rfl := Except.ok.inj h
  -- The label is written as its own line, and read back as the same label.
  have hread : label = identity.deviceLabel.getD [] ∧
      (if label = [] then none else some label) = identity.deviceLabel := by
    cases hgiven : identity.deviceLabel with
    | none =>
      rw [hgiven] at hlabel
      obtain rfl := Except.ok.inj hlabel
      simp
    | some given =>
      rw [hgiven] at hlabel
      obtain ⟨id, hid, hlabel⟩ := bind_eq_ok.mp hlabel
      obtain rfl := Except.ok.inj hlabel
      have hne : given ≠ [] := by
        rintro rfl
        cases hid
      simp [hne]
  obtain ⟨hline, hread⟩ := hread
  simp only [WorkerLocalIdentity.newlineFree, Bool.and_eq_true, Bool.not_eq_true',
    ← hline, List.contains_eq_mem, decide_eq_false_iff_not] at hlines
  obtain ⟨⟨⟨hworker, hcredential⟩, horigin⟩, hlabelLine⟩ := hlines
  have hsplit : ([newline].intercalate [identity.workerId, identity.credential,
      identity.serverOrigin, label]).splitOn newline =
      [identity.workerId, identity.credential, identity.serverOrigin, label] :=
    List.splitOn_intercalate newline (by simpa using ⟨hworker, hcredential, horigin, hlabelLine⟩)
      (by simp)
  unfold decodeIdentityDocument
  simp only [hsplit, hread, hall]

/-! ### Trust documents -/

/-- A text without surrogates holds no surrogate pair. -/
theorem unpaired_of_encodable {t : Text} (h : t.encodable = true) : unpaired t = true := by
  induction t with
  | nil => rfl
  | cons c t ih =>
    cases t with
    | nil => rfl
    | cons d t =>
      simp only [Text.encodable, List.all_cons, Bool.and_eq_true, Bool.not_eq_true'] at h
      have htail : unpaired (d :: t) = true := ih (by simp [Text.encodable, h.2.1, h.2.2])
      rw [unpaired, h.1.1, htail]
      rfl

/-- The text that reading gives back for a written one. -/
def reread (t : Text) : Text := joinSurrogates (t.flatMap codeUnits)

section Format

variable [FloatFormat]

/-- A quoted text is read as a string. -/
theorem parseValue_quoted (t : Text) (fuel : ℕ) (rest : List Char) :
    Json.parseValue (fuel + 1) (Json.quoted t ++ rest) = some (.string (reread t), rest) := by
  unfold Json.quoted
  rw [List.cons_append, List.append_assoc, Json.parseValue, if_pos rfl]
  change (scanString (escapes t ++ '"' :: rest) >>= _) = _
  rw [scanString_escapes]
  rfl

/-- One member with a blank after its colon. -/
theorem parseMembers_spaced {key : Text} (hkey : unpaired key = true) {value : Json}
    {written after : List Char} {fuel : ℕ}
    (hvalue : Json.parseValue fuel (Json.skipBlanks (' ' :: (written ++ after))) =
      some (value, after)) :
    Json.parseMembers (fuel + 1)
      (Json.quoted key ++ ':' :: ' ' :: (written ++ after)) =
      (match Json.skipBlanks after with
        | '}' :: rest => some ([(key, value)], rest)
        | ',' :: rest => do
          let (members, rest) ← Json.parseMembers fuel (Json.skipBlanks rest)
          some ((key, value) :: members, rest)
        | _ => none) := by
  simp only [Json.quoted, List.cons_append, List.append_assoc, List.nil_append,
    Json.parseMembers, scanString_escapes, Option.bind_eq_bind, Option.bind_some,
    joinSurrogates_codeUnits hkey, @Json.skipBlanks_of_head ':' _ (by decide), hvalue] <;> rfl

/-- The number one, before a comma. -/
theorem parseValue_one (fuel : ℕ) (rest : List Char) :
    Json.parseValue (fuel + 1) (Json.skipBlanks (' ' :: (['1'] ++ ',' :: rest))) =
      some (.int 1, ',' :: rest) :=
  rfl

omit [FloatFormat] in
/-- A quoted text starts with no blank. -/
theorem skipBlanks_quoted (t : Text) (rest : List Char) :
    Json.skipBlanks (Json.quoted t ++ rest) = Json.quoted t ++ rest :=
  Json.skipBlanks_of_head (by decide)

/-- The last member, whose value is a text. -/
theorem parseMembers_last {key : Text} (hkey : unpaired key = true) (t : Text)
    (rest : List Char) (fuel : ℕ) :
    Json.parseMembers (fuel + 2)
        (Json.quoted key ++ ':' :: ' ' :: (Json.quoted t ++ '}' :: rest)) =
      some ([(key, .string (reread t))], rest) := by
  rw [parseMembers_spaced hkey (parseValue_quoted t fuel ('}' :: rest)),
    Json.skipBlanks_of_head (by decide)]
  rfl

/-- A member that another one follows. -/
theorem parseMembers_next {key next : Text} (hkey : unpaired key = true) {value : Json}
    {written rest : List Char} {fuel : ℕ}
    (hvalue : ∀ after, Json.parseValue fuel (Json.skipBlanks (' ' :: (written ++ ',' :: after))) =
      some (value, ',' :: after)) :
    Json.parseMembers (fuel + 1) (Json.quoted key ++ ':' :: ' ' ::
        (written ++ ',' :: ' ' :: (Json.quoted next ++ rest))) =
      (Json.parseMembers fuel (Json.quoted next ++ rest)).map fun parsed =>
        ((key, value) :: parsed.1, parsed.2) := by
  rw [parseMembers_spaced hkey (hvalue _), Json.skipBlanks_of_head (by decide)]
  show (do
    let (members, rest) ← Json.parseMembers fuel (Json.skipBlanks (Json.quoted next ++ rest))
    some ((key, value) :: members, rest)) = _
  rw [skipBlanks_quoted]
  cases Json.parseMembers fuel (Json.quoted next ++ rest) <;> rfl

/-- A trust document is read as its three members. -/
theorem loads_trustDocument (trust : WorkerCaTrust) :
    Json.loads (trustDocument trust) = some (.object
      [(Text.ofString "ca_path", .string (reread trust.caPath)),
        (Text.ofString "schema_version", .int 1),
        (Text.ofString "server_origin", .string (reread trust.serverOrigin))]) := by
  obtain ⟨fuel, hfuel⟩ : ∃ fuel, 2 * (trustDocument trust).length = fuel + 5 :=
    ⟨2 * (trustDocument trust).length - 5, by
      have : 3 ≤ (trustDocument trust).length := by
        simp only [trustDocument, List.length_cons, List.length_append]
        omega
      omega⟩
  have hmembers : Json.parseMembers (fuel + 4) (Json.quoted (Text.ofString "ca_path") ++ ':' ::
      ' ' :: (Json.quoted trust.caPath ++ ',' :: ' ' ::
        (Json.quoted (Text.ofString "schema_version") ++ ':' :: ' ' :: (['1'] ++ ',' :: ' ' ::
          (Json.quoted (Text.ofString "server_origin") ++ ':' :: ' ' ::
            (Json.quoted trust.serverOrigin ++ ['}'])))))) = some
      ([(Text.ofString "ca_path", .string (reread trust.caPath)),
        (Text.ofString "schema_version", .int 1),
        (Text.ofString "server_origin", .string (reread trust.serverOrigin))], []) := by
    rw [parseMembers_next (by decide) fun after => parseValue_quoted trust.caPath (fuel + 2)
        (',' :: after),
      parseMembers_next (by decide) fun after => parseValue_one (fuel + 1) after,
      parseMembers_last (by decide)]
    rfl
  have hdocument : trustDocument trust = '{' :: (Json.quoted (Text.ofString "ca_path") ++ ':' ::
      ' ' :: (Json.quoted trust.caPath ++ ',' :: ' ' ::
        (Json.quoted (Text.ofString "schema_version") ++ ':' :: ' ' :: (['1'] ++ ',' :: ' ' ::
          (Json.quoted (Text.ofString "server_origin") ++ ':' :: ' ' ::
            (Json.quoted trust.serverOrigin ++ ['}'])))))) := by
    simp [trustDocument]
  have hvalue : Json.parseValue (fuel + 5) (trustDocument trust) = some (.object
      [(Text.ofString "ca_path", .string (reread trust.caPath)),
        (Text.ofString "schema_version", .int 1),
        (Text.ofString "server_origin", .string (reread trust.serverOrigin))], []) := by
    rw [hdocument, Json.parseValue, if_neg (by decide), if_pos rfl, skipBlanks_quoted]
    exact congrArg (fun parsed : Option (Record × List Char) => parsed.bind fun p =>
      if (p.1.map Prod.fst).Nodup then some (Json.object p.1, p.2) else none) hmembers
  have hhead : ¬ (trustDocument trust).head? = some '\uFEFF' := by
    rw [hdocument, List.head?_cons]
    simp
  have hskip : Json.skipBlanks (trustDocument trust) = trustDocument trust := by
    rw [hdocument]
    exact Json.skipBlanks_of_head (by decide)
  unfold Json.loads
  rw [if_neg hhead, hskip, hfuel, hvalue]
  rfl

omit [FloatFormat] in
/-- The fields of a trust document. -/
theorem trustFields_document (caPath serverOrigin : Text) :
    trustFields [(Text.ofString "ca_path", .string caPath), (Text.ofString "schema_version", .int 1),
        (Text.ofString "server_origin", .string serverOrigin)] =
      if serverOrigin = [] ∨ caPath = [] then
        refuse "the stored CA trust record is malformed"
      else .ok ⟨serverOrigin, caPath⟩ := by
  unfold trustFields
  rw [if_pos ⟨rfl, rfl⟩]
  rfl

/-- **A trust document is read back with its origin.** -/
theorem trustFromJson_document {host : TrustHost} {trust found : WorkerCaTrust}
    (horigin : trust.serverOrigin.encodable = true)
    (h : trustFromJson host ((trustDocument trust).map codePoint) = .ok found) :
    found.serverOrigin = trust.serverOrigin := by
  have hchars : ((trustDocument trust).map codePoint).map (fun c => Char.ofNat c.val) =
      trustDocument trust := by
    rw [List.map_map]
    refine (List.map_congr_left fun c _ => ?_).trans (List.map_id _)
    exact Char.ofNat_toNat c
  unfold trustFromJson at h
  split_ifs at h with hlong
  · cases h
  rw [hchars, loads_trustDocument] at h
  obtain ⟨read, hread, h⟩ := bind_eq_ok.mp h
  split_ifs at h with habs
  swap
  · cases h
  obtain ⟨-, -, h⟩ := bind_eq_ok.mp h
  obtain rfl := Except.ok.inj h
  rw [trustFields_document] at hread
  split_ifs at hread with hempty
  · cases hread
  obtain rfl := Except.ok.inj hread
  exact joinSurrogates_codeUnits (unpaired_of_encodable horigin)

end Format

/-! ### Rows -/

@[simp] theorem value?_upsert {rows : Rows} {key key' value : Text} {now : Instant} :
    value? (upsert key value now rows) key' = if key = key' then some value else value? rows key' := by
  unfold value? upsert
  rw [Table.row?_put]
  split_ifs <;> rfl

@[simp] theorem value?_erase {rows : Rows} {key key' : Text} :
    value? (rows.erase key) key' = if key = key' then none else value? rows key' := by
  unfold value?
  rw [Table.row?_erase]
  split_ifs <;> rfl

/-- **The rows are sound**: the identity row decodes to the identity that was saved last, and a
    trust record belongs to its origin. -/
structure Recorded (rows : Rows) (last : Option WorkerLocalIdentity) : Prop where
  identity : (value? rows identityKey).mapM decodeIdentityDocument = .ok last
  trust : ∀ raw, value? rows caTrustKey = some raw → ∃ trust identity,
    raw = (trustDocument trust).map codePoint ∧ last = some identity ∧
      trust.serverOrigin = identity.serverOrigin
  encodable : ∀ identity, last = some identity → identity.serverOrigin.encodable = true

theorem recorded_fresh (now : Instant) : Recorded (WorkerLocalStore.fresh now).rows none where
  identity := rfl
  trust raw hraw := by cases hraw
  encodable identity h := by cases h

/-! ### Transactions -/

/-- The store with the rows of an open transaction. -/
def WorkerLocalStore.within (s : WorkerLocalStore) (rows : Rows) : WorkerLocalStore :=
  { s with pending := some rows }

/-- In the open transaction, whose rows are as said. -/
def Within (s : WorkerLocalStore) (P : Rows → Prop) (t : WorkerLocalStore) : Prop :=
  ∃ rows, t = s.within rows ∧ P rows

/-- No transaction is open, and the rows are those of before. -/
def Undone (s t : WorkerLocalStore) : Prop := t.pending = none ∧ t.rows = s.rows

/-- No transaction is open, the connection is, and the rows are as said. -/
def Done (P : Rows → Prop) (t : WorkerLocalStore) : Prop :=
  t.pending = none ∧ t.closed = false ∧ P t.rows

section Statements

variable {fails : Statement → Bool} {s : WorkerLocalStore} {rows : Rows} {V : Rows → Prop}

/-- A statement is attempted on an open connection, or raises. -/
theorem leaves_attempt {E : Raised → WorkerLocalStore → Prop}
    {V : WorkerLocalStore → WorkerLocalStore → Prop} {statement : Statement}
    (hE : E .database s) (hV : s.closed = false → V s s) :
    Leaves E V (attempt fails statement) s := by
  unfold attempt
  simp only [leaves_bind, leaves_get, leaves_ite, leaves_throw, leaves_pure]
  exact ⟨fun _ => hE, fun h => hV (by simp_all)⟩

/-- Rolling back drops the transaction, and so does closing the connection. -/
theorem leaves_rollbackOrClose (hrows : s.rows = rows) (E : Raised → WorkerLocalStore → Prop) :
    Leaves E (fun _ t => t.pending = none ∧ t.rows = rows) (rollbackOrClose fails) s := by
  unfold rollbackOrClose
  simp only [leaves_bind, leaves_get, leaves_ite, leaves_set, leaves_pure]
  exact ⟨fun _ => ⟨fun _ => ⟨trivial, hrows⟩, fun _ => ⟨trivial, hrows⟩⟩,
    fun h => ⟨by simpa using h, hrows⟩⟩

/-- **The rule of transactions**: what the body leaves is kept if the transaction is committed, and
    nothing of it otherwise. -/
theorem leaves_transaction {body : Operation Unit} (hidle : s.pending = none)
    (hbody : s.closed = false → Leaves (fun _ => Within s fun _ => True) (fun _ => Within s V) body
      (s.within s.rows)) :
    Leaves (fun _ => Undone s) (fun _ => Done V) (transaction fails body) s := by
  have hundo : ∀ (e : Raised) (t : WorkerLocalStore), t.rows = s.rows →
      Leaves (fun _ => Undone s) (fun (_ : Unit) _ => False)
        (do rollbackOrClose fails; throw e) t := by
    intro e t ht
    rw [leaves_bind]
    exact (leaves_rollbackOrClose ht _).mono (fun _ _ h => h) fun _ _ h => h
  unfold transaction beginImmediate commit
  rw [leaves_bind, leaves_bind]
  refine leaves_attempt ⟨hidle, rfl⟩ fun hopen => ?_
  simp only [leaves_ite, leaves_throw, leaves_set]
  refine ⟨fun h => absurd h (by simp [hidle]), fun _ => ?_⟩
  rw [leaves_bind, leaves_tryCatch]
  refine (hbody hopen).mono (fun e t ht => ?_) fun _ t ht => ?_
  · obtain ⟨rows, rfl, -⟩ := ht
    exact (hundo e (s.within rows) rfl).mono (fun _ _ h => h) fun _ _ h => h.elim
  · obtain ⟨rows, rfl, hrows⟩ := ht
    rw [leaves_tryCatch, leaves_bind]
    refine leaves_attempt ?_ fun _ => ⟨rfl, hopen, hrows⟩
    exact (hundo .database (s.within rows) rfl).mono (fun _ _ h => h) fun _ _ h => h.elim

/-- A read of a statement. -/
theorem leaves_select {E : Raised → WorkerLocalStore → Prop}
    {V : Option Text → WorkerLocalStore → Prop} {statement : Statement} {key : Text}
    (hE : E .database s) (hV : V (value? s.view key) s) :
    Leaves E V (select fails statement key) s := by
  unfold select
  rw [leaves_bind]
  exact leaves_attempt hE fun _ => hV

/-- A write in a transaction. -/
theorem leaves_write {statement : Statement} {key value : Text} {now : Instant}
    (h : value.encodable = true → V (upsert key value now rows)) :
    Leaves (fun _ => Within s fun _ => True) (fun _ => Within s V)
      (write fails statement key value now) (s.within rows) := by
  unfold write
  simp only [leaves_ite, leaves_throw, leaves_bind]
  refine ⟨fun hencodable => leaves_attempt ⟨rows, rfl, trivial⟩ fun _ => ?_,
    fun _ => ⟨rows, rfl, trivial⟩⟩
  exact ⟨_, rfl, h hencodable⟩

/-- A deletion in a transaction. -/
theorem leaves_delete {statement : Statement} {key : Text} (h : V (rows.erase key)) :
    Leaves (fun _ => Within s fun _ => True) (fun _ => Within s V)
      (delete fails statement key) (s.within rows) := by
  unfold delete
  rw [leaves_bind]
  exact leaves_attempt ⟨rows, rfl, trivial⟩ fun _ => ⟨_, rfl, h⟩

/-! ### The operations -/

variable {last : Option WorkerLocalIdentity}

/-- The identity that is loaded is the one that was saved last. -/
theorem leaves_loadIdentity (h : Recorded s.view last) :
    Leaves (fun e t => e = .database ∧ t = s) (fun found t => found = last ∧ t = s)
      (loadIdentity fails) s := by
  have hidentity := h.identity
  unfold loadIdentity
  rw [leaves_bind]
  refine leaves_select ⟨rfl, rfl⟩ ?_
  cases hvalue : value? s.view identityKey with
  | none =>
    rw [hvalue] at hidentity
    exact ⟨Except.ok.inj hidentity, rfl⟩
  | some value =>
    rw [hvalue] at hidentity
    obtain ⟨identity, hdecode, hlast⟩ := bind_eq_ok.mp hidentity
    obtain rfl := Except.ok.inj hlast
    dsimp only
    rw [hdecode]
    exact ⟨rfl, rfl⟩

/-- Reading the previous origin finds the origin of the identity that was saved last. -/
theorem leaves_previousOrigin (h : Recorded s.view last) (allowCorruptPrevious : Bool) :
    Leaves (fun _ t => t = s) (fun found t => found = last.map (·.serverOrigin) ∧ t = s)
      (previousOrigin fails allowCorruptPrevious) s := by
  unfold previousOrigin storedIdentityOrigin
  rw [leaves_tryCatch, leaves_bind]
  refine (leaves_loadIdentity h).mono ?_ ?_
  · rintro _ _ ⟨rfl, rfl⟩
    exact rfl
  · rintro _ _ ⟨rfl, rfl⟩
    exact ⟨rfl, rfl⟩

/-- A trust record of an origin. -/
def IsTrustOf (serverOrigin raw : Text) : Prop :=
  ∃ trust : WorkerCaTrust, raw = (trustDocument trust).map codePoint ∧
    trust.serverOrigin = serverOrigin

/-- The rows after an identity was written, when what is left of trust records is its own. -/
theorem Recorded.saved {identity : WorkerLocalIdentity} {document : Text}
    (hdecode : decodeIdentityDocument document = .ok identity)
    (hencodable : identity.serverOrigin.encodable = true)
    (hidentity : value? rows identityKey = some document)
    (htrust : ∀ raw, value? rows caTrustKey = some raw → IsTrustOf identity.serverOrigin raw) :
    Recorded rows (some identity) where
  identity := by
    rw [hidentity]
    show some <$> decodeIdentityDocument document = _
    rw [hdecode]
    rfl
  trust raw hraw := by
    obtain ⟨trust, rfl, horigin⟩ := htrust raw hraw
    exact ⟨trust, identity, rfl, rfl, horigin⟩
  encodable found hfound := by
    obtain rfl := Option.some.inj hfound
    exact hencodable

/-- The transaction of `save_identity_with_ca`. -/
theorem leaves_saveIdentityBody {identity : WorkerLocalIdentity} {document : Text} {now : Instant}
    {caDocument : Option Text} {allowCorruptPrevious : Bool} (h : Recorded rows last)
    (hdecode : decodeIdentityDocument document = .ok identity)
    (hencodable : document.encodable = true → identity.serverOrigin.encodable = true)
    (hpaired : ∀ raw, caDocument = some raw → IsTrustOf identity.serverOrigin raw) :
    Leaves (fun _ => Within s fun _ => True) (fun _ => Within s (Recorded · (some identity)))
      (saveIdentityBody fails now identity.serverOrigin document caDocument allowCorruptPrevious)
      (s.within rows) := by
  unfold saveIdentityBody
  rw [leaves_bind]
  refine (leaves_previousOrigin (s := s.within rows) h allowCorruptPrevious).mono ?_ ?_
  · rintro _ _ rfl
    exact ⟨rows, rfl, trivial⟩
  rintro previous _ ⟨rfl, rfl⟩
  rw [leaves_bind]
  refine (leaves_write (V := fun written => document.encodable = true ∧
    written = upsert identityKey document now rows) fun hencoded => ⟨hencoded, rfl⟩).mono
      (fun _ _ h => h) ?_
  rintro _ _ ⟨_, rfl, hencoded, rfl⟩
  cases caDocument with
  | some raw =>
    refine leaves_write fun _ => ?_
    refine .saved hdecode (hencodable hencoded) (by simp [identityKey, caTrustKey]) ?_
    intro found hfound
    rw [value?_upsert, if_pos rfl] at hfound
    exact hpaired found hfound
  | none =>
    simp only [leaves_ite, leaves_pure]
    refine ⟨fun _ => leaves_delete
        (.saved hdecode (hencodable hencoded) (by simp [identityKey, caTrustKey]) ?_),
      fun hsame => ⟨_, rfl, .saved hdecode (hencodable hencoded) (by simp) ?_⟩⟩
    · intro found hfound
      rw [value?_erase, if_pos rfl] at hfound
      cases hfound
    · -- The trust record that stays belongs to the same origin.
      intro found hfound
      rw [value?_upsert, if_neg (by decide)] at hfound
      obtain ⟨trust, previous, rfl, rfl, horigin⟩ := h.trust found hfound
      have hsame : previous.serverOrigin = identity.serverOrigin :=
        Option.some.inj (not_not.mp hsame)
      exact ⟨trust, rfl, horigin.trans hsame⟩

/-- A trust document is one of its origin. -/
theorem isTrustOf_trustToJson {host : TrustHost} {trust : WorkerCaTrust} {raw : Text}
    (h : trustToJson host trust = .ok raw) : IsTrustOf trust.serverOrigin raw := by
  obtain ⟨-, -, h⟩ := bind_eq_ok.mp h
  dsimp only at h
  split_ifs at h
  · cases h
  · exact ⟨trust, (Except.ok.inj h).symm, rfl⟩

/-- The trust that is saved with an identity has its origin. -/
theorem isTrustOf_pairedTrust {host : TrustHost} {serverOrigin : Text}
    {caTrust : Option WorkerCaTrust} {caDocument : Option Text}
    (h : pairedTrust host serverOrigin caTrust = .ok caDocument) :
    ∀ raw, caDocument = some raw → IsTrustOf serverOrigin raw := by
  rintro raw rfl
  cases caTrust with
  | none => cases h
  | some trust =>
    unfold pairedTrust at h
    dsimp only at h
    split_ifs at h with horigin
    · cases h
    obtain ⟨document, hdocument, h⟩ := bind_eq_ok.mp h
    obtain rfl := Option.some.inj (Except.ok.inj h)
    rw [← not_not.mp horigin]
    exact isTrustOf_trustToJson hdocument

/-- The origin is one of the lines of the document. -/
theorem encodable_origin {identity : WorkerLocalIdentity} {document : Text}
    (h : identityDocument identity = .ok document) (hencodable : document.encodable = true) :
    identity.serverOrigin.encodable = true := by
  obtain ⟨-, -, h⟩ := bind_eq_ok.mp h
  obtain ⟨-, -, h⟩ := bind_eq_ok.mp h
  obtain ⟨-, -, h⟩ := bind_eq_ok.mp h
  obtain ⟨label, -, h⟩ := bind_eq_ok.mp h
  obtain rfl := Except.ok.inj h
  refine Text.encodable_of_subset hencodable fun c hc => ?_
  simp [List.intercalate, hc]

/-- A generic value has another key than the trust record. -/
theorem ne_caTrustKey {key value : Text} (h : checkedValue key value = .ok ()) :
    key ≠ caTrustKey := by
  obtain ⟨id, -, h⟩ := bind_eq_ok.mp h
  split_ifs at h with hschema htrust
  · cases h
  · cases h
  · exact htrust

/-! ### Calls -/

/-- What a call leaves: all as before if it raises, and sound rows in an open store otherwise. -/
def Keeps (s : WorkerLocalStore) (last : Option WorkerLocalIdentity) (call : Operation Unit) :
    Prop :=
  Leaves (fun _ => Undone s) (fun _ => Done (Recorded · last)) call s

/-- `save_identity_with_ca`, for an identity without newlines. -/
theorem keeps_saveIdentityWithCa {host : TrustHost} {now : Instant}
    {identity : WorkerLocalIdentity} {caTrust : Option WorkerCaTrust} {allowCorruptPrevious : Bool}
    (hidle : s.pending = none) (h : Recorded s.rows last)
    (hlines : accepts host identity caTrust = true → identity.newlineFree = true) :
    Keeps s (some identity)
      (saveIdentityWithCa fails host now identity caTrust allowCorruptPrevious) := by
  unfold Keeps saveIdentityWithCa
  rw [leaves_bind, leaves_raise]
  refine ⟨fun document hdocument => ?_, fun _ _ => ⟨hidle, rfl⟩⟩
  rw [leaves_bind, leaves_raise]
  refine ⟨fun caDocument hca => ?_, fun _ _ => ⟨hidle, rfl⟩⟩
  refine leaves_transaction hidle fun _ => ?_
  by_cases hencodable : document.encodable = true
  · have hfree := hlines (by simp only [accepts, hdocument, hca, hencodable])
    exact leaves_saveIdentityBody h (decode_identityDocument hdocument hfree)
      (encodable_origin hdocument) (isTrustOf_pairedTrust hca)
  · -- The identity row cannot be written.
    unfold saveIdentityBody
    rw [leaves_bind]
    refine (leaves_previousOrigin (s := s.within s.rows) h allowCorruptPrevious).mono ?_ ?_
    · rintro _ _ rfl
      exact ⟨s.rows, rfl, trivial⟩
    rintro previous _ ⟨-, rfl⟩
    rw [leaves_bind, write, if_neg hencodable]
    exact ⟨s.rows, rfl, trivial⟩

/-- `clear_identity`. -/
theorem keeps_clearIdentity (hidle : s.pending = none) :
    Keeps s none (clearIdentity fails) := by
  refine leaves_transaction hidle fun _ => ?_
  rw [leaves_bind]
  refine (leaves_delete (V := fun rows => rows = s.rows.erase identityKey) rfl).mono
    (fun _ _ h => h) ?_
  rintro _ _ ⟨_, rfl, rfl⟩
  refine leaves_delete ⟨?_, fun raw hraw => ?_, nofun⟩
  · rw [value?_erase, if_neg (by decide), value?_erase, if_pos rfl]
    rfl
  · rw [value?_erase, if_pos rfl] at hraw
    cases hraw

/-- The comparison with the expected identity changes nothing. -/
theorem leaves_checkExpected {expectedIdentity : Option WorkerLocalIdentity} :
    Leaves (fun _ t => t = s) (fun _ t => t = s) (checkExpected fails expectedIdentity) s := by
  cases expectedIdentity with
  | none => exact rfl
  | some identity =>
    unfold checkExpected
    rw [leaves_bind]
    refine leaves_select rfl ?_
    rw [leaves_bind, leaves_raise]
    refine ⟨fun expected _ => ?_, fun _ _ => rfl⟩
    rw [leaves_ite]
    exact ⟨fun _ => rfl, fun _ => rfl⟩

/-- `save_ca_trust`. -/
theorem keeps_saveCaTrust {host : TrustHost} {now : Instant} {trust : WorkerCaTrust}
    {expectedIdentity : Option WorkerLocalIdentity} (hidle : s.pending = none)
    (h : Recorded s.rows last) :
    Keeps s last (saveCaTrust fails host now trust expectedIdentity) := by
  unfold Keeps saveCaTrust
  rw [leaves_bind, leaves_raise]
  refine ⟨fun document hdocument => ?_, fun _ _ => ⟨hidle, rfl⟩⟩
  refine leaves_transaction hidle fun _ => ?_
  unfold saveCaTrustBody storedIdentityOrigin
  rw [leaves_bind, leaves_bind]
  refine (leaves_loadIdentity (s := s.within s.rows) h).mono ?_ ?_
  · rintro _ _ ⟨-, rfl⟩
    exact ⟨s.rows, rfl, trivial⟩
  rintro found _ ⟨rfl, rfl⟩
  rw [leaves_pure, leaves_ite]
  refine ⟨fun _ => ⟨s.rows, rfl, trivial⟩, fun hsame => ?_⟩
  rw [leaves_bind]
  refine leaves_checkExpected.mono ?_ ?_
  · rintro _ _ rfl
    exact ⟨s.rows, rfl, trivial⟩
  rintro _ _ rfl
  obtain ⟨identity, rfl, horigin⟩ := Option.map_eq_some_iff.mp (not_not.mp hsame)
  refine leaves_write fun _ => ⟨?_, fun raw hraw => ?_, h.encodable⟩
  · rw [value?_upsert, if_neg (by decide)]
    exact h.identity
  · rw [value?_upsert, if_pos rfl] at hraw
    obtain rfl := Option.some.inj hraw
    obtain ⟨trust', rfl, htrust⟩ := isTrustOf_trustToJson hdocument
    exact ⟨trust', identity, rfl, rfl, htrust.trans horigin.symm⟩

/-- `save_value`, which does not replace the identity row. -/
theorem keeps_saveValue {now : Instant} {key value : Text} (hidle : s.pending = none)
    (h : Recorded s.rows last)
    (hkey : acceptsValue key value = true → key = identityKey →
      value? s.rows identityKey = some value) :
    Keeps s last (saveValue fails now key value) := by
  unfold Keeps saveValue
  rw [leaves_bind, leaves_raise]
  refine ⟨fun _ hchecked => ?_, fun _ _ => ⟨hidle, rfl⟩⟩
  unfold write
  simp only [leaves_ite, leaves_throw, leaves_bind]
  refine ⟨fun hencodable => leaves_attempt ⟨hidle, rfl⟩ fun hopen => ?_, fun _ => ⟨hidle, rfl⟩⟩
  have hview : s.view = s.rows := by rw [WorkerLocalStore.view, hidle, Option.getD_none]
  have hput : ∀ rows, s.put rows = { s with rows } := by
    intro rows
    rw [WorkerLocalStore.put, hidle]
  rw [leaves_set, hview, hput]
  refine ⟨hidle, hopen, ?_, ?_, h.encodable⟩
  · show (value? (upsert key value now s.rows) identityKey).mapM _ = _
    rw [value?_upsert]
    split_ifs with hidentity
    · rw [← hkey (by rw [acceptsValue, hchecked, hencodable]; rfl) hidentity]
      exact h.identity
    · exact h.identity
  · show ∀ raw, value? (upsert key value now s.rows) caTrustKey = some raw → _
    intro raw hraw
    rw [value?_upsert, if_neg (ne_caTrustKey hchecked)] at hraw
    exact h.trust raw hraw

end Statements

/-- **What a sound call leaves.** -/
theorem keeps_call {s : WorkerLocalStore} {log : List (Option WorkerLocalIdentity)}
    {action : Action} (hidle : s.pending = none) (h : Recorded s.rows (lastIdentity log))
    (hsound : s.sound action = true) :
    Keeps s (lastIdentity (log ++ action.identities)) action.call := by
  have hlast : ∀ identity, lastIdentity (log ++ [identity]) = identity := by
    intro identity
    rw [lastIdentity, List.getLast?_concat]
    rfl
  cases action with
  | saveIdentity fails host now identity =>
    rw [Action.identities, hlast]
    refine keeps_saveIdentityWithCa hidle h fun haccepts => ?_
    simpa [WorkerLocalStore.sound, haccepts] using hsound
  | saveIdentityWithCa fails host now identity caTrust allowCorruptPrevious =>
    rw [Action.identities, hlast]
    refine keeps_saveIdentityWithCa hidle h fun haccepts => ?_
    simpa [WorkerLocalStore.sound, haccepts] using hsound
  | clearIdentity fails =>
    rw [Action.identities, hlast]
    exact keeps_clearIdentity hidle
  | saveCaTrust fails host now trust expectedIdentity =>
    rw [Action.identities, List.append_nil]
    exact keeps_saveCaTrust hidle h
  | saveValue fails now key value =>
    rw [Action.identities, List.append_nil]
    refine keeps_saveValue hidle h fun haccepts hkey => ?_
    subst hkey
    simpa [WorkerLocalStore.sound, haccepts] using hsound

/-! ### Runs -/

/-- In a state that was reached: a call that returns leaves the identity that was saved last, a
    trust record belongs to the stored identity, and a call that raises changes neither record. -/
structure RecordsSound [FloatFormat] (allowed : WorkerLocalStore → Action → Prop)
    (s : WorkerLocalStore) (log : List (Option WorkerLocalIdentity)) : Prop where
  loaded : ∀ action s', allowed s action → action.call.result s = (.ok (), s') →
    (loadIdentity fun _ => false).result s' =
      (.ok (lastIdentity (log ++ action.identities)), s')
  origin : ∀ raw, value? s.rows caTrustKey = some raw → ∃ identity,
    (value? s.rows identityKey).mapM decodeIdentityDocument = .ok (some identity) ∧
      ∀ host trust, trustFromJson host raw = .ok trust →
        trust.serverOrigin = identity.serverOrigin
  raised : ∀ action e s', allowed s action → action.call.result s = (.error e, s') →
    ∀ key ∈ [identityKey, caTrustKey], value? s'.rows key = value? s.rows key

/-- An open store whose rows are sound loads the identity that was saved last. -/
theorem loadIdentity_of_recorded {s : WorkerLocalStore} {last : Option WorkerLocalIdentity}
    (hopen : s.closed = false) (h : Recorded s.view last) :
    (loadIdentity fun _ => false).result s = (.ok last, s) := by
  have hselect : (select (fun _ => false) .selectIdentity identityKey).result s =
      (.ok (value? s.view identityKey), s) := by
    unfold select attempt
    rw [result_bind, result_bind, result_get]
    dsimp only
    rw [hopen]
    rfl
  have hidentity := h.identity
  unfold loadIdentity
  rw [result_bind, hselect]
  cases hvalue : value? s.view identityKey with
  | none =>
    rw [hvalue] at hidentity
    obtain rfl := Except.ok.inj hidentity
    rfl
  | some value =>
    rw [hvalue] at hidentity
    obtain ⟨identity, hdecode, hlast⟩ := bind_eq_ok.mp hidentity
    obtain rfl := Except.ok.inj hlast
    dsimp only
    rw [hdecode]
    rfl

/-- Sound rows under no open transaction. -/
def Consistent (s : WorkerLocalStore) (log : List (Option WorkerLocalIdentity)) : Prop :=
  s.pending = none ∧ Recorded s.rows (lastIdentity log)

/-- One sound call. -/
theorem consistent_step {s s' : WorkerLocalStore} {log events : List (Option WorkerLocalIdentity)}
    {action : Action} (h : Consistent s log) (hsound : s.sound action = true)
    (hstep : localStoreMachine.step s action = some (s', events)) :
    Consistent s' (log ++ events) := by
  obtain ⟨rfl, rfl⟩ := Prod.mk.inj (Option.some.inj hstep)
  have hkept := keeps_call h.1 h.2 hsound
  unfold Keeps Leaves at hkept
  rcases hresult : action.call.result s with ⟨e | _, t⟩
  · rw [hresult] at hkept
    refine ⟨hkept.1, ?_⟩
    rw [Action.logged, List.append_nil]
    show Recorded t.rows _
    rw [hkept.2]
    exact h.2
  · rw [hresult] at hkept
    exact ⟨hkept.1, hkept.2.2⟩

/-- **The two records stay sound** in every run whose calls keep newlines out of the identity and
    generic values off its row. -/
theorem records_kept [FloatFormat] (now : Instant) {s : WorkerLocalStore}
    {log : List (Option WorkerLocalIdentity)}
    (run : localStoreMachine.Run (fun s action => s.sound action = true) (.fresh now) s log) :
    RecordsSound (fun s action => s.sound action = true) s log := by
  have h : Consistent s log := by
    refine Machine.Run.invariant ⟨rfl, recorded_fresh now⟩ ?_ run
    intro s s' log events action _ h hsound hstep
    exact consistent_step h hsound hstep
  refine ⟨fun action s' hsound hcall => ?_, fun raw hraw => ?_, fun action e s' hsound hcall => ?_⟩
  · have hkept := keeps_call h.1 h.2 hsound
    unfold Keeps Leaves at hkept
    rw [hcall] at hkept
    refine loadIdentity_of_recorded hkept.2.1 ?_
    rw [WorkerLocalStore.view, hkept.1]
    exact hkept.2.2
  · obtain ⟨trust, identity, rfl, hlast, horigin⟩ := h.2.trust raw hraw
    refine ⟨identity, hlast ▸ h.2.identity, fun host found hfound => ?_⟩
    rw [← horigin]
    exact trustFromJson_document (by rw [horigin]; exact h.2.encodable identity hlast) hfound
  · have hkept := keeps_call h.1 h.2 hsound
    unfold Keeps Leaves at hkept
    rw [hcall] at hkept
    intro key _
    rw [hkept.2]

/-- A platform that knows one origin and one path. -/
private def oneOriginHost : TrustHost where
  isAbs path := path.head? = some (codePoint '/')
  normPath path := path
  canonical path := path = Text.ofString "/ca.pem"
  upper text := text.map fun c => if 0x61 ≤ c.val ∧ c.val ≤ 0x7A then c - 0x20 else c
  urlSplit url := if url = Text.ofString "srws://hub:8443" then
    some { scheme := Text.ofString "srws", hostname := some (Text.ofString "hub"),
           port := some 8443 } else none

/-- A paired identity. -/
private def hubIdentity : WorkerLocalIdentity where
  workerId := Text.ofString "w-1"
  credential := Text.ofString "c0"
  serverOrigin := Text.ofString "srws://hub:8443"

/-- A pairing with a trust record. -/
private def pairing : Action :=
  .saveIdentityWithCa (fun _ => false) oneOriginHost 0 hubIdentity
    (some ⟨Text.ofString "srws://hub:8443", Text.ofString "/ca.pem"⟩) true

/-- A pairing, and a credential whose write fails. -/
theorem records_kept_pairing : let _ := binaryFormat
    ∃ s, localStoreMachine.Run (fun s action => s.sound action = true) (.fresh 0) s
        [some hubIdentity] ∧
      (value? s.rows caTrustKey).isSome = true ∧
      RecordsSound (fun s action => s.sound action = true) s [some hubIdentity] := by
  intro _
  obtain ⟨s, hexec, run⟩ := localStoreMachine.exists_run_of_exec WorkerLocalStore.sound (.fresh 0)
    [pairing, .saveIdentity (· = .commit) oneOriginHost 0
      { hubIdentity with credential := Text.ofString "c1" }]
    (show _ = some [some hubIdentity] by decide +kernel)
  refine ⟨s, run, ?_, records_kept 0 run⟩
  have htrust : (localStoreMachine.exec WorkerLocalStore.sound (.fresh 0) []
      [pairing, .saveIdentity (· = .commit) oneOriginHost 0
        { hubIdentity with credential := Text.ofString "c1" }]).all
      (fun ended => (value? ended.1.rows caTrustKey).isSome) = true := by decide +kernel
  rw [hexec] at htrust
  exact htrust

/-- **A newline in a credential is saved, and the identity can no longer be loaded.** -/
theorem identity_unreadable : let _ := binaryFormat
    ¬ ∀ s log, localStoreMachine.Run (fun _ _ => True) (.fresh 0) s log →
      RecordsSound (fun _ _ => True) s log := by
  intro _ h
  have hsaved : ((Action.saveIdentity (fun _ => false) oneOriginHost 0
      { hubIdentity with credential := Text.ofString "c\n0" }).call.result (.fresh 0)).1.isOk =
      true := by decide +kernel
  have hload : ((loadIdentity fun _ => false).result ((Action.saveIdentity (fun _ => false)
      oneOriginHost 0 { hubIdentity with credential := Text.ofString "c\n0" }).call.result
        (.fresh 0)).2).1.isOk = false := by decide +kernel
  have hloaded := (h _ _ .refl).loaded (.saveIdentity (fun _ => false) oneOriginHost 0
    { hubIdentity with credential := Text.ofString "c\n0" })
  rcases hresult : (Action.saveIdentity (fun _ => false) oneOriginHost 0
      { hubIdentity with credential := Text.ofString "c\n0" }).call.result (.fresh 0) with ⟨_ | _, t⟩
  · rw [hresult] at hsaved
    cases hsaved
  · rw [hresult, hloaded t trivial hresult] at hload
    cases hload

end ScarcityRouter.LocalStore
