import ScarcityRouter.Lib.Machine
import ScarcityRouter.Lib.Table
import ScarcityRouter.Worker.Frames

namespace ScarcityRouter

open ScarcityRouter.Lib

/-!
# Retained decision evidence

`server_store.py`: the receipts of decisions, the cuts they rest on and the active cut, in one
database and under one bound.

* `EvidenceTables` — the four tables; `EvidenceStatement` — the statements of the operations, any
  one of which may fail.
* `replaceMiCut`, `retainMiReceipt` — the operations, each in one transaction.
* `EvidenceTables.Extends` — what is stored stays; `EvidenceKept` — the invariant: what is stored is
  within the bound, and every cut is under its own digest.
* `evidence_kept` — **both hold of every run, and what an operation raises is without effect.**
-/

/-! ### The tables -/

/-- `hashlib.sha256(data).hexdigest()`. -/
class DataDigest where
  hexdigest : Bytes → Text

/-- A row of `mi_retained_cuts`, or the one of `mi_active_cut`. -/
structure CutRow where
  digest : Text
  payload : Bytes
  deriving DecidableEq

/-- A row of `mi_decision_receipts`. -/
structure ReceiptRow where
  receiptId : Text
  payload : Bytes
  deriving DecidableEq

/-- The primary key of `mi_request_receipts`. -/
structure RequestIdentity where
  clientId : SafeId
  requestId : SafeId
  deriving DecidableEq

/-- A row of `mi_request_receipts`. -/
structure RequestReceiptRow extends RequestIdentity where
  receiptId : Text
  deriving DecidableEq

structure EvidenceTables where
  receipts : Table ReceiptRow.receiptId := {}
  cuts : Table CutRow.digest := {}
  active : Option CutRow := none
  links : Table RequestReceiptRow.toRequestIdentity := {}

/-- The statements of the operations. -/
inductive EvidenceStatement where
  | begin | selectActive | measure | measureActive | upsertActive | selectReceipt | selectCut
  | insertCut | insertReceipt | selectLink | countLinks | insertLink | commit
  deriving DecidableEq

/-- What leaves an operation. -/
inductive EvidenceException where
  /-- A `ServerStoreError`. -/
  | serverStore (message : String)
  /-- A `ValueError` of a validator. -/
  | valueError (fault : Fault)
  /-- What the validation of a cut against the one before it raises. -/
  | validation

/-- `_MI_RETAINED_BYTES`. -/
def miRetainedBytes : ℕ := 128 * 1024 * 1024

/-- The number of requests that may be linked. -/
def miRetainedRequests : ℕ := 100000

/-- Sixty-four hexadecimal digits in lower case. -/
def isDigest (text : Text) : Bool :=
  text.length = 64 && text.all fun c =>
    (0x30 ≤ c.val && c.val ≤ 0x39) || (0x61 ≤ c.val && c.val ≤ 0x66)

/-- The `except sqlite3.Error` of `replace_mi_cut`. -/
def cutUnavailable : EvidenceException := .serverStore "MI retained cut storage unavailable"

/-- The `except sqlite3.Error` of `retain_mi_receipt`. -/
def receiptUnavailable : EvidenceException := .serverStore "MI receipt storage unavailable"

def limitReached : EvidenceException := .serverStore "MI retained storage limit reached"

/-! ### Arguments -/

section Arguments

variable [DataDigest]

/-- The check of an optional cut and its digest. -/
def checkedCut : Option Text → Option Bytes → Except EvidenceException (Option CutRow)
  | none, none => .ok none
  | some cutId, some cut =>
    if isDigest cutId && cut.length ≤ miRetainedBytes && DataDigest.hexdigest cut = cutId then
      .ok (some ⟨cutId, cut⟩)
    else .error (.serverStore "invalid MI receipt")
  | _, _ => .error (.serverStore "invalid MI receipt")

/-- The check of an optional request and its client. -/
def checkedIdentity : Option Text → Option Text → Except EvidenceException (Option RequestIdentity)
  | none, none => .ok none
  | some requestId, some clientId =>
    match vSafeId (.string requestId) "mi_request_id", vSafeId (.string clientId) "mi_client_id" with
    | .error fault, _ | .ok _, .error fault => .error (.valueError fault)
    | .ok requestId, .ok clientId => .ok (some ⟨clientId, requestId⟩)
  | _, _ => .error (.serverStore "invalid MI request identity")

/-- A cut that is accepted is under its own digest. -/
theorem checkedCut_eq_ok {cutId : Option Text} {cut : Option Bytes} {row : Option CutRow}
    (h : checkedCut cutId cut = .ok row) :
    row = cut.map fun data => ⟨DataDigest.hexdigest data, data⟩ := by
  cases cutId with
  | none =>
    cases cut with
    | none => exact (Except.ok.inj h).symm
    | some data => cases h
  | some cutId =>
    cases cut with
    | none => cases h
    | some data =>
      unfold checkedCut at h
      dsimp only at h
      split_ifs at h with hvalid
      rw [Bool.and_eq_true, decide_eq_true_eq] at hvalid
      rw [← Except.ok.inj h, Option.map_some, hvalid.2]

omit [DataDigest] in
/-- The texts of an identity that is accepted. -/
theorem checkedIdentity_eq_ok {requestId clientId : Text} {row : Option RequestIdentity}
    (h : checkedIdentity (some requestId) (some clientId) = .ok row) :
    ∃ identity : RequestIdentity, row = some identity ∧ identity.requestId.toText = requestId ∧
      identity.clientId.toText = clientId := by
  unfold checkedIdentity at h
  dsimp only at h
  split at h
  · cases h
  · cases h
  · rename_i request client hrequest hclient
    exact ⟨⟨client, request⟩, (Except.ok.inj h).symm, toText_of_vSafeId hrequest,
      toText_of_vSafeId hclient⟩

end Arguments

/-! ### The operations -/

namespace EvidenceTables

variable (failing : Option EvidenceStatement) (tables : EvidenceTables)

/-- The bytes of the receipts and of the retained cuts. -/
def usedBytes : ℕ :=
  (tables.receipts.rows.map (·.payload.length)).sum + (tables.cuts.rows.map (·.payload.length)).sum

/-- The bytes of the active cut. -/
def activeBytes : ℕ := (tables.active.map (·.payload.length)).getD 0

/-- The end of a transaction: what raises is rolled back. -/
def settle : Except EvidenceException EvidenceTables → Except EvidenceException Unit × EvidenceTables
  | .ok changed => (.ok (), changed)
  | .error e => (.error e, tables)

/-- The transaction of `replace_mi_cut`. -/
def activate (candidate : CutRow) (validate : Option Bytes → Bool) :
    Except EvidenceException EvidenceTables :=
  if failing = some .begin ∨ failing = some .selectActive then .error cutUnavailable
  else if !validate (tables.active.map (·.payload)) then .error .validation
  else if failing = some .measure then .error cutUnavailable
  else if miRetainedBytes < tables.usedBytes + candidate.payload.length then .error limitReached
  else if failing = some .upsertActive ∨ failing = some .commit then .error cutUnavailable
  else .ok { tables with active := some candidate }

/-- `replace_mi_cut`; the callback, which reads no table, says whether it returns. -/
def replaceMiCut [DataDigest] (candidate : Bytes) (digest : Text)
    (validate : Option Bytes → Bool) : Except EvidenceException Unit × EvidenceTables :=
  if candidate.length ≤ miRetainedBytes && isDigest digest &&
      DataDigest.hexdigest candidate = digest then
    tables.settle (tables.activate failing ⟨digest, candidate⟩ validate)
  else (.error (.serverStore "MI retained cut exceeds storage bound"), tables)

/-- The retained cuts, with one more unless its digest is there. -/
def withCut : Option CutRow → Table CutRow.digest
  | none => tables.cuts
  | some cut =>
    if h : tables.cuts.row? cut.digest = none then tables.cuts.insert cut h else tables.cuts

/-- The row under the digest of a cut, if there is one. -/
def existingCut (cut : Option CutRow) : Option CutRow :=
  cut.bind fun cut => tables.cuts.row? cut.digest

/-- The bytes that a cut adds. -/
def newCutSize : Option CutRow → ℕ
  | none => 0
  | some cut => if (tables.cuts.row? cut.digest).isNone then cut.payload.length else 0

/-- The statements of `retain_mi_receipt` for a receipt that is not there. -/
def insertReceipt (receipt : ReceiptRow) (cut : Option CutRow)
    (h : tables.receipts.row? receipt.receiptId = none) :
    Except EvidenceException EvidenceTables :=
  if cut.isSome ∧ failing = some .selectCut then .error receiptUnavailable
  else if (tables.existingCut cut).any fun existing => some existing.payload ≠ cut.map (·.payload) then
    .error (.serverStore "MI cut identity conflict")
  else if failing = some .measure ∨ failing = some .measureActive then .error receiptUnavailable
  else if miRetainedBytes <
      tables.usedBytes + tables.activeBytes + receipt.payload.length + tables.newCutSize cut then
    .error limitReached
  else if cut.isSome ∧ (tables.existingCut cut).isNone ∧ failing = some .insertCut ∨
      failing = some .insertReceipt then
    .error receiptUnavailable
  else
    .ok { tables with
      cuts := tables.withCut cut
      receipts := tables.receipts.insert receipt h }

/-- The statements of `retain_mi_receipt` for a receipt that is there. -/
def compareReceipt (existing receipt : ReceiptRow) (cut : Option CutRow) :
    Except EvidenceException EvidenceTables :=
  if existing.payload ≠ receipt.payload then .error (.serverStore "MI receipt identity conflict")
  else
    match cut with
    | none => .ok tables
    | some cut =>
      if failing = some .selectCut then .error receiptUnavailable
      else if (tables.cuts.row? cut.digest).map (·.payload) ≠ some cut.payload then
        .error (.serverStore "MI retained cut missing or inconsistent")
      else .ok tables

/-- The statements of `retain_mi_receipt` on receipts and cuts. -/
def storeReceipt (receipt : ReceiptRow) (cut : Option CutRow) :
    Except EvidenceException EvidenceTables :=
  if failing = some .begin ∨ failing = some .selectReceipt then .error receiptUnavailable
  else
    match h : tables.receipts.row? receipt.receiptId with
    | some existing => tables.compareReceipt failing existing receipt cut
    | none => tables.insertReceipt failing receipt cut h

/-- The statements of `retain_mi_receipt` for a link that is not there. -/
def insertLink (link : RequestReceiptRow) (h : tables.links.row? link.toRequestIdentity = none) :
    Except EvidenceException EvidenceTables :=
  if failing = some .countLinks then .error receiptUnavailable
  else if miRetainedRequests ≤ tables.links.rows.length then
    .error (.serverStore "MI retained request limit reached")
  else if failing = some .insertLink then .error receiptUnavailable
  else .ok { tables with links := tables.links.insert link h }

/-- The statements of `retain_mi_receipt` on links. -/
def linkReceipt (receiptId : Text) : Option RequestIdentity →
    Except EvidenceException EvidenceTables
  | none => .ok tables
  | some identity =>
    if failing = some .selectLink then .error receiptUnavailable
    else
      match h : tables.links.row? identity with
      | some link =>
        if link.receiptId = receiptId then .ok tables
        else .error (.serverStore "MI request identity conflict")
      | none => tables.insertLink failing ⟨identity, receiptId⟩ h

/-- The transaction of `retain_mi_receipt`. -/
def retain (receipt : ReceiptRow) (cut : Option CutRow) (identity : Option RequestIdentity) :
    Except EvidenceException EvidenceTables := do
  let stored ← tables.storeReceipt failing receipt cut
  let linked ← stored.linkReceipt failing receipt.receiptId identity
  if failing = some .commit then .error receiptUnavailable else .ok linked

/-- `retain_mi_receipt`. -/
def retainMiReceipt [DataDigest] (receiptId : Text) (payload : Bytes) (cutId : Option Text)
    (cut : Option Bytes) (requestId clientId : Option Text) :
    Except EvidenceException Unit × EvidenceTables :=
  if isDigest receiptId && payload.length ≤ miRetainedBytes then
    match checkedCut cutId cut with
    | .error e => (.error e, tables)
    | .ok cut =>
      match checkedIdentity requestId clientId with
      | .error e => (.error e, tables)
      | .ok identity => tables.settle (tables.retain failing ⟨receiptId, payload⟩ cut identity)
  else (.error (.serverStore "invalid MI receipt"), tables)

end EvidenceTables

/-! ### What is stored stays -/

/-- What one set of tables stores is in the other, as it was. -/
structure EvidenceTables.Extends (tables tables' : EvidenceTables) : Prop where
  receipts : tables.receipts.rows <+: tables'.receipts.rows
  cuts : tables.cuts.rows <+: tables'.cuts.rows
  links : tables.links.rows <+: tables'.links.rows

/-- **The invariant.** -/
structure EvidenceKept [DataDigest] (tables : EvidenceTables) : Prop where
  bounded : tables.usedBytes + tables.activeBytes ≤ miRetainedBytes
  digests : ∀ cut ∈ tables.cuts.rows, cut.digest = DataDigest.hexdigest cut.payload

section Effects

variable {failing : Option EvidenceStatement} {tables tables' tables'' : EvidenceTables}
  {receipt : ReceiptRow} {cut : Option CutRow} {c : CutRow}

theorem EvidenceTables.Extends.refl : tables.Extends tables :=
  ⟨List.prefix_rfl, List.prefix_rfl, List.prefix_rfl⟩

theorem EvidenceTables.Extends.trans (h : tables.Extends tables') (h' : tables'.Extends tables'') :
    tables.Extends tables'' :=
  ⟨h.receipts.trans h'.receipts, h.cuts.trans h'.cuts, h.links.trans h'.links⟩

/-! #### Cuts -/

theorem EvidenceTables.prefix_withCut : tables.cuts.rows <+: (tables.withCut cut).rows := by
  cases cut with
  | none => exact List.prefix_rfl
  | some c =>
    unfold withCut
    dsimp only
    by_cases hfree : tables.cuts.row? c.digest = none
    · rw [dif_pos hfree]
      exact List.prefix_append _ _
    · exact ⟨[], by rw [dif_neg hfree, List.append_nil]⟩

/-- A new cut is retained with its bytes. -/
theorem EvidenceTables.bytes_withCut :
    ((tables.withCut cut).rows.map (·.payload.length)).sum =
      (tables.cuts.rows.map (·.payload.length)).sum + tables.newCutSize cut := by
  cases cut with
  | none => rfl
  | some c =>
    unfold withCut newCutSize
    dsimp only
    by_cases hfree : tables.cuts.row? c.digest = none
    · rw [dif_pos hfree, hfree, Table.rows_insert, List.map_append, List.sum_append]
      simp
    · rw [dif_neg hfree, if_neg (by simpa using hfree), Nat.add_zero]

/-- A cut that does not conflict is found. -/
theorem EvidenceTables.row?_withCut
    (hsame : (tables.existingCut (some c)).any (fun existing => some existing.payload ≠
      (some c).map (·.payload)) ≠ true) :
    (tables.withCut (some c)).row? c.digest = some c := by
  unfold withCut
  dsimp only
  by_cases hfree : tables.cuts.row? c.digest = none
  · rw [dif_pos hfree, Table.row?_insert, if_pos rfl]
  · rw [dif_neg hfree]
    obtain ⟨existing, hexisting⟩ := Option.ne_none_iff_exists'.mp hfree
    have hdigest := (Table.row?_eq_some.mp hexisting).2
    have hpayload : existing.payload = c.payload := by
      by_contra hne
      refine hsame ?_
      show (tables.cuts.row? c.digest).any _ = true
      rw [hexisting]
      exact decide_eq_true fun heq => hne (Option.some.inj heq)
    obtain ⟨digest, payload⟩ := existing
    obtain rfl : digest = c.digest := hdigest
    obtain rfl : payload = c.payload := hpayload
    exact hexisting

/-- The rows are the ones there were, and the new cut. -/
theorem EvidenceTables.mem_withCut {row : CutRow} (h : row ∈ (tables.withCut cut).rows) :
    row ∈ tables.cuts.rows ∨ cut = some row := by
  cases cut with
  | none => exact .inl h
  | some c =>
    unfold withCut at h
    dsimp only at h
    by_cases hfree : tables.cuts.row? c.digest = none
    · rw [dif_pos hfree, Table.rows_insert, List.mem_append, List.mem_singleton] at h
      exact h.imp id fun heq => congrArg some heq.symm
    · rw [dif_neg hfree] at h
      exact .inl h

/-! #### Receipts -/

/-- The receipt is stored, and its cut is retained. -/
structure ReceiptStored (receipt : ReceiptRow) (cut : Option CutRow)
    (tables tables' : EvidenceTables) : Prop where
  extend : tables.Extends tables'
  receipt_eq : tables'.receipts.row? receipt.receiptId = some receipt
  cut_eq : ∀ c, cut = some c → tables'.cuts.row? c.digest = some c
  cuts_of : ∀ row ∈ tables'.cuts.rows, row ∈ tables.cuts.rows ∨ cut = some row
  bounded : tables.usedBytes + tables.activeBytes ≤ miRetainedBytes →
    tables'.usedBytes + tables'.activeBytes ≤ miRetainedBytes

theorem EvidenceTables.insertReceipt_eq_ok
    {hfree : tables.receipts.row? receipt.receiptId = none}
    (h : tables.insertReceipt failing receipt cut hfree = .ok tables') :
    ReceiptStored receipt cut tables tables' := by
  unfold insertReceipt at h
  split_ifs at h with hselect hconflict hmeasure hlimit hinsert
  obtain rfl := Except.ok.inj h
  refine ⟨⟨List.prefix_append _ _, prefix_withCut, List.prefix_rfl⟩, ?_, ?_, ?_, ?_⟩
  · show (tables.receipts.insert receipt hfree).row? receipt.receiptId = some receipt
    rw [Table.row?_insert, if_pos rfl]
  · rintro c rfl
    exact row?_withCut hconflict
  · exact fun row hrow => mem_withCut hrow
  · intro _
    have hreceipts : ((tables.receipts.insert receipt hfree).rows.map (·.payload.length)).sum =
        (tables.receipts.rows.map (·.payload.length)).sum + receipt.payload.length := by
      rw [Table.rows_insert, List.map_append, List.sum_append]
      simp
    show ((tables.receipts.insert receipt hfree).rows.map (·.payload.length)).sum +
      ((tables.withCut cut).rows.map (·.payload.length)).sum + tables.activeBytes ≤ _
    rw [hreceipts, bytes_withCut]
    unfold usedBytes at hlimit
    omega

theorem EvidenceTables.compareReceipt_eq_ok {existing : ReceiptRow}
    (hexisting : tables.receipts.row? receipt.receiptId = some existing)
    (h : tables.compareReceipt failing existing receipt cut = .ok tables') :
    ReceiptStored receipt cut tables tables' := by
  unfold compareReceipt at h
  by_cases hpayload : existing.payload ≠ receipt.payload
  · rw [if_pos hpayload] at h
    cases h
  rw [if_neg hpayload] at h
  have hreceipt : existing = receipt := by
    have hid := (Table.row?_eq_some.mp hexisting).2
    obtain ⟨receiptId, payload⟩ := existing
    obtain rfl : receiptId = receipt.receiptId := hid
    obtain rfl : payload = receipt.payload := not_not.mp hpayload
    rfl
  rw [hreceipt] at hexisting
  cases cut with
  | none =>
    obtain rfl := Except.ok.inj h
    exact ⟨.refl, hexisting, nofun, fun _ hrow => .inl hrow, id⟩
  | some c =>
    dsimp only at h
    split_ifs at h with hselect hcut
    obtain rfl := Except.ok.inj h
    refine ⟨.refl, hexisting, ?_, fun _ hrow => .inl hrow, id⟩
    rintro _ ⟨⟩
    obtain ⟨row, hrow, hrowPayload⟩ := Option.map_eq_some_iff.mp (not_not.mp hcut)
    have hdigest := (Table.row?_eq_some.mp hrow).2
    obtain ⟨digest, payload⟩ := row
    obtain rfl : digest = c.digest := hdigest
    obtain rfl : payload = c.payload := hrowPayload
    exact hrow

theorem EvidenceTables.storeReceipt_eq_ok
    (h : tables.storeReceipt failing receipt cut = .ok tables') :
    ReceiptStored receipt cut tables tables' := by
  unfold storeReceipt at h
  split_ifs at h with hbegin
  split at h
  · rename_i existing hexisting
    exact compareReceipt_eq_ok hexisting h
  · exact insertReceipt_eq_ok h

/-! #### Links -/

/-- A link is stored, and nothing else. -/
theorem EvidenceTables.linkReceipt_eq_ok {receiptId : Text} {identity : Option RequestIdentity}
    (h : tables.linkReceipt failing receiptId identity = .ok tables') :
    (∃ links, tables.links.rows <+: links.rows ∧ tables' = { tables with links }) ∧
      ∀ i, identity = some i → tables'.links.row? i = some ⟨i, receiptId⟩ := by
  cases identity with
  | none =>
    obtain rfl := Except.ok.inj h
    exact ⟨⟨tables.links, List.prefix_rfl, rfl⟩, nofun⟩
  | some identity =>
    unfold linkReceipt at h
    dsimp only at h
    by_cases hselect : failing = some .selectLink
    · rw [if_pos hselect] at h
      cases h
    rw [if_neg hselect] at h
    split at h
    · rename_i link hlink
      split_ifs at h with hreceipt
      obtain rfl := Except.ok.inj h
      refine ⟨⟨tables.links, List.prefix_rfl, rfl⟩, ?_⟩
      rintro _ ⟨⟩
      have hidentity := (Table.row?_eq_some.mp hlink).2
      obtain ⟨linked, linkedReceipt⟩ := link
      obtain rfl : linked = identity := hidentity
      obtain rfl : linkedReceipt = receiptId := hreceipt
      exact hlink
    · rename_i hfree
      unfold insertLink at h
      split_ifs at h with hcount hlimit hinsert
      obtain rfl := Except.ok.inj h
      refine ⟨⟨_, List.prefix_append _ _, rfl⟩, ?_⟩
      rintro _ ⟨⟩
      show (tables.links.insert ⟨identity, receiptId⟩ hfree).row? identity = _
      rw [Table.row?_insert, if_pos rfl]

end Effects

/-! ### Runs -/

/-- A call of an operation with any arguments, and the statement of it that fails, if any. -/
inductive EvidenceAction where
  | replaceMiCut (failing : Option EvidenceStatement) (candidate : Bytes) (digest : Text)
      (validate : Option Bytes → Bool)
  | retainMiReceipt (failing : Option EvidenceStatement) (receiptId : Text) (payload : Bytes)
      (cutId : Option Text) (cut : Option Bytes) (requestId clientId : Option Text)

section Runs

variable [DataDigest]

/-- How a call ends, and the tables it leaves. -/
def EvidenceTables.call (tables : EvidenceTables) :
    EvidenceAction → Except EvidenceException Unit × EvidenceTables
  | .replaceMiCut failing candidate digest validate =>
    tables.replaceMiCut failing candidate digest validate
  | .retainMiReceipt failing receiptId payload cutId cut requestId clientId =>
    tables.retainMiReceipt failing receiptId payload cutId cut requestId clientId

/-- The calls one after another, each with how it ends. -/
def evidenceMachine : Machine EvidenceTables EvidenceAction (Except EvidenceException Unit) where
  step tables action := some ((tables.call action).2, [(tables.call action).1])

variable {failing : Option EvidenceStatement} {tables tables' : EvidenceTables}
  {action : EvidenceAction} {log log' : List (Except EvidenceException Unit)}

/-- Everything a call can do to the tables. -/
inductive EvidenceEffect (tables : EvidenceTables) :
    EvidenceAction → Except EvidenceException Unit → EvidenceTables → Prop
  | raised (action : EvidenceAction) (e : EvidenceException) :
      EvidenceEffect tables action (.error e) tables
  | activated (failing : Option EvidenceStatement) (candidate : Bytes) (digest : Text)
      (validate : Option Bytes → Bool)
      (hbound : tables.usedBytes + candidate.length ≤ miRetainedBytes) :
      EvidenceEffect tables (.replaceMiCut failing candidate digest validate) (.ok ())
        { tables with active := some ⟨digest, candidate⟩ }
  | retained (failing : Option EvidenceStatement) (receiptId : Text) (payload : Bytes)
      (cutId : Option Text) (cut : Option Bytes) (requestId clientId : Option Text)
      {row : Option CutRow} {identity : Option RequestIdentity} {stored tables' : EvidenceTables}
      (hcut : checkedCut cutId cut = .ok row)
      (hidentity : checkedIdentity requestId clientId = .ok identity)
      (hstored : ReceiptStored ⟨receiptId, payload⟩ row tables stored)
      (hlinks : ∃ links, stored.links.rows <+: links.rows ∧ tables' = { stored with links })
      (hlinked : ∀ i, identity = some i → tables'.links.row? i = some ⟨i, receiptId⟩) :
      EvidenceEffect tables
        (.retainMiReceipt failing receiptId payload cutId cut requestId clientId) (.ok ()) tables'

omit [DataDigest] in
/-- What a transaction ends with: its changes, or what it raised and no change. -/
theorem EvidenceTables.settle_cases (result : Except EvidenceException EvidenceTables) :
    (∃ e, tables.settle result = (.error e, tables)) ∨
      ∃ changed, result = .ok changed ∧ tables.settle result = (.ok (), changed) := by
  cases result with
  | error e => exact .inl ⟨e, rfl⟩
  | ok changed => exact .inr ⟨changed, rfl, rfl⟩

theorem EvidenceTables.effect_of_call :
    EvidenceEffect tables action (tables.call action).1 (tables.call action).2 := by
  cases action with
  | replaceMiCut failing candidate digest validate =>
    unfold call replaceMiCut
    dsimp only
    split_ifs with hvalid
    · rcases tables.settle_cases (tables.activate failing ⟨digest, candidate⟩ validate) with
        ⟨e, hsettle⟩ | ⟨changed, hchanged, hsettle⟩
      · rw [hsettle]
        exact .raised _ e
      · rw [hsettle]
        unfold activate at hchanged
        split_ifs at hchanged with hselect hvalidate hmeasure hlimit hupsert
        obtain rfl := Except.ok.inj hchanged
        exact .activated failing candidate digest validate (Nat.le_of_not_lt hlimit)
    · exact .raised _ _
  | retainMiReceipt failing receiptId payload cutId cut requestId clientId =>
    unfold call retainMiReceipt
    dsimp only
    split_ifs with hvalid
    · cases hcut : checkedCut cutId cut with
      | error e => exact .raised _ e
      | ok row =>
        dsimp only
        cases hidentity : checkedIdentity requestId clientId with
        | error e => exact .raised _ e
        | ok identity =>
          dsimp only
          rcases tables.settle_cases (tables.retain failing ⟨receiptId, payload⟩ row identity) with
            ⟨e, hsettle⟩ | ⟨changed, hchanged, hsettle⟩
          · rw [hsettle]
            exact .raised _ e
          · rw [hsettle]
            obtain ⟨stored, hstored, hchanged⟩ := bind_eq_ok.mp hchanged
            obtain ⟨linked, hlinked, hchanged⟩ := bind_eq_ok.mp hchanged
            split_ifs at hchanged with hcommit
            obtain rfl := Except.ok.inj hchanged
            obtain ⟨hlinks, hlink⟩ := linkReceipt_eq_ok hlinked
            exact .retained failing receiptId payload cutId cut requestId clientId hcut hidentity
              (storeReceipt_eq_ok hstored) hlinks hlink
    · exact .raised _ _

/-- **A call stores, and takes nothing back.** -/
theorem EvidenceEffect.extend {outcome : Except EvidenceException Unit}
    (h : EvidenceEffect tables action outcome tables') : tables.Extends tables' := by
  cases h with
  | raised => exact .refl
  | activated => exact ⟨List.prefix_rfl, List.prefix_rfl, List.prefix_rfl⟩
  | retained failing receiptId payload cutId cut requestId clientId hcut hidentity hstored hlinks =>
    obtain ⟨links, hfront, rfl⟩ := hlinks
    exact hstored.extend.trans ⟨List.prefix_rfl, List.prefix_rfl, hfront⟩

/-- **A call keeps the invariant.** -/
theorem EvidenceEffect.kept {outcome : Except EvidenceException Unit}
    (h : EvidenceEffect tables action outcome tables') (hkept : EvidenceKept tables) :
    EvidenceKept tables' := by
  cases h with
  | raised => exact hkept
  | activated failing candidate digest validate hbound => exact ⟨hbound, hkept.digests⟩
  | retained failing receiptId payload cutId cut requestId clientId hcut hidentity hstored hlinks =>
    obtain ⟨links, -, rfl⟩ := hlinks
    refine ⟨hstored.bounded hkept.bounded, ?_⟩
    intro row hrow
    rcases hstored.cuts_of row hrow with hold | hnew
    · exact hkept.digests row hold
    · rw [checkedCut_eq_ok hcut] at hnew
      obtain ⟨data, -, rfl⟩ := Option.map_eq_some_iff.mp hnew
      rfl

variable {allowed : EvidenceTables → EvidenceAction → Prop}

theorem evidenceKept_of_run (run : Machine.Run evidenceMachine allowed {} tables log) :
    EvidenceKept tables := by
  refine run.invariant (I := fun tables _ => EvidenceKept tables)
    ⟨by decide, fun _ hrow => by cases hrow⟩ ?_
  intro s s' log events action _ hkept _ hstep
  obtain ⟨rfl, -⟩ := Prod.mk.inj (Option.some.inj hstep)
  exact s.effect_of_call.kept hkept

/-- **A run takes nothing back.** -/
theorem evidenceExtends_of_run (run : Machine.Run evidenceMachine allowed tables tables' log) :
    tables.Extends tables' := by
  refine run.invariant (I := fun tables' _ => tables.Extends tables') .refl ?_
  intro s s' log events action _ hextends _ hstep
  obtain ⟨rfl, -⟩ := Prod.mk.inj (Option.some.inj hstep)
  exact hextends.trans s.effect_of_call.extend

/-- What the tables of a run guarantee, of now and of every run from them. -/
structure EvidenceSound (tables : EvidenceTables) : Prop extends EvidenceKept tables where
  /-- Receipts, retained cuts and links are never changed or removed. -/
  permanent : ∀ allowed tables' log, Machine.Run evidenceMachine allowed tables tables' log →
    tables.Extends tables'
  /-- A request is linked to one receipt for ever. -/
  linkedOnce : ∀ allowed tables' log identity link link',
    Machine.Run evidenceMachine allowed tables tables' log →
    tables.links.row? identity = some link → tables'.links.row? identity = some link' →
    link' = link
  /-- A receipt that was retained is stored with its cut and its link. -/
  stored : ∀ failing receiptId payload cutId cut requestId clientId tables',
    tables.retainMiReceipt failing receiptId payload cutId cut requestId clientId =
      (.ok (), tables') →
    tables'.receipts.row? receiptId = some ⟨receiptId, payload⟩ ∧
      (∀ data, cut = some data → tables'.cuts.row? (DataDigest.hexdigest data) =
        some ⟨DataDigest.hexdigest data, data⟩) ∧
      ∀ request client, requestId = some request → clientId = some client →
        ∃ identity : RequestIdentity, identity.requestId.toText = request ∧
          identity.clientId.toText = client ∧
          tables'.links.row? identity = some ⟨identity, receiptId⟩
  /-- What a call raises is without effect. -/
  atomic : ∀ action e, (tables.call action).1 = .error e → (tables.call action).2 = tables

/-- **Retained evidence.**  After every run of calls, with any arguments and failing at will, what
    is stored is within the bound, stays as it is in every run from there, and nothing is left of a
    call that raises. -/
theorem evidence_kept (run : Machine.Run evidenceMachine allowed {} tables log) :
    EvidenceSound tables := by
  refine ⟨evidenceKept_of_run run, fun _ _ _ run' => evidenceExtends_of_run run', ?_, ?_, ?_⟩
  · intro allowed tables' log identity link link' run' hlink hlink'
    have hsame := Table.row?_of_prefix (evidenceExtends_of_run run').links hlink
    rw [hsame] at hlink'
    exact (Option.some.inj hlink').symm
  · intro failing receiptId payload cutId cut requestId clientId tables' hcall
    have heffect : EvidenceEffect tables
        (.retainMiReceipt failing receiptId payload cutId cut requestId clientId) _ _ :=
      tables.effect_of_call
    have hends : tables.call (.retainMiReceipt failing receiptId payload cutId cut requestId
      clientId) = (.ok (), tables') := hcall
    rw [hends] at heffect
    cases heffect with
    | retained _ _ _ _ _ _ _ hcut hidentity hstored hlinks hlinked =>
      obtain ⟨links, -, rfl⟩ := hlinks
      refine ⟨hstored.receipt_eq, ?_, ?_⟩
      · rintro data rfl
        exact hstored.cut_eq ⟨_, data⟩ (checkedCut_eq_ok hcut)
      · rintro request client rfl rfl
        obtain ⟨identity, rfl, hrequest, hclient⟩ := checkedIdentity_eq_ok hidentity
        exact ⟨identity, hrequest, hclient, hlinked identity rfl⟩
  · intro action e hraised
    have heffect : EvidenceEffect tables action _ _ := tables.effect_of_call
    rw [hraised] at heffect
    generalize (tables.call action).2 = tables' at heffect
    cases heffect
    rfl

end Runs

/-- A digest that is right for the empty cut. -/
@[reducible] def emptyDigest : DataDigest :=
  ⟨fun _ => "e3b0c44298fc1c149afbf4c8996fb92427ae41e4649b934ca495991b7852b855"⟩

/-- A receipt with its cut, a second one for the same request, which is refused, and a new cut. -/
theorem evidence_kept_linked :
    let _ := emptyDigest
    let digest : Text := "e3b0c44298fc1c149afbf4c8996fb92427ae41e4649b934ca495991b7852b855"
    let first : Text := "1111111111111111111111111111111111111111111111111111111111111111"
    ∃ tables log, Machine.Run evidenceMachine (fun _ _ => True) {} tables log ∧
      tables.receipts.rows = [⟨first, [1, 2]⟩] ∧ tables.cuts.rows = [⟨digest, []⟩] ∧
      tables.active = some ⟨digest, []⟩ ∧
      tables.links.rows = [⟨⟨.lit "client-1", .lit "request-1"⟩, first⟩] ∧
      EvidenceSound tables := by
  intro instDigest digest first
  let second : Text := "2222222222222222222222222222222222222222222222222222222222222222"
  obtain ⟨⟨tables, log⟩, hexec, hstate⟩ := Option.map_eq_some_iff.mp
    (show (evidenceMachine.exec (fun _ _ => true) {} []
        [.retainMiReceipt none first [1, 2] (some digest) (some []) (some "request-1")
            (some "client-1"),
          .retainMiReceipt none second [3] none none (some "request-1") (some "client-1"),
          .replaceMiCut none [] digest fun _ => true]).map
        (fun r => (r.1.receipts.rows, r.1.cuts.rows, r.1.active, r.1.links.rows)) =
      some ([⟨first, [1, 2]⟩], [⟨digest, []⟩], some ⟨digest, []⟩,
        [⟨⟨.lit "client-1", .lit "request-1"⟩, first⟩]) by decide +kernel)
  have run : Machine.Run evidenceMachine (fun _ _ => True) {} tables log :=
    (Machine.run_of_exec .refl hexec).mono fun _ _ _ => trivial
  simp only [Prod.mk.injEq] at hstate
  exact ⟨tables, log, run, hstate.1, hstate.2.1, hstate.2.2.1, hstate.2.2.2, evidence_kept run⟩

end ScarcityRouter
