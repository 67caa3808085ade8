import Mathlib.Algebra.GroupWithZero.Nat
import ScarcityRouter.Lib.Checked
import ScarcityRouter.Lib.Machine
import ScarcityRouter.Lib.RetainedLog
import ScarcityRouter.Lib.SortBy
import ScarcityRouter.Lib.Table
import ScarcityRouter.Lib.Text

namespace ScarcityRouter

open ScarcityRouter.Lib

/-!
# The producer journal

`server_store.py`: numbered events in one database, of which the newest are retained, and the epochs
that fence the writers of earlier processes.

* `ProducerTables` — the two tables; `ProducerStatement` — the statements of the operations, any one
  of which may fail.
* `startProducerEpoch`, `appendProducerEvent`, `readProducerEvents` — the operations, each in one
  transaction: what raises changes nothing.
* `Journal` — what was ever appended, and where the current epoch began; `Journal.reading` — what a
  reader of it is owed.
* `Represents` — the invariant: the tables hold the longest end of the journal that fits.
* `producer_journal` — **every read gives the run of events after its cursor or the reason why not,
  within the bounds and without a gap.**
-/

/-! ### Payloads -/

/-- The bytes of a code point in UTF-8. -/
def utf8Size (c : CodePoint) : ℕ :=
  if c.val < 0x80 then 1 else if c.val < 0x800 then 2 else if c.val < 0x10000 then 3 else 4

/-- `length(CAST(payload AS BLOB))`. -/
def byteSize (text : Text) : ℕ := (text.map utf8Size).sum

/-- A surrogate has no UTF-8 encoding. -/
def hasSurrogate (text : Text) : Bool := text.any fun c => isHigh c || isLow c

/-- `_PRODUCER_EVENT_LIMIT`. -/
def producerEventLimit : ℕ := 256

/-- `_PRODUCER_EVENT_BYTES`. -/
def producerEventBytes : ℕ := 16 * 1024 * 1024

/-- `_PRODUCER_RECORD_BYTES`. -/
def producerRecordBytes : ℕ := 4 * 1024 * 1024

/-- What leaves an operation of the store. -/
inductive StoreException where
  /-- A `ServerStoreError`. -/
  | serverStore (message : String)
  | unicodeEncode
  deriving DecidableEq

/-! ### The tables -/

/-- The row of `producer_stream`. -/
structure ProducerStream where
  epoch : Text
  sequence : ℕ
  epochStart : ℕ
  retentionFloor : ℕ
  deriving DecidableEq

/-- A row of `producer_events`. -/
structure ProducerEventRow where
  sequence : ℕ
  epoch : Text
  payload : Text
  deriving DecidableEq

structure ProducerTables where
  stream : Option ProducerStream := none
  events : Table ProducerEventRow.sequence := {}

/-- The statements of the operations. -/
inductive ProducerStatement where
  | begin | selectStream | upsertStream | insertEvent | updateSequence | measure | selectOldest
  | deleteOldest | updateFloor | selectEvents | commit
  deriving DecidableEq

/-- Why a reader has to start from a snapshot. -/
inductive ResyncReason where
  | epochMismatch | cursorBeforeEpoch | cursorFuture | cursorExpired | historyGap
  deriving DecidableEq

/-- `secrets.token_hex(16)`, and what a cursor may name. -/
def isEpoch (epoch : Text) : Bool :=
  epoch.length = 32 && epoch.all fun c =>
    (0x30 ≤ c.val && c.val ≤ 0x39) || (0x61 ≤ c.val && c.val ≤ 0x66)

/-- The `except sqlite3.Error` of the operations on events. -/
def producerUnavailable : StoreException := .serverStore "producer event storage unavailable"

namespace ProducerTables

variable (failing : Option ProducerStatement) (tables : ProducerTables)

/-! ### The operations -/

/-- `start_producer_epoch`, with the token it draws. -/
def startProducerEpoch (epoch : Text) : Except StoreException (Text × ℕ) × ProducerTables :=
  if failing = some .begin ∨ failing = some .selectStream ∨ failing = some .upsertStream ∨
      failing = some .commit then
    (.error (.serverStore "producer epoch storage unavailable"), tables)
  else
    match tables.stream with
    | none => (.ok (epoch, 0), { tables with stream := some ⟨epoch, 0, 0, 0⟩ })
    | some stream =>
      -- The floor stays where it is: only a new row takes it from the statement.
      (.ok (epoch, stream.sequence),
        { tables with stream := some { stream with epoch, epochStart := stream.sequence } })

/-- The condition under which the trimming loop is left. -/
def withinBounds : Bool :=
  tables.events.rows.length ≤ producerEventLimit &&
    (tables.events.rows.map fun row => byteSize row.payload).sum ≤ producerEventBytes

/-- `SELECT MIN(sequence)`. -/
def oldest : Option ℕ := (tables.events.rows.map (·.sequence)).min?

/-- Delete an event, and put the floor there. -/
def discard (sequence : ℕ) : ProducerTables where
  stream := tables.stream.map fun stream => { stream with retentionFloor := sequence }
  events := tables.events.delete (·.sequence == sequence)

/-- The trimming loop, for so many rounds; `none` where it has not ended. -/
def trim : ℕ → ProducerTables → Option (Except StoreException ProducerTables)
  | 0, _ => none
  | rounds + 1, tables =>
    if failing = some .measure then some (.error producerUnavailable)
    else if tables.withinBounds then some (.ok tables)
    else if failing = some .selectOldest then some (.error producerUnavailable)
    else
      match tables.oldest with
      -- The minimum of no rows is `NULL`, which the floor does not take.
      | none => some (.error producerUnavailable)
      | some discarded =>
        if failing = some .deleteOldest ∨ failing = some .updateFloor then
          some (.error producerUnavailable)
        else trim rounds (tables.discard discarded)

/-- `append_producer_event`; `none` where its loop does not end. -/
def appendProducerEvent (epoch payload : Text) :
    Option (Except StoreException ℕ × ProducerTables) :=
  if hasSurrogate payload then some (.error .unicodeEncode, tables)
  else if producerRecordBytes < byteSize payload then
    some (.error (.serverStore "producer event exceeds storage bound"), tables)
  else if failing = some .begin ∨ failing = some .selectStream then
    some (.error producerUnavailable, tables)
  else
    match tables.stream with
    | none => some (.error (.serverStore "producer epoch no longer current"), tables)
    | some stream =>
      if stream.epoch ≠ epoch then
        some (.error (.serverStore "producer epoch no longer current"), tables)
      else
        let row : ProducerEventRow := { sequence := stream.sequence + 1, epoch, payload }
        if failing = some .insertEvent ∨ failing = some .updateSequence then
          some (.error producerUnavailable, tables)
        -- The number is the primary key of the table.
        else if h : tables.events.row? row.sequence = none then
          let appended : ProducerTables :=
            { stream := some { stream with sequence := stream.sequence + 1 }
              events := tables.events.insert row h }
          match trim failing (appended.events.rows.length + 1) appended with
          | none => none
          | some (.error e) => some (.error e, tables)
          | some (.ok trimmed) =>
            if failing = some .commit then some (.error producerUnavailable, tables)
            else some (.ok (stream.sequence + 1), trimmed)
        else some (.error producerUnavailable, tables)

/-- The events that a reader selects. -/
def selected (epoch : Text) (after : ℕ) : List (ℕ × Text) :=
  (sortBy (·.sequence) (tables.events.rows.filter fun row =>
    row.epoch == epoch && after < row.sequence)).map fun row => (row.sequence, row.payload)

/-- The check of the selected events: one for every number, in order. -/
def contiguous (events : List (ℕ × Text)) (high after : ℕ) : Bool :=
  events.length = high - after && (events.zipIdx (after + 1)).all fun event => event.1.1 == event.2

/-- `read_producer_events`: the newest number, the events, and the reason for a new start. -/
def readProducerEvents (epoch : Text) (after : ℤ) (ownerEpoch : Option Text)
    (ownerSequence : Option ℕ) :
    Except StoreException (ℕ × List (ℕ × Text) × Option ResyncReason) :=
  if !isEpoch epoch || after < 0 then .error (.serverStore "invalid producer cursor")
  else if failing = some .begin ∨ failing = some .selectStream then .error producerUnavailable
  else
    let after := after.toNat
    match tables.stream with
    | none => .error (.serverStore "producer epoch unavailable")
    | some stream =>
      let high := stream.sequence
      if ownerEpoch.isSome ∧ (ownerEpoch ≠ some stream.epoch ∨ ownerSequence ≠ some high) then
        .error (.serverStore "producer position no longer current")
      else if stream.epoch ≠ epoch then
        if failing = some .commit then .error producerUnavailable
        else .ok (high, [], some .epochMismatch)
      else if after < stream.epochStart ∨ high < after then
        if failing = some .commit then .error producerUnavailable
        else .ok (high, [],
          some (if after < stream.epochStart then .cursorBeforeEpoch else .cursorFuture))
      else if after < stream.retentionFloor then
        if failing = some .commit then .error producerUnavailable
        else .ok (high, [], some .cursorExpired)
      else if failing = some .selectEvents ∨ failing = some .commit then .error producerUnavailable
      else
        let events := tables.selected epoch after
        if contiguous events high after then .ok (high, events, none)
        else .ok (high, [], some .historyGap)

end ProducerTables

/-! ### The journal -/

/-- What was appended under which epoch, and where the current epoch began: every later event is its
    own. -/
structure Journal where
  epoch : Text
  start : ℕ
  history : List (Text × Text)
  start_le : start ≤ history.length
  ofEpoch : ∀ event ∈ history.drop start, event.1 = epoch

/-- The events of a reading, as the store returns them. -/
def numberedEvents (after : ℕ) (events : List (Text × Text)) : List (ℕ × Text) :=
  (numberedAfter after events).map fun event => (event.2, event.1.2)

namespace Journal

/-- A new epoch begins after everything there is. -/
def begin (epoch : Text) : Option Journal → Journal
  | none => ⟨epoch, 0, [], le_rfl, nofun⟩
  | some journal =>
    ⟨epoch, journal.history.length, journal.history, le_rfl, by
      rw [List.drop_length]
      exact nofun⟩

variable (journal : Journal)

/-- An event of the current epoch. -/
def append (payload : Text) : Journal where
  epoch := journal.epoch
  start := journal.start
  history := journal.history ++ [(journal.epoch, payload)]
  start_le := journal.start_le.trans (by simp)
  ofEpoch := by
    intro event hevent
    rw [List.drop_append_of_le_length journal.start_le] at hevent
    rcases List.mem_append.mp hevent with hold | hnew
    · exact journal.ofEpoch event hold
    · rw [List.mem_singleton.mp hnew]

/-- The end of a history fits the bounds of the store. -/
def fits (events : List (Text × Text)) : Bool :=
  events.length ≤ producerEventLimit &&
    (events.map fun event => byteSize event.2).sum ≤ producerEventBytes

/-- The longest end of the history that fits. -/
def retained : RetainedLog (Text × Text) := RetainedLog.longest fits journal.history

/-- The reason why a cursor finds no run of events. -/
def resync (epoch : Text) (after : ℕ) : Option ResyncReason :=
  if journal.epoch ≠ epoch then some .epochMismatch
  else if after < journal.start then some .cursorBeforeEpoch
  else if journal.history.length < after then some .cursorFuture
  else if after < journal.retained.floor then some .cursorExpired
  else none

/-- **What a reader is owed**: the newest number, and the events after its cursor under the numbers
    that follow it, or the reason why not. -/
def reading (epoch : Text) (after : ℕ) : ℕ × List (ℕ × Text) × Option ResyncReason :=
  match journal.resync epoch after with
  | some reason => (journal.history.length, [], some reason)
  | none =>
    (journal.history.length, numberedEvents after (journal.history.drop after), none)

variable {journal} {epoch : Text} {after : ℕ}

theorem reading_of_resync {reason : ResyncReason} (h : journal.resync epoch after = some reason) :
    journal.reading epoch after = (journal.history.length, [], some reason) := by
  unfold reading
  rw [h]

theorem reading_of_none (h : journal.resync epoch after = none) :
    journal.reading epoch after =
      (journal.history.length, numberedEvents after (journal.history.drop after), none) := by
  unfold reading
  rw [h]

/-- No reading is refused for a gap. -/
theorem reading_ne_historyGap : (journal.reading epoch after).2.2 ≠ some .historyGap := by
  cases h : journal.resync epoch after with
  | none =>
    rw [reading_of_none h]
    exact nofun
  | some reason =>
    rw [reading_of_resync h]
    unfold resync at h
    split_ifs at h <;> cases h <;> exact nofun

end Journal

/-! ### Retention -/

/-- An event as a row, under its number. -/
def eventRow (event : (Text × Text) × ℕ) : ProducerEventRow := ⟨event.2, event.1.1, event.1.2⟩

/-- The tables hold a stream, down to its floor, and the events of a log. -/
structure Holds (stream : ProducerStream) (log : RetainedLog (Text × Text))
    (tables : ProducerTables) : Prop where
  stream_eq : tables.stream = some { stream with retentionFloor := log.floor }
  rows_eq : tables.events.rows = log.numbered.map eventRow

section Trimming

variable {stream : ProducerStream} {log : RetainedLog (Text × Text)} {tables : ProducerTables}

/-- The bounds are those of the events. -/
theorem Holds.withinBounds_eq (h : Holds stream log tables) :
    tables.withinBounds = Journal.fits log.entries := by
  have hpayloads : tables.events.rows.map (fun row => byteSize row.payload) =
      log.entries.map fun event => byteSize event.2 := by
    rw [h.rows_eq, List.map_map]
    show (numberedAfter log.floor log.entries).map ((fun event => byteSize event.2) ∘ Prod.fst) = _
    rw [← List.map_map, map_fst_numberedAfter]
  have hlength : tables.events.rows.length = log.entries.length := by
    rw [h.rows_eq, List.length_map]
    exact length_numberedAfter
  unfold ProducerTables.withinBounds Journal.fits
  rw [hpayloads, hlength]

/-- The oldest event is the first, and without it the tables hold the rest. -/
theorem Holds.discard {event : Text × Text} {rest : List (Text × Text)} {n : ℕ}
    (h : Holds stream ⟨n, event :: rest⟩ tables) :
    tables.oldest = some (n + 1) ∧ Holds stream ⟨n + 1, rest⟩ (tables.discard (n + 1)) := by
  have hrows : tables.events.rows =
      eventRow (event, n + 1) :: (numberedAfter (n + 1) rest).map eventRow := h.rows_eq
  have hlater : ∀ row ∈ (numberedAfter (n + 1) rest).map eventRow, n + 1 < row.sequence := by
    intro row hrow
    obtain ⟨entry, hentry, rfl⟩ := List.mem_map.mp hrow
    exact (bounds_of_mem_numberedAfter hentry).1
  refine ⟨?_, ?_, ?_⟩
  · unfold ProducerTables.oldest
    rw [hrows, List.map_cons, List.min?_eq_some_iff]
    refine ⟨List.mem_cons_self, ?_⟩
    intro k hk
    rcases List.mem_cons.mp hk with rfl | hk
    · exact le_rfl
    · obtain ⟨row, hrow, rfl⟩ := List.mem_map.mp hk
      exact (hlater row hrow).le
  · unfold ProducerTables.discard
    rw [h.stream_eq]
    rfl
  · show tables.events.rows.filter (fun row => !(row.sequence == n + 1)) = _
    have hfirst : (!((eventRow (event, n + 1)).sequence == n + 1)) = false := by
      show (!(n + 1 == n + 1)) = false
      rw [beq_self_eq_true, Bool.not_true]
    rw [hrows, List.filter_cons_of_neg (by rw [hfirst]; exact Bool.false_ne_true),
      List.filter_eq_self.mpr]
    · rfl
    · intro row hrow
      have hne : row.sequence ≠ n + 1 := (hlater row hrow).ne'
      rw [beq_false_of_ne hne, Bool.not_false]

/-- The number after the newest is not in use. -/
theorem Holds.row?_next (h : Holds stream log tables) (hhigh : log.high = stream.sequence) :
    tables.events.row? (stream.sequence + 1) = none := by
  rw [Table.row?_eq_none]
  intro row hrow
  rw [h.rows_eq] at hrow
  obtain ⟨entry, hentry, rfl⟩ := List.mem_map.mp hrow
  have hle : entry.2 ≤ log.high := (bounds_of_mem_numberedAfter hentry).2
  show entry.2 ≠ stream.sequence + 1
  omega

/-- An event is inserted under it. -/
theorem Holds.insert (epoch payload : Text) (h : Holds stream log tables)
    (hhigh : log.high = stream.sequence)
    (hfree : tables.events.row? (stream.sequence + 1) = none) :
    Holds { stream with sequence := stream.sequence + 1 } (log.append (epoch, payload))
      { stream := some
          { stream with
            sequence := stream.sequence + 1
            retentionFloor := log.floor }
        events := tables.events.insert ⟨stream.sequence + 1, epoch, payload⟩ hfree } where
  stream_eq := rfl
  rows_eq := by
    show tables.events.rows ++ [⟨stream.sequence + 1, epoch, payload⟩] = _
    rw [RetainedLog.numbered_append, List.map_append, h.rows_eq, hhigh]
    rfl

/-- **The trimming loop ends**, with the log trimmed or with the failure of a statement. -/
theorem Holds.trim (failing : Option ProducerStatement) {rounds : ℕ} (h : Holds stream log tables)
    (hrounds : log.entries.length < rounds) :
    (failing ≠ none ∧
        tables.trim failing rounds = some (.error producerUnavailable)) ∨
      ∃ trimmed, tables.trim failing rounds = some (.ok trimmed) ∧
        Holds stream (log.trim Journal.fits) trimmed := by
  obtain ⟨n, entries⟩ := log
  induction entries generalizing n tables rounds with
  | nil =>
    obtain ⟨rounds, rfl⟩ : ∃ k, rounds = k + 1 := ⟨rounds - 1, by omega⟩
    unfold ProducerTables.trim
    by_cases hmeasure : failing = some .measure
    · rw [if_pos hmeasure]
      exact .inl ⟨by rw [hmeasure]; exact nofun, rfl⟩
    · have hwithin : tables.withinBounds = true := h.withinBounds_eq
      rw [if_neg hmeasure, if_pos hwithin]
      exact .inr ⟨tables, rfl, h⟩
  | cons event rest ih =>
    obtain ⟨rounds, rfl⟩ : ∃ k, rounds = k + 1 := ⟨rounds - 1, by omega⟩
    have hlog : (⟨n, event :: rest⟩ : RetainedLog (Text × Text)).trim Journal.fits =
        if Journal.fits (event :: rest) then ⟨n, event :: rest⟩
        else (⟨n + 1, rest⟩ : RetainedLog (Text × Text)).trim Journal.fits := rfl
    unfold ProducerTables.trim
    by_cases hmeasure : failing = some .measure
    · rw [if_pos hmeasure]
      exact .inl ⟨by rw [hmeasure]; exact nofun, rfl⟩
    rw [if_neg hmeasure, h.withinBounds_eq, hlog]
    by_cases hfits : Journal.fits (event :: rest) = true
    · rw [if_pos hfits, if_pos hfits]
      exact .inr ⟨tables, rfl, h⟩
    rw [if_neg hfits, if_neg hfits]
    by_cases hselect : failing = some .selectOldest
    · rw [if_pos hselect]
      exact .inl ⟨by rw [hselect]; exact nofun, rfl⟩
    obtain ⟨holdest, hrest⟩ := h.discard
    rw [if_neg hselect, holdest]
    dsimp only
    by_cases hdelete : failing = some .deleteOldest ∨ failing = some .updateFloor
    · rw [if_pos hdelete]
      refine .inl ⟨?_, rfl⟩
      rintro rfl
      rcases hdelete with h | h <;> cases h
    · rw [if_neg hdelete]
      have hfewer : rest.length < rounds := by
        rw [List.length_cons] at hrounds
        omega
      exact ih (n + 1) hrest hfewer

end Trimming

/-! ### The tables and the journal -/

theorem fits_of_fits_concat (events : List (Text × Text)) (event : Text × Text)
    (h : Journal.fits (events ++ [event]) = true) : Journal.fits events = true := by
  unfold Journal.fits at h ⊢
  rw [Bool.and_eq_true, decide_eq_true_eq, decide_eq_true_eq, List.length_append, List.map_append,
    List.sum_append] at h
  rw [Bool.and_eq_true, decide_eq_true_eq, decide_eq_true_eq]
  exact ⟨by omega, by omega⟩

theorem Journal.retainsWithin (journal : Journal) :
    RetainedLog.RetainsWithin Journal.fits journal.retained journal.history :=
  RetainedLog.retainsWithin_longest (by decide)

/-- What is retained after an append. -/
theorem Journal.retained_append (journal : Journal) (payload : Text) :
    (journal.append payload).retained =
      (journal.retained.append (journal.epoch, payload)).trim Journal.fits :=
  (RetainedLog.trim_append_longest (by decide) fits_of_fits_concat).symm

/-- The row of the stream. -/
def Journal.stream (journal : Journal) : ProducerStream :=
  ⟨journal.epoch, journal.history.length, journal.start, journal.retained.floor⟩

/-- **The invariant of the tables**: they hold the longest end of the journal that fits. -/
def Represents (tables : ProducerTables) : Option Journal → Prop
  | none => tables = {}
  | some journal => Holds journal.stream journal.retained tables

section Operations

variable {failing : Option ProducerStatement} {tables tables' : ProducerTables}
  {journal : Option Journal} {epoch payload : Text}

/-- A new epoch: it begins after everything there is. -/
theorem Represents.startProducerEpoch {outcome : Except StoreException (Text × ℕ)}
    (h : Represents tables journal)
    (hop : tables.startProducerEpoch failing epoch = (outcome, tables')) :
    (∃ e, outcome = .error e ∧ tables' = tables) ∨
      (outcome = .ok (epoch, (journal.map (·.history.length)).getD 0) ∧
        Represents tables' (some (Journal.begin epoch journal))) := by
  unfold ProducerTables.startProducerEpoch at hop
  by_cases hfails : failing = some .begin ∨ failing = some .selectStream ∨
      failing = some .upsertStream ∨ failing = some .commit
  · rw [if_pos hfails] at hop
    obtain ⟨rfl, rfl⟩ := Prod.mk.inj hop
    exact .inl ⟨_, rfl, rfl⟩
  rw [if_neg hfails] at hop
  right
  cases journal with
  | none =>
    obtain rfl : tables = {} := h
    obtain ⟨rfl, rfl⟩ := Prod.mk.inj hop
    exact ⟨rfl, rfl, rfl⟩
  | some journal =>
    rw [h.stream_eq] at hop
    obtain ⟨rfl, rfl⟩ := Prod.mk.inj hop
    exact ⟨rfl, rfl, h.rows_eq⟩

/-- An event: the loop ends, and the journal has one event more where nothing was raised. -/
theorem Represents.appendProducerEvent (failing : Option ProducerStatement) (epoch payload : Text)
    (h : Represents tables journal) :
    (∃ e, tables.appendProducerEvent failing epoch payload = some (.error e, tables)) ∨
      ∃ current tables', journal = some current ∧ current.epoch = epoch ∧
        tables.appendProducerEvent failing epoch payload =
          some (.ok (current.history.length + 1), tables') ∧
        Represents tables' (some (current.append payload)) := by
  unfold ProducerTables.appendProducerEvent
  by_cases hsurrogate : hasSurrogate payload = true
  · rw [if_pos hsurrogate]
    exact .inl ⟨_, rfl⟩
  rw [if_neg hsurrogate]
  by_cases hsize : producerRecordBytes < byteSize payload
  · rw [if_pos hsize]
    exact .inl ⟨_, rfl⟩
  rw [if_neg hsize]
  by_cases hbegin : failing = some .begin ∨ failing = some .selectStream
  · rw [if_pos hbegin]
    exact .inl ⟨_, rfl⟩
  rw [if_neg hbegin]
  cases journal with
  | none =>
    obtain rfl : tables = {} := h
    exact .inl ⟨_, rfl⟩
  | some journal =>
    rw [h.stream_eq]
    dsimp only
    by_cases hepoch : journal.stream.epoch ≠ epoch
    · rw [if_pos hepoch]
      exact .inl ⟨_, rfl⟩
    rw [if_neg hepoch]
    by_cases hinsert : failing = some .insertEvent ∨ failing = some .updateSequence
    · rw [if_pos hinsert]
      exact .inl ⟨_, rfl⟩
    rw [if_neg hinsert]
    obtain rfl : journal.epoch = epoch := not_not.mp hepoch
    have hhigh : journal.retained.high = journal.history.length :=
      journal.retainsWithin.toRetains.high_eq
    have hfree := h.row?_next hhigh
    rw [dif_pos hfree]
    have hinserted := h.insert journal.epoch payload hhigh hfree
    -- One round more than there are rows is enough.
    have hrounds := congrArg List.length hinserted.rows_eq
    rw [List.length_map, RetainedLog.numbered, length_numberedAfter] at hrounds
    rcases hinserted.trim failing (Nat.lt_succ_of_le hrounds.ge) with
      ⟨-, htrim⟩ | ⟨trimmed, htrim, hholds⟩
    · rw [htrim]
      exact .inl ⟨_, rfl⟩
    · rw [htrim]
      dsimp only
      by_cases hcommit : failing = some .commit
      · rw [if_pos hcommit]
        exact .inl ⟨_, rfl⟩
      · rw [if_neg hcommit]
        refine .inr ⟨journal, trimmed, rfl, rfl, rfl, ?_⟩
        rw [← journal.retained_append] at hholds
        refine ⟨?_, hholds.rows_eq⟩
        rw [hholds.stream_eq]
        simp [Journal.stream, Journal.append]

/-- From the floor and the start of the epoch on, the events that are selected are those of the
    journal. -/
theorem Represents.selected_eq {current : Journal} {after : ℕ}
    (h : Represents tables (some current)) (hstart : current.start ≤ after)
    (hfloor : current.retained.floor ≤ after) :
    tables.selected current.epoch after = numberedEvents after (current.history.drop after) := by
  have hafter := current.retainsWithin.toRetains.after hfloor
  -- Beyond the start of the epoch, no event is of another one.
  have hfilter : (current.retained.numbered.map eventRow).filter
        (fun row => row.epoch == current.epoch && after < row.sequence) =
      (numberedAfter after (current.history.drop after)).map eventRow := by
    rw [← hafter, List.filter_map]
    congr 1
    refine List.filter_congr fun entry hentry => ?_
    show (entry.1.1 == current.epoch && decide (after < entry.2)) = decide (after < entry.2)
    by_cases hlater : after < entry.2
    · have hmem : entry ∈ numberedAfter after (current.history.drop after) := by
        rw [← hafter, List.mem_filter]
        exact ⟨hentry, decide_eq_true hlater⟩
      have hevent : entry.1 ∈ current.history.drop after := by
        have hfirst : (numberedAfter after (current.history.drop after)).map Prod.fst =
            current.history.drop after := map_fst_numberedAfter
        rw [← hfirst]
        exact List.mem_map_of_mem hmem
      have hepoch := current.ofEpoch entry.1 (List.drop_subset_drop_left _ hstart hevent)
      rw [hepoch, beq_self_eq_true, Bool.true_and]
    · rw [decide_eq_false hlater, Bool.and_false]
  have hsorted : ((numberedAfter after (current.history.drop after)).map eventRow).Pairwise
      (·.sequence ≤ ·.sequence) :=
    List.pairwise_map.mpr (pairwise_numberedAfter.imp fun hlt => hlt.le)
  unfold ProducerTables.selected numberedEvents
  rw [h.rows_eq, hfilter, sortBy_eq_self hsorted, List.map_map]
  rfl

/-- A run of numbered events passes the check of its numbers. -/
theorem contiguous_numberedEvents (after : ℕ) (events : List (Text × Text)) :
    ProducerTables.contiguous (numberedEvents after events) (after + events.length) after := by
  have hnumbers : ((numberedEvents after events).zipIdx (after + 1)).all
      (fun event => event.1.1 == event.2) = true := by
    induction events generalizing after with
    | nil => rfl
    | cons event events ih =>
      show (after + 1 == after + 1 && _) = true
      rw [beq_self_eq_true, Bool.true_and]
      exact ih (after + 1)
  unfold ProducerTables.contiguous
  rw [hnumbers, Bool.and_true]
  simp [numberedEvents]

/-- The owner that a reader names, if any, is at the newest position. -/
def Journal.OwnedBy (current : Journal) (ownerEpoch : Option Text) (ownerSequence : Option ℕ) :
    Prop :=
  ownerEpoch = none ∨
    ownerEpoch = some current.epoch ∧ ownerSequence = some current.history.length

/-- **A read gives what is owed**, unless its cursor is none, no epoch was started, its owner is
    not the current one or a statement fails. -/
theorem Represents.readProducerEvents (failing : Option ProducerStatement) (epoch : Text) (after : ℤ)
    (ownerEpoch : Option Text) (ownerSequence : Option ℕ) (h : Represents tables journal) :
    ((∃ e, tables.readProducerEvents failing epoch after ownerEpoch ownerSequence = .error e) ∧
        (isEpoch epoch = false ∨ after < 0 ∨ failing ≠ none ∨
          ∀ current, journal = some current → ¬ current.OwnedBy ownerEpoch ownerSequence)) ∨
      ∃ current, journal = some current ∧ current.OwnedBy ownerEpoch ownerSequence ∧
        tables.readProducerEvents failing epoch after ownerEpoch ownerSequence =
          .ok (current.reading epoch after.toNat) := by
  unfold ProducerTables.readProducerEvents
  by_cases hcursor : (!isEpoch epoch || decide (after < 0)) = true
  · rw [if_pos hcursor]
    rw [Bool.or_eq_true, Bool.not_eq_true', decide_eq_true_eq] at hcursor
    exact .inl ⟨⟨_, rfl⟩, hcursor.imp id .inl⟩
  rw [if_neg hcursor]
  by_cases hbegin : failing = some .begin ∨ failing = some .selectStream
  · rw [if_pos hbegin]
    refine .inl ⟨⟨_, rfl⟩, .inr (.inr (.inl ?_))⟩
    rintro rfl
    rcases hbegin with h | h <;> cases h
  rw [if_neg hbegin]
  cases journal with
  | none =>
    obtain rfl : tables = {} := h
    exact .inl ⟨⟨_, rfl⟩, .inr (.inr (.inr nofun))⟩
  | some current =>
    rw [h.stream_eq]
    dsimp only [Journal.stream]
    by_cases howner : ownerEpoch.isSome ∧
        (ownerEpoch ≠ some current.epoch ∨ ownerSequence ≠ some current.history.length)
    · rw [if_pos howner]
      refine .inl ⟨⟨_, rfl⟩, .inr (.inr (.inr ?_))⟩
      rintro _ ⟨⟩ (hnone | ⟨hepoch, hsequence⟩)
      · rw [hnone] at howner
        cases howner.1
      · exact howner.2.elim (· hepoch) (· hsequence)
    have howned : current.OwnedBy ownerEpoch ownerSequence := by
      cases ownerEpoch with
      | none => exact .inl rfl
      | some ownerEpoch =>
        rw [not_and, not_or, not_not, not_not] at howner
        exact .inr (howner rfl)
    rw [if_neg howner]
    by_cases hcommit : failing = some .commit
    · have hfailing : failing ≠ none := by rw [hcommit]; exact nofun
      refine .inl ⟨?_, .inr (.inr (.inl hfailing))⟩
      simp only [hcommit, or_true, reduceIte]
      split_ifs <;> exact ⟨_, rfl⟩
    -- What is left answers, with the reason or with the events.
    by_cases hepoch : current.epoch ≠ epoch
    · rw [if_pos hepoch, if_neg hcommit]
      refine .inr ⟨current, rfl, howned, ?_⟩
      rw [Journal.reading_of_resync (if_pos hepoch)]
    rw [if_neg hepoch]
    by_cases hstart : after.toNat < current.start
    · rw [if_pos (.inl hstart), if_neg hcommit, if_pos hstart]
      refine .inr ⟨current, rfl, howned, ?_⟩
      rw [Journal.reading_of_resync ((if_neg hepoch).trans (if_pos hstart))]
    by_cases hfuture : current.history.length < after.toNat
    · rw [if_pos (.inr hfuture), if_neg hcommit, if_neg hstart]
      refine .inr ⟨current, rfl, howned, ?_⟩
      rw [Journal.reading_of_resync
        ((if_neg hepoch).trans ((if_neg hstart).trans (if_pos hfuture)))]
    rw [if_neg (not_or.mpr ⟨hstart, hfuture⟩)]
    by_cases hexpired : after.toNat < current.retained.floor
    · rw [if_pos hexpired, if_neg hcommit]
      refine .inr ⟨current, rfl, howned, ?_⟩
      rw [Journal.reading_of_resync ((if_neg hepoch).trans
        ((if_neg hstart).trans ((if_neg hfuture).trans (if_pos hexpired))))]
    rw [if_neg hexpired]
    by_cases hselect : failing = some .selectEvents ∨ failing = some .commit
    · have hfailing : failing ≠ none := by
        rintro rfl
        rcases hselect with h | h <;> cases h
      rw [if_pos hselect]
      exact .inl ⟨⟨_, rfl⟩, .inr (.inr (.inl hfailing))⟩
    obtain rfl : current.epoch = epoch := not_not.mp hepoch
    rw [if_neg hselect, h.selected_eq (Nat.le_of_not_lt hstart) (Nat.le_of_not_lt hexpired)]
    have hhigh : after.toNat + (current.history.drop after.toNat).length =
        current.history.length := by
      rw [List.length_drop]
      omega
    have hcontiguous := contiguous_numberedEvents after.toNat (current.history.drop after.toNat)
    rw [hhigh] at hcontiguous
    rw [if_pos hcontiguous]
    refine .inr ⟨current, rfl, howned, ?_⟩
    rw [Journal.reading_of_none ((if_neg hepoch).trans
      ((if_neg hstart).trans ((if_neg hfuture).trans (if_neg hexpired))))]

end Operations

/-! ### Runs -/

/-- A call of an operation that writes, with the statement of it that fails, if any. -/
inductive ProducerAction where
  | startProducerEpoch (failing : Option ProducerStatement) (epoch : Text)
  | appendProducerEvent (failing : Option ProducerStatement) (epoch payload : Text)

/-- What was committed. -/
inductive ProducerEvent where
  | started (epoch : Text)
  | appended (payload : Text)
  deriving DecidableEq

/-- A call of an operation; it is not over while its loop runs. -/
def ProducerTables.step (tables : ProducerTables) :
    ProducerAction → Option (ProducerTables × List ProducerEvent)
  | .startProducerEpoch failing epoch =>
    match tables.startProducerEpoch failing epoch with
    | (.error _, tables') => some (tables', [])
    | (.ok _, tables') => some (tables', [.started epoch])
  | .appendProducerEvent failing epoch payload =>
    match tables.appendProducerEvent failing epoch payload with
    | none => none
    | some (.error _, tables') => some (tables', [])
    | some (.ok _, tables') => some (tables', [.appended payload])

/-- The operations in any order, by any writers. -/
def producerMachine : Machine ProducerTables ProducerAction ProducerEvent := ⟨ProducerTables.step⟩

/-- What was committed, in a journal. -/
def Journal.record (journal : Option Journal) : ProducerEvent → Option Journal
  | .started epoch => some (Journal.begin epoch journal)
  | .appended payload => journal.map (·.append payload)

/-- The journal of a run. -/
def journalOf (log : List ProducerEvent) : Option Journal := log.foldl Journal.record none

section Runs

variable {tables tables' : ProducerTables} {log events : List ProducerEvent}
  {action : ProducerAction}

theorem journalOf_append :
    journalOf (log ++ events) = events.foldl Journal.record (journalOf log) := List.foldl_append

/-- **A step keeps the invariant.** -/
theorem Represents.step (h : Represents tables (journalOf log))
    (hstep : tables.step action = some (tables', events)) :
    Represents tables' (journalOf (log ++ events)) := by
  rw [journalOf_append]
  cases action with
  | startProducerEpoch failing epoch =>
    unfold ProducerTables.step at hstep
    dsimp only at hstep
    cases hop : tables.startProducerEpoch failing epoch with
    | mk outcome started =>
      rw [hop] at hstep
      rcases h.startProducerEpoch hop with ⟨e, rfl, rfl⟩ | ⟨rfl, hstarted⟩
      · obtain ⟨rfl, rfl⟩ := Prod.mk.inj (Option.some.inj hstep)
        exact h
      · obtain ⟨rfl, rfl⟩ := Prod.mk.inj (Option.some.inj hstep)
        exact hstarted
  | appendProducerEvent failing epoch payload =>
    unfold ProducerTables.step at hstep
    dsimp only at hstep
    rcases h.appendProducerEvent failing epoch payload with
      ⟨e, hop⟩ | ⟨current, appended, hcurrent, -, hop, happended⟩
    · rw [hop] at hstep
      obtain ⟨rfl, rfl⟩ := Prod.mk.inj (Option.some.inj hstep)
      exact h
    · rw [hop] at hstep
      obtain ⟨rfl, rfl⟩ := Prod.mk.inj (Option.some.inj hstep)
      rw [hcurrent]
      exact happended

theorem represents_of_run {allowed : ProducerTables → ProducerAction → Prop}
    (run : Machine.Run producerMachine allowed {} tables log) :
    Represents tables (journalOf log) := by
  refine run.invariant (I := fun tables log => Represents tables (journalOf log)) rfl ?_
  intro s s' log events action _ h _ hstep
  exact h.step hstep

/-- The tables answer for what was committed. -/
structure ProducerSound (tables : ProducerTables) (log : List ProducerEvent) : Prop where
  /-- What is retained is within the bounds. -/
  bounded : tables.withinBounds = true
  /-- An append returns, whatever fails: its loop ends. -/
  returns : ∀ failing epoch payload, ∃ outcome tables',
    tables.appendProducerEvent failing epoch payload = some (outcome, tables')
  /-- What an operation raises is without effect. -/
  atomic : ∀ failing epoch payload e tables',
    tables.startProducerEpoch failing epoch = (.error e, tables') ∨
      tables.appendProducerEvent failing epoch payload = some (.error e, tables') →
    tables' = tables
  /-- A read that returns gives what is owed. -/
  answers : ∀ failing epoch after ownerEpoch ownerSequence reading,
    tables.readProducerEvents failing epoch after ownerEpoch ownerSequence = .ok reading →
    ∃ journal, journalOf log = some journal ∧ reading = journal.reading epoch after.toNat ∧
      reading.2.2 ≠ some .historyGap
  /-- A read of any cursor returns, once an epoch was started and as long as nothing fails. -/
  answered : ∀ epoch after journal, isEpoch epoch = true → 0 ≤ after →
    journalOf log = some journal →
    tables.readProducerEvents none epoch after none none = .ok (journal.reading epoch after.toNat)

theorem Represents.withinBounds {journal : Option Journal} (h : Represents tables journal) :
    tables.withinBounds = true := by
  cases journal with
  | none =>
    obtain rfl : tables = {} := h
    decide
  | some current =>
    rw [Holds.withinBounds_eq h]
    exact current.retainsWithin.within

/-- **The producer journal.**  In every run of writers, started anew and failing at will, what is
    retained stays within its bounds, every append ends, and every cursor is answered with exactly
    the events after it or with the reason why not. -/
theorem producer_journal {allowed : ProducerTables → ProducerAction → Prop}
    (run : Machine.Run producerMachine allowed {} tables log) : ProducerSound tables log := by
  have h := represents_of_run run
  refine ⟨h.withinBounds, ?_, ?_, ?_, ?_⟩
  · intro failing epoch payload
    rcases h.appendProducerEvent failing epoch payload with ⟨e, hop⟩ | ⟨_, _, _, _, hop, _⟩
    · exact ⟨_, _, hop⟩
    · exact ⟨_, _, hop⟩
  · rintro failing epoch payload e tables' (hop | hop)
    · rcases h.startProducerEpoch hop with ⟨_, _, hsame⟩ | ⟨hok, _⟩
      · exact hsame
      · cases hok
    · rcases h.appendProducerEvent failing epoch payload with ⟨_, hop'⟩ | ⟨_, _, _, _, hop', _⟩
      · rw [hop'] at hop
        exact (Prod.mk.inj (Option.some.inj hop)).2.symm
      · rw [hop'] at hop
        cases hop
  · intro failing epoch after ownerEpoch ownerSequence reading hread
    rcases h.readProducerEvents failing epoch after ownerEpoch ownerSequence with
      ⟨⟨e, herror⟩, -⟩ | ⟨journal, hjournal, -, hread'⟩
    · rw [herror] at hread
      cases hread
    · rw [hread'] at hread
      obtain rfl := Except.ok.inj hread
      exact ⟨journal, hjournal, rfl, Journal.reading_ne_historyGap⟩
  · intro epoch after journal hepoch hafter hjournal
    rcases h.readProducerEvents none epoch after none none with
      ⟨-, hinvalid | hnegative | hfailing | howner⟩ | ⟨current, hcurrent, -, hread⟩
    · rw [hepoch] at hinvalid
      cases hinvalid
    · omega
    · exact absurd rfl hfailing
    · exact absurd (.inl rfl) (howner journal hjournal)
    · rw [hjournal] at hcurrent
      obtain rfl := Option.some.inj hcurrent
      exact hread

/-- Two processes, of which the first writes once more after the second has started. -/
theorem producer_journal_restarted :
    let first : Text := "0000000000000000000000000000000a"
    let second : Text := "0000000000000000000000000000000b"
    let log : List ProducerEvent := [.started first, .appended "1", .started second, .appended "2"]
    ∃ tables, Machine.Run producerMachine (fun _ _ => true) {} tables log ∧
      ProducerSound tables log := by
  intro first second log
  obtain ⟨tables, -, run⟩ := producerMachine.exists_run_of_exec (fun _ _ => true) {}
    [.startProducerEpoch none first, .appendProducerEvent none first "1",
      .startProducerEpoch none second, .appendProducerEvent none first "1",
      .appendProducerEvent none second "2"]
    (show _ = some log by decide +kernel)
  exact ⟨tables, run, producer_journal run⟩

/-! ### Readers that read on -/

/-- What is committed later follows the history. -/
theorem history_prefix {later : List ProducerEvent} {journal current : Journal}
    (h : later.foldl Journal.record (some journal) = some current) :
    journal.history <+: current.history := by
  induction later generalizing journal with
  | nil =>
    obtain rfl := Option.some.inj h
    exact List.prefix_rfl
  | cons event later ih =>
    cases event with
    | started epoch =>
      have hkept := ih h
      exact hkept
    | appended payload => exact (List.prefix_append _ _).trans (ih h)

/-- A reading without a reason gives the events after its cursor. -/
theorem Represents.reading_eq {journal : Option Journal} (h : Represents tables journal)
    {failing : Option ProducerStatement} {epoch : Text} {after : ℤ} {ownerEpoch : Option Text}
    {ownerSequence : Option ℕ} {high : ℕ} {found : List (ℕ × Text)}
    (hread : tables.readProducerEvents failing epoch after ownerEpoch ownerSequence =
      .ok (high, found, none)) :
    ∃ current, journal = some current ∧ current.history.length = high ∧ after.toNat ≤ high ∧
      found = numberedEvents after.toNat (current.history.drop after.toNat) := by
  rcases h.readProducerEvents failing epoch after ownerEpoch ownerSequence with
    ⟨⟨e, herror⟩, -⟩ | ⟨current, hcurrent, -, hread'⟩
  · rw [herror] at hread
    cases hread
  · have hreading := Except.ok.inj (hread'.symm.trans hread)
    cases hresync : current.resync epoch after.toNat with
    | some reason =>
      rw [Journal.reading_of_resync hresync] at hreading
      cases hreading
    | none =>
      rw [Journal.reading_of_none hresync] at hreading
      cases hreading
      refine ⟨current, hcurrent, rfl, ?_, rfl⟩
      unfold Journal.resync at hresync
      split_ifs at hresync
      exact not_lt.mp (by assumption)

end Runs

end ScarcityRouter
