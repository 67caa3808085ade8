import ScarcityRouter.Lib.Lines

namespace ScarcityRouter

open ScarcityRouter.Lib

/-!
# The bounded line reader

`BoundedLineReader` of `openai_codex_acquisition.py`: the output of a child process, line by line,
under a budget for each line and one for all of them.

* `BoundedLineReader.loopFd` — `_loop_fd`: a buffer that grows by what the pipe delivers.
* `BoundedLineReader.loopStream` — `_loop_stream`: `readline` with a limit.
* `BoundedLineReader.enqueue` — what the budgets let through of given lines.
* `loopFd_eq`, `loopStream_eq` — **both loops enqueue that of the lines of the stream**, however
  the pipe delivers it.
* `enqueued_of_bytes` — what is enqueued is a function of the bytes.

The budgets are counts of bytes.
-/

/-! ### The reader -/

/-- `b"\n"`. -/
def newlineByte : UInt8 := 10

/-- An entry of the queue. -/
inductive ReaderEvent where
  | line (content : List UInt8)
  | oversized
  | failed
  | eof
  deriving DecidableEq

/-- The budgets of a reader. -/
structure BoundedLineReader where
  maxLineBytes : ℕ
  maxTotalBytes : ℕ

/-- What a round of `_loop_fd` meets. -/
inductive PipeRound where
  /-- `_stop` is set. -/
  | stopped
  /-- Nothing to read: `_fd_readable` is false, or `os.read` raises `BlockingIOError`. -/
  | quiet
  /-- `_fd_readable` or `os.read` raises; then `_stop` is looked at. -/
  | raised (stopped : Bool)
  /-- `os.read` returns, without bytes at the end of the file. -/
  | read (chunk : List UInt8)

/-- How a pipe delivers: nothing yet, or a chunk. -/
inductive PipeDelivery where
  | quiet
  | chunk (byte : UInt8) (bytes : List UInt8)

/-- The bytes of a delivery. -/
def PipeDelivery.bytes : PipeDelivery → List UInt8
  | .quiet => []
  | .chunk byte bytes => byte :: bytes

/-- The round that meets a delivery. -/
def PipeDelivery.round : PipeDelivery → PipeRound
  | .quiet => .quiet
  | .chunk byte bytes => .read (byte :: bytes)

/-- The rounds of a pipe that delivers and is closed then. -/
def pipeRounds (deliveries : List PipeDelivery) : List PipeRound :=
  deliveries.map PipeDelivery.round ++ [.read []]

/-- What a round of `_loop_stream` meets. -/
inductive StreamRound where
  /-- `_stop` is set. -/
  | stopped
  /-- `readline` raises; then `_stop` is looked at. -/
  | raised (stopped : Bool)
  | reads

/-- `_put("failed", None)`, unless the reader was stopped. -/
def failedUnless (stopped : Bool) : List ReaderEvent := if stopped then [] else [.failed]

/-- `readline(limit)`: up to the end of the line, and no more bytes than the limit. -/
def readline (limit : ℕ) (bytes : List UInt8) : List UInt8 × List UInt8 :=
  let (line, rest) := cutLine newlineByte bytes
  (line.take limit, line.drop limit ++ rest)

theorem readline_eq (limit : ℕ) (bytes : List UInt8) : readline limit bytes =
    ((cutLine newlineByte bytes).1.take limit,
      (cutLine newlineByte bytes).1.drop limit ++ (cutLine newlineByte bytes).2) := rfl

theorem length_readline_lt {limit : ℕ} {bytes : List UInt8} (h : (readline limit bytes).1 ≠ []) :
    (readline limit bytes).2.length < bytes.length := by
  have hlength := congrArg List.length (cutLine_eq newlineByte bytes)
  have htaken := List.length_pos_of_ne_nil h
  simp only [readline, List.length_append, List.length_take, List.length_drop] at hlength htaken ⊢
  omega

namespace BoundedLineReader

variable (reader : BoundedLineReader)

/-- The checks on a line: the new total, unless a budget is exceeded. -/
def admitLine (line : List UInt8) (total : ℕ) : Option ℕ :=
  if line.length > reader.maxLineBytes then none
  else if total + line.length > reader.maxTotalBytes then none
  else some (total + line.length)

/-- The inner loop of `_loop_fd`: the lines of the buffer, and what it leaves in the buffer. -/
def drain (buffer : List UInt8) (total : ℕ) : List ReaderEvent × Option (List UInt8 × ℕ) :=
  if _h : newlineByte ∈ buffer then
    match reader.admitLine (cutLine newlineByte buffer).1 total with
    | none => ([.oversized], none)
    | some total =>
      let (events, left) := drain (cutLine newlineByte buffer).2 total
      (.line (cutLine newlineByte buffer).1 :: events, left)
  else if buffer.length > reader.maxLineBytes then ([.oversized], none)
  else ([], some (buffer, total))
termination_by buffer.length
decreasing_by exact length_cutLine_lt (List.ne_nil_of_mem ‹_›)

/-- The rounds of `_loop_fd`. -/
def fdRounds : List PipeRound → List UInt8 → ℕ → List ReaderEvent
  | [], _, _ => []
  | .stopped :: _, _, _ => []
  | .quiet :: rounds, buffer, total => fdRounds rounds buffer total
  | .raised stopped :: _, _, _ => failedUnless stopped
  | .read [] :: _, buffer, total =>
    if buffer = [] then [.eof]
    else
      match reader.admitLine buffer total with
      | none => [.oversized]
      | some _ => [.line buffer, .eof]
  | .read (byte :: chunk) :: rounds, buffer, total =>
    match reader.drain (buffer ++ byte :: chunk) total with
    | (events, none) => events
    | (events, some (buffer, total)) => events ++ fdRounds rounds buffer total

/-- `_loop_fd`.  Without `os.set_blocking` nothing is read. -/
def loopFd (nonblocking : Bool) (rounds : List PipeRound) : List ReaderEvent :=
  if nonblocking then reader.fdRounds rounds [] 0 else [.failed]

/-- The rounds of `_loop_stream`, from the `i`-th on. -/
def streamRounds (rounds : ℕ → StreamRound) (i : ℕ) (bytes : List UInt8) (total : ℕ) :
    List ReaderEvent :=
  match rounds i with
  | .stopped => []
  | .raised stopped => failedUnless stopped
  | .reads =>
    if _h : (readline (reader.maxLineBytes + 1) bytes).1 = [] then [.eof]
    else
      match reader.admitLine (readline (reader.maxLineBytes + 1) bytes).1 total with
      | none => [.oversized]
      | some total => .line (readline (reader.maxLineBytes + 1) bytes).1 ::
        streamRounds rounds (i + 1) (readline (reader.maxLineBytes + 1) bytes).2 total
termination_by bytes.length
decreasing_by exact length_readline_lt ‹_›

/-- `_loop_stream`. -/
def loopStream (rounds : ℕ → StreamRound) (bytes : List UInt8) : List ReaderEvent :=
  reader.streamRounds rounds 0 bytes 0

/-! ### What the budgets let through -/

/-- The lines that the budgets let through, and how the reading ends. -/
def enqueue (total : ℕ) : List (List UInt8) → List ReaderEvent
  | [] => [.eof]
  | line :: unread =>
    match reader.admitLine line total with
    | none => [.oversized]
    | some total => .line line :: enqueue total unread

variable {reader} {bytes buffer line : List UInt8} {total total' : ℕ}

theorem admitLine_eq_some : reader.admitLine line total = some total' ↔
    line.length ≤ reader.maxLineBytes ∧ total + line.length ≤ reader.maxTotalBytes ∧
      total' = total + line.length := by
  unfold admitLine
  split_ifs with hline htotal
  · exact ⟨nofun, fun h => absurd h.1 (Nat.not_le.mpr hline)⟩
  · exact ⟨nofun, fun h => absurd h.2.1 (Nat.not_le.mpr htotal)⟩
  · rw [Option.some.injEq]
    exact ⟨fun h => ⟨Nat.not_lt.mp hline, Nat.not_lt.mp htotal, h.symm⟩, fun h => h.2.2.symm⟩

theorem admitLine_of_long (h : reader.maxLineBytes < line.length) :
    reader.admitLine line total = none := if_pos h

theorem admitLine_eq_none : reader.admitLine line total = none ↔
    reader.maxLineBytes < line.length ∨ reader.maxTotalBytes < total + line.length := by
  unfold admitLine
  split_ifs with hline htotal
  · exact ⟨fun _ => .inl hline, fun _ => rfl⟩
  · exact ⟨fun _ => .inr htotal, fun _ => rfl⟩
  · exact ⟨nofun, fun h => (h.elim hline htotal).elim⟩

/-- The first line of a stream, before what is enqueued of the rest. -/
theorem enqueue_lines (h : bytes ≠ []) : reader.enqueue total (lines newlineByte bytes) =
    match reader.admitLine (cutLine newlineByte bytes).1 total with
    | none => [.oversized]
    | some total => .line (cutLine newlineByte bytes).1 ::
      reader.enqueue total (lines newlineByte (cutLine newlineByte bytes).2) := by
  rw [lines_eq h]
  rfl

/-- A stream that begins with too many bytes of one line is oversized. -/
theorem enqueue_of_long (hmem : newlineByte ∉ buffer) (hlong : reader.maxLineBytes < buffer.length)
    (more : List UInt8) :
    reader.enqueue total (lines newlineByte (buffer ++ more)) = [.oversized] := by
  have hne : buffer ++ more ≠ [] := by
    intro hnil
    rw [(List.append_eq_nil_iff.mp hnil).1] at hlong
    exact absurd hlong (Nat.not_lt_zero _)
  rw [enqueue_lines hne, cutLine_append hmem, admitLine_of_long]
  rw [List.length_append]
  omega

/-! ### The loop over a descriptor -/

/-- The inner loop enqueues what the budgets let through of the lines of the buffer, whatever is
    still to come, and leaves an unterminated line in it. -/
theorem drain_spec (buffer : List UInt8) (total : ℕ) :
    match reader.drain buffer total with
    | (events, none) => ∀ more,
      reader.enqueue total (lines newlineByte (buffer ++ more)) = events
    | (events, some (left, total')) => newlineByte ∉ left ∧ left.length ≤ reader.maxLineBytes ∧
      ∀ more, reader.enqueue total (lines newlineByte (buffer ++ more)) =
        events ++ reader.enqueue total' (lines newlineByte (left ++ more)) := by
  induction hlength : buffer.length using Nat.strongRecOn generalizing buffer total with
  | _ n ih =>
    unfold drain
    split_ifs with hmem hlong
    · obtain ⟨body, rest, rfl, hbody⟩ := List.eq_append_cons_of_mem hmem
      rw [cutLine_terminated hbody]
      have hlines (more : List UInt8) :
          reader.enqueue total (lines newlineByte (body ++ newlineByte :: rest ++ more)) =
            match reader.admitLine (body ++ [newlineByte]) total with
            | none => [.oversized]
            | some total => .line (body ++ [newlineByte]) ::
              reader.enqueue total (lines newlineByte (rest ++ more)) := by
        rw [List.append_assoc, List.cons_append, lines_terminated hbody]
        rfl
      cases hadmit : reader.admitLine (body ++ [newlineByte]) total with
      | none =>
        intro more
        rw [hlines, hadmit]
      | some total' =>
        have hrest := ih rest.length
          (by rw [← hlength, List.length_append, List.length_cons]; omega) rest total' rfl
        dsimp only at hrest ⊢
        cases hdrain : reader.drain rest total' with
        | mk events left =>
          rw [hdrain] at hrest
          cases left with
          | none =>
            intro more
            rw [hlines, hadmit]
            exact congrArg _ (hrest more)
          | some left =>
            refine ⟨hrest.1, hrest.2.1, fun more => ?_⟩
            rw [hlines, hadmit]
            exact congrArg _ (hrest.2.2 more)
    · exact enqueue_of_long hmem hlong
    · exact ⟨hmem, Nat.not_lt.mp hlong, fun _ => rfl⟩

/-- **The rounds over a pipe** enqueue what the budgets let through of the lines of its bytes,
    behind the unterminated line in the buffer. -/
theorem fdRounds_eq (deliveries : List PipeDelivery) (hmem : newlineByte ∉ buffer)
    (hshort : buffer.length ≤ reader.maxLineBytes) :
    reader.fdRounds (pipeRounds deliveries) buffer total =
      reader.enqueue total
        (lines newlineByte (buffer ++ deliveries.flatMap PipeDelivery.bytes)) := by
  induction deliveries generalizing buffer total with
  | nil =>
    show reader.fdRounds [.read []] buffer total = _
    rw [List.flatMap_nil, List.append_nil]
    unfold fdRounds
    split_ifs with hnil
    · rw [hnil]
      rfl
    · rw [lines_of_notMem hmem hnil]
      rfl
  | cons delivery deliveries ih =>
    rw [List.flatMap_cons]
    cases delivery with
    | quiet => exact ih hmem hshort
    | chunk byte chunk =>
      have hdrain := @drain_spec reader (buffer ++ byte :: chunk) total
      rw [← List.append_assoc]
      show (match reader.drain (buffer ++ byte :: chunk) total with
        | (events, none) => events
        | (events, some (buffer, total)) =>
          events ++ reader.fdRounds (pipeRounds deliveries) buffer total) = _
      cases hleft : reader.drain (buffer ++ byte :: chunk) total with
      | mk events left =>
        rw [hleft] at hdrain
        cases left with
        | none => exact (hdrain _).symm
        | some left => exact (congrArg _ (ih hdrain.1 hdrain.2.1)).trans (hdrain.2.2 _).symm

/-- **`_loop_fd` enqueues what the budgets let through of the lines of the stream.** -/
theorem loopFd_eq (deliveries : List PipeDelivery) :
    reader.loopFd true (pipeRounds deliveries) =
      reader.enqueue 0 (lines newlineByte (deliveries.flatMap PipeDelivery.bytes)) :=
  fdRounds_eq deliveries List.not_mem_nil (Nat.zero_le _)

/-! ### The loop over a stream -/

/-- A line within its budget is read whole, and of a longer one a byte too many. -/
theorem readline_spec (bytes : List UInt8) :
    ((cutLine newlineByte bytes).1.length ≤ reader.maxLineBytes ∧
        readline (reader.maxLineBytes + 1) bytes = cutLine newlineByte bytes) ∨
      (reader.maxLineBytes < (cutLine newlineByte bytes).1.length ∧
        (readline (reader.maxLineBytes + 1) bytes).1.length = reader.maxLineBytes + 1) := by
  by_cases hlong : (cutLine newlineByte bytes).1.length ≤ reader.maxLineBytes
  · have hle : (cutLine newlineByte bytes).1.length ≤ reader.maxLineBytes + 1 :=
      Nat.le_succ_of_le hlong
    refine .inl ⟨hlong, ?_⟩
    rw [readline_eq, List.take_of_length_le hle, List.drop_of_length_le hle]
    rfl
  · refine .inr ⟨Nat.not_le.mp hlong, ?_⟩
    rw [readline_eq, List.length_take]
    omega

/-- **The rounds over a stream** enqueue what the budgets let through of its lines. -/
theorem streamRounds_eq (i : ℕ) (bytes : List UInt8) (total : ℕ) :
    reader.streamRounds (fun _ => .reads) i bytes total =
      reader.enqueue total (lines newlineByte bytes) := by
  induction hlength : bytes.length using Nat.strongRecOn generalizing i bytes total with
  | _ n ih =>
    unfold streamRounds
    by_cases hnil : bytes = []
    · subst hnil
      rfl
    · have hline := @cutLine_ne_nil _ _ newlineByte _ hnil
      rw [enqueue_lines hnil]
      rcases @readline_spec reader bytes with ⟨-, hread⟩ | ⟨hlong, hread⟩
      · rw [hread, dif_neg hline]
        cases reader.admitLine (cutLine newlineByte bytes).1 total with
        | none => rfl
        | some total =>
          exact congrArg _ (ih _ (hlength ▸ length_cutLine_lt hnil) _ _ _ rfl)
      · have hne : (readline (reader.maxLineBytes + 1) bytes).1 ≠ [] := fun h => by
          rw [h] at hread
          cases hread
        rw [dif_neg hne, admitLine_of_long (by omega), admitLine_of_long hlong]

/-- **`_loop_stream` enqueues what the budgets let through of the lines of the stream.** -/
theorem loopStream_eq (bytes : List UInt8) : reader.loopStream (fun _ => .reads) bytes =
    reader.enqueue 0 (lines newlineByte bytes) := streamRounds_eq 0 bytes 0

/-! ### What is enqueued -/

/-- **A bounded reading** of a stream: the first lines of the stream are enqueued, within both
    budgets, and then one marker, which is `oversized` exactly if the next line would exceed one. -/
structure Reading (reader : BoundedLineReader) (bytes : List UInt8)
    (enqueued unread : List (List UInt8)) (marker : ReaderEvent) : Prop where
  lines_eq : lines newlineByte bytes = enqueued ++ unread
  joined : enqueued.flatten ++ unread.flatten = bytes
  line_le : ∀ line ∈ enqueued, line.length ≤ reader.maxLineBytes
  total_le : enqueued.flatten.length ≤ reader.maxTotalBytes
  marked : (marker = .eof ∧ unread = []) ∨ (marker = .oversized ∧ ∃ next later,
    unread = next :: later ∧ (reader.maxLineBytes < next.length ∨
      reader.maxTotalBytes < enqueued.flatten.length + next.length))

/-- What the budgets let through, line by line. -/
theorem exists_enqueued (unread : List (List UInt8)) (h : total ≤ reader.maxTotalBytes) :
    ∃ enqueued later marker, reader.enqueue total unread = enqueued.map .line ++ [marker] ∧
      unread = enqueued ++ later ∧ (∀ line ∈ enqueued, line.length ≤ reader.maxLineBytes) ∧
      total + enqueued.flatten.length ≤ reader.maxTotalBytes ∧
      ((marker = .eof ∧ later = []) ∨ (marker = .oversized ∧ ∃ next after, later = next :: after ∧
        (reader.maxLineBytes < next.length ∨
          reader.maxTotalBytes < total + enqueued.flatten.length + next.length))) := by
  induction unread generalizing total with
  | nil => exact ⟨[], [], .eof, rfl, rfl, nofun, h, .inl ⟨rfl, rfl⟩⟩
  | cons line unread ih =>
    unfold enqueue
    cases hadmit : reader.admitLine line total with
    | none =>
      exact ⟨[], line :: unread, .oversized, rfl, rfl, nofun, h,
        .inr ⟨rfl, line, unread, rfl, admitLine_eq_none.mp hadmit⟩⟩
    | some total' =>
      obtain ⟨hline, htotal, rfl⟩ := admitLine_eq_some.mp hadmit
      obtain ⟨enqueued, later, marker, henqueue, rfl, hlines, hsum, hmarker⟩ := ih htotal
      have hlength : total + (line :: enqueued).flatten.length =
          total + line.length + enqueued.flatten.length := by
        rw [List.flatten_cons, List.length_append, Nat.add_assoc]
      refine ⟨line :: enqueued, later, marker, congrArg _ henqueue, rfl,
        List.forall_mem_cons.mpr ⟨hline, hlines⟩, hlength ▸ hsum, ?_⟩
      rw [hlength]
      exact hmarker

/-- **What the reader enqueues is a function of the bytes.**  However a pipe delivers a stream, the
    loop over its descriptor enqueues what the loop over the stream does, and that is a bounded
    reading of the stream, whose lines end with a newline, except that the last may not. -/
theorem enqueued_of_bytes (reader : BoundedLineReader) (deliveries : List PipeDelivery) :
    let bytes := deliveries.flatMap PipeDelivery.bytes
    let events := reader.loopFd true (pipeRounds deliveries)
    reader.loopStream (fun _ => .reads) bytes = events ∧
      (∃ enqueued unread marker, events = enqueued.map .line ++ [marker] ∧
        reader.Reading bytes enqueued unread marker) ∧
      ∃ full last, lines newlineByte bytes = full ++ last ∧
        (∀ line ∈ full, ∃ body, newlineByte ∉ body ∧ line = body ++ [newlineByte]) ∧
        (last = [] ∨ ∃ line, last = [line] ∧ line ≠ [] ∧ newlineByte ∉ line) := by
  dsimp only
  rw [loopStream_eq, loopFd_eq]
  refine ⟨rfl, ?_, exists_lines_eq newlineByte _⟩
  obtain ⟨enqueued, unread, marker, henqueue, hlines, hline, htotal, hmarker⟩ :=
    exists_enqueued (lines newlineByte (deliveries.flatMap PipeDelivery.bytes))
      (Nat.zero_le reader.maxTotalBytes)
  rw [Nat.zero_add] at htotal hmarker
  refine ⟨enqueued, unread, marker, henqueue, hlines, ?_, hline, htotal, hmarker⟩
  rw [← List.flatten_append, ← hlines]
  exact flatten_lines newlineByte _

end BoundedLineReader

end ScarcityRouter
