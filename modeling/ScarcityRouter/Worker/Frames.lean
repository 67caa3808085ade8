import ScarcityRouter.Gateway.Validation

namespace ScarcityRouter

open ScarcityRouter.Lib

/-!
# Frames of the worker protocol

`worker_protocol.py`: length-prefixed JSON frames, and their reader over a socket.

* `WorkerProtocolError` — the one typed failure of the protocol, with its closed codes.
* `encodeFrame`, `decodeFrame` — one message as a bounded frame, and back.
* `PeerStream`, `recvExact` — the chunks a socket still delivers, and the read of an exact size.
* `readMessage`, `readMessages` — `FrameReader.read_message`, once and again.
* `readMessages_frames` — **frames are read back however the stream arrives in chunks**, and a
  stream cut inside a frame fails after the complete messages.
* `readMessages_joins_surrogates` — a surrogate pair is read back as the character it spells.
-/

/-! ### Errors -/

/-- `PROTOCOL_ERROR_CODES`. -/
inductive ProtocolErrorCode where
  | protocolVersion | unauthorized | credentialRevoked | pairingInvalid | pairingExpired
  | pairingUsed | pairingUnavailable | unknownMessage | malformed | frameTooLarge
  | attemptUnknown | internal
  deriving DecidableEq

def ProtocolErrorCode.text : ProtocolErrorCode → String
  | .protocolVersion => "protocol_version_unsupported"
  | .unauthorized => "unauthorized"
  | .credentialRevoked => "credential_revoked"
  | .pairingInvalid => "pairing_code_invalid"
  | .pairingExpired => "pairing_code_expired"
  | .pairingUsed => "pairing_code_used"
  | .pairingUnavailable => "pairing_unavailable"
  | .unknownMessage => "unknown_message_type"
  | .malformed => "malformed_message"
  | .frameTooLarge => "frame_too_large"
  | .attemptUnknown => "attempt_unknown"
  | .internal => "internal_error"

/-- A fatal protocol failure. -/
structure WorkerProtocolError where
  code : ProtocolErrorCode
  fault : Fault

/-- A malformed frame or message. -/
def WorkerProtocolError.malformed (message : String) : WorkerProtocolError :=
  ⟨.malformed, .stated message⟩

/-! ### Bytes -/

abbrev Bytes := List UInt8

/-- `text.encode("utf-8")`. -/
def encodeUtf8 (cs : List Char) : Bytes := cs.flatMap String.utf8EncodeChar

/-- `payload.decode("utf-8")`; `none` stands for the `UnicodeDecodeError`. -/
def decodeUtf8 (payload : Bytes) : Option (List Char) :=
  payload.toByteArray.utf8Decode?.map Array.toList

@[simp] theorem decodeUtf8_encodeUtf8 (cs : List Char) : decodeUtf8 (encodeUtf8 cs) = some cs := by
  have h : (encodeUtf8 cs).toByteArray.utf8Decode? = some cs.toArray :=
    List.utf8Decode?_utf8Encode
  unfold decodeUtf8
  rw [h]
  rfl

/-- An ASCII text takes one byte a character. -/
theorem length_encodeUtf8 {cs : List Char} (h : ∀ c ∈ cs, c.toNat < 0x80) :
    (encodeUtf8 cs).length = cs.length := by
  have hsize : ∀ c ∈ cs, (String.utf8EncodeChar c).length = 1 := by
    intro c hc
    have hle : c.val ≤ 127 := by
      rw [UInt32.le_iff_toNat_le]
      show c.toNat ≤ 127
      have := h c hc
      omega
    rw [String.length_utf8EncodeChar, Char.utf8Size]
    exact if_pos hle
  unfold encodeUtf8
  rw [List.length_flatMap, List.map_congr_left hsize]
  simp

/-- `struct.Struct(">I").pack`. -/
def pack (n : ℕ) : Bytes :=
  [UInt8.ofNat (n / 16777216), UInt8.ofNat (n / 65536), UInt8.ofNat (n / 256), UInt8.ofNat n]

/-- `struct.Struct(">I").unpack`. -/
def unpack (header : Bytes) : ℕ := header.foldl (fun n byte => n * 256 + byte.toNat) 0

theorem unpack_pack {n : ℕ} (h : n < 4294967296) : unpack (pack n) = n := by
  simp only [pack, unpack, List.foldl_cons, List.foldl_nil, UInt8.toNat_ofNat']
  omega

/-! ### Frames -/

/-- `MAX_FRAME_BYTES`. -/
def maxFrameBytes : ℕ := 16 * 1048576

section Format

variable [FloatFormat]

/-- Encode one protocol message as a bounded length-prefixed frame. -/
def encodeFrame (payload : Json) : Except WorkerProtocolError Bytes :=
  match payload.dumps with
  | none => .error (.malformed "frame encoding failed")
  | some text =>
    let encoded := encodeUtf8 text
    if maxFrameBytes < encoded.length then
      .error ⟨.frameTooLarge, .stated "frame payload exceeds the maximum of 16777216 bytes"⟩
    else .ok (pack encoded.length ++ encoded)

/-- Decode one bounded frame payload into a strictly parsed JSON object. -/
def decodeFrame (payload : Bytes) : Except WorkerProtocolError Json :=
  if maxFrameBytes < payload.length then
    .error ⟨.frameTooLarge, .stated "frame payload exceeds the maximum of 16777216 bytes"⟩
  else
    match decodeUtf8 payload with
    | none => .error (.malformed "frame payload is not valid UTF-8")
    | some text =>
      match Json.loads text with
      | none => .error (.malformed "frame payload rejected")
      | some (.object members) => .ok (.object members)
      | some _ => .error (.malformed "frame payload must be a JSON object")

end Format

/-! ### The socket -/

/-- What a peer sends before it closes: the chunks that `recv` returns, none of them empty. -/
structure PeerStream where
  chunks : List Bytes
  nonempty : ∀ chunk ∈ chunks, chunk ≠ []

/-- The bytes a peer sends. -/
def PeerStream.bytes (stream : PeerStream) : Bytes := stream.chunks.flatten

/-- `socket.recv(size)`: the next chunk, cut at the size; nothing at the end of the stream. -/
def recv (size : ℕ) : List Bytes → Bytes × List Bytes
  | [] => ([], [])
  | chunk :: chunks =>
    if chunk.length ≤ size then (chunk, chunks) else (chunk.take size, chunk.drop size :: chunks)

/-- The loop of `recv_exact`: the bytes still missing and the bytes received. -/
def recvLoop (remaining : ℕ) (received : Bytes) (chunks : List Bytes) :
    Except WorkerProtocolError (Option Bytes × List Bytes) :=
  if remaining = 0 then .ok (some received, chunks)
  else
    match recv (min remaining 65536) chunks with
    | ([], _) =>
      if received = [] then .ok (none, []) else .error (.malformed "connection closed mid-frame")
    | (byte :: bytes, chunks) =>
      recvLoop (remaining - (byte :: bytes).length) (received ++ byte :: bytes) chunks
termination_by remaining
decreasing_by
  simp only [List.length_cons]
  omega

/-- `recv_exact`: exactly `size` bytes, or `none` on a clean end of the stream. -/
def recvExact (size : ℕ) (chunks : List Bytes) :
    Except WorkerProtocolError (Option Bytes × List Bytes) := recvLoop size [] chunks

section Format

variable [FloatFormat]

/-- `FrameReader.read_message`: one decoded message, or `none` on a clean end between frames. -/
def readMessage (chunks : List Bytes) : Except WorkerProtocolError (Option Json × List Bytes) := do
  let (header, chunks) ← recvExact 4 chunks
  match header with
  | none => .ok (none, chunks)
  | some header =>
    let length := unpack header
    check (length ≤ maxFrameBytes)
      ⟨.frameTooLarge, .stated s!"declared frame length {length} exceeds the maximum"⟩
    check (length ≠ 0) (.malformed "zero-length frame")
    let (payload, chunks) ← recvExact length chunks
    match payload with
    | none => .error (.malformed "truncated frame payload")
    | some payload => do
      let message ← decodeFrame payload
      .ok (some message, chunks)

/-- How a session's reads end. -/
inductive ReadEnd where
  | eof
  | failed (error : WorkerProtocolError)
  | more

/-- At most `calls` calls of `read_message`: the messages read, and how the reads end. -/
def readMessages : ℕ → List Bytes → List Json × ReadEnd
  | 0, _ => ([], .more)
  | calls + 1, chunks =>
    match readMessage chunks with
    | .error error => ([], .failed error)
    | .ok (none, _) => ([], .eof)
    | .ok (some message, chunks) =>
      (message :: (readMessages calls chunks).1, (readMessages calls chunks).2)

end Format

/-! ### Receiving exactly -/

/-- Chunks of a stream: none is empty. -/
private def Chunks (chunks : List Bytes) : Prop := ∀ chunk ∈ chunks, chunk ≠ []

private theorem Chunks.tail {chunk : Bytes} {chunks : List Bytes} (h : Chunks (chunk :: chunks)) :
    Chunks chunks := fun c hc => h c (List.mem_cons_of_mem _ hc)

/-- One `recv` takes bytes off the front of the stream, as long as there are any. -/
private theorem recv_spec {size : ℕ} {chunks : List Bytes} (hsize : 0 < size)
    (hchunks : Chunks chunks) : ∃ bytes rest, recv size chunks = (bytes, rest) ∧ Chunks rest ∧
      chunks.flatten = bytes ++ rest.flatten ∧ bytes.length ≤ size ∧
      (bytes = [] → chunks = []) := by
  cases chunks with
  | nil => exact ⟨[], [], rfl, hchunks, rfl, Nat.zero_le _, fun _ => rfl⟩
  | cons chunk chunks =>
    have hchunk : chunk ≠ [] := hchunks chunk List.mem_cons_self
    by_cases hle : chunk.length ≤ size
    · exact ⟨chunk, chunks, if_pos hle, hchunks.tail, rfl, hle, fun h => absurd h hchunk⟩
    · refine ⟨chunk.take size, chunk.drop size :: chunks, if_neg hle, ?_, ?_,
        List.length_take_le size chunk, fun h => ?_⟩
      · -- The rest of a chunk that was cut is not empty.
        intro c hc
        rcases List.mem_cons.mp hc with rfl | hc
        · exact fun h => hle (List.drop_eq_nil_iff.mp h)
        · exact hchunks.tail c hc
      · rw [List.flatten_cons, List.flatten_cons, ← List.append_assoc, List.take_append_drop]
      · rcases List.take_eq_nil_iff.mp h with h | h
        · omega
        · exact absurd h hchunk

/-- **The loop of `recv_exact`**: all the bytes asked for, or all that there were and a failure. -/
private theorem recvLoop_spec {remaining : ℕ} {received : Bytes} {chunks : List Bytes}
    (hchunks : Chunks chunks) :
    (remaining ≤ chunks.flatten.length ∧ ∃ rest, Chunks rest ∧
      rest.flatten = chunks.flatten.drop remaining ∧
      recvLoop remaining received chunks =
        .ok (some (received ++ chunks.flatten.take remaining), rest)) ∨
    (chunks.flatten.length < remaining ∧ recvLoop remaining received chunks =
      if received ++ chunks.flatten = [] then .ok (none, [])
      else .error (.malformed "connection closed mid-frame")) := by
  induction remaining using Nat.strong_induction_on generalizing received chunks with
  | _ remaining ih =>
    by_cases hzero : remaining = 0
    · subst hzero
      refine .inl ⟨Nat.zero_le _, chunks, hchunks, rfl, ?_⟩
      rw [recvLoop, if_pos rfl, List.take_zero, List.append_nil]
    have hsize : 0 < min remaining 65536 := by omega
    obtain ⟨bytes, rest, hrecv, hrest, hflatten, hlength, hempty⟩ := recv_spec hsize hchunks
    rw [recvLoop, if_neg hzero, hrecv]
    cases bytes with
    | nil =>
      obtain rfl := hempty rfl
      refine .inr ⟨Nat.pos_of_ne_zero hzero, ?_⟩
      rw [List.flatten_nil, List.append_nil]
    | cons byte bytes =>
      rw [hflatten, List.length_append]
      have hle : (byte :: bytes).length ≤ remaining := by omega
      have hstep := @ih (remaining - (byte :: bytes).length)
        (by simp only [List.length_cons]; omega) (received ++ byte :: bytes) rest hrest
      rcases hstep with ⟨hrest_le, rest', hrest', hdrop, heq⟩ | ⟨hlt, heq⟩
      · refine .inl ⟨by omega, rest', hrest', ?_, ?_⟩
        · rw [hdrop, List.drop_append, List.drop_of_length_le hle, List.nil_append]
        · rw [List.take_append, List.take_of_length_le hle, ← List.append_assoc]
          exact heq
      · refine .inr ⟨by omega, ?_⟩
        rw [← List.append_assoc]
        exact heq

/-- `recv_exact` reads the bytes asked for when the stream still has them. -/
private theorem recvExact_of_le {size : ℕ} {chunks : List Bytes} (hchunks : Chunks chunks)
    (h : size ≤ chunks.flatten.length) : ∃ rest, Chunks rest ∧
      rest.flatten = chunks.flatten.drop size ∧
      recvExact size chunks = .ok (some (chunks.flatten.take size), rest) := by
  rcases @recvLoop_spec size [] chunks hchunks with ⟨_, rest, hrest, hdrop, heq⟩ | ⟨hlt, _⟩
  · exact ⟨rest, hrest, hdrop, heq⟩
  · omega

/-- `recv_exact` says that nothing is left, and fails on less than was asked for. -/
private theorem recvExact_of_lt {size : ℕ} {chunks : List Bytes} (hchunks : Chunks chunks)
    (h : chunks.flatten.length < size) : recvExact size chunks =
      if chunks.flatten = [] then .ok (none, [])
      else .error (.malformed "connection closed mid-frame") := by
  rcases @recvLoop_spec size [] chunks hchunks with ⟨hle, _⟩ | ⟨_, heq⟩
  · omega
  · exact heq

/-! ### One frame -/

section Format

variable [FloatFormat]

/-- What the frame of a message is made of. -/
private theorem encodeFrame_spec {message : Dict} {frame : Bytes}
    (h : encodeFrame message.value = .ok frame) : ∃ text,
      message.value.dumps = some text ∧ frame = pack (encodeUtf8 text).length ++ encodeUtf8 text ∧
      0 < (encodeUtf8 text).length ∧ (encodeUtf8 text).length ≤ maxFrameBytes := by
  unfold encodeFrame at h
  cases hdumps : message.value.dumps with
  | none =>
    rw [hdumps] at h
    cases h
  | some text =>
    rw [hdumps] at h
    dsimp only at h
    split_ifs at h with hlarge
    refine ⟨text, rfl, (Except.ok.inj h).symm, ?_, not_lt.mp hlarge⟩
    -- The text of an object starts with a brace.
    have htext : message.value.text = text := by
      unfold Json.dumps at hdumps
      split_ifs at hdumps
      exact Option.some.inj hdumps
    rw [← htext, Dict.value, Json.text_object, encodeUtf8, List.flatMap_cons,
      List.length_append]
    exact Nat.add_pos_left (by decide) _

/-- The payload of a frame is decoded to the message. -/
private theorem decodeFrame_payload {message : Dict} {text : List Char}
    (hplain : message.value.all Json.plain = true) (hdumps : message.value.dumps = some text)
    (hsize : (encodeUtf8 text).length ≤ maxFrameBytes) :
    decodeFrame (encodeUtf8 text) = .ok message.value.canonical := by
  have hwritable : message.value.all Json.writable = true := by
    unfold Json.dumps at hdumps
    split_ifs at hdumps with hwritable
    exact hwritable
  have hloads := Json.loads_dumps ⟨hwritable, hplain, message.distinct⟩ hdumps
  unfold decodeFrame
  rw [if_neg (not_lt.mpr hsize), decodeUtf8_encodeUtf8]
  dsimp only
  rw [hloads, Dict.value, Json.canonical_object]

/-- A frame at the head of the stream is read as the value of its payload. -/
private theorem readMessage_payload {text : List Char} {value : Json} {after : Bytes}
    {chunks : List Bytes} (hpos : 0 < (encodeUtf8 text).length)
    (hsize : (encodeUtf8 text).length ≤ maxFrameBytes)
    (hdecode : decodeFrame (encodeUtf8 text) = .ok value) (hchunks : Chunks chunks)
    (hbytes : chunks.flatten = pack (encodeUtf8 text).length ++ encodeUtf8 text ++ after) :
    ∃ rest, Chunks rest ∧ rest.flatten = after ∧
      readMessage chunks = .ok (some value, rest) := by
  have hpack : (pack (encodeUtf8 text).length).length = 4 := rfl
  -- The header.
  obtain ⟨middle, hmiddle, hdrop, hheader⟩ := @recvExact_of_le 4 chunks hchunks (by
    rw [hbytes, List.length_append, List.length_append, hpack]
    omega)
  rw [hbytes, List.append_assoc, List.take_left' hpack] at hheader
  rw [hbytes, List.append_assoc, List.drop_left' hpack] at hdrop
  -- The payload.
  obtain ⟨rest, hrest, hdrop', hpayload⟩ :=
    @recvExact_of_le (encodeUtf8 text).length middle hmiddle (by
      rw [hdrop, List.length_append]
      omega)
  rw [hdrop, List.take_left' rfl] at hpayload
  rw [hdrop, List.drop_left' rfl] at hdrop'
  refine ⟨rest, hrest, hdrop', ?_⟩
  have hunpack : unpack (pack (encodeUtf8 text).length) = (encodeUtf8 text).length :=
    unpack_pack (lt_of_le_of_lt hsize (by decide))
  refine bind_eq_ok.mpr ⟨_, hheader, ?_⟩
  simp only [hunpack]
  refine check_bind_eq_ok.mpr ⟨hsize, check_bind_eq_ok.mpr ⟨Nat.pos_iff_ne_zero.mp hpos, ?_⟩⟩
  refine bind_eq_ok.mpr ⟨_, hpayload, ?_⟩
  exact bind_eq_ok.mpr ⟨_, hdecode, rfl⟩

/-- **A frame at the head of the stream is read as its message.** -/
private theorem readMessage_frame {message : Dict} {frame after : Bytes} {chunks : List Bytes}
    (hplain : message.value.all Json.plain = true) (hframe : encodeFrame message.value = .ok frame)
    (hchunks : Chunks chunks) (hbytes : chunks.flatten = frame ++ after) :
    ∃ rest, Chunks rest ∧ rest.flatten = after ∧
      readMessage chunks = .ok (some message.value.canonical, rest) := by
  obtain ⟨text, hdumps, rfl, hpos, hsize⟩ := encodeFrame_spec hframe
  exact readMessage_payload hpos hsize (decodeFrame_payload hplain hdumps hsize) hchunks hbytes

/-- **A frame that the stream cuts is refused.** -/
private theorem readMessage_cut {message : Dict} {frame : Bytes} {k : ℕ} {chunks : List Bytes}
    (hframe : encodeFrame message.value = .ok frame) (hchunks : Chunks chunks)
    (hbytes : chunks.flatten = frame.take k) (hpos : 0 < k) (hcut : k < frame.length) :
    ∃ message, readMessage chunks = .error (.malformed message) := by
  obtain ⟨text, hdumps, rfl, htext, hsize⟩ := encodeFrame_spec hframe
  have hpack : (pack (encodeUtf8 text).length).length = 4 := rfl
  have hlength : chunks.flatten.length = k := by
    rw [hbytes, List.length_take]
    omega
  rw [List.length_append, hpack] at hcut
  by_cases hheader : k < 4
  · -- The header itself is cut.
    have hne : chunks.flatten ≠ [] := fun hnil => by
      rw [hnil, List.length_nil] at hlength
      omega
    have hread := @recvExact_of_lt 4 chunks hchunks (by omega)
    rw [if_neg hne] at hread
    unfold readMessage
    rw [hread]
    exact ⟨_, rfl⟩
  · obtain ⟨middle, hmiddle, hdrop, hread⟩ := @recvExact_of_le 4 chunks hchunks (by omega)
    have htake : chunks.flatten.take 4 = pack (encodeUtf8 text).length := by
      rw [hbytes, List.take_take, Nat.min_eq_left (by omega), List.take_left' hpack]
    rw [htake] at hread
    have hunpack : unpack (pack (encodeUtf8 text).length) = (encodeUtf8 text).length :=
      unpack_pack (lt_of_le_of_lt hsize (by decide))
    have hmiddleLength : middle.flatten.length = k - 4 := by
      rw [hdrop, List.length_drop, hlength]
    have hpayload := @recvExact_of_lt (encodeUtf8 text).length middle hmiddle (by omega)
    unfold readMessage
    rw [hread]
    simp only [ok_bind, hunpack, check_pos hsize, check_pos htext.ne', hpayload]
    split_ifs
    · exact ⟨_, rfl⟩
    · exact ⟨_, rfl⟩

/-- A stream that ended between frames. -/
private theorem readMessage_end {chunks : List Bytes} (hchunks : Chunks chunks)
    (hbytes : chunks.flatten = []) : readMessage chunks = .ok (none, []) := by
  have hread := @recvExact_of_lt 4 chunks hchunks (by simp [hbytes])
  rw [if_pos hbytes] at hread
  exact bind_eq_ok.mpr ⟨_, hread, rfl⟩

/-! ### A stream of frames -/

/-- The frames of a list of messages. -/
def FramesOf (messages : List Dict) (frames : List Bytes) : Prop :=
  List.Forall₂ (fun message frame => encodeFrame message.value = .ok frame) messages frames

/-- **The frames at the head of the stream are read in order**, and then what follows them. -/
private theorem readMessages_append {messages : List Dict} {frames : List Bytes}
    (hplain : ∀ message ∈ messages, message.value.all Json.plain = true)
    (hframes : FramesOf messages frames) {after : Bytes} {chunks : List Bytes}
    (hchunks : Chunks chunks) (hbytes : chunks.flatten = frames.flatten ++ after) :
    ∃ rest, Chunks rest ∧ rest.flatten = after ∧ ∀ calls,
      readMessages (messages.length + calls) chunks =
        (messages.map (·.value.canonical) ++ (readMessages calls rest).1,
          (readMessages calls rest).2) := by
  induction hframes generalizing chunks with
  | nil =>
    refine ⟨chunks, hchunks, hbytes, fun calls => ?_⟩
    rw [List.length_nil, Nat.zero_add]
    rfl
  | @cons message frame messages frames hframe _ ih =>
    rw [List.flatten_cons, List.append_assoc] at hbytes
    obtain ⟨middle, hmiddle, hmiddleBytes, hread⟩ :=
      readMessage_frame (hplain message List.mem_cons_self) hframe hchunks hbytes
    obtain ⟨rest, hrest, hrestBytes, hreads⟩ :=
      ih (fun m hm => hplain m (List.mem_cons_of_mem _ hm)) hmiddle hmiddleBytes
    refine ⟨rest, hrest, hrestBytes, fun calls => ?_⟩
    rw [List.length_cons, Nat.add_right_comm, readMessages, hread]
    simp only [hreads, List.map_cons, List.cons_append]

omit [FloatFormat] in
/-- A position that is no boundary lies inside a frame. -/
private theorem exists_frame_of_cut {frames : List Bytes} {k : ℕ} (hk : k ≤ frames.flatten.length)
    (hcut : ∀ i, (frames.take i).flatten.length ≠ k) : ∃ i frame, frames[i]? = some frame ∧
      (frames.take i).flatten.length < k ∧ k < (frames.take i).flatten.length + frame.length := by
  induction frames generalizing k with
  | nil => exact absurd (Nat.le_zero.mp hk).symm (hcut 0)
  | cons frame frames ih =>
    have hpos : k ≠ 0 := fun h => hcut 0 h.symm
    have hfirst : frame.length ≠ k := fun h => hcut 1 (by simpa using h)
    by_cases hlt : k < frame.length
    · exact ⟨0, frame, rfl, Nat.pos_of_ne_zero hpos, by simpa using hlt⟩
    · rw [List.flatten_cons, List.length_append] at hk
      obtain ⟨i, found, hfound, hlow, hhigh⟩ := @ih (k - frame.length) (by omega) fun i hi =>
        hcut (i + 1) (by
          rw [List.take_succ_cons, List.flatten_cons, List.length_append]
          omega)
      refine ⟨i + 1, found, hfound, ?_⟩
      rw [List.take_succ_cons, List.flatten_cons, List.length_append]
      omega

/-- **Frames are read back however the stream arrives in chunks**, and a stream cut inside a frame
    fails after the complete messages. -/
theorem readMessages_frames {messages : List Dict} {frames : List Bytes}
    (hplain : ∀ message ∈ messages, message.value.all Json.plain = true)
    (hframes : FramesOf messages frames) (stream : PeerStream) :
    (stream.bytes = frames.flatten → ∀ calls, messages.length < calls →
      readMessages calls stream.chunks = (messages.map (·.value.canonical), .eof)) ∧
    ∀ k ≤ frames.flatten.length, (∀ i, (frames.take i).flatten.length ≠ k) →
      stream.bytes = frames.flatten.take k →
      ∃ i reason, i < messages.length ∧ (frames.take i).flatten.length < k ∧
        k < (frames.take (i + 1)).flatten.length ∧ ∀ calls, i < calls →
          readMessages calls stream.chunks =
            ((messages.take i).map (·.value.canonical), .failed (.malformed reason)) := by
  constructor
  · intro hbytes calls hcalls
    obtain ⟨rest, hrest, hend, hreads⟩ := readMessages_append hplain hframes stream.nonempty
      (hbytes.trans (List.append_nil _).symm)
    obtain ⟨more, rfl⟩ := Nat.exists_eq_add_of_lt hcalls
    rw [Nat.add_assoc, hreads, readMessages, readMessage_end hrest hend, List.append_nil]
  · intro k hk hcut hbytes
    obtain ⟨i, frame, hframe, hlow, hhigh⟩ := exists_frame_of_cut hk hcut
    have hi : i < frames.length := (List.getElem?_eq_some_iff.mp hframe).1
    have hlength : messages.length = frames.length := hframes.length_eq
    -- The complete frames, then the front of the one that is cut.
    have hsplit : frames.flatten =
        (frames.take i).flatten ++ (frame ++ (frames.drop (i + 1)).flatten) := by
      conv => lhs; rw [← List.take_append_drop i frames, List.drop_eq_getElem_cons hi]
      rw [List.flatten_append, List.flatten_cons]
      rw [List.getElem?_eq_getElem hi] at hframe
      rw [Option.some.inj hframe]
    have htake : frames.flatten.take k =
        (frames.take i).flatten ++ frame.take (k - (frames.take i).flatten.length) := by
      rw [hsplit, List.take_append, List.take_of_length_le hlow.le, List.take_append,
        Nat.sub_eq_zero_of_le (n := k - (frames.take i).flatten.length) (m := frame.length)
          (by omega), List.take_zero, List.append_nil]
    obtain ⟨rest, hrest, hcutBytes, hreads⟩ := readMessages_append
      (fun m hm => hplain m (List.mem_of_mem_take hm)) (List.forall₂_take i hframes)
      stream.nonempty (hbytes.trans htake)
    have hmessage : encodeFrame messages[i].value = .ok frame := by
      rw [← (List.getElem?_eq_some_iff.mp hframe).2]
      exact List.Forall₂.get hframes (hlength ▸ hi) hi
    obtain ⟨reason, hfail⟩ := readMessage_cut hmessage hrest hcutBytes (by omega) (by omega)
    refine ⟨i, reason, by omega, hlow, ?_, fun calls hcalls => ?_⟩
    · rw [List.take_add_one, hframe, List.flatten_append, List.length_append]
      simpa using hhigh
    · obtain ⟨more, rfl⟩ := Nat.exists_eq_add_of_lt hcalls
      have hstop : readMessages (more + 1) rest = ([], .failed (.malformed reason)) := by
        rw [readMessages, hfail]
      have hreads := hreads (more + 1)
      rw [List.length_take, Nat.min_eq_left (by omega), hstop, List.append_nil] at hreads
      exact hreads

end Format

private def heartbeatMessage : Dict where
  members :=
    [(Text.ofString "type", .string (Text.ofString "heartbeat")), (Text.ofString "seq", .int 7)]
  distinct := by decide +kernel

/-- Frames that arrive byte by byte are read back. -/
theorem readMessages_frames_heartbeat : let _ := binaryFormat
    ∃ frame, encodeFrame heartbeatMessage.value = .ok frame ∧
      readMessages 2 (frame.map ([·])) = ([heartbeatMessage.value.canonical], .eof) := by
  intro format
  have hdumps : heartbeatMessage.value.dumps =
      some "\x7b\"seq\":7,\"type\":\"heartbeat\"\x7d".toList := by
    decide +kernel
  have hframe : ∃ frame, encodeFrame heartbeatMessage.value = .ok frame := by
    unfold encodeFrame
    rw [hdumps]
    exact ⟨_, if_neg (by decide +kernel)⟩
  obtain ⟨frame, hframe⟩ := hframe
  have hplain : ∀ message ∈ [heartbeatMessage], message.value.all Json.plain = true := by
    decide +kernel
  let stream : PeerStream := ⟨frame.map ([·]), by simp⟩
  have hbytes : stream.bytes = [frame].flatten := by
    rw [List.flatten_singleton]
    exact List.flatMap_singleton' frame
  exact ⟨frame, hframe,
    (readMessages_frames hplain (.cons hframe .nil) stream).1 hbytes 2 (by decide)⟩

/-! ### Surrogate pairs -/

/-- A message whose text spells one character by its two surrogates, which Python allows. -/
private def splitMessage : Dict where
  members :=
    [(Text.ofString "content", .string [0xD83D, 0xDE00]),
      (Text.ofString "type", .string (Text.ofString "execute_tool_result"))]
  distinct := by decide +kernel

private def splitText : List Char :=
  "\x7b\"content\":\"\\ud83d\\ude00\",\"type\":\"execute_tool_result\"\x7d".toList

/-- An object that spells no surrogate pair. -/
private def isPlainObject : Json → Bool
  | .object members => (Json.object members).all Json.plain
  | _ => false

private theorem exists_of_isPlainObject {value : Json} (h : isPlainObject value = true) :
    ∃ members, value = .object members := by
  cases value with
  | object members => exact ⟨members, rfl⟩
  | _ => exact absurd h Bool.false_ne_true

/-- **A surrogate pair is read back as the one character it spells.** -/
theorem readMessages_joins_surrogates : let _ := binaryFormat
    ¬ ∀ (messages : List Dict) (frames : List Bytes), FramesOf messages frames →
      ∀ stream : PeerStream, stream.bytes = frames.flatten → ∀ calls, messages.length < calls →
        readMessages calls stream.chunks = (messages.map (·.value.canonical), .eof) := by
  intro format h
  have hdumps : splitMessage.value.dumps = some splitText := by decide +kernel
  have hsize : (encodeUtf8 splitText).length ≤ maxFrameBytes := by decide +kernel
  have hframe : encodeFrame splitMessage.value =
      .ok (pack (encodeUtf8 splitText).length ++ encodeUtf8 splitText) := by
    unfold encodeFrame
    rw [hdumps]
    exact if_neg (not_lt.mpr hsize)
  -- The text is read as an object without surrogate pairs, unlike the message.
  obtain ⟨value, hloads, hvalue⟩ := (Option.any_eq_true isPlainObject _).mp
    (show (Json.loads splitText).any isPlainObject = true by decide +kernel)
  obtain ⟨members, rfl⟩ := exists_of_isPlainObject hvalue
  have hdecode : decodeFrame (encodeUtf8 splitText) = .ok (.object members) := by
    unfold decodeFrame
    rw [if_neg (not_lt.mpr hsize), decodeUtf8_encodeUtf8]
    dsimp only
    rw [hloads]
  let stream : PeerStream :=
    ⟨[pack (encodeUtf8 splitText).length ++ encodeUtf8 splitText], by simp [pack]⟩
  obtain ⟨rest, _, _, hread⟩ := readMessage_payload (by decide +kernel) hsize
    hdecode stream.nonempty (show stream.chunks.flatten = _ ++ [] by simp [stream])
  have hreads := h [splitMessage] [_] (.cons hframe .nil) stream (by simp [stream, PeerStream.bytes])
    2 (by decide)
  rw [readMessages, hread] at hreads
  have hvalues : Json.object members = splitMessage.value.canonical :=
    (List.cons.inj (congrArg Prod.fst hreads)).1
  have hcanonical : isPlainObject splitMessage.value.canonical = false := by decide +kernel
  rw [hvalues, hcanonical] at hvalue
  exact Bool.false_ne_true hvalue

end ScarcityRouter
