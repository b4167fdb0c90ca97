import Pybrid.Library.Framing
import Pybrid.Library.Transition
import Pybrid.Native.Varint

/-! Varint framing of the TCP transport: the sender's frames and the reassembly of any segmentation. -/

namespace Pybrid

/-- Maximum size of a single varint-framed TCP message. -/
def defaultTcpMessageSize : Nat := 262084

/-- The receive side of a TCP transport, as the io thread sees it. -/
structure TcpTransport where
  /-- The first `recv_buffer_used_` bytes of the reassembly buffer. -/
  recvBuffer : List UInt8
  /-- The allocated size of the reassembly buffer. -/
  recvBufferSize : Nat
  /-- Complete messages waiting for `recv`, oldest first. -/
  recvQueue : List (List UInt8)
  /-- The transport has been started and not stopped. -/
  running : Bool
  /-- Cleared by a read error and by a protocol error. -/
  connected : Bool
  /-- The socket exists and is open. -/
  socketOpen : Bool
  /-- Statistics counters. -/
  bytesReceived : Nat
  messagesReceived : Nat
  deriving DecidableEq, Repr

namespace TcpTransport

/-- The size the reassembly buffer is constructed with. -/
def initialBufferSize : Nat := maxVarintSize + defaultTcpMessageSize

/-- A transport whose connection has just been established. -/
def fresh : TcpTransport where
  recvBuffer := []
  recvBufferSize := initialBufferSize
  recvQueue := []
  running := true
  connected := true
  socketOpen := true
  bytesReceived := 0
  messagesReceived := 0

/-- Move every complete frame of the reassembly buffer into the receive queue. -/
def processRecvBuffer (t : TcpTransport) : TcpTransport :=
  -- An empty buffer, an incomplete prefix and an incomplete payload all wait for further bytes.
  if 0 < t.recvBuffer.length then
    let varintBytes := (decodeVarint t.recvBuffer).1
    let msgLen := (decodeVarint t.recvBuffer).2.toNat
    if varintBytes = 0 then t
    -- The queue entry holds exactly the admitted size, so the later capacity check is the same one.
    else if defaultTcpMessageSize < msgLen then { t with connected := false }
    else if t.recvBuffer.length < varintBytes + msgLen then t
    else
      -- The receive queue is unbounded, and every entry has the slot size it was built for.
      processRecvBuffer
        { t with
          recvQueue := t.recvQueue ++ [(t.recvBuffer.drop varintBytes).take msgLen]
          messagesReceived := t.messagesReceived + 1
          recvBuffer := t.recvBuffer.drop (varintBytes + msgLen) }
  else t
termination_by t.recvBuffer.length
decreasing_by
  simp only [List.length_drop]
  omega

/-- Arm the next read: grow a full buffer, and offer the space behind the bytes already held. -/
def startReceive (t : TcpTransport) : Option (TcpTransport × Nat) :=
  -- Without a running, connected transport and an open socket no read is started.
  if t.running && t.connected && t.socketOpen then
    let t :=
      if t.recvBufferSize - t.recvBuffer.length = 0 then
        { t with recvBufferSize := t.recvBufferSize * 2 }
      else t
    some (t, t.recvBufferSize - t.recvBuffer.length)
  else none

/-- Completion of a read: append the bytes, then take out the complete frames. -/
def handleRead (t : TcpTransport) (read : List UInt8) : TcpTransport :=
  -- The bytes read land directly behind those already held.
  processRecvBuffer
    { t with
      recvBuffer := t.recvBuffer ++ read
      bytesReceived := t.bytesReceived + read.length }

/-- `reset_buffers`, between two reads: back to the initial size, and only the bytes that fit stay. -/
def resetBuffers (t : TcpTransport) : TcpTransport :=
  -- The receive queue is left alone.
  { t with
    recvBuffer := t.recvBuffer.take initialBufferSize
    recvBufferSize := initialBufferSize }

/-- One armed read and its completion, with a non-empty part of the stream that fits the space. -/
def receive (t : TcpTransport) (read : List UInt8) : Option TcpTransport :=
  -- A read completes with at least one byte, and never with more than it was offered.
  match t.startReceive with
  | some (armed, space) =>
    if read ≠ [] ∧ read.length ≤ space then some (armed.handleRead read) else none
  | none => none

/-- A reset changes nothing just for a buffer of the initial size whose bytes lie within it. -/
theorem resetBuffers_eq_self_iff (t : TcpTransport) :
    t.resetBuffers = t ↔
      t.recvBufferSize = initialBufferSize ∧ t.recvBuffer.length ≤ initialBufferSize := by
  cases t with
  | mk buffer size queue running connected socketOpen bytes messages =>
    simp only [resetBuffers, mk.injEq, List.take_eq_self_iff, and_true]
    constructor
    · rintro ⟨within, same⟩
      exact ⟨same.symm, within⟩
    · rintro ⟨same, within⟩
      exact ⟨within, same.symm⟩

/-- The space offered to the next read, nothing when no read is armed. -/
def offeredSpace (t : TcpTransport) : Nat :=
  match t.startReceive with
  | some (_, space) => space
  | none => 0

/-- Every read is non-empty and no larger than the space offered at its turn. -/
def ReadsFit (t : TcpTransport) (reads : List (List UInt8)) : Prop :=
  Transition.Meets receive (fun turn read => read ≠ [] ∧ read.length ≤ turn.offeredSpace) t reads

end TcpTransport

/-- The length prefix `send_loop` writes in front of a queued message. -/
def lengthPrefix (message : List UInt8) : List UInt8 :=
  -- The queue entry stores its length in 32 bits, and the encoder widens it to 64.
  encodeVarint (UInt32.ofNat message.length).toUInt64

/-- The bytes `send_loop` writes for one queued message. -/
def wireFrame (message : List UInt8) : List UInt8 :=
  -- The prefix and the payload are written as one buffer sequence.
  lengthPrefix message ++ message

/-- A message `send` accepts. -/
def AdmittedMessage (message : List UInt8) : Prop :=
  -- Longer messages are refused before they are queued.
  message.length ≤ defaultTcpMessageSize

/-- The 32-bit length field of an admitted message holds its length. -/
theorem lengthField_toNat {message : List UInt8} (admitted : AdmittedMessage message) :
    ((UInt32.ofNat message.length).toUInt64).toNat = message.length := by
  -- The admitted size is far below what 32 bits can hold.
  simp only [AdmittedMessage, defaultTcpMessageSize] at admitted
  rw [UInt32.toNat_toUInt64, UInt32.toNat_ofNat']
  omega

/-- The length prefix of an admitted message takes one to three bytes. -/
theorem lengthPrefix_length {message : List UInt8} (admitted : AdmittedMessage message) :
    0 < (lengthPrefix message).length ∧ (lengthPrefix message).length ≤ 3 := by
  -- The admitted size is below 128 to the third power.
  refine ⟨List.length_pos_of_ne_nil (encodeVarint_ne_nil _), encodeVarint_length_le 2 _ ?_⟩
  rw [lengthField_toNat admitted]
  simp only [AdmittedMessage, defaultTcpMessageSize] at admitted
  omega

/-- The decoder reads back the length the sender wrote, whatever follows it. -/
theorem decodeVarint_lengthPrefix {message : List UInt8} (admitted : AdmittedMessage message)
    (rest : List UInt8) :
    (decodeVarint (lengthPrefix message ++ rest)).1 = (lengthPrefix message).length ∧
      (decodeVarint (lengthPrefix message ++ rest)).2.toNat = message.length := by
  -- The prefix is an encoded value, so the decoder stops right behind it.
  rw [lengthPrefix, decodeVarint_encodeVarint]
  exact ⟨rfl, lengthField_toNat admitted⟩

/-- A frame is never empty. -/
theorem wireFrame_ne_nil (message : List UInt8) : wireFrame message ≠ [] := by
  -- Even an empty message has a length prefix.
  simp [wireFrame, lengthPrefix, encodeVarint_ne_nil]

/-- What is held of an incomplete frame leaves room in the initial reassembly buffer. -/
theorem pending_length_lt {messages : List (List UInt8)} {held : List UInt8}
    (admitted : ∀ message ∈ messages, AdmittedMessage message)
    (pending : Framing.Pending wireFrame messages held) :
    held.length < TcpTransport.initialBufferSize := by
  -- The buffer was sized for the longest frame, and what is held is shorter than one.
  cases messages with
  | nil =>
    have empty : held = [] := pending
    simp [empty, TcpTransport.initialBufferSize, maxVarintSize]
  | cons message messages =>
    have admitted := admitted message (by simp)
    obtain ⟨missing, _, cut⟩ := pending
    have total := congrArg List.length cut
    have short := (lengthPrefix_length admitted).2
    simp only [wireFrame, List.length_append] at total
    simp only [AdmittedMessage] at admitted
    simp only [TcpTransport.initialBufferSize, maxVarintSize]
    omega

namespace TcpTransport

/-- A complete frame at the front of the buffer becomes one queued message. -/
theorem processRecvBuffer_frame (t : TcpTransport) (message rest : List UInt8)
    (admitted : AdmittedMessage message) (front : t.recvBuffer = wireFrame message ++ rest) :
    t.processRecvBuffer =
      processRecvBuffer
        { t with
          recvQueue := t.recvQueue ++ [message]
          messagesReceived := t.messagesReceived + 1
          recvBuffer := rest } := by
  -- The decoder answers the length the sender wrote, and every guard of the loop passes.
  rw [wireFrame, List.append_assoc] at front
  have written := (lengthPrefix_length admitted).1
  obtain ⟨consumed, length⟩ := decodeVarint_lengthPrefix admitted (message ++ rest)
  have whole : (lengthPrefix message).length + message.length ≤ t.recvBuffer.length := by
    simp only [front, List.length_append]
    omega
  -- Behind the prefix lie the message itself and then the rest of the buffer.
  have payload : (t.recvBuffer.drop (lengthPrefix message).length).take message.length =
      message := by
    simp [front]
  have remaining : t.recvBuffer.drop ((lengthPrefix message).length + message.length) = rest := by
    simp [front, ← List.drop_drop]
  rw [← front] at consumed length
  rw [processRecvBuffer]
  simp only [consumed, length, if_pos (by omega : 0 < t.recvBuffer.length), if_neg written.ne',
    if_neg (Nat.not_lt.mpr admitted), if_neg (Nat.not_lt.mpr whole), payload, remaining]

/-- A cut frame is cut strictly inside its length prefix, or somewhere behind it. -/
theorem wireFrame_cut {message held missing : List UInt8}
    (cut : wireFrame message = held ++ missing) :
    (∃ open_, open_ ≠ [] ∧ lengthPrefix message = held ++ open_) ∨
      ∃ part, held = lengthPrefix message ++ part ∧ message = part ++ missing := by
  -- The frame is prefix and payload, so the cut falls into one of them.
  rw [wireFrame, List.append_eq_append_iff] at cut
  rcases cut with ⟨part, behind, payload⟩ | ⟨open_, inside, payload⟩
  · exact .inr ⟨part, behind, payload⟩
  · by_cases closed : open_ = []
    · subst closed
      exact .inr ⟨[], by simpa using inside.symm, by simpa using payload.symm⟩
    · exact .inl ⟨open_, closed, inside⟩

/-- An incomplete frame stays in the buffer. -/
theorem processRecvBuffer_pending (t : TcpTransport) (messages : List (List UInt8))
    (admitted : ∀ message ∈ messages, AdmittedMessage message)
    (pending : Framing.Pending wireFrame messages t.recvBuffer) :
    t.processRecvBuffer = t := by
  -- Nothing, an open prefix, or too little payload: each one ends the loop.
  rw [processRecvBuffer]
  cases messages with
  | nil =>
    have empty : t.recvBuffer = [] := pending
    simp [empty]
  | cons message messages =>
    have admitted := admitted message (by simp)
    obtain ⟨missing, strict, cut⟩ := pending
    rcases wireFrame_cut cut with ⟨open_, unclosed, inside⟩ | ⟨part, held, payload⟩
    · have waiting := decodeVarint_strict_prefix inside unclosed
      simp [waiting]
    · -- The length is known, and the payload is shorter than it says.
      obtain ⟨consumed, length⟩ := decodeVarint_lengthPrefix admitted part
      rw [← held] at consumed length
      have short : t.recvBuffer.length < (lengthPrefix message).length + message.length := by
        have behind := List.length_pos_of_ne_nil strict
        have total := congrArg List.length payload
        rw [held]
        simp only [List.length_append] at total ⊢
        omega
      simp only [consumed, length, if_neg (Nat.not_lt.mpr admitted), if_pos short, ite_self]

/-- Processing whole frames and a partial one queues the former and keeps the latter. -/
theorem processRecvBuffer_stream {messages : List (List UInt8)} {held : List UInt8} :
    ∀ (done : List (List UInt8)) (t : TcpTransport),
      (∀ message ∈ done ++ messages, AdmittedMessage message) →
      Framing.Pending wireFrame messages held →
      t.recvBuffer = Framing.stream wireFrame done ++ held →
      t.processRecvBuffer =
        { t with
          recvQueue := t.recvQueue ++ done
          messagesReceived := t.messagesReceived + done.length
          recvBuffer := held } := by
  -- The loop takes one frame per round, in the order of the stream.
  intro done
  induction done with
  | nil =>
    intro t admitted pending buffered
    have buffered : t.recvBuffer = held := by simpa using buffered
    rw [processRecvBuffer_pending t messages (by simpa using admitted)
      (by rw [buffered]; exact pending)]
    simp [← buffered]
  | cons message done ih =>
    intro t admitted pending buffered
    rw [processRecvBuffer_frame t message (Framing.stream wireFrame done ++ held)
      (admitted message (by simp)) (by simpa using buffered),
      ih _ (fun later member => admitted later (by simp at member ⊢; tauto)) pending rfl]
    simp [Nat.add_comm, Nat.add_left_comm]

/--
The state of a receiver that has read `received`, a prefix of the frames of `messages`.

Whole frames are queued in order, and the buffer holds exactly the strict prefix of the next one.
-/
structure Reassembled (messages : List (List UInt8)) (received : List UInt8)
    (t : TcpTransport) : Prop where
  /-- The connection is up, so that the next read is armed. -/
  connected : t.running = true ∧ t.connected = true ∧ t.socketOpen = true
  /-- The buffer has its initial size and free space, so arming a read does not grow it. -/
  roomy : t.recvBufferSize = initialBufferSize ∧ t.recvBuffer.length < initialBufferSize
  /-- The messages enqueued are the ones whose frames are complete, the others are still to come. -/
  split : ∃ rest, messages = t.recvQueue ++ rest ∧
    received = Framing.stream wireFrame t.recvQueue ++ t.recvBuffer ∧
    Framing.Pending wireFrame rest t.recvBuffer

/-- A fresh receiver has read nothing. -/
theorem fresh_reassembled (messages : List (List UInt8)) : Reassembled messages [] fresh where
  -- Nothing was read, so the first frame is missing as a whole.
  connected := ⟨rfl, rfl, rfl⟩
  roomy := ⟨rfl, by decide⟩
  split := ⟨messages, rfl, rfl, Framing.pending_nil wireFrame_ne_nil messages⟩

/-- While there is room, a read arms without growing the buffer and completes on what it offers. -/
theorem Reassembled.receive_eq {messages : List (List UInt8)} {received : List UInt8}
    {t : TcpTransport} (state : Reassembled messages received t) {read : List UInt8}
    (visible : read ≠ []) (fits : read.length ≤ t.offeredSpace) :
    t.receive read = some (t.handleRead read) := by
  obtain ⟨running, connected, socketOpen⟩ := state.connected
  obtain ⟨size, room⟩ := state.roomy
  have free : t.recvBufferSize - t.recvBuffer.length ≠ 0 := by omega
  have armed : t.startReceive = some (t, t.recvBufferSize - t.recvBuffer.length) := by
    simp [startReceive, running, connected, socketOpen, free]
  simp only [offeredSpace, armed] at fits
  simp [TcpTransport.receive, armed, visible, fits]

/-- One read keeps the receiver in step with the stream, wherever the read ends. -/
theorem Reassembled.handleRead {messages : List (List UInt8)} {received : List UInt8}
    {t : TcpTransport} (state : Reassembled messages received t)
    (admitted : ∀ message ∈ messages, AdmittedMessage message) (read later : List UInt8)
    (cut : Framing.stream wireFrame messages = received ++ read ++ later) :
    Reassembled messages (received ++ read) (t.handleRead read) := by
  obtain ⟨rest, spelled, accounted, _⟩ := state.split
  -- Only the frames not yet delivered matter, and the buffer is the part of them already read.
  have behind : Framing.stream wireFrame rest = (t.recvBuffer ++ read) ++ later := by
    rw [spelled, Framing.stream_append, accounted] at cut
    simpa using cut
  obtain ⟨done, waiting, held, parts, buffered, pending⟩ :=
    Framing.stream_cut wireFrame_ne_nil rest _ _ behind
  have processed : t.handleRead read =
      { t with
        recvQueue := t.recvQueue ++ done
        messagesReceived := t.messagesReceived + done.length
        recvBuffer := held
        bytesReceived := t.bytesReceived + read.length } := by
    rw [TcpTransport.handleRead, processRecvBuffer_stream done _ ?_ pending buffered]
    intro message member
    rw [← parts] at member
    exact admitted message (by simp [spelled, member])
  have roomy := pending_length_lt
    (fun message member => admitted message (by simp [spelled, parts, member])) pending
  rw [processed]
  refine ⟨state.connected, ⟨state.roomy.1, roomy⟩, waiting, by simp [spelled, parts], ?_, pending⟩
  simp [accounted, buffered]

/-- Reads that fit are all completed, and keep the receiver in step with the stream. -/
theorem Reassembled.run_receive {messages : List (List UInt8)}
    (admitted : ∀ message ∈ messages, AdmittedMessage message) (later : List UInt8) :
    ∀ (reads : List (List UInt8)) (received : List UInt8) (t : TcpTransport),
      Reassembled messages received t → ReadsFit t reads →
      Framing.stream wireFrame messages = received ++ reads.flatten ++ later →
      ∃ final, Transition.run receive t reads = some final ∧
        Reassembled messages (received ++ reads.flatten) final := by
  intro reads
  induction reads with
  | nil => intro received t state _ _; exact ⟨t, rfl, by simpa using state⟩
  | cons read reads ih =>
    intro received t state fit cut
    obtain ⟨⟨visible, small⟩, laterFit⟩ := fit
    have completed := state.receive_eq visible small
    have stepped := state.handleRead admitted read (reads.flatten ++ later)
      (by simpa using cut)
    obtain ⟨final, ran, reached⟩ := ih (received ++ read) (t.handleRead read) stepped
      (laterFit _ completed) (by simpa using cut)
    exact ⟨final, by simpa [Transition.run, completed] using ran, by simpa using reached⟩

/-- Once the whole stream has been read, every message is queued and nothing is held. -/
theorem Reassembled.complete {messages : List (List UInt8)} {t : TcpTransport}
    (state : Reassembled messages (Framing.stream wireFrame messages) t) :
    t.recvQueue = messages ∧ t.recvBuffer = [] := by
  obtain ⟨rest, spelled, accounted, pending⟩ := state.split
  have behind : Framing.stream wireFrame rest = t.recvBuffer := by
    rw [spelled, Framing.stream_append] at accounted
    exact List.append_cancel_left accounted
  cases rest with
  | nil => exact ⟨by simpa using spelled.symm, pending⟩
  | cons message rest =>
    -- A frame still to come would be longer than the strict prefix of it that is held.
    obtain ⟨missing, strict, cut⟩ := pending
    have total := congrArg List.length behind
    have longer := List.length_pos_of_ne_nil strict
    rw [Framing.stream_cons, cut] at total
    simp only [List.length_append] at total
    omega

/--
TCP framing survives any segmentation.

Every read is armed and completed.
After each of them the receiver has queued the complete messages, holds the strict prefix of the
next frame and has room for the next read; after the last one it has queued them all.
-/
theorem framing_survives_segmentation (messages reads : List (List UInt8))
    (admitted : ∀ message ∈ messages, AdmittedMessage message)
    (cut : reads.flatten = Framing.stream wireFrame messages) (fit : ReadsFit fresh reads) :
    (∀ before after, reads = before ++ after →
      ∃ t, Transition.run receive fresh before = some t ∧
        Reassembled messages before.flatten t) ∧
    ∃ final, Transition.run receive fresh reads = some final ∧
      final.recvQueue = messages ∧ final.recvBuffer = [] := by
  have every : ∀ before after, reads = before ++ after →
      ∃ t, Transition.run receive fresh before = some t ∧
        Reassembled messages before.flatten t := by
    intro before after whole
    have fitBefore : ReadsFit fresh before := by
      rw [whole] at fit
      exact fit.left
    simpa using Reassembled.run_receive admitted after.flatten before [] fresh
      (fresh_reassembled messages) fitBefore (by rw [← cut, whole]; simp)
  refine ⟨every, ?_⟩
  obtain ⟨final, ran, last⟩ := every reads [] (by simp)
  rw [cut] at last
  exact ⟨final, ran, last.complete⟩

/-- A receiver in step offers at least one byte to the next read. -/
theorem Reassembled.offeredSpace_pos {messages : List (List UInt8)} {received : List UInt8}
    {t : TcpTransport} (state : Reassembled messages received t) : 1 ≤ t.offeredSpace := by
  obtain ⟨running, connected, socketOpen⟩ := state.connected
  obtain ⟨size, room⟩ := state.roomy
  -- Reading starts only with free space, and there is some.
  have free : t.recvBufferSize - t.recvBuffer.length ≠ 0 := by omega
  simp [offeredSpace, startReceive, running, connected, socketOpen, free]
  omega

/-- A one-byte message whose two frame bytes arrive in separate reads. -/
theorem framing_survives_split_prefix :
    ∃ final, Transition.run receive fresh [[1], [7]] = some final ∧
      final.recvQueue = [[7]] ∧ final.recvBuffer = [] := by
  have frame : wireFrame [7] = [1, 7] := by
    simp [wireFrame, lengthPrefix, encodeVarint_eq]
  have admitted : ∀ message ∈ [[7]], AdmittedMessage message := by
    simp [AdmittedMessage, defaultTcpMessageSize]
  have start := fresh_reassembled [[7]]
  have first : Reassembled [[7]] [1] (fresh.handleRead [1]) :=
    start.handleRead admitted [1] [7] (by simp [frame])
  have completed : fresh.receive [1] = some (fresh.handleRead [1]) :=
    start.receive_eq (by simp) start.offeredSpace_pos
  have fit : ReadsFit fresh [[1], [7]] := by
    refine ⟨⟨by simp, start.offeredSpace_pos⟩, fun next stepped => ⟨⟨by simp, ?_⟩, by simp [Transition.Meets]⟩⟩
    rw [completed, Option.some.injEq] at stepped
    exact stepped ▸ first.offeredSpace_pos
  exact (framing_survives_segmentation [[7]] [[1], [7]] admitted (by simp [frame]) fit).2

end TcpTransport

end Pybrid
