import Pybrid.Native.TcpTransport

/-! What any stream of bytes, well-formed or not, does to the reassembly buffer. -/

namespace Pybrid

/-- Ten bytes that all continue: a length prefix that no further byte can complete. -/
def OverlongPrefix (bytes : List UInt8) : Prop :=
  maxVarintSize ≤ bytes.length ∧ ∀ byte ∈ bytes.take maxVarintSize, byte &&& 0x80 ≠ 0

instance (bytes : List UInt8) : Decidable (OverlongPrefix bytes) :=
  inferInstanceAs (Decidable (_ ∧ _))

/-- A length prefix in any encoding, an admitted length, and as many bytes as it says. -/
def CompleteFrame (frame : List UInt8) : Prop :=
  (decodeVarint frame).1 ≠ 0 ∧
    (decodeVarint frame).2.toNat ≤ defaultTcpMessageSize ∧
    frame.length = (decodeVarint frame).1 + (decodeVarint frame).2.toNat

/-- Behind a number of complete frames, the stream has an overlong prefix where one should start. -/
def ComesToOverlongPrefix (stream : List UInt8) : Prop :=
  ∃ (frames : List (List UInt8)) (rest : List UInt8),
    (∀ frame ∈ frames, CompleteFrame frame) ∧ stream = frames.flatten ++ rest ∧ OverlongPrefix rest

/-- The bytes are an incomplete frame: its prefix is open, or its payload too short. -/
def AwaitsBytes (bytes : List UInt8) : Prop :=
  (decodeVarint bytes).1 = 0 ∨
    (decodeVarint bytes).2.toNat ≤ defaultTcpMessageSize ∧
      bytes.length < (decodeVarint bytes).1 + (decodeVarint bytes).2.toNat

/-- The bytes start with a length that is not admitted. -/
def Oversized (bytes : List UInt8) : Prop :=
  (decodeVarint bytes).1 ≠ 0 ∧ defaultTcpMessageSize < (decodeVarint bytes).2.toNat

/-- An overlong prefix is what the decoder calls incomplete, although it had bytes enough. -/
theorem overlongPrefix_iff (bytes : List UInt8) :
    OverlongPrefix bytes ↔ (decodeVarint bytes).1 = 0 ∧ maxVarintSize ≤ bytes.length := by
  rw [decodeVarint, decodeVarintFrom_eq_zero_iff, Nat.sub_zero, OverlongPrefix, and_comm]

/-- Further bytes leave an overlong prefix overlong. -/
theorem OverlongPrefix.append {bytes : List UInt8} (overlong : OverlongPrefix bytes)
    (more : List UInt8) : OverlongPrefix (bytes ++ more) := by
  obtain ⟨enough, continued⟩ := overlong
  -- The prefix is decided by its first bytes.
  refine ⟨by simp only [List.length_append]; omega, ?_⟩
  rw [List.take_append_of_le_length enough]
  exact continued

/-- Further bytes do not take an overlong prefix out of a stream. -/
theorem ComesToOverlongPrefix.append {stream : List UInt8} (comes : ComesToOverlongPrefix stream)
    (more : List UInt8) : ComesToOverlongPrefix (stream ++ more) := by
  obtain ⟨frames, rest, complete, rfl, overlong⟩ := comes
  exact ⟨frames, rest ++ more, complete, by simp, overlong.append more⟩

/-- What awaits bytes and is not overlong leaves room in the initial reassembly buffer. -/
theorem AwaitsBytes.length_lt {bytes : List UInt8} (awaits : AwaitsBytes bytes)
    (bounded : ¬OverlongPrefix bytes) : bytes.length < TcpTransport.initialBufferSize := by
  simp only [TcpTransport.initialBufferSize]
  rcases awaits with open_ | ⟨admitted, short⟩
  · -- An open prefix has fewer bytes than the decoder looks at.
    have few : bytes.length < maxVarintSize := by
      by_contra enough
      exact bounded ((overlongPrefix_iff bytes).mpr ⟨open_, by omega⟩)
    omega
  -- A length that is admitted leaves less than one frame of it.
  · have consumed := (decodeVarintFrom_consumed_le bytes 0 0).2
    simp only [decodeVarint] at short admitted
    omega

/-- A complete frame is read the same, whatever lies behind it. -/
theorem CompleteFrame.decodeVarint_append {frame : List UInt8} (complete : CompleteFrame frame)
    (more : List UInt8) : decodeVarint (frame ++ more) = decodeVarint frame :=
  decodeVarintFrom_append more 0 0 complete.1

/-- No bytes that start with a complete frame await further ones, are refused or overlong. -/
theorem CompleteFrame.not_at_end {frame : List UInt8} (complete : CompleteFrame frame)
    (more : List UInt8) :
    ¬AwaitsBytes (frame ++ more) ∧ ¬Oversized (frame ++ more) ∧ ¬OverlongPrefix (frame ++ more) := by
  have read := complete.decodeVarint_append more
  obtain ⟨closed, admitted, length⟩ := complete
  -- Its length is closed, admitted and there, which each of the three ends denies.
  refine ⟨?_, ?_, ?_⟩
  · rintro (open_ | ⟨_, short⟩)
    · exact closed (read ▸ open_)
    · rw [read, List.length_append] at short
      omega
  · rintro ⟨_, large⟩
    rw [read] at large
    omega
  · intro overlong
    have open_ := ((overlongPrefix_iff _).mp overlong).1
    exact closed (read ▸ open_)

/-- Two complete frames at the front of the same bytes are one. -/
theorem CompleteFrame.unique {frame other more rest : List UInt8} (complete : CompleteFrame frame)
    (complete' : CompleteFrame other) (same : frame ++ more = other ++ rest) :
    frame = other ∧ more = rest := by
  -- Both have the length that the common prefix announces.
  have read : decodeVarint frame = decodeVarint other := by
    rw [← complete.decodeVarint_append more, same, complete'.decodeVarint_append rest]
  have length : frame.length = other.length := by
    rw [complete.2.2, complete'.2.2, read]
  exact List.append_inj same length

/-- The frames of a stream are determined up to where the next one is missing or overlong. -/
theorem rest_unique {held rest : List UInt8} (ended : AwaitsBytes held ∨ Oversized held)
    (overlong : OverlongPrefix rest) :
    ∀ frames others : List (List UInt8), (∀ frame ∈ frames, CompleteFrame frame) →
      (∀ frame ∈ others, CompleteFrame frame) → frames.flatten ++ held = others.flatten ++ rest →
      held = rest := by
  -- Frame by frame the two readings of the stream agree, and neither can go on alone.
  intro frames
  induction frames with
  | nil =>
    intro others _ complete same
    cases others with
    | nil => simpa using same
    | cons other others =>
      have front : held = other ++ (others.flatten ++ rest) := by simpa using same
      obtain ⟨complete, more, _⟩ := (complete other (by simp)).not_at_end (others.flatten ++ rest)
      rw [← front] at complete more
      exact absurd ended (by tauto)
  | cons frame frames ih =>
    intro others complete complete' same
    have first := complete frame (by simp)
    cases others with
    | nil =>
      have front : frame ++ (frames.flatten ++ held) = rest := by simpa using same
      exact absurd overlong (front ▸ (first.not_at_end _).2.2)
    | cons other others =>
      have same : frame ++ (frames.flatten ++ held) = other ++ (others.flatten ++ rest) := by
        simpa using same
      exact ih others (fun later member => complete later (by simp [member]))
        (fun later member => complete' later (by simp [member]))
        (first.unique (complete' other (by simp)) same).2

namespace TcpTransport

/-- Where processing stops: at an incomplete frame, or at a length that closes the connection. -/
def Stopped (t : TcpTransport) : Prop :=
  (t.connected = true ∧ AwaitsBytes t.recvBuffer) ∨
    (t.connected = false ∧ Oversized t.recvBuffer)

/-- Bytes that hold a whole frame start with one. -/
theorem completeFrame_take {bytes : List UInt8} (closed : (decodeVarint bytes).1 ≠ 0)
    (admitted : (decodeVarint bytes).2.toNat ≤ defaultTcpMessageSize)
    (whole : (decodeVarint bytes).1 + (decodeVarint bytes).2.toNat ≤ bytes.length) :
    CompleteFrame (bytes.take ((decodeVarint bytes).1 + (decodeVarint bytes).2.toNat)) := by
  -- The decoder stops within the bytes that are kept.
  have read : decodeVarint (bytes.take ((decodeVarint bytes).1 + (decodeVarint bytes).2.toNat)) =
      decodeVarint bytes :=
    decodeVarintFrom_take 0 0 _ (by simp [decodeVarint]) closed
  refine ⟨?_, ?_, ?_⟩
  · rw [read]
    exact closed
  · rw [read]
    exact admitted
  · rw [read, List.length_take]
    omega

/-- Processing takes complete frames off the buffer until it has to stop. -/
theorem processRecvBuffer_stops (t : TcpTransport) :
    t.connected = true →
    t.processRecvBuffer.recvBufferSize = t.recvBufferSize ∧ t.processRecvBuffer.Stopped ∧
      ∃ frames : List (List UInt8), (∀ frame ∈ frames, CompleteFrame frame) ∧
        t.recvBuffer = frames.flatten ++ t.processRecvBuffer.recvBuffer := by
  -- The induction follows the loop, which takes one frame off the buffer in each round.
  fun_induction processRecvBuffer t with
  | case1 t some_bytes varintBytes open_ =>
    intro up
    exact ⟨rfl, .inl ⟨up, .inl open_⟩, [], by simp, rfl⟩
  | case2 t some_bytes varintBytes msgLen closed large =>
    intro up
    exact ⟨rfl, .inr ⟨rfl, closed, large⟩, [], by simp, rfl⟩
  | case3 t some_bytes varintBytes msgLen closed small short =>
    intro up
    exact ⟨rfl, .inl ⟨up, .inr ⟨Nat.not_lt.mp small, short⟩⟩, [], by simp, rfl⟩
  | case4 t some_bytes varintBytes msgLen closed small whole ih =>
    intro up
    obtain ⟨size, stopped, frames, complete, held⟩ := ih up
    have first := completeFrame_take closed (Nat.not_lt.mp small) (Nat.not_lt.mp whole)
    refine ⟨size, stopped, t.recvBuffer.take (varintBytes + msgLen) :: frames, ?_, ?_⟩
    · exact List.forall_mem_cons.mpr ⟨first, complete⟩
    · rw [List.flatten_cons, List.append_assoc, ← held, List.take_append_drop]
  | case5 t empty =>
    intro up
    have empty : t.recvBuffer = [] := by simpa using empty
    exact ⟨rfl, .inl ⟨up, .inl (by rw [empty]; rfl)⟩, [], by simp, rfl⟩

/-- What a receiver that has read `received` has made of it: complete frames, and what it holds. -/
structure Followed (received : List UInt8) (t : TcpTransport) : Prop where
  stopped : t.Stopped
  taken : ∃ frames : List (List UInt8), (∀ frame ∈ frames, CompleteFrame frame) ∧
    received = frames.flatten ++ t.recvBuffer

/-- A fresh receiver has read nothing. -/
theorem fresh_followed : Followed [] fresh where
  stopped := .inl ⟨rfl, .inl rfl⟩
  taken := ⟨[], by simp, rfl⟩

/-- A read that completes was armed on a connection that is up, and grew a full buffer only. -/
theorem receive_eq_some {t next : TcpTransport} {read : List UInt8}
    (received : t.receive read = some next) :
    t.connected = true ∧
      next = handleRead
        { t with
          recvBufferSize :=
            if t.recvBufferSize - t.recvBuffer.length = 0 then t.recvBufferSize * 2
            else t.recvBufferSize } read := by
  -- The read is posted on an open connection and lands within the free space.
  unfold receive startReceive at received
  split at received
  · rename_i armed space started
    split at started
    · rename_i up
      simp only [Bool.and_eq_true] at up
      split at received
      · cases received
        cases started
        refine ⟨up.1.2, ?_⟩
        split <;> rfl
      · cases received
    · cases started
  · cases received

/-- A read keeps the receiver in step with the stream, whatever the bytes are. -/
theorem Followed.receive {received : List UInt8} {t next : TcpTransport} {read : List UInt8}
    (state : Followed received t) (step : t.receive read = some next) :
    Followed (received ++ read) next ∧
      (t.recvBuffer.length < t.recvBufferSize → next.recvBufferSize = t.recvBufferSize) := by
  obtain ⟨up, rfl⟩ := receive_eq_some step
  obtain ⟨frames, complete, spelled⟩ := state.taken
  -- The frames taken from the longer buffer come after those taken before.
  obtain ⟨size, stopped, later, complete', held⟩ := processRecvBuffer_stops
    { t with
      recvBufferSize :=
        if t.recvBufferSize - t.recvBuffer.length = 0 then t.recvBufferSize * 2
        else t.recvBufferSize
      recvBuffer := t.recvBuffer ++ read
      bytesReceived := t.bytesReceived + read.length } up
  refine ⟨⟨stopped, frames ++ later, ?_, ?_⟩, ?_⟩
  · intro frame member
    rcases List.mem_append.mp member with member | member
    · exact complete frame member
    · exact complete' frame member
  · rw [spelled, List.append_assoc, List.flatten_append, List.append_assoc]
    exact congrArg _ held
  -- With room left the buffer is not doubled.
  · intro room
    exact size.trans (if_neg (by omega))

/-- The connection is closed, or the buffer has room for more and no overlong prefix in front. -/
structure Contained (t : TcpTransport) : Prop where
  notGrown : t.recvBufferSize = initialBufferSize
  cutOff : t.connected = false ∨
    (t.recvBuffer.length < initialBufferSize ∧ ¬OverlongPrefix t.recvBuffer)

/-- A stream that has not come to an overlong prefix is contained. -/
theorem Followed.cutOff {received : List UInt8} {t : TcpTransport} (state : Followed received t)
    (harmless : ¬ComesToOverlongPrefix received) :
    t.connected = false ∨
      (t.recvBuffer.length < initialBufferSize ∧ ¬OverlongPrefix t.recvBuffer) := by
  obtain ⟨frames, complete, spelled⟩ := state.taken
  have bounded : ¬OverlongPrefix t.recvBuffer := fun overlong =>
    harmless ⟨frames, t.recvBuffer, complete, spelled, overlong⟩
  -- A channel that is up awaits bytes of a frame whose prefix is not overlong.
  rcases state.stopped with ⟨_, awaits⟩ | ⟨down, _⟩
  · exact .inr ⟨awaits.length_lt bounded, bounded⟩
  · exact .inl down

/-- A stream that has come to an overlong prefix keeps the receiver waiting in front of it. -/
theorem Followed.stuck {received : List UInt8} {t : TcpTransport} (state : Followed received t)
    (comes : ComesToOverlongPrefix received) :
    t.connected = true ∧ OverlongPrefix t.recvBuffer := by
  obtain ⟨frames, complete, spelled⟩ := state.taken
  obtain ⟨others, rest, complete', spelled', overlong⟩ := comes
  have ended : AwaitsBytes t.recvBuffer ∨ Oversized t.recvBuffer :=
    state.stopped.imp And.right And.right
  -- What is left after the complete frames is determined by the bytes received.
  have same := rest_unique ended overlong frames others complete complete'
    (spelled ▸ spelled')
  rw [same]
  rcases state.stopped with ⟨up, _⟩ | ⟨_, closed, _⟩
  · exact ⟨up, overlong⟩
  · -- The decoder found no end of an overlong prefix, so there is no length to refuse.
    rw [same] at closed
    exact absurd ((overlongPrefix_iff rest).mp overlong).1 closed

/-- Reads of a stream that does not come to an overlong prefix never grow the buffer. -/
theorem Followed.run {final : TcpTransport} :
    ∀ (reads : List (List UInt8)) (received : List UInt8) (t : TcpTransport),
      Followed received t → Transition.run TcpTransport.receive t reads = some final →
      Followed (received ++ reads.flatten) final ∧
        (t.recvBufferSize = initialBufferSize →
          ¬ComesToOverlongPrefix (received ++ reads.flatten) →
          final.recvBufferSize = initialBufferSize) := by
  intro reads
  induction reads with
  | nil =>
    intro received t state ran
    cases ran
    exact ⟨by simpa using state, fun size _ => size⟩
  | cons read reads ih =>
    intro received t state ran
    obtain ⟨next, step, ran⟩ := Option.bind_eq_some_iff.mp ran
    obtain ⟨after, keeps⟩ := state.receive step
    obtain ⟨last, kept⟩ := ih (received ++ read) next after ran
    rw [List.flatten_cons, ← List.append_assoc]
    refine ⟨last, fun size harmless => kept ?_ harmless⟩
    -- Before the read there was no overlong prefix either, so there was room for it.
    have before : ¬ComesToOverlongPrefix received := fun comes =>
      harmless (by simpa using comes.append (read ++ reads.flatten))
    have room : t.recvBuffer.length < t.recvBufferSize := by
      rcases state.cutOff before with down | ⟨short, _⟩
      · rw [(receive_eq_some step).1] at down
        cases down
      · rw [size]
        exact short
    rw [keeps room, size]

/-- An open prefix stays in the buffer. -/
theorem processRecvBuffer_open {t : TcpTransport} (open_ : (decodeVarint t.recvBuffer).1 = 0) :
    t.processRecvBuffer = t := by
  rw [processRecvBuffer]
  simp [open_]

/-- Continued bytes land in the buffer, and nothing is taken off it. -/
theorem receive_continued {t : TcpTransport} {read : List UInt8}
    (up : t.running = true ∧ t.connected = true ∧ t.socketOpen = true)
    (continued : ∀ byte ∈ t.recvBuffer ++ read, byte &&& 0x80 ≠ 0) (visible : read ≠ [])
    (size : Nat)
    (grown : size = if t.recvBufferSize - t.recvBuffer.length = 0 then t.recvBufferSize * 2
      else t.recvBufferSize)
    (fits : read.length ≤ size - t.recvBuffer.length) :
    t.receive read = some
      { t with
        recvBufferSize := size
        recvBuffer := t.recvBuffer ++ read
        bytesReceived := t.bytesReceived + read.length } := by
  obtain ⟨running, connected, socketOpen⟩ := up
  have armed : t.startReceive =
      some ({ t with recvBufferSize := size }, size - t.recvBuffer.length) := by
    unfold startReceive
    rw [if_pos (by simp [running, connected, socketOpen]), grown]
    split <;> rfl
  -- No byte ends the length, so that the decoder waits for more.
  have landed : handleRead { t with recvBufferSize := size } read =
      { t with
        recvBufferSize := size
        recvBuffer := t.recvBuffer ++ read
        bytesReceived := t.bytesReceived + read.length } :=
    processRecvBuffer_open (decodeVarintFrom_incomplete continued 0 0)
  simp only [receive, armed, landed]
  exact if_pos ⟨visible, fits⟩

/-- A receiver that has read this many bytes, none of which ends a length prefix. -/
def unended (count : Nat) : TcpTransport where
  -- Bytes with the high bit set, which never end a length.
  recvBuffer := List.replicate count 0x80
  recvBufferSize := initialBufferSize
  recvQueue := []
  running := true
  connected := true
  socketOpen := true
  bytesReceived := count
  messagesReceived := 0

/-- Bytes that do not end a length prefix can arrive in one read, up to the size of the buffer. -/
theorem run_unended {count : Nat} (some_bytes : 0 < count) (fits : count ≤ initialBufferSize) :
    Transition.run receive fresh [List.replicate count 0x80] = some (unended count) := by
  have continued : ∀ byte ∈ fresh.recvBuffer ++ List.replicate count 0x80, byte &&& 0x80 ≠ 0 := by
    intro byte member
    have spelled : byte = 0x80 := List.eq_of_mem_replicate member
    rw [spelled]
    decide
  -- One read brings all the bytes.
  have step : fresh.receive (List.replicate count 0x80) = some (unended count) := by
    rw [receive_continued ⟨rfl, rfl, rfl⟩ continued (by simpa using some_bytes.ne')
      initialBufferSize rfl (by simpa [fresh] using fits)]
    simp [fresh, unended]
  simp [Transition.run, step]

/--
When the receiver is protected from what the peer sends.

For every stream and every way of reading it, the buffer stays as it is and is either cut off or not
full after each read, exactly when the stream never has ten continued bytes where a frame should
start. Such a prefix is held for incomplete, and everything behind it is kept.
-/
theorem streams_contained_iff (reads : List (List UInt8)) (final : TcpTransport)
    (ran : Transition.run receive fresh reads = some final) :
    (∀ before after t, reads = before ++ after → Transition.run receive fresh before = some t →
      Contained t) ↔ ¬ComesToOverlongPrefix reads.flatten := by
  -- An overlong prefix stays in the buffer of a channel that is never closed.
  constructor
  · intro contained comes
    obtain ⟨last, _⟩ := fresh_followed.run reads [] fresh ran
    obtain ⟨up, overlong⟩ := last.stuck comes
    rcases (contained reads [] final (by simp) ran).cutOff with down | ⟨_, bounded⟩
    · rw [up] at down
      cases down
    · exact bounded overlong
  · intro harmless before after t whole ran
    -- What has come before is a prefix of the whole stream.
    have harmless : ¬ComesToOverlongPrefix ([] ++ before.flatten) := fun comes =>
      harmless (by simpa [whole] using comes.append after.flatten)
    obtain ⟨state, kept⟩ := Followed.run before [] fresh fresh_followed ran
    exact ⟨kept rfl harmless, state.cutOff harmless⟩

/-- A single byte of a length prefix leaves the receiver contained. -/
theorem streams_contained_open_prefix :
    Transition.run receive fresh [[0x80]] = some (unended 1) ∧ Contained (unended 1) := by
  have ran : Transition.run receive fresh [[0x80]] = some (unended 1) :=
    @run_unended 1 (by decide) (by decide)
  refine ⟨ran, ?_⟩
  refine (streams_contained_iff [[0x80]] (unended 1) ran).mpr ?_ [[0x80]] [] (unended 1) rfl ran
  -- One byte is no room for ten.
  rintro ⟨frames, rest, _, spelled, overlong, _⟩
  have length := congrArg List.length spelled
  simp only [List.length_append, List.flatten_cons, List.flatten_nil, List.length_cons,
    List.length_nil, maxVarintSize] at length overlong
  omega

/-- Continued bytes fill the buffer on a connection that stays up, and one more byte doubles it. -/
theorem continued_bytes_grow_buffer :
    Transition.run receive fresh [List.replicate initialBufferSize 0x80] =
        some (unended initialBufferSize) ∧
      (unended initialBufferSize).connected = true ∧
      ¬(unended initialBufferSize).recvBuffer.length < initialBufferSize ∧
      ∃ grown, (unended initialBufferSize).receive [0x80] = some grown ∧
        grown.connected = true ∧ grown.recvBufferSize = initialBufferSize * 2 := by
  have positive : 0 < initialBufferSize := by decide
  have full : (unended initialBufferSize).recvBuffer.length = initialBufferSize :=
    List.length_replicate
  have filled : ¬(unended initialBufferSize).recvBuffer.length < initialBufferSize := by
    rw [full]
    exact Nat.lt_irrefl _
  -- The buffer is full, and the next byte makes it twice as large.
  refine ⟨run_unended positive (Nat.le_refl _), rfl, filled, _,
    receive_continued ⟨rfl, rfl, rfl⟩ ?_ (by simp) (initialBufferSize * 2) ?_ ?_, rfl, rfl⟩
  · intro byte member
    have spelled : byte = 0x80 := by
      rcases List.mem_append.mp member with held | arrived
      · exact List.eq_of_mem_replicate held
      · exact List.mem_singleton.mp arrived
    rw [spelled]
    decide
  · rw [full]
    exact (if_pos (Nat.sub_self _)).symm
  · rw [full, List.length_singleton, Nat.mul_two, Nat.add_sub_cancel]
    exact positive

end TcpTransport

end Pybrid
