import Pybrid.Native.TcpLink

/-! What a TCP connection carries: order and conservation in every interleaving, and that it gets there. -/

namespace Pybrid

namespace TcpLink

open Streams

/-- The byte side of a link: what is read, buffered, in flight and unwritten are the frames begun. -/
structure Carried (s : TcpLink) : Prop where
  peerOpen : s.peer.running = true ∧ s.peer.socketOpen = true
  roomy : s.peer.recvBufferSize = TcpTransport.initialBufferSize
  -- What is to come is a stream of whole frames, wherever its bytes are.
  stream : ∃ rest, messages s.begun = s.returned ++ s.peer.recvQueue ++ rest ∧
    Framing.Pending wireFrame rest s.peer.recvBuffer ∧
    s.peer.recvBuffer ++ s.wire ++ s.unwritten = Framing.stream wireFrame rest

/-- Nothing has been read of a new connection, and nothing is to be read. -/
theorem initial_carried : initial.Carried where
  peerOpen := ⟨rfl, rfl⟩
  roomy := rfl
  stream := ⟨[], rfl, rfl, rfl⟩

/-- The byte side depends on a few fields only. -/
theorem Carried.of_eq {s s' : TcpLink} (inv : s.Carried) (peer : s'.peer = s.peer)
    (returned : s'.returned = s.returned) (begun : s'.begun = s.begun) (wire : s'.wire = s.wire)
    (unwritten : s'.unwritten = s.unwritten) : s'.Carried := by
  obtain ⟨peerOpen, roomy, stream⟩ := inv
  -- Nothing else of the state is read.
  exact ⟨by rw [peer]; exact peerOpen, by rw [peer]; exact roomy, by
    rw [peer, returned, begun, wire, unwritten]; exact stream⟩

/-- The send loop takes an entry into its hand, and the bytes stay as they are. -/
theorem Carried.dequeue {s s' : TcpLink} {thread : Nat} (inv : s.Carried)
    (stepped : s.dequeue thread = some s') : s'.Carried := by
  obtain ⟨point, entry, rest, _, rfl⟩ := dequeue_eq stepped
  exact inv.of_eq rfl rfl (by simp [begun, SendPoint.begun, point]) rfl (by simp [unwritten, point])

/-- A statement of the send loop starts a frame, or leaves the bytes alone. -/
theorem Carried.loop {s s' : TcpLink} (inv : s.Carried) (account : s.Accounted)
    (stepped : s.loop = some s') : s'.Carried := by
  cases loop_steps stepped with
  | wait => exact inv
  | halt point | lower point | frame point | drop point | clear point =>
    exact inv.of_eq rfl rfl (by simp [begun, SendPoint.begun, point]) rfl
      (by simp [unwritten, point])
  | @start entry point =>
    -- The frame is appended to those begun, and all of it is still to be written.
    obtain ⟨unfailed, _⟩ := account.passed (by rw [point]; rfl)
    have clean : s.unwritten = [] := by
      simp only [unwritten, point]
      exact account.whole unfailed (by rw [point]; rfl)
    obtain ⟨rest, parts, pending, bytes⟩ := inv.stream
    refine ⟨inv.peerOpen, inv.roomy, rest ++ [entry.message], ?_, ?_, ?_⟩
    · have before : s.begun = s.written ++ s.failed := by simp [begun, point, SendPoint.begun]
      rw [before] at parts
      show messages (s.written ++ s.failed ++ [entry]) = _
      rw [messages_append, parts]
      simp
    · exact pending.append wireFrame_ne_nil [entry.message]
    · rw [clean, List.append_nil] at bytes
      simp [unwritten, ← bytes]
  | fail point | finish point =>
    -- The entry leaves the hand of the loop for one of the two lists of those begun.
    obtain ⟨unfailed, _⟩ := account.passed (by rw [point]; rfl)
    exact inv.of_eq rfl rfl (by simp [begun, SendPoint.begun, point, unfailed]) rfl
      (by simp [unwritten, point])

/-- The bytes the socket takes go from the frame onto the wire. -/
theorem Carried.put {s s' : TcpLink} {count : Nat} (inv : s.Carried) (account : s.Accounted)
    (stepped : s.put count = some s') : s'.Carried := by
  obtain ⟨entry, left, point, rfl⟩ := put_eq stepped
  obtain ⟨unfailed, _⟩ := account.passed (by rw [point]; rfl)
  have clean : s.cutOff = [] := account.whole unfailed (by rw [point]; rfl)
  obtain ⟨rest, parts, pending, bytes⟩ := inv.stream
  have before : s.begun = s.written ++ s.failed ++ [entry] := by
    simp [begun, point, SendPoint.begun]
  have leftover : s.unwritten = left := by simp [unwritten, point]
  rw [before] at parts
  rw [leftover] at bytes
  -- The last bytes leave nothing of the frame, and nothing had been cut off before it.
  by_cases last : left.drop count = []
  · have all : left.take count = left := by
      have := List.take_append_drop count left
      rwa [last, List.append_nil] at this
    refine ⟨inv.peerOpen, inv.roomy, rest, ?_, pending, ?_⟩
    · simpa [begun, last, SendPoint.begun] using parts
    · simpa [unwritten, last, clean, all] using bytes
  · refine ⟨inv.peerOpen, inv.roomy, rest, ?_, pending, ?_⟩
    · simpa [begun, last, SendPoint.begun] using parts
    · simpa [unwritten, last] using bytes

/-- What a failed write leaves of its frame is cut off. -/
theorem Carried.writeError {s s' : TcpLink} {aborted : Bool} (inv : s.Carried)
    (stepped : s.writeError aborted = some s') : s'.Carried := by
  obtain ⟨entry, rest, point, _, rfl⟩ := writeError_eq stepped
  exact inv.of_eq rfl rfl (by simp [begun, SendPoint.begun, point]) rfl (by simp [unwritten, point])

/-- A peer that is up arms its next read without growing its buffer. -/
theorem Carried.startReceive {s : TcpLink} (inv : s.Carried) (account : s.Accounted)
    (up : s.peer.connected = true) :
    s.peer.recvBuffer.length < s.peer.recvBufferSize ∧ s.peer.startReceive =
      some (s.peer, s.peer.recvBufferSize - s.peer.recvBuffer.length) := by
  obtain ⟨rest, parts, pending, _⟩ := inv.stream
  have room : s.peer.recvBuffer.length < s.peer.recvBufferSize := by
    rw [inv.roomy]
    refine pending_length_lt (fun message member => account.begun_admitted message ?_) pending
    rw [parts]
    exact List.mem_append_right _ member
  -- There is room, so that the buffer is not doubled.
  have free : s.peer.recvBufferSize - s.peer.recvBuffer.length ≠ 0 := by omega
  refine ⟨room, ?_⟩
  simp [TcpTransport.startReceive, inv.peerOpen.1, inv.peerOpen.2, up, free]

/-- Whatever part of the bytes in flight a peer that is up reads, it stays in step with the frames. -/
theorem Carried.handleRead {s : TcpLink} (inv : s.Carried) (account : s.Accounted)
    (up : s.peer.connected = true) (count : Nat) :
    ∃ rest, messages s.begun = s.returned ++ (s.peer.recvQueue ++ rest) ∧
      s.peer.recvBuffer ++ s.wire ++ s.unwritten = Framing.stream wireFrame rest ∧
      TcpTransport.Reassembled (s.peer.recvQueue ++ rest)
        (Framing.stream wireFrame s.peer.recvQueue ++ s.peer.recvBuffer ++ s.wire.take count)
        (s.peer.handleRead (s.wire.take count)) := by
  obtain ⟨rest, parts, pending, bytes⟩ := inv.stream
  rw [List.append_assoc] at parts
  have admitted : ∀ message ∈ s.peer.recvQueue ++ rest, AdmittedMessage message := by
    intro message member
    apply account.begun_admitted
    rw [parts]
    exact List.mem_append_right _ member
  have room := pending_length_lt (fun message member => admitted message (by simp [member])) pending
  -- The bytes held are the beginning of the messages that are still to come.
  have state : TcpTransport.Reassembled (s.peer.recvQueue ++ rest)
      (Framing.stream wireFrame s.peer.recvQueue ++ s.peer.recvBuffer) s.peer :=
    ⟨⟨inv.peerOpen.1, up, inv.peerOpen.2⟩, ⟨inv.roomy, room⟩, rest, rfl, rfl, pending⟩
  refine ⟨rest, parts, bytes, state.handleRead admitted _ (s.wire.drop count ++ s.unwritten) ?_⟩
  rw [Framing.stream_append, ← bytes]
  simp only [List.append_assoc]
  rw [← List.append_assoc (s.wire.take count), List.take_append_drop]

/-- A read moves whole frames into the peer's queue and keeps the part of the next one. -/
theorem Carried.read {s s' : TcpLink} {count : Nat} (inv : s.Carried) (account : s.Accounted)
    (stepped : s.read count = some s') : s'.Carried := by
  unfold TcpLink.read at stepped
  split at stepped
  · obtain ⟨peer, received, rfl⟩ := Option.map_eq_some_iff.mp stepped
    -- A read only completes on a connection that is up, so the receiver is in step.
    have up : s.peer.connected = true := by
      by_contra down
      simp [TcpTransport.receive, TcpTransport.startReceive, down] at received
    obtain ⟨_, armed⟩ := inv.startReceive account up
    obtain ⟨rest, parts, bytes, next⟩ := inv.handleRead account up count
    simp only [TcpTransport.receive, armed] at received
    split at received
    · obtain rfl := Option.some.inj received
      obtain ⟨later, spelled, accounted, held⟩ := next.split
      refine ⟨⟨next.connected.1, next.connected.2.2⟩, next.roomy.1, later, ?_, held, ?_⟩
      · show messages s.begun =
          s.returned ++ (s.peer.handleRead (s.wire.take count)).recvQueue ++ later
        rw [parts, spelled, List.append_assoc]
      · -- The frames queued by now are the same on both sides, so the rest agrees as well.
        refine List.append_cancel_left (?_ :
          Framing.stream wireFrame (s.peer.handleRead (s.wire.take count)).recvQueue ++ _ = _ ++ _)
        rw [← Framing.stream_append, ← spelled, Framing.stream_append, ← bytes]
        show _ ++ ((s.peer.handleRead (s.wire.take count)).recvBuffer ++ s.wire.drop count ++
          s.unwritten) = _
        rw [← List.append_assoc, ← List.append_assoc, ← accounted]
        simp only [List.append_assoc]
        rw [← List.append_assoc (s.wire.take count), List.take_append_drop]
    · simp at received
  · simp at stepped

/-- The peer's receive loop hands out the oldest message, and its buffer holds any of them. -/
theorem Carried.recv {s s' : TcpLink} (inv : s.Carried) (account : s.Accounted)
    (stepped : s.recv = some s') : s'.Carried := by
  unfold TcpLink.recv at stepped
  split at stepped
  · rename_i message queue front
    obtain rfl := Option.some.inj stepped
    obtain ⟨rest, parts, pending, bytes⟩ := inv.stream
    have admitted : AdmittedMessage message := by
      apply account.begun_admitted
      simp [parts, front]
    -- The receive loop's own buffer is large enough for every admitted message.
    have copied : message.take (min message.length recvLoopBufferSize) = message := by
      simp only [AdmittedMessage, defaultTcpMessageSize] at admitted
      apply List.take_of_length_le
      simp only [recvLoopBufferSize]
      omega
    refine ⟨inv.peerOpen, inv.roomy, rest, ?_, pending, bytes⟩
    show messages s.begun =
      s.returned ++ [message.take (min message.length recvLoopBufferSize)] ++ queue ++ rest
    rw [copied, parts, front]
    simp
  · simp at stepped

/-- Every step keeps the account of the bytes. -/
theorem Carried.step {s s' : TcpLink} {action : LinkAction} (inv : s.Carried)
    (account : s.Accounted) (stepped : s.step action = some s') : s'.Carried := by
  -- Only what writes, reads or takes messages touches the stream.
  cases action with
  | send entry =>
    rcases send_eq stepped with rfl | ⟨_, _, rfl⟩
    · exact inv
    · exact inv.of_eq rfl rfl rfl rfl rfl
  | enqueue entry allocates =>
    obtain ⟨_, rfl | rfl⟩ := enqueue_eq stepped
    · exact inv.of_eq rfl rfl rfl rfl rfl
    · exact inv.of_eq rfl rfl rfl rfl rfl
  | count entry =>
    obtain ⟨_, rfl⟩ := count_eq stepped
    exact inv.of_eq rfl rfl rfl rfl rfl
  | dequeue thread => exact inv.dequeue stepped
  | loop => exact inv.loop account stepped
  | put count => exact inv.put account stepped
  | writeError aborted => exact inv.writeError stepped
  | clearConnected => exact Option.some.inj stepped ▸ inv.of_eq rfl rfl rfl rfl rfl
  | closeSocket =>
    simp only [TcpLink.step] at stepped
    split at stepped
    · simp at stepped
    · exact Option.some.inj stepped ▸ inv.of_eq rfl rfl rfl rfl rfl
  | stop => exact Option.some.inj stepped ▸ inv.of_eq rfl rfl rfl rfl rfl
  | read count => exact inv.read account stepped
  | peerDown =>
    obtain rfl := Option.some.inj stepped
    exact ⟨inv.peerOpen, inv.roomy, inv.stream⟩
  | recv => exact inv.recv account stepped
  | drainCall =>
    simp only [TcpLink.step] at stepped
    split at stepped
    · exact Option.some.inj stepped ▸ inv.of_eq rfl rfl rfl rfl rfl
    · exact Option.some.inj stepped ▸ inv.of_eq rfl rfl rfl rfl rfl
    · simp at stepped
    · simp at stepped
  | drainLook =>
    obtain ⟨point, underWay, rfl⟩ := drainLook_eq stepped
    exact inv.of_eq rfl rfl rfl rfl rfl
  | drainExpire =>
    obtain ⟨point, rfl⟩ := drainExpire_eq stepped
    exact inv.of_eq rfl rfl rfl rfl rfl

/-- Both sides of the account hold in every state of a link. -/
structure Sound (s : TcpLink) : Prop where
  account : s.Accounted
  carried : s.Carried

/-- Every step keeps a link sound. -/
theorem Sound.step {s s' : TcpLink} {action : LinkAction} (inv : s.Sound)
    (stepped : s.step action = some s') : s'.Sound :=
  ⟨inv.account.step stepped, inv.carried.step inv.account stepped⟩

/-- Every reachable state of a link is sound. -/
theorem reachable_sound {s : TcpLink} (reached : Transition.Reachable step initial s) : s.Sound :=
  Transition.reachable_preserves ⟨initial_accounted, initial_carried⟩
    (fun _ _ _ inv stepped => inv.step stepped) reached

/--
The peer may reset its buffers in any reachable state: nothing of the stream is lost by it.

No frame that `send` lets through outgrows the initial buffer, so there is nothing to cut off.
-/
theorem reachable_resetBuffers {s : TcpLink} (reached : Transition.Reachable step initial s) :
    s.peer.resetBuffers = s.peer := by
  have inv := reachable_sound reached
  obtain ⟨rest, parts, pending, _⟩ := inv.carried.stream
  -- The bytes held are of a frame that was begun, and such a frame is an admitted one.
  have admitted : ∀ message ∈ rest, AdmittedMessage message := fun message member =>
    inv.account.begun_admitted message (by rw [parts]; simp [member])
  have short := pending_length_lt admitted pending
  rw [TcpTransport.resetBuffers_eq_self_iff]
  exact ⟨inv.carried.roomy, short.le⟩

/-- The entries whose messages the peer has, handed out or ready. -/
def handed (s : TcpLink) : List SendEntry :=
  s.begun.take (s.returned.length + s.peer.recvQueue.length)

/-- The peer has the messages of the entries begun first. -/
theorem Carried.handed {s : TcpLink} (inv : s.Carried) :
    messages s.handed = s.returned ++ s.peer.recvQueue ∧
      ∃ rest, s.begun = s.handed ++ rest ∧ Framing.Pending wireFrame (messages rest) s.peer.recvBuffer ∧
        s.peer.recvBuffer ++ s.wire ++ s.unwritten = Framing.stream wireFrame (messages rest) := by
  obtain ⟨rest, parts, pending, bytes⟩ := inv.stream
  have count : s.returned.length + s.peer.recvQueue.length =
      (s.returned ++ s.peer.recvQueue).length := (List.length_append ..).symm
  have front : messages s.handed = s.returned ++ s.peer.recvQueue := by
    rw [TcpLink.handed, messages, List.map_take, ← messages, parts, count, List.take_left]
  -- What follows in the frames begun are the messages that are still on their way.
  have back : messages (s.begun.drop (s.returned.length + s.peer.recvQueue.length)) = rest := by
    rw [messages, List.map_drop, ← messages, parts, count, List.drop_left]
  refine ⟨front, s.begun.drop (s.returned.length + s.peer.recvQueue.length), ?_, ?_⟩
  · exact (List.take_append_drop ..).symm
  · rw [back]
    exact ⟨pending, bytes⟩

/--
A link conserves messages, in every interleaving of its threads.

Of each sending thread the messages handed out or ready at the peer are the oldest ones that its
calls of `send` put into the queue, in their order: those they returned true for, and at most one
whose call is about to. As long as no write has failed, the others are spelled out, frame by frame,
by the peer's buffer, the bytes in flight, the unwritten part of the current frame and the entries
not begun.
-/
theorem link_conserves {s : TcpLink} (reached : Transition.Reachable step initial s) :
    messages s.handed = s.returned ++ s.peer.recvQueue ∧
      Begins SendEntry.thread s.handed s.entered ∧
      Same SendEntry.thread s.entered (s.accepted ++ s.counts) ∧
      (s.counts.map SendEntry.thread).Nodup ∧
      Begins SendEntry.thread s.written s.entered ∧
      s.bytesSent = (Framing.stream wireFrame (messages s.written)).length ∧
      s.messagesSent = s.written.length ∧
      (s.Up → s.sendPoint.failing = false →
        Same SendEntry.thread s.entered (s.written ++ s.sendPoint.inHand ++ s.sendQueue) ∧
        ∃ rest, Same SendEntry.thread s.entered (s.handed ++ rest) ∧
          Framing.stream wireFrame (messages rest) = s.peer.recvBuffer ++ s.wire ++ s.unwritten ++
            Framing.stream wireFrame (messages (s.sendPoint.unbegun ++ s.sendQueue))) := by
  obtain ⟨account, carried⟩ := reachable_sound reached
  obtain ⟨front, begunRest, parts, _, bytes⟩ := carried.handed
  -- What was handed over was begun, and what was begun was entered.
  have handed : Begins SendEntry.thread s.handed s.entered :=
    (begins_of_front (List.take_prefix ..)).trans account.begun_begins
  have counts : (s.counts.map SendEntry.thread).Nodup :=
    account.single.sublist ((List.sublist_append_right ..).map _)
  have written : Begins SendEntry.thread s.written s.entered := by
    refine (begins_of_front ?_).trans account.begun_begins
    rw [begun, List.append_assoc]
    exact List.prefix_append ..
  refine ⟨front, handed, account.answered, counts, written, account.sent.1, account.sent.2,
    fun up _ => ?_⟩
  obtain ⟨unfailed, undropped⟩ := account.up up
  have order := account.order
  rw [account.settled_eq, undropped, List.append_nil] at order
  refine ⟨?_, begunRest ++ (s.sendPoint.unbegun ++ s.sendQueue), ?_, ?_⟩
  · simpa [settled, unfailed, undropped] using account.order
  · -- What was put into the queue is what is begun and what is not.
    rw [← List.append_assoc, ← parts, ← List.append_assoc]
    exact order
  · rw [messages_append, Framing.stream_append, ← bytes]

/-- The frame of a one-byte message. -/
theorem wireFrame_one (byte : UInt8) : wireFrame [byte] = [1, byte] := by
  simp [wireFrame, lengthPrefix, encodeVarint_eq]

/-- A frame cut in two on the wire, and the message of another thread in the queue. -/
def cutRun : List LinkAction :=
  [.send ⟨0, [7]⟩, .enqueue ⟨0, [7]⟩ true, .send ⟨1, [8]⟩, .dequeue 0, .loop, .count ⟨0, [7]⟩,
    .loop, .enqueue ⟨1, [8]⟩ true, .loop, .put 1]

/-- What that interleaving leads to: the length is zero, although an entry is in the queue. -/
theorem cutRun_midway : Transition.run step initial cutRun = some
    { initial with
      counts := [⟨1, [8]⟩]
      sendQueue := [⟨1, [8]⟩]
      sendPoint := .writing ⟨0, [7]⟩ [7]
      sending := true
      wire := [1]
      entered := [⟨0, [7]⟩, ⟨1, [8]⟩]
      accepted := [⟨0, [7]⟩] } := by
  -- The steps are computed one after the other.
  simp [Transition.run, cutRun, step, TcpLink.send, TcpLink.enqueue, TcpLink.count,
    TcpLink.dequeue, takeFirst, TcpLink.loop, TcpLink.put, initial, wireFrame_one,
    defaultTcpMessageSize]

/-- In the middle of a frame, the bytes in flight and the unwritten ones spell out both messages. -/
theorem link_conserves_cut :
    ∃ s, Transition.run step initial cutRun = some s ∧ s.wire = [1] ∧
      s.entered = [⟨0, [7]⟩, ⟨1, [8]⟩] ∧
      ∃ rest, Same SendEntry.thread s.entered (s.handed ++ rest) ∧
        Framing.stream wireFrame (messages rest) = s.peer.recvBuffer ++ s.wire ++ s.unwritten ++
          Framing.stream wireFrame (messages (s.sendPoint.unbegun ++ s.sendQueue)) := by
  -- Half of the first frame is on the wire.
  obtain ⟨_, _, _, _, _, _, _, law⟩ := link_conserves ⟨cutRun, cutRun_midway⟩
  exact ⟨_, cutRun_midway, rfl, rfl, (law ⟨rfl, rfl⟩ rfl).2⟩

/-- What is left to do for the entry in hand: two for a byte to be written, one for a statement. -/
def remaining : SendPoint → Nat
  -- Each statement takes at least one off, and so does each byte.
  | .dequeued entry => 2 * (wireFrame entry.message).length + 6
  | .taken entry => 2 * (wireFrame entry.message).length + 5
  | .framed entry => 2 * (wireFrame entry.message).length + 4
  | .writing _ rest => 2 * rest.length + 3
  | .wrote _ _ => 2
  | .cleared _ _ => 1
  | .polling | .stopped => 0

/-- How far the entries are from having been handed out by the peer. -/
def distance (s : TcpLink) : Nat :=
  (s.sendQueue.map fun entry => 2 * (wireFrame entry.message).length + 7).sum +
    remaining s.sendPoint + s.wire.length + (s.entered.length - s.returned.length)

/-- A link without trouble: both ends are up, and no write has failed. -/
structure Healthy (target : List SendEntry) (s : TcpLink) : Prop where
  sound : s.Sound
  up : s.Up
  running : s.running = true
  peerUp : s.peer.connected = true
  whole : s.sendPoint.failing = false
  same : s.entered = target

/-- The steps a link makes by itself: nobody sends, and nobody interferes. -/
def Undisturbed : LinkAction → Prop
  | .dequeue _ | .loop | .put _ | .read _ | .recv => True
  | _ => False

/-- The peer's receive loop takes what is ready. -/
theorem Healthy.recv_step {target : List SendEntry} {s : TcpLink} (inv : s.Healthy target)
    (ready : s.peer.recvQueue ≠ []) :
    ∃ next, s.step .recv = some next ∧ next.Healthy target ∧ next.distance < s.distance := by
  cases front : s.peer.recvQueue with
  | nil => exact absurd front ready
  | cons message queue =>
    have stepped : s.step .recv = some
        { s with
          peer := { s.peer with recvQueue := queue }
          returned := s.returned ++ [message.take (min message.length recvLoopBufferSize)] } := by
      simp [step, TcpLink.recv, front]
    refine ⟨_, stepped, ⟨inv.sound.step stepped, inv.up, inv.running, inv.peerUp, inv.whole,
      inv.same⟩, ?_⟩
    -- The message was among those not handed out yet.
    obtain ⟨rest, parts, _, _⟩ := inv.sound.carried.stream
    have known := inv.sound.account.begun_length
    have count := congrArg List.length parts
    simp only [messages, List.length_map, front, List.length_append, List.length_cons] at count
    simp only [distance, List.length_append, List.length_singleton]
    omega

/-- A byte in flight can be read by the peer. -/
theorem Healthy.read_step {target : List SendEntry} {s : TcpLink} (inv : s.Healthy target)
    (flying : s.wire ≠ []) :
    ∃ next, s.step (.read 1) = some next ∧ next.Healthy target ∧ next.distance < s.distance := by
  have present := List.length_pos_of_ne_nil flying
  obtain ⟨room, armed⟩ := inv.sound.carried.startReceive inv.sound.account inv.peerUp
  obtain ⟨_, _, _, after⟩ := inv.sound.carried.handleRead inv.sound.account inv.peerUp 1
  have visible : s.wire.take 1 ≠ [] := by simp [flying]
  -- One byte is on the wire, and the buffer takes it.
  have received : s.peer.receive (s.wire.take 1) = some (s.peer.handleRead (s.wire.take 1)) := by
    simp only [TcpTransport.receive, armed]
    rw [if_pos ⟨visible, by rw [List.length_take]; omega⟩]
  have stepped : s.step (.read 1) = some
      { s with peer := s.peer.handleRead (s.wire.take 1), wire := s.wire.drop 1 } := by
    simp only [step, TcpLink.read, if_pos (show 1 ≤ s.wire.length from present), received,
      Option.map_some]
  refine ⟨_, stepped, ⟨inv.sound.step stepped, inv.up, inv.running, after.connected.2.1,
    inv.whole, inv.same⟩, ?_⟩
  simp only [distance, List.length_drop]
  omega

/-- The send loop gets one of the entries that wait. -/
theorem Healthy.dequeue_step {target : List SendEntry} {s : TcpLink} (inv : s.Healthy target)
    (point : s.sendPoint = .polling) {entry : SendEntry} (waiting : entry ∈ s.sendQueue) :
    ∃ next, s.step (.dequeue entry.thread) = some next ∧ next.Healthy target ∧
      next.distance < s.distance := by
  obtain ⟨first, rest, taken⟩ : ∃ first rest,
      takeFirst SendEntry.thread entry.thread s.sendQueue = some (first, rest) :=
    exists_takeFirst waiting
  have stepped : s.step (.dequeue entry.thread) =
      some { s with sendQueue := rest, sendPoint := .dequeued first } := by
    simp [step, TcpLink.dequeue, point, inv.running, taken]
  refine ⟨_, stepped, ⟨inv.sound.step stepped, inv.up, inv.running, inv.peerUp, rfl, inv.same⟩, ?_⟩
  -- The entry that was taken is one of those whose distances were added up.
  have moved := (takeFirst_same taken).2.perm.map fun entry =>
    2 * (wireFrame entry.message).length + 7
  simp only [distance, point, remaining, moved.sum_eq, List.map_cons, List.sum_cons]
  omega

/-- The send loop can go on with what it holds or with what is queued. -/
theorem Healthy.send_step {target : List SendEntry} {s : TcpLink} (inv : s.Healthy target)
    (busy : s.sendPoint ≠ .polling ∨ s.sendQueue ≠ []) :
    ∃ action next, Undisturbed action ∧ s.step action = some next ∧ next.Healthy target ∧
      next.distance < s.distance := by
  have whole := inv.whole
  -- The cases are the points of the loop; inside of the write the socket takes all that is left.
  cases point : s.sendPoint with
  | polling =>
    obtain ⟨entry, waiting⟩ :=
      List.exists_mem_of_ne_nil _ (busy.resolve_left (by simp [point]))
    obtain ⟨next, stepped, healthy, closer⟩ := inv.dequeue_step point waiting
    exact ⟨.dequeue entry.thread, next, trivial, stepped, healthy, closer⟩
  | dequeued entry =>
    have stepped : s.step .loop = some
        { s with sendQueueLen := s.sendQueueLen - 1, sendPoint := .taken entry } := by
      simp [step, TcpLink.loop, point]
    refine ⟨.loop, _, trivial, stepped, ⟨inv.sound.step stepped, inv.up, inv.running, inv.peerUp,
      rfl, inv.same⟩, ?_⟩
    simp only [distance, point, remaining]
    omega
  | taken entry =>
    have stepped : s.step .loop = some { s with sendPoint := .framed entry } := by
      simp [step, TcpLink.loop, point, inv.up.1, inv.up.2]
    refine ⟨.loop, _, trivial, stepped, ⟨inv.sound.step stepped, inv.up, inv.running, inv.peerUp,
      rfl, inv.same⟩, ?_⟩
    simp only [distance, point, remaining]
    omega
  | framed entry =>
    have stepped : s.step .loop = some
        { s with
          sendPoint := .writing entry (wireFrame entry.message)
          sending := true } := by
      simp [step, TcpLink.loop, point]
    refine ⟨.loop, _, trivial, stepped, ⟨inv.sound.step stepped, inv.up, inv.running, inv.peerUp,
      rfl, inv.same⟩, ?_⟩
    simp only [distance, point, remaining]
    omega
  | writing entry rest =>
    have present := List.length_pos_of_ne_nil (inv.sound.account.unfinished entry rest point)
    have stepped : s.step (.put rest.length) = some
        { s with wire := s.wire ++ rest, sendPoint := .wrote entry none } := by
      simp [step, TcpLink.put, point, inv.up.2, present]
    refine ⟨.put rest.length, _, trivial, stepped, ⟨inv.sound.step stepped, inv.up, inv.running,
      inv.peerUp, rfl, inv.same⟩, ?_⟩
    simp only [distance, point, remaining, List.length_append]
    omega
  | wrote entry error =>
    have stepped : s.step .loop = some
        { s with sendPoint := .cleared entry error, sending := false } := by
      simp [step, TcpLink.loop, point]
    rw [point] at whole
    refine ⟨.loop, _, trivial, stepped, ⟨inv.sound.step stepped, inv.up, inv.running, inv.peerUp,
      whole, inv.same⟩, ?_⟩
    simp only [distance, point, remaining]
    omega
  | cleared entry error =>
    cases error with
    | some aborted => simp [point, SendPoint.failing] at whole
    | none =>
      have stepped : s.step .loop = some
          { s with
            sendPoint := .polling
            bytesSent := s.bytesSent + (wireFrame entry.message).length
            messagesSent := s.messagesSent + 1
            written := s.written ++ [entry] } := by
        simp [step, TcpLink.loop, point]
      refine ⟨.loop, _, trivial, stepped, ⟨inv.sound.step stepped, inv.up, inv.running, inv.peerUp,
        rfl, inv.same⟩, ?_⟩
      simp only [distance, point, remaining]
      omega
  | stopped =>
    have halted := inv.sound.account.ended point
    rw [inv.running] at halted
    exact absurd halted (by simp)

/-- The peer has handed out all messages of these entries, in each thread's order. -/
def Delivered (target : List SendEntry) (s : TcpLink) : Prop :=
  ∃ order, order.Perm target ∧ Same SendEntry.thread target order ∧ s.returned = messages order

/-- With nothing queued, in hand, in flight or ready, everything accepted has been handed out. -/
theorem Healthy.idle {target : List SendEntry} {s : TcpLink} (inv : s.Healthy target)
    (point : s.sendPoint = .polling) (queue : s.sendQueue = []) (wire : s.wire = [])
    (ready : s.peer.recvQueue = []) : s.Delivered target := by
  obtain ⟨unfailed, undropped⟩ := inv.sound.account.up inv.up
  have order := inv.sound.account.order
  have clean := inv.sound.account.whole unfailed inv.whole
  obtain ⟨rest, parts, pending, bytes⟩ := inv.sound.carried.stream
  simp only [settled, unfailed, undropped, point, queue, SendPoint.inHand, List.append_nil] at order
  simp only [begun, unfailed, point, SendPoint.begun, ready, List.append_nil] at parts
  simp only [wire, unwritten, point, clean, List.append_nil] at bytes
  -- What the buffer holds is both all of the frames left and less than the first of them.
  have none_left : rest = [] := by
    cases rest with
    | nil => rfl
    | cons message rest =>
      obtain ⟨missing, strict, cut⟩ := pending
      have total := congrArg List.length bytes
      have longer := List.length_pos_of_ne_nil strict
      rw [Framing.stream_cons, cut] at total
      simp only [List.length_append] at total
      omega
  rw [none_left, List.append_nil] at parts
  rw [inv.same] at order
  exact ⟨s.written, order.perm.symm, order, parts.symm⟩

/--
A link that is up delivers: from every reachable state some steps of the send loop, the network
and the peer alone bring all messages that were put into the queue to the peer's receive loop, each
of them once and those of one thread in their order.
-/
theorem link_completes {s : TcpLink} (reached : Transition.Reachable step initial s) (up : s.Up)
    (running : s.running = true) (peerUp : s.peer.connected = true)
    (whole : s.sendPoint.failing = false) :
    ∃ actions final, (∀ action ∈ actions, Undisturbed action) ∧
      Transition.run step s actions = some final ∧ final.Delivered s.entered := by
  have start : s.Healthy s.entered := ⟨reachable_sound reached, up, running, peerUp, whole, rfl⟩
  -- As long as something is under way, one of the parties can go on with it.
  have advance : ∀ state : TcpLink, state.Healthy s.entered → ¬state.Delivered s.entered →
      ∃ action next, Undisturbed action ∧ state.step action = some next ∧
        next.Healthy s.entered ∧ next.distance < state.distance := by
    intro state inv missing
    by_cases ready : state.peer.recvQueue = []
    · by_cases flying : state.wire = []
      · by_cases busy : state.sendPoint = .polling ∧ state.sendQueue = []
        · exact absurd (inv.idle busy.1 busy.2 flying ready) missing
        · exact inv.send_step (by tauto)
      · obtain ⟨next, stepped, healthy, closer⟩ := inv.read_step flying
        exact ⟨.read 1, next, trivial, stepped, healthy, closer⟩
    · obtain ⟨next, stepped, healthy, closer⟩ := inv.recv_step ready
      exact ⟨.recv, next, trivial, stepped, healthy, closer⟩
  obtain ⟨actions, final, alone, ran, _, arrived⟩ := Transition.run_reaches distance advance s start
  exact ⟨actions, final, alone, ran, arrived⟩

/-- A message of which one byte is in flight, and the one queued behind it, both arrive. -/
theorem link_completes_cut :
    ∃ s, Transition.run step initial cutRun = some s ∧
      ∃ actions final, (∀ action ∈ actions, Undisturbed action) ∧
        Transition.run step s actions = some final ∧
        final.Delivered [⟨0, [7]⟩, ⟨1, [8]⟩] := by
  -- Both ends are up in the middle of the frame.
  exact ⟨_, cutRun_midway,
    link_completes ⟨cutRun, cutRun_midway⟩ ⟨rfl, rfl⟩ rfl rfl rfl⟩

end TcpLink

end Pybrid
