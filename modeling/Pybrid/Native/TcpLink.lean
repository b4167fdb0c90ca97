import Pybrid.Library.Streams
import Pybrid.Native.TcpTransport

/-! One TCP connection as a whole: `send`, the send loop, the bytes in flight and the peer that reads them. -/

namespace Pybrid

/-- The buffer the receive loops hand to `recv`. -/
def recvLoopBufferSize : Nat := 262144

/-- An entry of the send queue, with the thread whose call of `send` puts it there. -/
structure SendEntry where
  thread : Nat
  message : List UInt8
  deriving DecidableEq, Repr

/-- The messages of some entries. -/
def messages (entries : List SendEntry) : List (List UInt8) := entries.map SendEntry.message

@[simp] theorem messages_nil : messages [] = [] := rfl

@[simp] theorem messages_cons (entry : SendEntry) (later : List SendEntry) :
    messages (entry :: later) = entry.message :: messages later := rfl

@[simp] theorem messages_append (front back : List SendEntry) :
    messages (front ++ back) = messages front ++ messages back := List.map_append ..

/-- Where the send loop stands, with the queue entry it holds. -/
inductive SendPoint where
  /-- At the head of the loop, before the look at the queue. -/
  | polling
  /-- An entry has been dequeued, and the length has not been lowered yet. -/
  | dequeued (entry : SendEntry)
  /-- `get` has returned an entry. -/
  | taken (entry : SendEntry)
  /-- The connection was found up, and the frame has been built. -/
  | framed (entry : SendEntry)
  /-- `asio::write` still has these bytes of the frame to write. -/
  | writing (entry : SendEntry) (rest : List UInt8)
  /-- `asio::write` has returned, with an error or without; an error may be `operation_aborted`. -/
  | wrote (entry : SendEntry) (error : Option Bool)
  /-- `sending_` has been cleared, and the error is about to be looked at. -/
  | cleared (entry : SendEntry) (error : Option Bool)
  /-- The loop has ended. -/
  | stopped
  deriving DecidableEq, Repr

namespace SendPoint

/-- The entry the send loop holds. -/
def inHand : SendPoint → List SendEntry
  | .dequeued entry | .taken entry | .framed entry | .writing entry _ | .wrote entry _
  | .cleared entry _ => [entry]
  | .polling | .stopped => []

/-- The entry the queue still counts, although it has been dequeued. -/
def uncounted : SendPoint → List SendEntry
  | .dequeued entry => [entry]
  | .taken _ | .framed _ | .writing _ _ | .wrote _ _ | .cleared _ _ | .polling | .stopped => []

/-- The entry whose frame has been started. -/
def begun : SendPoint → List SendEntry
  | .writing entry _ | .wrote entry _ | .cleared entry _ => [entry]
  | .dequeued _ | .taken _ | .framed _ | .polling | .stopped => []

/-- The entry in hand whose frame has not been started. -/
def unbegun : SendPoint → List SendEntry
  | .dequeued entry | .taken entry | .framed entry => [entry]
  | .writing _ _ | .wrote _ _ | .cleared _ _ | .polling | .stopped => []

/-- Whether `sending_` is set at this point of the loop. -/
def sending : SendPoint → Bool
  | .writing _ _ | .wrote _ _ => true
  | .dequeued _ | .taken _ | .framed _ | .cleared _ _ | .polling | .stopped => false

/-- The point lies behind the check of the connection. -/
def passed : SendPoint → Bool
  | .framed _ | .writing _ _ | .wrote _ _ | .cleared _ _ => true
  | .polling | .dequeued _ | .taken _ | .stopped => false

/-- The write of the entry in hand has failed. -/
def failing : SendPoint → Bool
  | .wrote _ error | .cleared _ error => error.isSome
  | .dequeued _ | .taken _ | .framed _ | .writing _ _ | .polling | .stopped => false

/-- The send loop holds the entry, and `sending_` is not set yet or cleared already. -/
def Idle (point : SendPoint) (entry : SendEntry) : Prop :=
  point = .dequeued entry ∨ point = .taken entry ∨ point = .framed entry ∨
    ∃ error, point = .cleared entry error

end SendPoint

/-- Where a caller of `drain` stands. -/
inductive DrainPoint where
  | idle
  /-- About to look at the length of the send queue. -/
  | lookQueue
  /-- The length was found to be zero, and `sending_` is about to be read. -/
  | lookSending
  | returned (answer : Bool)
  deriving DecidableEq, Repr

/-- One established connection: the sending transport, the bytes in flight and the peer's transport. -/
structure TcpLink where
  running : Bool
  connected : Bool
  /-- The sender's socket exists and is open. -/
  socketOpen : Bool
  /-- Entries of `send` calls that have passed the checks and are not in the queue yet. -/
  sends : List SendEntry
  /-- Entries of `send` calls that are in the queue and have not been counted yet. -/
  counts : List SendEntry
  /-- Entries waiting for the send loop, in the order in which they were put there. -/
  sendQueue : List SendEntry
  /-- The length the queue reports, which a dequeue may lower before the enqueue raises it. -/
  sendQueueLen : Int
  sendPoint : SendPoint
  sending : Bool
  bytesSent : Nat
  messagesSent : Nat
  drainPoint : DrainPoint
  /-- Bytes the socket has taken and the peer has not read. -/
  wire : List UInt8
  /-- The transport at the other end. -/
  peer : TcpTransport
  /-- What the peer's `recv` has copied out, oldest first. -/
  returned : List (List UInt8)
  /-- The entries that were put into the queue. -/
  entered : List SendEntry
  /-- The entries for which `send` has returned true. -/
  accepted : List SendEntry
  /-- The entries whose frame has been written without an error. -/
  written : List SendEntry
  /-- The entries whose write has failed. -/
  failed : List SendEntry
  /-- The entries dropped because the connection was down at their turn. -/
  dropped : List SendEntry
  /-- The part of a frame that a failed write has left unwritten. -/
  cutOff : List UInt8
  /-- How many entries had been accepted when `drain` was called. -/
  owed : Nat
  /-- How many calls were still to count their entry when `drain` last looked at the length. -/
  underWay : Nat
  deriving DecidableEq, Repr

/-- Atomic steps of the sender's threads, the network and the peer. -/
inductive LinkAction where
  /-- A thread that is in no other call of `send` calls it, which makes its checks. -/
  | send (entry : SendEntry)
  /-- One of the calls under way puts its entry into the send queue, if there is memory for it. -/
  | enqueue (entry : SendEntry) (allocates : Bool)
  /-- One of the calls under way raises the length of the queue and returns. -/
  | count (entry : SendEntry)
  /-- The send loop dequeues the oldest entry of a thread. -/
  | dequeue (thread : Nat)
  /-- The send loop executes its next statement; at its head it finds no entry. -/
  | loop
  /-- The socket takes some bytes of the frame being written. -/
  | put (count : Nat)
  /-- The write ends with an error. -/
  | writeError (aborted : Bool)
  /-- A read error of the sender's io thread, or the first step of `disconnect`. -/
  | clearConnected
  /-- `disconnect` closes the socket. -/
  | closeSocket
  /-- `stop` clears `running_`. -/
  | stop
  /-- A read of the peer's io thread completes. -/
  | read (count : Nat)
  /-- The peer loses the connection, or leaves it. -/
  | peerDown
  /-- The peer's receive loop takes a message. -/
  | recv
  /-- A thread calls `drain`. -/
  | drainCall
  /-- The caller of `drain` performs its next look. -/
  | drainLook
  /-- The caller's last look after the deadline has failed. -/
  | drainExpire
  deriving DecidableEq, Repr

namespace TcpLink

open Streams

/-- A connection that has just been established. -/
def initial : TcpLink where
  -- Both ends are up and nothing has been sent.
  running := true
  connected := true
  socketOpen := true
  sends := []
  counts := []
  sendQueue := []
  sendQueueLen := 0
  sendPoint := .polling
  sending := false
  bytesSent := 0
  messagesSent := 0
  drainPoint := .idle
  wire := []
  peer := .fresh
  returned := []
  entered := []
  accepted := []
  written := []
  failed := []
  dropped := []
  cutOff := []
  owed := 0
  underWay := 0

/-- The checks of `send`: it refuses while not connected, and refuses long messages. -/
def send (s : TcpLink) (entry : SendEntry) : Option TcpLink :=
  -- A thread is in one call at a time.
  if entry.thread ∈ (s.sends ++ s.counts).map SendEntry.thread then none
  -- Both refusals are exceptions, and leave everything as it was.
  else if s.connected = false then some s
  else if defaultTcpMessageSize < entry.message.length then some s
  else some { s with sends := s.sends ++ [entry] }

/-- `send` puts its entry behind the others, in whatever state the connection is now. -/
def enqueue (s : TcpLink) (entry : SendEntry) (allocates : Bool) : Option TcpLink :=
  if entry ∈ s.sends then
    -- The queue grows without bound; without memory for an entry `send` returns false.
    if allocates then
      some { s with
        sends := s.sends.erase entry
        counts := s.counts ++ [entry]
        sendQueue := s.sendQueue ++ [entry]
        entered := s.entered ++ [entry] }
    else some { s with sends := s.sends.erase entry }
  else none

/-- The end of `send`: the length is raised behind the queue, and true is returned. -/
def count (s : TcpLink) (entry : SendEntry) : Option TcpLink :=
  if entry ∈ s.counts then
    some { s with
      counts := s.counts.erase entry
      sendQueueLen := s.sendQueueLen + 1
      accepted := s.accepted ++ [entry] }
  else none

/-- `get` of the send queue, which keeps the order of each thread and no other. -/
def dequeue (s : TcpLink) (thread : Nat) : Option TcpLink :=
  match s.sendPoint with
  | .polling =>
    if s.running then
      (takeFirst SendEntry.thread thread s.sendQueue).map fun (entry, rest) =>
        { s with sendQueue := rest, sendPoint := .dequeued entry }
    else none
  | _ => none

/-- The next statement of `send_loop`; inside of the write it waits for the socket. -/
def loop (s : TcpLink) : Option TcpLink :=
  match s.sendPoint with
  | .polling =>
    -- A queue that seems empty makes the loop wait for at most a millisecond and start over.
    if s.running then some s else some { s with sendPoint := .stopped }
  | .dequeued entry =>
    some { s with sendQueueLen := s.sendQueueLen - 1, sendPoint := .taken entry }
  | .taken entry =>
    if s.connected && s.socketOpen then some { s with sendPoint := .framed entry }
    else some { s with sendPoint := .polling, dropped := s.dropped ++ [entry] }
  | .framed entry =>
    some { s with sendPoint := .writing entry (wireFrame entry.message), sending := true }
  | .writing _ _ => none
  | .wrote entry error => some { s with sendPoint := .cleared entry error, sending := false }
  | .cleared entry (some aborted) =>
    -- Only `operation_aborted` leaves the flag to whoever has closed the socket.
    some { s with
      sendPoint := .polling
      connected := s.connected && aborted
      failed := s.failed ++ [entry] }
  | .cleared entry none =>
    some { s with
      sendPoint := .polling
      bytesSent := s.bytesSent + (wireFrame entry.message).length
      messagesSent := s.messagesSent + 1
      written := s.written ++ [entry] }
  | .stopped => none

/-- The socket takes between one and all of the bytes left; the last ones end the write. -/
def put (s : TcpLink) (count : Nat) : Option TcpLink :=
  match s.sendPoint with
  | .writing entry rest =>
    -- The socket takes at least one byte, and at most what is left.
    if s.socketOpen = true ∧ 0 < count ∧ count ≤ rest.length then
      some { s with
        wire := s.wire ++ rest.take count
        sendPoint :=
          if rest.drop count = [] then .wrote entry none else .writing entry (rest.drop count) }
    else none
  | _ => none

/-- The write fails; it is aborted only when the socket has been closed under it. -/
def writeError (s : TcpLink) (aborted : Bool) : Option TcpLink :=
  match s.sendPoint with
  | .writing entry rest =>
    if aborted = true → s.socketOpen = false then
      some { s with sendPoint := .wrote entry (some aborted), cutOff := rest }
    else none
  | _ => none

/-- A read of the peer takes bytes off the wire, as many as it has and the read has room for. -/
def read (s : TcpLink) (count : Nat) : Option TcpLink :=
  if count ≤ s.wire.length then
    (s.peer.receive (s.wire.take count)).map fun peer =>
      { s with peer := peer, wire := s.wire.drop count }
  else none

/-- The peer's receive loop calls `recv`, which copies the oldest message into its buffer. -/
def recv (s : TcpLink) : Option TcpLink :=
  match s.peer.recvQueue with
  | message :: rest =>
    some { s with
      peer := { s.peer with recvQueue := rest }
      returned := s.returned ++ [message.take (min message.length recvLoopBufferSize)] }
  | [] => none

/-- The next look of a caller of `drain`. -/
def drainLook (s : TcpLink) : Option TcpLink :=
  match s.drainPoint with
  | .lookQueue =>
    -- A length that is not zero makes the caller sleep and start over.
    some { s with
      drainPoint := if s.sendQueueLen = 0 then .lookSending else .lookQueue
      underWay := s.counts.length }
  | .lookSending =>
    some { s with drainPoint := if s.sending then .lookQueue else .returned true }
  | .idle | .returned _ => none

/-- After the deadline `drain` answers whether one more look succeeds. -/
def drainExpire (s : TcpLink) : Option TcpLink :=
  match s.drainPoint with
  | .lookQueue =>
    if s.sendQueueLen = 0 then none else some { s with drainPoint := .returned false }
  | .lookSending => if s.sending then some { s with drainPoint := .returned false } else none
  | .idle | .returned _ => none

/-- One atomic step. -/
def step (s : TcpLink) : LinkAction → Option TcpLink
  | .send entry => s.send entry
  | .enqueue entry allocates => s.enqueue entry allocates
  | .count entry => s.count entry
  | .dequeue thread => s.dequeue thread
  | .loop => s.loop
  | .put count => s.put count
  | .writeError aborted => s.writeError aborted
  -- The other parties are free to act between any two statements.
  | .clearConnected => some { s with connected := false }
  | .closeSocket => if s.connected then none else some { s with socketOpen := false }
  | .stop => some { s with running := false }
  | .read count => s.read count
  | .peerDown => some { s with peer := { s.peer with connected := false } }
  | .recv => s.recv
  -- A call of drain notes how many messages it has to wait for.
  | .drainCall =>
    match s.drainPoint with
    | .idle | .returned _ =>
      some { s with
        drainPoint := if s.running then .lookQueue else .returned false
        owed := s.accepted.length }
    | .lookQueue | .lookSending => none
  | .drainLook => s.drainLook
  | .drainExpire => s.drainExpire

/-- The entries the send loop is done with, whatever became of them. -/
def settled (s : TcpLink) : List SendEntry :=
  s.written ++ s.failed ++ s.dropped

/-- The entries whose frame has been started, oldest first. -/
def begun (s : TcpLink) : List SendEntry :=
  s.written ++ s.failed ++ s.sendPoint.begun

/-- The bytes of started frames that no socket has taken. -/
def unwritten (s : TcpLink) : List UInt8 :=
  match s.sendPoint with
  | .writing _ rest => rest
  | _ => s.cutOff

/-- The sender's end of the connection is up. -/
def Up (s : TcpLink) : Prop :=
  s.connected = true ∧ s.socketOpen = true

/-- `send` refuses a message, or lets an admitted one through. -/
theorem send_eq {s s' : TcpLink} {entry : SendEntry} (stepped : s.send entry = some s') :
    s' = s ∨ AdmittedMessage entry.message ∧
      entry.thread ∉ (s.sends ++ s.counts).map SendEntry.thread ∧
      s' = { s with sends := s.sends ++ [entry] } := by
  unfold TcpLink.send at stepped
  -- A message that is too large, or a link that is down, is refused.
  split at stepped
  · cases stepped
  · rename_i single
    split at stepped
    · exact .inl (Option.some.inj stepped).symm
    · split at stepped
      · exact .inl (Option.some.inj stepped).symm
      · rename_i short
        exact .inr ⟨Nat.not_lt.mp short, single, (Option.some.inj stepped).symm⟩

/-- An entry is put into the queue, or there was no memory for it. -/
theorem enqueue_eq {s s' : TcpLink} {entry : SendEntry} {allocates : Bool}
    (stepped : s.enqueue entry allocates = some s') :
    entry ∈ s.sends ∧ (s' = { s with sends := s.sends.erase entry } ∨
      s' = { s with
        sends := s.sends.erase entry
        counts := s.counts ++ [entry]
        sendQueue := s.sendQueue ++ [entry]
        entered := s.entered ++ [entry] }) := by
  unfold TcpLink.enqueue at stepped
  -- Without memory the call returns false and the entry is gone.
  split at stepped
  · rename_i waiting
    split at stepped
    · exact ⟨waiting, .inr (Option.some.inj stepped).symm⟩
    · exact ⟨waiting, .inl (Option.some.inj stepped).symm⟩
  · cases stepped

/-- An entry in the queue is counted, and its call of `send` returns true. -/
theorem count_eq {s s' : TcpLink} {entry : SendEntry} (stepped : s.count entry = some s') :
    entry ∈ s.counts ∧ s' = { s with
      counts := s.counts.erase entry
      sendQueueLen := s.sendQueueLen + 1
      accepted := s.accepted ++ [entry] } := by
  unfold TcpLink.count at stepped
  -- The length is raised only after the entry is in the queue.
  split at stepped
  · exact ⟨‹_›, (Option.some.inj stepped).symm⟩
  · cases stepped

/-- The send loop gets the oldest entry of a thread. -/
theorem dequeue_eq {s s' : TcpLink} {thread : Nat} (stepped : s.dequeue thread = some s') :
    s.sendPoint = .polling ∧ ∃ entry rest,
      takeFirst SendEntry.thread thread s.sendQueue = some (entry, rest) ∧
      s' = { s with sendQueue := rest, sendPoint := .dequeued entry } := by
  unfold TcpLink.dequeue at stepped
  -- Of each thread the oldest entry comes first, between threads there is no order.
  split at stepped
  · rename_i point
    split at stepped
    · obtain ⟨⟨entry, rest⟩, taken, rfl⟩ := Option.map_eq_some_iff.mp stepped
      exact ⟨point, entry, rest, taken, rfl⟩
    · cases stepped
  · cases stepped

/-- What one statement of the send loop does, by the point at which the loop stands. -/
inductive LoopStep (s : TcpLink) : TcpLink → Prop where
  | wait (point : s.sendPoint = .polling) : LoopStep s s
  | halt (point : s.sendPoint = .polling) (halted : s.running = false) :
      LoopStep s { s with sendPoint := .stopped }
  -- The length is lowered only after the entry has left the queue.
  | lower {entry : SendEntry} (point : s.sendPoint = .dequeued entry) :
      LoopStep s { s with sendQueueLen := s.sendQueueLen - 1, sendPoint := .taken entry }
  | frame {entry : SendEntry} (point : s.sendPoint = .taken entry) (up : s.Up) :
      LoopStep s { s with sendPoint := .framed entry }
  | drop {entry : SendEntry} (point : s.sendPoint = .taken entry) (down : ¬s.Up) :
      LoopStep s { s with sendPoint := .polling, dropped := s.dropped ++ [entry] }
  | start {entry : SendEntry} (point : s.sendPoint = .framed entry) :
      LoopStep s { s with sendPoint := .writing entry (wireFrame entry.message), sending := true }
  | clear {entry : SendEntry} {error : Option Bool} (point : s.sendPoint = .wrote entry error) :
      LoopStep s { s with sendPoint := .cleared entry error, sending := false }
  -- An aborted write leaves the flag to whoever closed the socket.
  | fail {entry : SendEntry} {aborted : Bool}
      (point : s.sendPoint = .cleared entry (some aborted)) :
      LoopStep s { s with
        sendPoint := .polling
        connected := s.connected && aborted
        failed := s.failed ++ [entry] }
  | finish {entry : SendEntry} (point : s.sendPoint = .cleared entry none) :
      LoopStep s { s with
        sendPoint := .polling
        bytesSent := s.bytesSent + (wireFrame entry.message).length
        messagesSent := s.messagesSent + 1
        written := s.written ++ [entry] }

/-- The send loop does nothing else. -/
theorem loop_steps {s s' : TcpLink} (stepped : s.loop = some s') : LoopStep s s' := by
  unfold TcpLink.loop at stepped
  -- One case for each statement of the loop.
  cases point : s.sendPoint with
  | polling =>
    simp only [point] at stepped
    split at stepped
    · exact Option.some.inj stepped ▸ .wait point
    · rename_i halted
      exact Option.some.inj stepped ▸ .halt point (Bool.eq_false_iff.mpr halted)
  | dequeued entry =>
    simp only [point, Option.some.injEq] at stepped
    exact stepped ▸ .lower point
  | taken entry =>
    simp only [point] at stepped
    split at stepped
    · rename_i up
      exact Option.some.inj stepped ▸ .frame point (by simpa [Up] using up)
    · rename_i down
      exact Option.some.inj stepped ▸ .drop point (by simpa [Up] using down)
  | framed entry =>
    simp only [point, Option.some.injEq] at stepped
    exact stepped ▸ .start point
  | writing entry rest => simp [point] at stepped
  | wrote entry error =>
    simp only [point, Option.some.injEq] at stepped
    exact stepped ▸ .clear point
  | cleared entry error =>
    cases error with
    | some aborted =>
      simp only [point, Option.some.injEq] at stepped
      exact stepped ▸ .fail point
    | none =>
      simp only [point, Option.some.injEq] at stepped
      exact stepped ▸ .finish point
  | stopped => simp [point] at stepped

/-- The socket takes bytes of the frame being written, and nothing else changes. -/
theorem put_eq {s s' : TcpLink} {count : Nat} (stepped : s.put count = some s') :
    ∃ entry rest, s.sendPoint = .writing entry rest ∧
      s' = { s with
        wire := s.wire ++ rest.take count
        sendPoint :=
          if rest.drop count = [] then .wrote entry none else .writing entry (rest.drop count) } := by
  unfold TcpLink.put at stepped
  -- Bytes are taken only while a frame is being written.
  split at stepped
  · rename_i entry rest point
    split at stepped
    · exact ⟨entry, rest, point, (Option.some.inj stepped).symm⟩
    · simp at stepped
  · simp at stepped

/-- A write that fails leaves the rest of its frame unwritten. -/
theorem writeError_eq {s s' : TcpLink} {aborted : Bool} (stepped : s.writeError aborted = some s') :
    ∃ entry rest, s.sendPoint = .writing entry rest ∧
      (aborted = true → s.socketOpen = false) ∧
      s' = { s with sendPoint := .wrote entry (some aborted), cutOff := rest } := by
  unfold TcpLink.writeError at stepped
  -- Only a closed socket aborts a write.
  split at stepped
  · rename_i entry rest point
    split at stepped
    · rename_i closed
      exact ⟨entry, rest, point, closed, (Option.some.inj stepped).symm⟩
    · simp at stepped
  · simp at stepped

/--
The send side of a link: where every entry is.

The entries of one thread leave the queue in order, and the first one that is not written is the
last one started.
-/
structure Accounted (s : TcpLink) : Prop where
  admitted : ∀ entry, entry ∈ s.sends ∨ entry ∈ s.entered → AdmittedMessage entry.message
  /-- A thread is in one call of `send` at a time. -/
  single : ((s.sends ++ s.counts).map SendEntry.thread).Nodup
  /-- What a thread has put into the queue, its calls have returned true for, but for the last. -/
  answered : Same SendEntry.thread s.entered (s.accepted ++ s.counts)
  -- Between threads only the order of each thread is kept.
  order : Same SendEntry.thread s.entered (s.settled ++ s.sendPoint.inHand ++ s.sendQueue)
  /-- The length lags behind the queue on both ends. -/
  length : s.sendQueueLen + s.counts.length =
    s.sendQueue.length + s.sendPoint.uncounted.length
  /-- An entry that passes the check of the connection has no unwritten one before it. -/
  passed : s.sendPoint.passed = true → s.failed = [] ∧ s.dropped = []
  down : s.failed ≠ [] ∨ s.dropped ≠ [] → ¬s.Up
  aborted : ∀ entry, s.sendPoint = .wrote entry (some true) ∨
    s.sendPoint = .cleared entry (some true) → s.socketOpen = false
  sending : s.sending = s.sendPoint.sending
  whole : s.failed = [] → s.sendPoint.failing = false → s.cutOff = []
  unfinished : ∀ entry rest, s.sendPoint = .writing entry rest → rest ≠ []
  ended : s.sendPoint = .stopped → s.running = false
  sent : s.bytesSent = (Framing.stream wireFrame (messages s.written)).length ∧
    s.messagesSent = s.written.length

/-- A new connection has accepted, written and carried nothing. -/
theorem initial_accounted : initial.Accounted where
  admitted := by simp [initial]
  single := by simp [initial]
  -- Both sides of every account are empty.
  answered := .refl _
  order := .refl _
  length := rfl
  passed := by simp [initial]
  down := by simp [initial]
  aborted := by simp [initial]
  sending := rfl
  whole := by simp [initial]
  unfinished := by simp [initial]
  ended := by simp [initial]
  sent := ⟨rfl, rfl⟩

/-- `send` lets only admitted messages through. -/
theorem Accounted.send {s s' : TcpLink} {entry : SendEntry} (inv : s.Accounted)
    (stepped : s.send entry = some s') : s'.Accounted := by
  rcases send_eq stepped with rfl | ⟨admitted, new, rfl⟩
  · exact inv
  · refine { inv with admitted := ?_, single := ?_ }
    · intro other known
      rcases known with waiting | entered
      · rcases List.mem_append.mp waiting with old | new
        · exact inv.admitted other (.inl old)
        · exact List.mem_singleton.mp new ▸ admitted
      · exact inv.admitted other (.inr entered)
    · -- The thread was in no call, so it is in one now.
      have single := inv.single
      have moved : (s.sends ++ [entry] ++ s.counts).Perm (entry :: (s.sends ++ s.counts)) := by
        rw [List.append_assoc, List.singleton_append]
        exact List.perm_middle
      refine (moved.map SendEntry.thread).nodup_iff.mpr ?_
      rw [List.map_cons, List.nodup_cons]
      exact ⟨new, single⟩

/-- An entry that leaves the calls before the queue leaves the others. -/
theorem Accounted.single_erase {s : TcpLink} (inv : s.Accounted) {entry : SendEntry}
    (waiting : entry ∈ s.sends) :
    ((s.sends.erase entry ++ (s.counts ++ [entry])).map SendEntry.thread).Nodup ∧
      ((s.sends.erase entry ++ s.counts).map SendEntry.thread).Nodup := by
  -- The entry goes from one list of calls to the other.
  have moved : (s.sends.erase entry ++ (s.counts ++ [entry])).Perm (s.sends ++ s.counts) := by
    have back := (List.perm_cons_erase waiting).symm
    rw [← List.append_assoc]
    refine List.perm_append_singleton _ _ |>.trans ?_
    rw [← List.cons_append]
    exact back.append_right _
  have whole := (moved.map SendEntry.thread).nodup_iff.mpr inv.single
  refine ⟨whole, whole.sublist ?_⟩
  rw [← List.append_assoc]
  exact (List.sublist_append_left _ _).map _

/-- A new entry goes behind all the others. -/
theorem Accounted.enqueue {s s' : TcpLink} {entry : SendEntry} {allocates : Bool}
    (inv : s.Accounted) (stepped : s.enqueue entry allocates = some s') : s'.Accounted := by
  obtain ⟨waiting, outcome⟩ := enqueue_eq stepped
  have admitted := inv.admitted entry (.inl waiting)
  obtain ⟨whole, rest⟩ := inv.single_erase waiting
  -- The entry is lost, or it is the last one of the queue.
  rcases outcome with rfl | rfl
  · refine { inv with admitted := ?_, single := rest }
    exact fun other known => inv.admitted other (known.imp_left List.mem_of_mem_erase)
  · refine { inv with admitted := ?_, single := whole, answered := ?_, order := ?_, length := ?_ }
    · intro other known
      rcases known with still | entered
      · exact inv.admitted other (.inl (List.mem_of_mem_erase still))
      · rcases List.mem_append.mp entered with old | new
        · exact inv.admitted other (.inr old)
        · exact List.mem_singleton.mp new ▸ admitted
    · rw [← List.append_assoc]
      exact inv.answered.append (.refl _)
    · show Same _ _ (s.settled ++ s.sendPoint.inHand ++ (s.sendQueue ++ [entry]))
      rw [← List.append_assoc]
      exact inv.order.append (.refl _)
    · have length := inv.length
      simp only [List.length_append, List.length_singleton]
      push_cast
      omega

/-- Counting an entry keeps the account. -/
theorem Accounted.count {s s' : TcpLink} {entry : SendEntry} (inv : s.Accounted)
    (stepped : s.count entry = some s') : s'.Accounted := by
  obtain ⟨queued, rfl⟩ := count_eq stepped
  have distinct : (s.counts.map SendEntry.thread).Nodup :=
    inv.single.sublist ((List.sublist_append_right _ _).map _)
  refine { inv with single := ?_, answered := ?_, length := ?_ }
  · exact inv.single.sublist (((List.erase_sublist).append_left _).map _)
  · -- Its call was the only one of the thread, so it comes first among those not counted.
    refine inv.answered.trans ?_
    rw [List.append_assoc, List.singleton_append]
    exact (Same.refl _).append (same_cons_erase distinct queued)
  · have length := inv.length
    have less := List.length_erase_of_mem queued
    have present := List.length_pos_of_mem queued
    simp only [less]
    omega

/-- The send loop takes an entry from the queue into its hand. -/
theorem Accounted.dequeue {s s' : TcpLink} {thread : Nat} (inv : s.Accounted)
    (stepped : s.dequeue thread = some s') : s'.Accounted := by
  obtain ⟨point, entry, rest, taken, rfl⟩ := dequeue_eq stepped
  have order := inv.order
  have sending := inv.sending
  have whole := inv.whole
  have length := inv.length
  rw [point] at order sending whole length
  obtain ⟨_, same⟩ := takeFirst_same taken
  exact { inv with
    order := by
      -- It was the oldest of its thread, so that no other of the thread comes before it.
      have moved := order.trans ((Same.refl _).append same)
      simpa [settled, SendPoint.inHand] using moved
    length := by
      have count := same.perm.length_eq
      simp only [SendPoint.uncounted, List.length_nil, List.length_cons] at length count ⊢
      omega
    passed := by simp [SendPoint.passed]
    aborted := by simp
    unfinished := by simp
    ended := by simp
    sending := sending
    whole := whole }

/-- Every statement of the send loop keeps the account. -/
theorem Accounted.loop {s s' : TcpLink} (inv : s.Accounted) (stepped : s.loop = some s') :
    s'.Accounted := by
  have order := inv.order
  have sending := inv.sending
  have whole := inv.whole
  have passed := inv.passed
  have length := inv.length
  -- The cases are the statements of the loop, in their order.
  cases loop_steps stepped with
  | wait => exact inv
  | halt point halted =>
    rw [point] at order sending whole length
    exact { inv with
      order := order
      length := length
      passed := by simp [SendPoint.passed]
      aborted := by simp
      unfinished := by simp
      ended := fun _ => halted
      sending := sending
      whole := whole }
  | lower point =>
    rw [point] at order sending whole length
    exact { inv with
      order := order
      length := by
        simp only [SendPoint.uncounted, List.length_singleton, List.length_nil] at length ⊢
        omega
      passed := by simp [SendPoint.passed]
      aborted := by simp
      unfinished := by simp
      ended := by simp
      sending := sending
      whole := whole }
  | frame point up =>
    rw [point] at order sending whole length
    -- An unwritten message would have found the connection down before.
    have clean : s.failed = [] ∧ s.dropped = [] := by
      by_contra dirty
      exact inv.down (by tauto) up
    exact { inv with
      order := order
      length := length
      passed := fun _ => clean
      aborted := by simp
      unfinished := by simp
      ended := by simp
      sending := sending
      whole := whole }
  | drop point down =>
    rw [point] at order sending whole length
    exact { inv with
      order := by simpa [settled, SendPoint.inHand] using order
      length := length
      passed := by simp [SendPoint.passed]
      down := fun _ => down
      aborted := by simp
      unfinished := by simp
      ended := by simp
      sending := sending
      whole := whole }
  | @start entry point =>
    rw [point] at order whole passed length
    exact { inv with
      order := order
      length := length
      passed := fun _ => passed rfl
      aborted := by simp
      unfinished := by
        intro _ rest same
        exact (SendPoint.writing.inj same).2 ▸ wireFrame_ne_nil entry.message
      ended := by simp
      sending := rfl
      whole := whole }
  | clear point =>
    have aborted := inv.aborted
    rw [point] at order whole passed aborted length
    exact { inv with
      order := order
      length := length
      passed := fun _ => passed rfl
      aborted := fun other known => aborted other (by simpa using known)
      unfinished := by simp
      ended := by simp
      sending := rfl
      whole := whole }
  | @fail entry aborted point =>
    obtain ⟨unfailed, undropped⟩ := passed (by rw [point]; rfl)
    rw [point] at order sending length
    -- Either the flag is cleared here, or the socket had been closed before.
    have closed : ¬((s.connected && aborted) = true ∧ s.socketOpen = true) := by
      rintro ⟨up, opened⟩
      obtain ⟨-, rfl⟩ := (Bool.and_eq_true _ _).mp up
      have := inv.aborted entry (.inr point)
      simp [this] at opened
    exact { inv with
      order := by simpa [settled, SendPoint.inHand, undropped] using order
      length := length
      passed := by simp [SendPoint.passed]
      down := fun _ => closed
      aborted := by simp
      unfinished := by simp
      ended := by simp
      sending := sending
      whole := by simp }
  | finish point =>
    obtain ⟨unfailed, undropped⟩ := passed (by rw [point]; rfl)
    rw [point] at order sending whole length
    obtain ⟨bytes, counted⟩ := inv.sent
    exact { inv with
      order := by simpa [settled, SendPoint.inHand, unfailed, undropped] using order
      length := length
      passed := by simp [SendPoint.passed]
      aborted := by simp
      unfinished := by simp
      ended := by simp
      sending := sending
      whole := whole
      sent := by simp [bytes, counted] }

/-- The socket taking bytes keeps the account. -/
theorem Accounted.put {s s' : TcpLink} {count : Nat} (inv : s.Accounted)
    (stepped : s.put count = some s') : s'.Accounted := by
  obtain ⟨entry, rest, point, rfl⟩ := put_eq stepped
  have order := inv.order
  have sending := inv.sending
  have whole := inv.whole
  have passed := inv.passed
  have length := inv.length
  rw [point] at order sending whole passed length
  -- Whether or not these were the last bytes, the entry stays in hand.
  split
  · exact { inv with
      order := order
      length := length
      passed := fun _ => passed rfl
      aborted := by simp
      unfinished := by simp
      ended := by simp
      sending := sending
      whole := whole }
  · rename_i more
    exact { inv with
      order := order
      length := length
      passed := fun _ => passed rfl
      aborted := by simp
      unfinished := by
        intro _ left same
        exact (SendPoint.writing.inj same).2 ▸ more
      ended := by simp
      sending := sending
      whole := whole }

/-- A failing write keeps the account. -/
theorem Accounted.writeError {s s' : TcpLink} {aborted : Bool} (inv : s.Accounted)
    (stepped : s.writeError aborted = some s') : s'.Accounted := by
  obtain ⟨entry, rest, point, closed, rfl⟩ := writeError_eq stepped
  have order := inv.order
  have sending := inv.sending
  have passed := inv.passed
  have length := inv.length
  -- The entry stays in hand, with the error noted.
  rw [point] at order sending passed length
  exact { inv with
    order := order
    length := length
    passed := fun _ => passed rfl
    aborted := by
      intro other known
      rcases known with same | same
      · exact closed (Option.some.inj (SendPoint.wrote.inj same).2)
      · simp at same
    unfinished := by simp
    ended := by simp
    sending := sending
    whole := by simp [SendPoint.failing] }

/-- A look of `drain` moves its caller only, and notes which calls have not counted their entries. -/
theorem drainLook_eq {s s' : TcpLink} (stepped : s.drainLook = some s') :
    ∃ point underWay, s' = { s with drainPoint := point, underWay := underWay } := by
  unfold TcpLink.drainLook at stepped
  -- A look that sees no message, one that sees some, and no look at all.
  split at stepped
  · exact ⟨_, _, (Option.some.inj stepped).symm⟩
  · exact ⟨_, _, (Option.some.inj stepped).symm⟩
  · simp at stepped
  · simp at stepped

/-- The end of the deadline moves the caller of `drain` only. -/
theorem drainExpire_eq {s s' : TcpLink} (stepped : s.drainExpire = some s') :
    ∃ point, s' = { s with drainPoint := point } := by
  unfold TcpLink.drainExpire at stepped
  -- The last look changes nothing but where the caller is.
  split at stepped
  · split at stepped
    · simp at stepped
    · exact ⟨_, (Option.some.inj stepped).symm⟩
  · split at stepped
    · exact ⟨_, (Option.some.inj stepped).symm⟩
    · simp at stepped
  · simp at stepped
  · simp at stepped

/-- Every step keeps the account of the entries. -/
theorem Accounted.step {s s' : TcpLink} {action : LinkAction} (inv : s.Accounted)
    (stepped : s.step action = some s') : s'.Accounted := by
  -- Reads, the peer and drain do not touch what is accounted for.
  cases action with
  | send entry => exact inv.send stepped
  | enqueue entry allocates => exact inv.enqueue stepped
  | count entry => exact inv.count stepped
  | dequeue thread => exact inv.dequeue stepped
  | loop => exact inv.loop stepped
  | put count => exact inv.put stepped
  | writeError aborted => exact inv.writeError stepped
  | clearConnected =>
    obtain rfl := Option.some.inj stepped
    exact { inv with down := fun _ => by simp [Up] }
  | closeSocket =>
    simp only [TcpLink.step] at stepped
    split at stepped
    · simp at stepped
    · obtain rfl := Option.some.inj stepped
      exact { inv with
        down := fun _ => by simp [Up]
        aborted := fun _ _ => rfl }
  | stop => exact Option.some.inj stepped ▸ { inv with ended := fun _ => rfl }
  | read count =>
    simp only [TcpLink.step, TcpLink.read] at stepped
    split at stepped
    · obtain ⟨peer, _, rfl⟩ := Option.map_eq_some_iff.mp stepped
      exact { inv with }
    · simp at stepped
  | peerDown => exact Option.some.inj stepped ▸ { inv with }
  | recv =>
    simp only [TcpLink.step, TcpLink.recv] at stepped
    split at stepped
    · obtain rfl := Option.some.inj stepped
      exact { inv with }
    · simp at stepped
  | drainCall =>
    simp only [TcpLink.step] at stepped
    split at stepped
    · obtain rfl := Option.some.inj stepped
      exact { inv with }
    · obtain rfl := Option.some.inj stepped
      exact { inv with }
    · simp at stepped
    · simp at stepped
  | drainLook =>
    obtain ⟨point, underWay, rfl⟩ := drainLook_eq stepped
    exact { inv with }
  | drainExpire =>
    obtain ⟨point, rfl⟩ := drainExpire_eq stepped
    exact { inv with }

/-- The entry in hand is one whose frame is begun or one whose frame is not. -/
theorem inHand_eq (point : SendPoint) : point.inHand = point.begun ++ point.unbegun := by
  cases point <;> rfl

/-- A frame under way means that no entry was dropped or failed before it. -/
theorem Accounted.begun_passed {s : TcpLink} (inv : s.Accounted) (started : s.sendPoint.begun ≠ []) :
    s.failed = [] ∧ s.dropped = [] := by
  refine inv.passed ?_
  cases point : s.sendPoint <;> simp_all [SendPoint.begun, SendPoint.passed]

/-- What is settled and in hand are the entries begun, those dropped and the one not begun. -/
theorem Accounted.settled_eq {s : TcpLink} (inv : s.Accounted) :
    s.settled ++ s.sendPoint.inHand = s.begun ++ s.dropped ++ s.sendPoint.unbegun := by
  rw [inHand_eq]
  -- As long as nothing has been sent, the messages in hand are still unsent.
  by_cases started : s.sendPoint.begun = []
  · simp [settled, begun, started]
  · simp [settled, begun, (inv.begun_passed started).2]

/-- The frames begun belong to the oldest entries of each thread. -/
theorem Accounted.begun_begins {s : TcpLink} (inv : s.Accounted) :
    Begins SendEntry.thread s.begun s.entered := by
  -- What has been begun comes before all that the sender has left.
  have order := inv.order
  rw [inv.settled_eq, List.append_assoc, List.append_assoc] at order
  exact order.begins

/-- Every message whose frame has been begun was admitted. -/
theorem Accounted.begun_admitted {s : TcpLink} (account : s.Accounted) :
    ∀ message ∈ messages s.begun, AdmittedMessage message := by
  intro message member
  obtain ⟨entry, begun, rfl⟩ := List.mem_map.mp member
  -- What has been begun was put into the queue, and only admitted entries were.
  refine account.admitted entry (.inr (account.order.perm.mem_iff.mpr ?_))
  rw [account.settled_eq]
  simp [begun]

/-- No more frames have been begun than entries were put into the queue. -/
theorem Accounted.begun_length {s : TcpLink} (inv : s.Accounted) :
    s.begun.length ≤ s.entered.length := by
  -- Each message that was accepted is in one place only.
  have count := inv.order.perm.length_eq
  rw [inv.settled_eq] at count
  simp only [List.length_append] at count
  omega

/-- On a connection that is up, every entry is written, in hand or queued. -/
theorem Accounted.up {s : TcpLink} (inv : s.Accounted) (up : s.Up) :
    s.failed = [] ∧ s.dropped = [] := by
  by_contra dirty
  exact inv.down (by tauto) up

end TcpLink

end Pybrid
