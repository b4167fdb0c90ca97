import Pybrid.Library.Transition
import Pybrid.Native.Message

/-! The UDP receive queue of a proxied backend, drained by one thread and shrunk by two. -/

namespace Pybrid

/-- A datagram as the receive loop reads it: a message, or bytes that do not parse as one. -/
inductive Datagram where
  | message (kind : MessageKind)
  | malformed
  deriving DecidableEq, Repr

/-- The messages the forwarding data channel treats as data. -/
def Datagram.isDataMessage : Datagram → Bool
  | .message (.runData _) | .message (.runDataEnd _) | .message (.runStateChange _) => true
  | _ => false

/-- A run state whose forwarding ends in `reset_buffers`. -/
def RunState.shrinksBuffers (state : RunState) : Bool :=
  -- Both ends of a run, the good one and the bad one, release memory.
  state = .done || state = .error

/-- What a thread is doing inside `DataChannel::reset_buffers`. -/
inductive ShrinkPoint where
  /-- Not inside `reset_buffers`. -/
  | outside
  /-- About to compare the queue length with the threshold. -/
  | testLength
  /-- About to swap the queue for an empty one. -/
  | swapQueue
  deriving DecidableEq, Repr

/-- The two threads that run the forwarding callback. -/
inductive ForwardThread where
  /-- The data channel's receive loop, for messages that arrive over UDP. -/
  | receiveLoop
  /-- The control channel's receive loop, for messages that arrive over TCP. -/
  | controlLoop
  deriving DecidableEq, Repr

/-- The queue of a backend's UDP socket and the threads around it. -/
structure UdpQueueState where
  recvQueue : List Datagram
  /-- The socket exists; a runtime refusal of UDP streaming destroys it. -/
  socketOpen : Bool
  /-- A client session is active, so that a forwarding callback is installed. -/
  forwarding : Bool
  /-- Where each of the two threads is. -/
  shrink : ForwardThread → ShrinkPoint
  /-- Every datagram put into the queue so far. -/
  received : List Datagram
  /-- Every datagram taken out of the queue by the receive loop so far. -/
  dequeued : List Datagram
  /-- Every message given to `handle_data_message` so far. -/
  handled : List Datagram

/-- Atomic steps around the queue. -/
inductive UdpQueueAction where
  /-- The io thread puts a received datagram into the queue. -/
  | arrive (datagram : Datagram)
  /-- The receive loop takes the oldest datagram and handles it. -/
  | dequeue
  /-- A run state change of this backend arrives over the control channel. -/
  | controlStateChange (state : RunState)
  /-- A thread inside `reset_buffers` executes its next statement. -/
  | shrink (thread : ForwardThread)
  deriving DecidableEq, Repr

/-- Queues shorter than this are not swapped. -/
def udpRecvQueueResetThreshold : Nat := 1024

namespace UdpQueueState

/-- A freshly bound socket. -/
def initial (forwarding : Bool) : UdpQueueState where
  recvQueue := []
  socketOpen := true
  forwarding := forwarding
  shrink := fun _ => .outside
  received := []
  dequeued := []
  handled := []

/-- Run the forwarding callback on a state change; the end of a run shrinks the buffers. -/
def forwardStateChange (s : UdpQueueState) (thread : ForwardThread) (state : RunState) :
    UdpQueueState :=
  -- Without a session there is no callback that could shrink anything.
  if s.forwarding && state.shrinksBuffers then
    { s with shrink := Function.update s.shrink thread .testLength }
  else s

/-- Handle one datagram taken from the queue. -/
def handleDatagram (s : UdpQueueState) (datagram : Datagram) : UdpQueueState :=
  match datagram with
  | .message .udpDataStreamingRefused =>
    -- The fallback to TCP destroys the socket together with everything still queued in it.
    { s with socketOpen := false, recvQueue := [] }
  | .message (.runStateChange state) =>
    forwardStateChange { s with handled := s.handled ++ [datagram] } .receiveLoop state
  -- Datagrams that do not parse, and messages that are no data, are dropped.
  | datagram =>
    if datagram.isDataMessage then { s with handled := s.handled ++ [datagram] } else s

/-- One atomic step. -/
def step (s : UdpQueueState) : UdpQueueAction → Option UdpQueueState
  | .arrive datagram =>
    if s.socketOpen then
      some { s with
        recvQueue := s.recvQueue ++ [datagram]
        received := s.received ++ [datagram] }
    else none
  | .dequeue =>
    -- The receive loop handles one datagram to its end before it takes the next.
    if s.socketOpen ∧ s.shrink .receiveLoop = .outside then
      match s.recvQueue with
      | datagram :: rest =>
        some (handleDatagram
          { s with recvQueue := rest, dequeued := s.dequeued ++ [datagram] } datagram)
      | [] => none
    else none
  | .controlStateChange state =>
    if s.shrink .controlLoop = .outside then some (s.forwardStateChange .controlLoop state)
    else none
  | .shrink thread =>
    match s.shrink thread with
    | .outside => none
    | .testLength =>
      -- The length is read under the queue's mutex, and the mutex is released before the swap.
      if s.socketOpen ∧ udpRecvQueueResetThreshold ≤ s.recvQueue.length then
        some { s with shrink := Function.update s.shrink thread .swapQueue }
      else some { s with shrink := Function.update s.shrink thread .outside }
    | .swapQueue =>
      -- Whatever has arrived since the test is discarded too.
      some { s with recvQueue := [], shrink := Function.update s.shrink thread .outside }

/--
What holds while the queue is never swapped or destroyed.

The datagrams received are those dequeued followed by those queued, and every data message
dequeued has been handled.
-/
structure Accounted (s : UdpQueueState) : Prop where
  socketOpen : s.socketOpen = true
  unswapped : ∀ thread, s.shrink thread ≠ .swapQueue
  received : s.received = s.dequeued ++ s.recvQueue
  handled : s.handled = s.dequeued.filter Datagram.isDataMessage

/-- The length test finds fewer datagrams than the threshold, and no refusal of UDP is dequeued. -/
def KeepsQueue (s : UdpQueueState) : UdpQueueAction → Prop
  | .shrink thread =>
    s.shrink thread = .testLength → s.recvQueue.length < udpRecvQueueResetThreshold
  | .dequeue => s.recvQueue.head? ≠ some (.message .udpDataStreamingRefused)
  | _ => True

/-- Forwarding a state change only moves the thread that forwards it. -/
theorem Accounted.forwardStateChange {s : UdpQueueState} (accounted : s.Accounted)
    (thread : ForwardThread) (state : RunState) :
    (s.forwardStateChange thread state).Accounted := by
  -- The thread enters before the length test, which is not the swap.
  unfold UdpQueueState.forwardStateChange
  split
  · refine ⟨accounted.socketOpen, fun other => ?_, accounted.received, accounted.handled⟩
    by_cases same : other = thread
    · subst same; simp
    · simpa [Function.update_of_ne same] using accounted.unswapped other
  · exact accounted

/-- Handling a dequeued datagram completes its account, unless it refuses UDP streaming. -/
theorem handleDatagram_accounted {s : UdpQueueState} {datagram : Datagram}
    (accepted : datagram ≠ .message .udpDataStreamingRefused) (socketOpen : s.socketOpen = true)
    (unswapped : ∀ thread, s.shrink thread ≠ .swapQueue)
    (received : s.received = s.dequeued ++ s.recvQueue)
    (handled : s.handled ++ [datagram].filter Datagram.isDataMessage =
      s.dequeued.filter Datagram.isDataMessage) :
    (s.handleDatagram datagram).Accounted := by
  -- Data messages are handled, and everything else was no data to begin with.
  unfold UdpQueueState.handleDatagram
  split
  · exact absurd rfl accepted
  · refine Accounted.forwardStateChange ?_ _ _
    exact ⟨socketOpen, unswapped, received,
      by simpa [List.filter_cons, Datagram.isDataMessage] using handled⟩
  · split
    · rename_i data
      exact ⟨socketOpen, unswapped, received, by simpa [data] using handled⟩
    · rename_i other
      exact ⟨socketOpen, unswapped, received, by simpa [other] using handled⟩

/-- Every step that keeps the queue keeps the account. -/
theorem Accounted.step {s next : UdpQueueState} {action : UdpQueueAction}
    (accounted : s.Accounted) (keeps : KeepsQueue s action)
    (stepped : s.step action = some next) : next.Accounted := by
  -- Arrivals extend both sides of the account, and a dequeue moves one datagram across it.
  obtain ⟨socketOpen, unswapped, received, handled⟩ := id accounted
  cases action with
  | arrive datagram =>
    rw [UdpQueueState.step, if_pos socketOpen, Option.some.injEq] at stepped
    subst stepped
    exact ⟨socketOpen, unswapped, by simp [received], handled⟩
  | dequeue =>
    simp only [UdpQueueState.step] at stepped
    split at stepped
    · split at stepped
      · -- The oldest datagram moves from the queue to the dequeued ones.
        rename_i datagram rest queued
        simp only [Option.some.injEq] at stepped
        subst stepped
        refine handleDatagram_accounted ?_ socketOpen unswapped ?_ ?_
        · simpa [KeepsQueue, queued] using keeps
        · simpa [queued] using received
        · simp [handled, List.filter_append]
      · simp at stepped
    · simp at stepped
  | controlStateChange state =>
    simp only [UdpQueueState.step] at stepped
    split at stepped
    · simp only [Option.some.injEq] at stepped
      exact stepped ▸ accounted.forwardStateChange _ _
    · simp at stepped
  | shrink thread =>
    simp only [UdpQueueState.step] at stepped
    split at stepped
    · simp at stepped
    · -- A short queue is left alone, and the thread leaves `reset_buffers`.
      rename_i testing
      have short := keeps testing
      rw [if_neg (by omega), Option.some.injEq] at stepped
      subst stepped
      refine ⟨socketOpen, fun other => ?_, received, handled⟩
      by_cases same : other = thread
      · subst same; simp
      · simpa [Function.update_of_ne same] using unswapped other
    · -- No thread ever gets to the swap.
      rename_i swapping
      exact absurd swapping (unswapped thread)

/--
No sample is lost while the queue is kept.

In every run whose length tests find a short queue and that dequeues no refusal, the datagrams
received are those dequeued followed by those queued, and the data messages among the former are
exactly those handled, in order.
-/
theorem datagrams_accounted (forwarding : Bool) (actions : List UdpQueueAction)
    (final : UdpQueueState)
    (keeps : Transition.Meets step KeepsQueue (initial forwarding) actions)
    (ran : Transition.run step (initial forwarding) actions = some final) :
    final.received = final.dequeued ++ final.recvQueue ∧
    final.received.filter Datagram.isDataMessage =
      final.handled ++ final.recvQueue.filter Datagram.isDataMessage := by
  -- The account holds for a fresh socket, and every step of the run keeps it.
  have accounted : final.Accounted := Transition.run_preserves
    (fun _ _ _ held condition stepped => held.step condition stepped) actions
    (initial forwarding) final ⟨rfl, by simp [initial], rfl, rfl⟩ keeps ran
  refine ⟨accounted.received, ?_⟩
  rw [accounted.received, accounted.handled, List.filter_append]

/-- A burst of arrivals fills the queue. -/
theorem run_arrive (s : UdpQueueState) (socketOpen : s.socketOpen = true) (datagram : Datagram) :
    ∀ count, Transition.run step s (List.replicate count (.arrive datagram)) =
      some { s with
        recvQueue := s.recvQueue ++ List.replicate count datagram
        received := s.received ++ List.replicate count datagram } := by
  -- The induction is on the length of the burst, from any open socket.
  intro count
  induction count generalizing s with
  | zero => simp
  | succ count ih =>
    rw [List.replicate_succ, Transition.run, step, if_pos socketOpen, Option.bind_some, ih]
    · simp [List.replicate_succ]
    · exact socketOpen

/-- A DONE on the control connection empties every queue that has reached the threshold. -/
theorem run_control_done {s : UdpQueueState} (socketOpen : s.socketOpen = true)
    (forwarding : s.forwarding = true) (idle : s.shrink .controlLoop = .outside)
    (long : udpRecvQueueResetThreshold ≤ s.recvQueue.length) :
    Transition.run step s
        [.controlStateChange .done, .shrink .controlLoop, .shrink .controlLoop] =
      some { s with
        recvQueue := []
        shrink := Function.update s.shrink .controlLoop .outside } := by
  -- The callback enters, the test passes and the swap follows, with no dequeue between them.
  simp [Transition.run, step, forwardStateChange, RunState.shrinksBuffers, socketOpen, forwarding,
    idle, long]

/-- A burst as long as the threshold is discarded when DONE overtakes it. -/
theorem run_burst_done (datagram : Datagram) {count : Nat}
    (long : udpRecvQueueResetThreshold ≤ count) :
    Transition.run step (initial true) (List.replicate count (.arrive datagram) ++
        [.controlStateChange .done, .shrink .controlLoop, .shrink .controlLoop]) =
      some { initial true with
        received := List.replicate count datagram
        shrink := Function.update (fun _ => .outside) .controlLoop .outside } := by
  -- First the burst fills the queue, then the DONE empties it.
  rw [Transition.run_append, run_arrive (initial true) rfl, Option.bind_some,
    run_control_done rfl rfl rfl (by simpa [initial] using long)]
  simp [initial]

/-- A DONE on the control connection discards a burst of samples that are still queued. -/
theorem done_discards_burst :
    ∃ final, Transition.run step (initial true)
        (List.replicate 1024 (.arrive (.message (.runData []))) ++
          [.controlStateChange .done, .shrink .controlLoop, .shrink .controlLoop]) = some final ∧
      final.received = List.replicate 1024 (.message (.runData [])) ∧
      final.handled = [] ∧ final.recvQueue = [] :=
  ⟨_, run_burst_done _ le_rfl, rfl, rfl, rfl⟩

/-- A DONE behind the last sample of a short run leaves every sample handled. -/
theorem done_after_samples :
    ∃ final, Transition.run step (initial true)
        [.arrive (.message (.runData [1])), .controlStateChange .done, .shrink .controlLoop,
          .dequeue] = some final ∧
      final.received.filter Datagram.isDataMessage =
        final.handled ++ final.recvQueue.filter Datagram.isDataMessage := by
  -- One datagram is far below the threshold, so the length test keeps the queue.
  refine ⟨_, rfl, (datagrams_accounted true
    [.arrive (.message (.runData [1])), .controlStateChange .done, .shrink .controlLoop,
      .dequeue] _ ?_ rfl).2⟩
  simp [Transition.Meets, KeepsQueue, step, initial, forwardStateChange, RunState.shrinksBuffers,
    udpRecvQueueResetThreshold]

end UdpQueueState

end Pybrid
