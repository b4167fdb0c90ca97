import Pybrid.Library.Transition

/-! Which loop reads the TCP stream that a control channel shares with its data channel. -/

namespace Pybrid

/-- The transport a data channel may fall back to. -/
inductive StreamTransport where
  /-- The transport of the control channel. -/
  | shared
  /-- A transport of its own. -/
  | own
  deriving DecidableEq, Repr

/-- The loop the receive thread of a data channel executes. -/
inductive DataLoop where
  | udp
  | tcp (transport : StreamTransport)
  deriving DecidableEq, Repr

/-- How the device answers the request for UDP streaming. -/
inductive Negotiation where
  | accepted
  | refused
  /-- No answer, or an unexpected one. -/
  | failed
  deriving DecidableEq, Repr

/-- What becomes of the UDP socket when a data channel starts. -/
inductive SocketOutcome where
  /-- Binding or starting it raises. -/
  | failed
  /-- It is bound, and this is what a negotiation ends with. -/
  | bound (negotiation : Negotiation)
  deriving DecidableEq, Repr

/-- A control channel and the data channel attached to it. -/
structure StreamOwners where
  /-- `running_` of the control channel. -/
  controlRunning : Bool
  /-- `recv_loop` is executing. -/
  recvLoop : Bool
  /-- `recv_thread_` has not been joined. -/
  recvJoinable : Bool
  /-- `m_control_channel` of the data channel is set. -/
  controlChannel : Bool
  /-- `m_udp_host` is set. -/
  udpHost : Bool
  /-- `m_udp_port` is set. -/
  udpPort : Bool
  /-- `m_require_udp`. -/
  requireUdp : Bool
  /-- `m_tcp_transport`, if it is set. -/
  tcpTransport : Option StreamTransport
  /-- `m_running` of the data channel. -/
  dataRunning : Bool
  /-- The loop the data channel's receive thread is executing, if it has not ended. -/
  dataLoop : Option DataLoop
  /-- `m_receive_thread` has not been joined. -/
  dataJoinable : Bool
  usingTcpFallback : Bool
  deriving DecidableEq, Repr

/-- The calls on the two channels, and what happens to their loops. -/
inductive StreamAction where
  /-- `ControlChannel::start`. -/
  | startControl
  /-- `ControlChannel::stop_recv_thread`. -/
  | stopRecvThread
  /-- `ControlChannel::stop`. -/
  | stopControl
  /-- `ControlChannel::reconnect`, with or without success. -/
  | reconnectControl (connected : Bool)
  /-- The control loop finds the connection closed. -/
  | controlDisconnected
  /-- `DataChannel::start`. -/
  | startData (outcome : SocketOutcome)
  /-- `DataChannel::stop`. -/
  | stopData
  /-- `DataChannel::reconnect`. -/
  | reconnectData (outcome : SocketOutcome)
  /-- The device refuses UDP streaming at run time. -/
  | refuseUdp
  /-- The data channel's loop finds its connection or socket closed. -/
  | dataDisconnected
  deriving DecidableEq, Repr

namespace StreamOwners

/-- Two channels that have not been started, in any configuration. -/
def initial (controlChannel udpHost udpPort requireUdp : Bool)
    (tcpTransport : Option StreamTransport) : StreamOwners where
  controlRunning := false
  recvLoop := false
  recvJoinable := false
  controlChannel := controlChannel
  udpHost := udpHost
  udpPort := udpPort
  requireUdp := requireUdp
  tcpTransport := tcpTransport
  dataRunning := false
  dataLoop := none
  dataJoinable := false
  usingTcpFallback := false

/-- Start the control loop, unless the channel is running. -/
def startControl (s : StreamOwners) : Option StreamOwners :=
  if s.controlRunning then some s
  -- Assigning over a thread that has not been joined terminates the process.
  else if s.recvJoinable then none
  else some { s with controlRunning := true, recvLoop := true, recvJoinable := true }

/-- Stop the control loop and join its thread. -/
def stopRecvThread (s : StreamOwners) : StreamOwners :=
  { s with controlRunning := false, recvLoop := false, recvJoinable := false }

/-- Launch the receive thread of the data channel. -/
def launch (s : StreamOwners) (loop : DataLoop) : Option StreamOwners :=
  if s.dataJoinable then none else some { s with dataLoop := some loop, dataJoinable := true }

/-- Launch the loop over TCP. -/
def launchTcp (s : StreamOwners) (transport : StreamTransport) : Option StreamOwners :=
  launch { s with usingTcpFallback := true } (.tcp transport)

/-- Without a control channel and without an endpoint, a configured transport is used at once. -/
def isTcpOnly (s : StreamOwners) : Bool :=
  s.tcpTransport.isSome && !s.controlChannel && !s.udpHost && !s.udpPort

/-- The fallback after the socket could not be set up. -/
def recover (s : StreamOwners) : Option StreamOwners :=
  if s.requireUdp then some { s with dataRunning := false }
  else
    match s.tcpTransport with
    -- Unlike after a refused negotiation, the control loop is left as it is.
    | some transport => s.launchTcp transport
    | none => some { s with dataRunning := false }

/-- Start the data channel, unless it is running. -/
def startData (s : StreamOwners) (outcome : SocketOutcome) : Option StreamOwners :=
  if s.dataRunning then some s
  else
    let s := { s with dataRunning := true }
    if s.isTcpOnly then (s.tcpTransport.bind s.launchTcp)
    else
      match outcome with
      | .failed => s.recover
      | .bound negotiation =>
        if s.controlChannel && !s.udpHost && negotiation != .accepted then
          if s.requireUdp then some { s with dataRunning := false }
          -- The control loop ends before the data channel takes its stream over.
          else ({ s.stopRecvThread with tcpTransport := some .shared }).launchTcp .shared
        else s.launch .udp

/-- Stop the data channel and join its thread. -/
def stopData (s : StreamOwners) : StreamOwners :=
  { s with dataRunning := false, dataLoop := none, dataJoinable := false, usingTcpFallback := false }

/-- Go on over TCP after a refusal at run time, in the thread that received it. -/
def fallbackToTcp (s : StreamOwners) : StreamOwners :=
  if !s.dataRunning then { s with dataLoop := none }
  else if s.requireUdp then { s with dataRunning := false, dataLoop := none }
  else
    match s.tcpTransport with
    | some transport => { s with usingTcpFallback := true, dataLoop := some (.tcp transport) }
    | none => { s with dataRunning := false, dataLoop := none }

/-- One call or event; the process may terminate. -/
def step (s : StreamOwners) : StreamAction → Option StreamOwners
  | .startControl => s.startControl
  | .stopRecvThread => some s.stopRecvThread
  | .stopControl => some s.stopRecvThread
  | .reconnectControl connected =>
    -- The loop is joined before the connection is torn down, and started again on success.
    if connected then s.stopRecvThread.startControl else some s.stopRecvThread
  | .controlDisconnected =>
    if s.recvLoop then some { s with controlRunning := false, recvLoop := false } else none
  | .startData outcome => s.startData outcome
  | .stopData => some s.stopData
  | .reconnectData outcome =>
    -- A captured transport is forgotten, so that UDP is negotiated anew.
    let stopped := s.stopData
    { stopped with
      tcpTransport := if s.controlChannel then none else s.tcpTransport }.startData outcome
  | .refuseUdp => if s.dataLoop = some .udp then some s.fallbackToTcp else none
  | .dataDisconnected =>
    -- The loop ends, and the channel still counts as running.
    if s.dataLoop.isSome then some { s with dataLoop := none } else none

/-- At most one of the two loops reads the shared stream. -/
def SingleConsumer (s : StreamOwners) : Prop :=
  ¬(s.recvLoop = true ∧ s.dataLoop = some (.tcp .shared))

/-- A stopped data channel would read the shared stream without having ended the control loop. -/
def takesOver (s : StreamOwners) (outcome : SocketOutcome) : Bool :=
  s.tcpTransport = some .shared &&
    (s.isTcpOnly || (outcome = .failed && !s.requireUdp))

/--
The stream is handed over in every path.

The control loop is started only while the data channel does not read the shared stream, and the
data channel takes the shared stream without a refused negotiation only while the control loop is
stopped.
-/
def HandsOver (s : StreamOwners) : StreamAction → Prop
  | .startControl => s.controlRunning = false → s.dataLoop ≠ some (.tcp .shared)
  | .reconnectControl connected => connected = true → s.dataLoop ≠ some (.tcp .shared)
  | .startData outcome =>
    s.dataRunning = false → s.takesOver outcome = true → s.recvLoop = false
  | .reconnectData outcome =>
    s.controlChannel = false → s.takesOver outcome = true → s.recvLoop = false
  | .refuseUdp =>
    s.dataRunning = true → s.requireUdp = false → s.tcpTransport = some .shared →
      s.recvLoop = false
  | _ => True

/-- Without the control loop there is one consumer at most. -/
theorem singleConsumer_of_stopped {s : StreamOwners} (stopped : s.recvLoop = false) :
    s.SingleConsumer := by
  intro both
  simp [stopped] at both

/-- A data channel that does not read the shared stream leaves it to the control loop. -/
theorem singleConsumer_of_elsewhere {s : StreamOwners}
    (elsewhere : s.dataLoop ≠ some (.tcp .shared)) : s.SingleConsumer :=
  fun both => elsewhere both.2

/-- Starting the control loop is safe while the data channel reads something else. -/
theorem SingleConsumer.startControl {s next : StreamOwners} (single : s.SingleConsumer)
    (elsewhere : s.controlRunning = false → s.dataLoop ≠ some (.tcp .shared))
    (stepped : s.startControl = some next) : next.SingleConsumer := by
  unfold StreamOwners.startControl at stepped
  split at stepped
  · cases stepped
    exact single
  · rename_i idle
    split at stepped
    · simp at stepped
    · cases stepped
      exact singleConsumer_of_elsewhere (elsewhere (by simpa using idle))

/-- Launching a loop is safe when it reads something else, or the control loop is stopped. -/
theorem launch_single {s next : StreamOwners} {loop : DataLoop}
    (safe : loop = .tcp .shared → s.recvLoop = false) (stepped : s.launch loop = some next) :
    next.SingleConsumer := by
  unfold launch at stepped
  split at stepped
  · simp at stepped
  · cases stepped
    by_cases shared : loop = .tcp .shared
    · exact singleConsumer_of_stopped (safe shared)
    · exact singleConsumer_of_elsewhere (by simpa using shared)

/-- The fallback after a failed socket is safe when it does not take the shared stream over. -/
theorem recover_single {s next : StreamOwners} (single : s.SingleConsumer)
    (safe : s.requireUdp = false → s.tcpTransport = some .shared → s.recvLoop = false)
    (stepped : s.recover = some next) : next.SingleConsumer := by
  unfold recover at stepped
  split at stepped
  · cases stepped
    exact single
  · rename_i allowed
    split at stepped
    · rename_i transport configured
      refine launch_single (fun shared => ?_) stepped
      obtain rfl : transport = .shared := by simpa using shared
      exact safe (by simpa using allowed) configured
    · cases stepped
      exact single

/-- Starting the data channel is safe when it does not take the shared stream over. -/
theorem SingleConsumer.startData {s next : StreamOwners} (single : s.SingleConsumer)
    {outcome : SocketOutcome}
    (safe : s.dataRunning = false → s.takesOver outcome = true → s.recvLoop = false)
    (stepped : s.startData outcome = some next) : next.SingleConsumer := by
  unfold StreamOwners.startData at stepped
  split at stepped
  · cases stepped
    exact single
  · rename_i idle
    have safe := safe (by simpa using idle)
    simp only at stepped
    split at stepped
    · -- The direct path: the configured transport is read at once.
      rename_i direct
      obtain ⟨transport, configured, launched⟩ := Option.bind_eq_some_iff.mp stepped
      refine launch_single ?_ launched
      intro shared
      obtain rfl : transport = .shared := by simpa using shared
      apply safe
      have direct : s.isTcpOnly = true := direct
      have configured : s.tcpTransport = some .shared := configured
      simp [takesOver, configured, direct]
    · split at stepped
      · -- The socket failed: the fallback does not end the control loop.
        refine recover_single ?_ ?_ stepped
        · exact single
        intro allowed configured
        apply safe
        have allowed : s.requireUdp = false := allowed
        have configured : s.tcpTransport = some .shared := configured
        simp [takesOver, configured, allowed]
      · split at stepped
        · split at stepped
          · cases stepped
            exact single
          · -- A refused or failed negotiation ends the control loop first.
            refine launch_single ?_ stepped
            intro _
            rfl
        · -- A UDP socket is nobody else's.
          refine launch_single ?_ stepped
          intro shared
          simp at shared

/-- Every step that hands the stream over leaves it one consumer. -/
theorem SingleConsumer.step {s next : StreamOwners} {action : StreamAction}
    (single : s.SingleConsumer) (hands : s.HandsOver action)
    (stepped : s.step action = some next) : next.SingleConsumer := by
  cases action with
  | startControl => exact single.startControl hands stepped
  | stopRecvThread =>
    cases stepped
    exact singleConsumer_of_stopped rfl
  | stopControl =>
    cases stepped
    exact singleConsumer_of_stopped rfl
  | reconnectControl connected =>
    simp only [StreamOwners.step] at stepped
    split at stepped
    · -- Ending the control loop first does not help if the data channel reads on.
      rename_i reconnected
      refine SingleConsumer.startControl ?_ ?_ stepped
      · exact singleConsumer_of_stopped rfl
      · exact fun _ => hands reconnected
    · cases stepped
      exact singleConsumer_of_stopped rfl
  | controlDisconnected =>
    -- The control loop has ended by itself.
    simp only [StreamOwners.step, Option.ite_none_right_eq_some, Option.some.injEq] at stepped
    obtain ⟨_, rfl⟩ := stepped
    exact singleConsumer_of_stopped rfl
  | startData outcome => exact single.startData hands stepped
  | stopData =>
    -- A stopped channel reads nothing.
    cases stepped
    exact singleConsumer_of_elsewhere (by simp [stopData])
  | reconnectData outcome =>
    refine SingleConsumer.startData (singleConsumer_of_elsewhere (by simp [stopData]))
      (fun _ takes => ?_) stepped
    -- An attached channel forgets its transport, and then there is nothing to take over.
    cases attached : s.controlChannel with
    | true => simp [takesOver, attached] at takes
    | false =>
      refine hands attached ?_
      simpa [takesOver, isTcpOnly, stopData, attached] using takes
  | refuseUdp =>
    simp only [StreamOwners.step, Option.ite_none_right_eq_some, Option.some.injEq] at stepped
    obtain ⟨_, rfl⟩ := stepped
    unfold fallbackToTcp
    split
    · exact singleConsumer_of_elsewhere (by simp)
    · rename_i running
      split
      · exact singleConsumer_of_elsewhere (by simp)
      · rename_i allowed
        split
        · -- The thread that received the refusal reads the configured transport from now on.
          rename_i transport configured
          by_cases shared : transport = .shared
          · subst shared
            exact singleConsumer_of_stopped
              (hands (by simpa using running) (by simpa using allowed) configured)
          · exact singleConsumer_of_elsewhere (by simpa using shared)
        · exact singleConsumer_of_elsewhere (by simp)
  | dataDisconnected =>
    -- The data channel's loop has ended by itself.
    simp only [StreamOwners.step, Option.ite_none_right_eq_some, Option.some.injEq] at stepped
    obtain ⟨_, rfl⟩ := stepped
    exact singleConsumer_of_elsewhere (by simp)

/--
The shared stream has one consumer while it is handed over in every path.

In every run in which the control loop is started or reconnected only while the data channel does
not read the shared stream, and the data channel takes the shared stream by its direct path, after a
failed socket or after a refusal at run time only while the control loop is stopped, at most one of
the two loops reads the stream.
-/
theorem stream_single_consumer (controlChannel udpHost udpPort requireUdp : Bool)
    (tcpTransport : Option StreamTransport) (actions : List StreamAction) (final : StreamOwners)
    (hands : Transition.Meets step HandsOver
      (initial controlChannel udpHost udpPort requireUdp tcpTransport) actions)
    (ran : Transition.run step
      (initial controlChannel udpHost udpPort requireUdp tcpTransport) actions = some final) :
    final.SingleConsumer :=
  Transition.run_preserves (fun _ _ _ held condition stepped => held.step condition stepped) actions
    _ final (singleConsumer_of_stopped rfl) hands ran

/-- A refused negotiation, a disconnect and a reconnect hand the stream over and back. -/
theorem stream_refused_and_reconnected :
    ∃ final, Transition.run step (initial true false false false none)
        [.startControl, .startData (.bound .refused), .dataDisconnected, .reconnectControl true,
          .reconnectData (.bound .refused)] = some final ∧
      final.dataLoop = some (.tcp .shared) ∧ final.SingleConsumer := by
  refine ⟨_, rfl, rfl, stream_single_consumer true false false false none
    [.startControl, .startData (.bound .refused), .dataDisconnected, .reconnectControl true,
      .reconnectData (.bound .refused)] _ ?_ rfl⟩
  simp [Transition.Meets, HandsOver, step, initial, StreamOwners.startControl,
    StreamOwners.startData, stopRecvThread, stopData, isTcpOnly, launchTcp, launch, takesOver]

/--
Three ways to read one stream twice.

With the client's own wiring, a UDP socket that cannot be bound and a refusal at run time both start
the loop over TCP beside the control loop; and a reconnect starts the control loop beside a data
channel that has fallen back to TCP.
-/
theorem stream_read_twice :
    (∃ final, Transition.run step (initial true false false false (some .shared))
        [.startControl, .startData .failed] = some final ∧ ¬final.SingleConsumer) ∧
    (∃ final, Transition.run step (initial true false false false (some .shared))
        [.startControl, .startData (.bound .accepted), .refuseUdp] = some final ∧
        ¬final.SingleConsumer) ∧
    ∃ final, Transition.run step (initial true false false false none)
        [.startControl, .startData (.bound .refused), .reconnectControl true] = some final ∧
        ¬final.SingleConsumer := by
  refine ⟨⟨_, rfl, fun single => single ⟨rfl, rfl⟩⟩, ⟨_, rfl, fun single => single ⟨rfl, rfl⟩⟩, ?_⟩
  exact ⟨_, rfl, fun single => single ⟨rfl, rfl⟩⟩

end StreamOwners

end Pybrid
