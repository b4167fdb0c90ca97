import Pybrid.Client.DistributedRun
import Pybrid.Mock.RunTask
import Pybrid.Mock.SampleRoundTrip

/-!
One run of a session over several mock devices, from the tasks on the devices to the data of the run.

It is the first run of the session, and its data comes back over TCP, as it does when UDP streaming
has not been set up: state changes and data of a device are one ordered stream.
-/

namespace Pybrid.Mock

open SampleDecoding Client SampleAssembly

/-- A device that takes part in a run, and the paths that are tracked over its connection. -/
structure RunDevice where
  paths : List Path
  stage : ErrorStage
  /-- The samples of its carriers. -/
  carriers : List (String × SampleArray)
  /-- The final values of its carriers. -/
  finals : List (String × SampleArray)

/-- The device answers the start command with an error, and creates no task for the run. -/
def RunDevice.Refuses (device : RunDevice) : Prop := device.stage = .atStartRun

instance (device : RunDevice) : Decidable device.Refuses := inferInstanceAs (Decidable (_ = _))

/-- What the task on the device sends, message by message. -/
def RunDevice.messages (device : RunDevice) : List RunMessage :=
  if device.Refuses then [] else executeRun device.stage device.carriers device.finals

/-- Where the session is in its run. -/
inductive RunPhase (n : Nat) where
  /-- It waits for all carriers to take off. -/
  | takingOff
  /-- It waits for all carriers to be done. -/
  | flying
  /-- It has told the drain task to stop; an exception may be on its way. -/
  | stopping (raises : Bool)
  /-- The drain task makes its last sweep, over these connections still. -/
  | sweeping (left : List (Fin n)) (raises : Bool)
  /-- The run has been returned. -/
  | returned (run : RunData UInt64)
  /-- The run has ended in an exception. -/
  | raised

/-- A run over `n` connections. -/
structure RunSession (n : Nat) where
  /-- What the devices have still to send. -/
  toSend : Fin n → List RunMessage
  /-- What they have sent and the data channels have not received. -/
  onWire : Fin n → List RunMessage
  /-- The output queues of the data channels. -/
  sinks : Fin n → SampleSink
  /-- State changes that were handed to the event loop, which has not called back yet. -/
  calls : List (Fin n × RunState)
  tracker : DistributedRunState
  chunkBuffer : List (String × ChunkRecord UInt64)
  phase : RunPhase n

/-- What happens during a run. -/
inductive RunAction (n : Nat) where
  /-- A device sends its next message. -/
  | send (connection : Fin n)
  /-- A data channel receives the next message over TCP. -/
  | receive (connection : Fin n)
  /-- The event loop makes the next callback. -/
  | call
  /-- The drain task takes the next blob of a connection. -/
  | poll (connection : Fin n)
  /-- All carriers have taken off. -/
  | takeOff
  /-- All carriers are done. -/
  | land
  /-- A wait ends in an exception: it has timed out, or a carrier has reported an error. -/
  | expire
  /-- The drain task notices that it is to stop. -/
  | settle
  /-- The drain task takes all blobs of the next connection. -/
  | sweep
  /-- The wait for the drain task is cancelled, which cancels the task. -/
  | cancel
  /-- The chunks are assembled. -/
  | assemble

/-- The reports that a callback makes: one for each path of the connection. -/
def reportsOf (device : RunDevice) (state : RunState) : List DistributedRunState.Report :=
  device.paths.map fun path => ⟨path, state, some ""⟩

/-- The wait for a state returns: every carrier has reached it, and none has failed. -/
def Reached (tracker : DistributedRunState) (state : RunState) : Prop :=
  tracker.anyError = none ∧ ∀ carrier ∈ tracker.states, state ∈ carrier.2

instance (tracker : DistributedRunState) (state : RunState) : Decidable (Reached tracker state) :=
  inferInstanceAs (Decidable (_ ∧ _))

namespace RunSession

variable {n : Nat} (scale : SampleScale) (clustersPerCarrier : List (List (List UInt8) × Nat))
  (devices : Fin n → RunDevice)

/-- The paths of the run, connection by connection. -/
def involvedPaths : List Path := (List.finRange n).flatMap fun i => (devices i).paths

/--
A run whose start commands have been answered and whose carriers are tracked.

The answers are gathered first, so the devices that accept have their tasks even where another one
refuses; the session then raises what that one has answered.
-/
def start (tracker : DistributedRunState) : RunSession n where
  toSend i := (devices i).messages
  onWire _ := []
  sinks _ := ⟨[], [], [], []⟩
  calls := []
  tracker
  chunkBuffer := []
  phase := if ∃ i, (devices i).Refuses then .raised else .takingOff

/-- Take a message off the wire of a connection. -/
def received (s : RunSession n) (connection : Fin n) (later : List RunMessage) : RunSession n :=
  { s with onWire := Function.update s.onWire connection later }

/-- Data goes to the output queue of the connection; what raises there ends the process. -/
def decode (s : RunSession n) (connection : Fin n) (sampleType : UInt32) (message : RunDataMessage) :
    Option (RunSession n) :=
  (deliver scale sampleType message (s.sinks connection)).toOption.map fun sink =>
    { s with sinks := Function.update s.sinks connection sink }

/-- Add the blobs to the chunk buffer and leave these in the queue of the connection. -/
def drain (s : RunSession n) (connection : Fin n) (blobs left : List (List UInt8)) : RunSession n :=
  { s with
    sinks := Function.update s.sinks connection { s.sinks connection with queue := left }
    chunkBuffer := blobs.foldl (fun buffer blob => bufferSampleBlob blob buffer) s.chunkBuffer }

/-- One step of a run. -/
def step (s : RunSession n) : RunAction n → Option (RunSession n)
  | .send i =>
    match s.toSend i with
    | [] => none
    | message :: later =>
      -- A device writes to its own stream only, behind what it has written before.
      some { s with
        toSend := Function.update s.toSend i later
        onWire := Function.update s.onWire i (s.onWire i ++ [message]) }
  | .receive i =>
    match s.onWire i with
    | [] => none
    -- A state change is answered on the event loop, and data at once.
    | .runStateChange _ new_ :: later => some { s.received i later with calls := s.calls ++ [(i, new_)] }
    | .runData message :: later => (s.received i later).decode scale i sampleTypeOp message
    | .runDataEnd message :: later => (s.received i later).decode scale i sampleTypeOpEnd message
  | .call =>
    match s.calls with
    | [] => none
    | (i, state) :: later =>
      -- One callback tracks every path of the connection, in their order.
      (Transition.run DistributedRunState.track s.tracker (reportsOf (devices i) state)).map
        fun tracker => { s with calls := later, tracker }
  | .poll i =>
    -- The drain task takes blobs until it has seen that it is to stop.
    match s.phase, (s.sinks i).queue with
    | .takingOff, blob :: later | .flying, blob :: later | .stopping _, blob :: later =>
      some (s.drain i [blob] later)
    | _, _ => none
  | .takeOff =>
    match s.phase with
    | .takingOff => if Reached s.tracker .takeOff then some { s with phase := .flying } else none
    | _ => none
  | .land =>
    match s.phase with
    | .flying => if Reached s.tracker .done then some { s with phase := .stopping false } else none
    | _ => none
  | .expire =>
    match s.phase with
    -- Nothing stops the drain task when the run ends before the take-off.
    | .takingOff => some { s with phase := .raised }
    | .flying => some { s with phase := .stopping true }
    | _ => none
  | .settle =>
    -- The last sweep goes once over all connections.
    match s.phase with
    | .stopping raises => some { s with phase := .sweeping (List.finRange n) raises }
    | _ => none
  | .sweep =>
    match s.phase with
    | .sweeping (i :: left) raises =>
      some { s.drain i (s.sinks i).queue [] with phase := .sweeping left raises }
    | _ => none
  | .cancel =>
    match s.phase with
    -- The exception of the cancelled wait is dropped.
    | .stopping raises | .sweeping _ raises => some { s with phase := .sweeping [] raises }
    | _ => none
  | .assemble =>
    match s.phase with
    | .sweeping [] raises =>
      -- The chunks are assembled on the way out, also where an exception is on its way.
      match assembleRunData clustersPerCarrier (s.chunkBuffer.map Prod.snd) .empty with
      | .ok () run => some { s with phase := if raises then .raised else .returned run }
      | .error _ _ => some { s with phase := .raised }
    | _ => none

end RunSession
end Pybrid.Mock
