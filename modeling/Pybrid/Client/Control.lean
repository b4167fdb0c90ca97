import Pybrid.Library.Ensuring
import Pybrid.Redac.Entities
import Pybrid.Redac.Wire

/-! The control channel of the client: requests to devices, and how their failures surface. -/

namespace Pybrid.Client

/-- The exception classes a session meets. -/
inductive RaisedKind where
  | runtimeError
  /-- A subclass of the runtime error. -/
  | notImplementedError
  | valueError
  | typeError
  | indexError
  | attributeError
  | timeoutError
  | runError
  /-- Any other subclass of `Exception`. -/
  | exception
  /-- Not a subclass of `Exception`. -/
  | cancelledError
  /-- Not a subclass of `Exception`. -/
  | keyboardInterrupt
  deriving DecidableEq, Repr

/-- A raised exception. -/
structure Raised where
  /-- Its class. -/
  kind : RaisedKind
  /-- Its text. -/
  text : String
  deriving DecidableEq, Repr

/-- Whether `except RuntimeError` catches it. -/
def Raised.isRuntimeError (raised : Raised) : Bool :=
  raised.kind = .runtimeError ∨ raised.kind = .notImplementedError

/-- Whether `except Exception` catches it. -/
def Raised.isException (raised : Raised) : Bool :=
  raised.kind ≠ .cancelledError ∧ raised.kind ≠ .keyboardInterrupt

/-- Outcome of a control-channel command. -/
structure Result where
  ok : Bool
  error : String
  deriving DecidableEq, Repr

/-- The outcome of a command that succeeded. -/
def Result.success : Result := ⟨true, ""⟩

/-- The outcome of a command that failed. -/
def Result.failure (error : String) : Result := ⟨false, error⟩

/-- A buffered reset. -/
structure ResetCommand where
  keepCalibration : Bool
  sync : Bool
  overloadReset : Bool
  circuitReset : Bool
  deriving DecidableEq, Repr

/-- A buffered calibration. -/
structure CalibrateCommand where
  leader : String
  math : Bool
  gain : Bool
  offset : Bool
  deriving DecidableEq, Repr

/-- A buffered firmware update; durations are in milliseconds. -/
structure FirmwareUpdateCommand where
  binary : List UInt8
  sha256 : String
  rebootGrace : Nat
  reconnectTimeout : Nat
  verbose : Bool
  deriving DecidableEq, Repr

/-- What is asked of the native channel of a device. -/
inductive Request where
  /-- A configuration, as the bytes of its module. -/
  | setModule (module : List UInt8)
  | calibrate (leader : String) (math gain offset : Bool)
  | reset (command : ResetCommand)
  /-- The start of the run with this number, and the carrier that gives its signal. -/
  | startRun (run : Nat) (master : Path)
  | overloadStatus
  | updateBegin (newSize : Nat) (newSha256 : String)
  | updateWriteFull (newSize maxChunkSize : Nat) (data : List UInt8)
  | updateVerify
  | updateCommit
  | updateAbort
  /-- Connect the control channel anew. -/
  | reconnect (timeout : Nat)
  /-- Set the data channel up anew. -/
  | dataReconnect
  deriving DecidableEq, Repr

/-- A connection to a device. -/
structure Connection where
  /-- Connections are told apart by identity. -/
  id : Nat
  /-- Whether there is a control channel; without the native extension there is none. -/
  control : Bool
  /-- Whether there is a data channel. -/
  data : Bool
  /-- The remote endpoint, as it is printed. -/
  endpoint : String
  deriving DecidableEq, Repr

/-- The points at which the outside decides how a session goes on. -/
inductive Point where
  /-- A request, and the wait for its answer. -/
  | request (connection : Connection) (request : Request)
  /-- The joint wait for all start requests. -/
  | gathered
  /-- The wait until all carriers have taken off. -/
  | takeOff
  /-- The wait until all carriers are done. -/
  | done
  /-- The wait for the stopped drain task. -/
  | drained
  /-- The assembly of the buffered chunks. -/
  | assembled
  /-- The notification of the listener with this number. -/
  | listener (index : Nat)
  /-- The pause while devices reboot. -/
  | rebootGrace
  /-- A look at whether a control channel is connected. -/
  | isConnected (connection : Connection)
  deriving DecidableEq, Repr

/-- What a point answers; each point reads the fields it has a use for. -/
structure Answer where
  /-- The truth value a native call returns. -/
  accepted : Bool
  /-- The chunk size a device advertises. -/
  chunkSize : Nat
  /-- The overloaded elements, if the device reports an overload. -/
  overloaded : Option (List (Path × Nat))
  deriving DecidableEq, Repr

/-- The answer that only confirms. -/
def Answer.confirmed : Answer := ⟨true, 0, none⟩

/-- How the outside behaves: what comes of each point, in the order they are reached. -/
abbrev World := Nat → Except Raised Answer

/-- A point that was reached, and what came of it. -/
structure Event where
  /-- The position in the pipeline of the command under way. -/
  command : Nat
  point : Point
  outcome : Except Raised Answer

/-- What a session does to its surroundings. -/
structure State where
  /-- The points reached, newest first. -/
  log : List Event
  /-- The position of the command under way. -/
  command : Nat
  /-- The connections on which a run-state callback is registered. -/
  callbacks : List Connection
  /-- The runs whose drain task is running. -/
  draining : List Nat
  /-- How many runs have been created. -/
  begun : Nat
  /-- The completed runs, newest first. -/
  runs : List Nat

/-- What a session knows of the controller it runs on. -/
structure Controller where
  /-- The connection of each carrier; behind a proxy, carriers share one. -/
  connections : List (Path × Connection)
  /-- The carriers of the computer with their locations. -/
  carriers : List (Path × Option CarrierLoc)
  /-- The number of sample listeners. -/
  sampleListeners : Nat

/-- The connections without duplicates, in the order the session goes through them. -/
def Controller.getUniqueConnections (controller : Controller) : List Connection :=
  (controller.connections.map Prod.snd).dedup

/-- The state of a session that has done nothing. -/
def State.fresh : State := ⟨[], 0, [], [], 0, []⟩

/-- Session code: it may raise, and what it did before stays done. -/
abbrev Code := EStateM Raised State

/-- The state after one more event. -/
def State.record (state : State) (point : Point) (outcome : Except Raised Answer) : State :=
  { state with log := ⟨state.command, point, outcome⟩ :: state.log }

/-- Reach a point, and go on with what comes of it. -/
def observe (world : World) (point : Point) : Code Answer := fun state =>
  match world state.log.length with
  | .ok answer => .ok answer (state.record point (.ok answer))
  | .error raised => .error raised (state.record point (.error raised))

/-- Using the channel of a connection that has none. -/
def noChannel : Raised := ⟨.attributeError, "'NoneType' object has no attribute"⟩

/-- What comes of the next request to a device; a missing channel raises by itself. -/
def reply (world : World) (connection : Connection) (state : State) : Except Raised Answer :=
  if connection.control then world state.log.length else .error noChannel

/-- What is raised where the native extension is missing. -/
def nativeMissing (action extension : String) : Raised :=
  ⟨.notImplementedError, action ++ " requires the native C++ " ++ extension ++
    " (pybrid-computing-native). The control channel is not available in this environment."⟩

/-- Send a request to a device and wait for its answer. -/
def send (world : World) (connection : Connection) (request : Request) : Code Answer := fun state =>
  match reply world connection state with
  | .ok answer => .ok answer (state.record (.request connection request) (.ok answer))
  | .error raised => .error raised (state.record (.request connection request) (.error raised))

/-- Turn a runtime error into a failure, and let every other exception pass. -/
def asResult (call : Code Result) : Code Result :=
  Raising.recover call fun raised =>
    if raised.isRuntimeError then pure (.failure raised.text) else throw raised

/-- Raise if the result is a failure. -/
def Result.raiseOnError (result : Result) : Code Unit :=
  if result.ok then pure () else throw ⟨.runtimeError, "Device returned error: " ++ result.error⟩

namespace AsyncControlChannel

variable (world : World) (connection : Connection)

/-- Requests that only report whether they failed. -/
def simpleRequest (request : Request) : Code Result :=
  asResult do
    let _ ← send world connection request
    return .success

/-- Send a configuration. -/
def setModule (module : List UInt8) : Code Result :=
  asResult do
    let answer ← send world connection (.setModule module)
    return if answer.accepted then .success else .failure "set_module rejected"

/-- Ask for the start of a run. -/
def startRunRequest (run : Nat) (master : Path) : Code Result :=
  simpleRequest world connection (.startRun run master)

/-- Ask for a calibration. -/
def calibrate (leader : String) (math gain offset : Bool) : Code Result :=
  simpleRequest world connection (.calibrate leader math gain offset)

/-- Ask for a reset. -/
def reset (command : ResetCommand) : Code Result :=
  simpleRequest world connection (.reset command)

/-- Ask which elements are overloaded. -/
def overloadStatusRequest : Code (Option (List (Path × Nat))) := do
  let answer ← send world connection .overloadStatus
  return answer.overloaded

/-- Begin an update, and learn the size of its chunks. -/
def updateBegin (newSize : Nat) (newSha256 : String) : Code Nat := do
  let answer ← send world connection (.updateBegin newSize newSha256)
  return answer.chunkSize

/-- Send the firmware image. -/
def updateWriteFull (newSize maxChunkSize : Nat) (data : List UInt8) : Code Result :=
  simpleRequest world connection (.updateWriteFull newSize maxChunkSize data)

/-- Ask the device to verify the image. -/
def updateVerify : Code Result := simpleRequest world connection .updateVerify

/-- Commit the verified image. -/
def updateCommit : Code Result := simpleRequest world connection .updateCommit

/-- Abort the update. -/
def updateAbort : Code Result := simpleRequest world connection .updateAbort

/-- Connect to the endpoint again; a cancelled attempt counts as a failed one. -/
def reconnect (timeout : Nat) : Code Bool :=
  Raising.recover
    (do
      let answer ← send world connection (.reconnect timeout)
      return answer.accepted)
    fun raised => if raised.kind = .cancelledError then pure false else throw raised

end AsyncControlChannel

/-- What the caller of a checked request sees of an exception. -/
def Raised.surfaced (raised : Raised) : Raised :=
  if raised.isRuntimeError then ⟨.runtimeError, "Device returned error: " ++ raised.text⟩ else raised

/-- A simple request reports a runtime error as a failure and hands other exceptions on. -/
theorem simpleRequest_eq (world : World) (connection : Connection) (request : Request)
    (state : State) :
    AsyncControlChannel.simpleRequest world connection request state =
      match reply world connection state with
      | .ok answer => .ok .success (state.record (.request connection request) (.ok answer))
      | .error raised =>
        if raised.isRuntimeError then
          .ok (.failure raised.text) (state.record (.request connection request) (.error raised))
        else .error raised (state.record (.request connection request) (.error raised)) := by
  unfold AsyncControlChannel.simpleRequest asResult
  cases replied : reply world connection state with
  | ok answer =>
    have sent : send world connection request state =
        .ok answer (state.record (.request connection request) (.ok answer)) := by
      rw [send, replied]
    exact Raising.recover_of_ok (Raising.bind_of_ok sent)
  | error raised =>
    have sent : send world connection request state =
        .error raised (state.record (.request connection request) (.error raised)) := by
      rw [send, replied]
    refine (Raising.recover_of_error (Raising.bind_of_error sent)).trans ?_
    -- The handler looks at the class of the exception only.
    by_cases runtime : raised.isRuntimeError = true
    · simp only [if_pos runtime]
      rfl
    · simp only [if_neg runtime]
      rfl

/-- A request whose result is checked returns on success and raises on every failure. -/
theorem checked_eq (world : World) (connection : Connection) (request : Request) (state : State) :
    (AsyncControlChannel.simpleRequest world connection request >>= Result.raiseOnError) state =
      match reply world connection state with
      | .ok answer => .ok () (state.record (.request connection request) (.ok answer))
      | .error raised =>
        .error raised.surfaced (state.record (.request connection request) (.error raised)) := by
  -- A runtime error passes through a failure result, every other exception passes by itself.
  have sent := simpleRequest_eq world connection request state
  cases replied : reply world connection state with
  | ok answer =>
    rw [replied] at sent
    rw [Raising.bind_of_ok sent]
    rfl
  | error raised =>
    simp only [replied] at sent
    by_cases runtime : raised.isRuntimeError = true
    · rw [if_pos runtime] at sent
      rw [Raising.bind_of_ok sent]
      simp only [Raised.surfaced, if_pos runtime]
      rfl
    · rw [if_neg runtime] at sent
      rw [Raising.bind_of_error sent]
      simp only [Raised.surfaced, if_neg runtime]

/-- Whether an event is a request. -/
def Event.isRequest (event : Event) : Bool :=
  match event.point with
  | .request _ _ => true
  | _ => false

/-- Whether the device, or the channel to it, reported success. -/
def Event.succeeded (event : Event) : Bool :=
  match event.point, event.outcome with
  -- Configuring and reconnecting answer with a truth value, the other points only confirm.
  | .request _ (.setModule _), .ok answer => answer.accepted
  | .request _ (.reconnect _), .ok answer => answer.accepted
  | _, .ok _ => true
  | _, .error _ => false

/-- Only events of this kind were added to the log. -/
def Adds (fits : Event → Prop) (start final : State) : Prop :=
  ∃ added, final.log = added ++ start.log ∧ ∀ event ∈ added, fits event

namespace Adds

variable {fits : Event → Prop} {start middle final : State}

/-- Adding nothing. -/
theorem refl (state : State) : Adds fits state state := ⟨[], rfl, by simp⟩

/-- Adding in two parts. -/
theorem trans (first : Adds fits start middle) (second : Adds fits middle final) :
    Adds fits start final := by
  obtain ⟨added, grown, fine⟩ := first
  obtain ⟨later, grown', fine'⟩ := second
  refine ⟨later ++ added, by rw [grown', grown, List.append_assoc], fun event member => ?_⟩
  exact (List.mem_append.mp member).elim (fine' event) (fine event)

/-- Adding events of a kind is adding events of a wider kind. -/
theorem mono {wider : Event → Prop} (widens : ∀ event, fits event → wider event)
    (adds : Adds fits start final) : Adds wider start final := by
  obtain ⟨added, grown, fine⟩ := adds
  exact ⟨added, grown, fun event member => widens event (fine event member)⟩

/-- Adding one event. -/
theorem record {state : State} {point : Point} {outcome : Except Raised Answer}
    (fit : fits ⟨state.command, point, outcome⟩) : Adds fits state (state.record point outcome) :=
  ⟨[⟨state.command, point, outcome⟩], rfl, by simpa using fit⟩

/-- Computations that add events of a kind do so in sequence. -/
theorem sequential :
    Raising.Sequential (Adds fits) (fun start (_ : Raised) final => Adds fits start final) where
  refl := refl
  trans := trans
  follow := trans

end Adds

/-- Reaching a point adds the one event. -/
theorem observe_adds {fits : Event → Prop} {world : World} {point : Point}
    (fit : ∀ command outcome, fits ⟨command, point, outcome⟩) :
    Raising.Ends (Adds fits) (fun start _ final => Adds fits start final)
      (observe world point) := by
  intro start
  unfold observe
  -- Whatever the world answers, the event is written to the log.
  cases world start.log.length with
  | ok answer => exact .record (fit _ _)
  | error raised => exact .record (fit _ _)

/-- Sending a request adds the one event. -/
theorem send_adds {fits : Event → Prop} {world : World} {connection : Connection} {request : Request}
    (fit : ∀ command outcome, fits ⟨command, .request connection request, outcome⟩) :
    Raising.Ends (Adds fits) (fun start _ final => Adds fits start final)
      (send world connection request) := by
  intro start
  unfold send
  -- A lost answer is an event as well.
  cases reply world connection start with
  | ok answer => exact .record (fit _ _)
  | error raised => exact .record (fit _ _)

end Pybrid.Client
