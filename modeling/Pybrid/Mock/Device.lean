import Pybrid.Library.Transition
import Pybrid.Mock.RunTask
import Pybrid.Proxy.ConfigRouting

/-! The mock device: its state, its command handlers, and the tasks that perform its runs. -/

namespace Pybrid.Mock

open SampleDecoding
open ConfigRouting (Item)

/-- The content of an item; the device only looks for ADC channels. -/
inductive ItemContent (γ : Type) where
  | adcConfig (channels : List AdcChannel)
  | other (content : γ)
  deriving DecidableEq, Repr

/-- A module, as it is stored and given out. -/
abbrev Module (γ : Type) := List (Item (ItemContent γ))

/-- Whether a calibration is wanted; a number without a name has no name to log. -/
inductive CalibrationKind where
  | disabled
  | enabled
  | unnamed (value : Int)
  deriving DecidableEq, Repr

/-- The commands that have a handler. -/
inductive Command (γ : Type) where
  | reset (keepCalibration : Bool)
  | config (module : Module γ)
  | extract (entity : Option String) (specification configuration : Bool)
  | udpDataStreaming (port : UInt32)
  | startRun (command : StartRunCommand)
  | getOverloadStatus
  | calibration (math gain offset : CalibrationKind)
  deriving DecidableEq, Repr

/-- A message of a client; it is a notification if its identifier is empty. -/
structure Request (γ : Type) where
  id : String
  /-- The command, absent for a message without a kind and for kinds without a handler. -/
  command : Option (Command γ)
  deriving DecidableEq, Repr

/-- An envelope of a client. -/
inductive Incoming (γ : Type) where
  | ping
  | message (request : Request γ)
  deriving DecidableEq, Repr

/-- The body of a response. -/
inductive ReplyBody (γ : Type) where
  | errorMessage (description : String)
  | configResponse
  | extractResponse (module : Module γ)
  | resetResponse
  | calibrationResponse
  | udpDataStreamingRefused
  | successMessage
  | startRunResponse
  | overloadStatus (globalOverload : Bool)
  deriving DecidableEq, Repr

/-- What is written to the control connection; a run message names its task for the proofs only. -/
inductive Outgoing (γ : Type) where
  | pingResponse
  | reply (id : String) (body : ReplyBody γ)
  | run (task : Nat) (message : RunMessage)

/-- What the device has been set up with. -/
structure DeviceSetup (γ : Type) where
  errorStage : ErrorStage
  errorMessage : Option String
  acceptUdpStreaming : Bool
  carrierMacs : List String
  /-- The item with the entity tree, which is built of the addresses. -/
  entitySpecification : Item (ItemContent γ)
  numerics : Numerics

/-- The connection of a client. -/
structure Connection (γ : Type) where
  accepted : Bool
  /-- The connection is lost: nothing is read from it, and sending on it raises. -/
  lost : Bool
  /-- What has been written to the client. -/
  control : List (Outgoing γ)
  /-- The datagrams sent to the client, with their tasks. -/
  data : List (Nat × RunMessage)
  /-- There is a UDP sender for run data. -/
  dataTransport : Bool
  /-- The receive loop waits for the endpoint that the request with this identifier asks for. -/
  opening : Option String

/-- How a handler ends. -/
inductive Handled (γ : Type) where
  | returned (body : ReplyBody γ)
  | raised (text : String)
  /-- The handler waits for a datagram endpoint. -/
  | waiting

/-- The task of a run. -/
structure RunTask where
  connection : Nat
  /-- The identifier of the request that started the run. -/
  request : String
  command : StartRunCommand
  point : TaskPoint

/-- What has come from outside, for the statements only. -/
inductive Event (γ : Type) where
  | received (connection : Nat) (incoming : Incoming γ)
  /-- The endpoint that a request has asked for is there, or its creation has raised. -/
  | opened (connection : Nat) (id : String) (outcome : Except String Unit)

/-- The mock device. -/
structure DummyDac (γ : Type) where
  storedConfig : Option (Module γ)
  calibrated : Bool
  connections : Nat → Connection γ
  tasks : List RunTask
  /-- What has come from outside, newest first. -/
  log : List (Event γ)

/-- What happens at a device. -/
inductive DeviceAction (γ : Type) where
  | accept (connection : Nat)
  /-- The receive loop of a connection takes an envelope. -/
  | receive (connection : Nat) (incoming : Incoming γ)
  /-- The wait for a datagram endpoint ends. -/
  | endpoint (connection : Nat) (outcome : Except String Unit)
  /-- The task of a run goes on up to its next send. -/
  | send (task : Nat)
  | lose (connection : Nat)

namespace Connection

variable {γ : Type}

/-- Write to a client; what is written to a lost connection is dropped. -/
def write (connection : Connection γ) (outgoing : Outgoing γ) : Connection γ :=
  if connection.lost then connection
  else { connection with control := connection.control ++ [outgoing] }

/-- Respond to a request, and not to a notification. -/
def reply (connection : Connection γ) (id : String) (body : ReplyBody γ) : Connection γ :=
  if id = "" then connection else connection.write (.reply id body)

/-- Send a run message, over UDP if there is a sender. -/
def sendRunMessage (connection : Connection γ) (task : Nat) (message : RunMessage) : Connection γ :=
  if connection.dataTransport then { connection with data := connection.data ++ [(task, message)] }
  else connection.write (.run task message)

/-- A handler has ended. -/
def conclude (connection : Connection γ) (id : String) : Handled γ → Connection γ
  | .returned body => connection.reply id body
  | .raised text => connection.reply id (.errorMessage text)
  | .waiting => { connection with opening := some id }

/-- The wait for a datagram endpoint ends. -/
def endpoint (connection : Connection γ) (outcome : Except String Unit) : Connection γ :=
  { connection with
    opening := none
    dataTransport := connection.dataTransport || outcome.isOk }

end Connection

namespace DummyDac

variable {γ : Type}

/-- A device without connections. -/
def initial : DummyDac γ where
  storedConfig := none
  calibrated := false
  connections := fun _ => ⟨false, false, [], [], false, none⟩
  tasks := []
  log := []

/-- Change a connection. -/
def onConnection (s : DummyDac γ) (connection : Nat) (change : Connection γ → Connection γ) :
    DummyDac γ :=
  { s with connections :=
      Function.update s.connections connection (change (s.connections connection)) }

/-- Keep in mind what has come from outside. -/
def note (s : DummyDac γ) (event : Event γ) : DummyDac γ := { s with log := event :: s.log }

/-- The text of an injected error. -/
def errorText (setup : DeviceSetup γ) (default : String) : String :=
  match setup.errorMessage with
  | none => default
  | some text => if text = "" then default else text

/-- A path with a slash in front. -/
def normalizedPath (path : String) : String :=
  if path.toList.head? = some '/' then path else "/" ++ path

/-- The stored items whose paths begin with a path; without a path these are all of them. -/
def filterConfigsByPath (storedConfig : Option (Module γ)) (path : String) : Module γ :=
  match storedConfig with
  | none => []
  | some module =>
    if path = "" then module
    else module.filter fun item => (normalizedPath path).toList.isPrefixOf item.path.toList

/-- What is extracted. -/
def extractItems (setup : DeviceSetup γ) (storedConfig : Option (Module γ)) (entity : Option String)
    (specification configuration : Bool) : Module γ :=
  (if specification then [setup.entitySpecification] else []) ++
    if configuration then filterConfigsByPath storedConfig (entity.getD "") else []

/-- The text of the error that logging a calibration without a name raises. -/
def unnamedText (value : Int) : String :=
  "ValueError('Enum Kind has no name defined for value " ++ toString value ++ "')"

/-- What the names of the calibrations are logged with, or the first of them without one. -/
def calibrationNames : List CalibrationKind → Except String Unit
  | [] => .ok ()
  | .unnamed value :: _ => .error (unnamedText value)
  | _ :: later => calibrationNames later

/-- Handle a command. -/
def handle (setup : DeviceSetup γ) (s : DummyDac γ) (connection : Nat) (id : String) :
    Command γ → DummyDac γ × Handled γ
  | .reset keepCalibration =>
    ({ s with storedConfig := none, calibrated := if keepCalibration then s.calibrated else false },
      .returned .resetResponse)
  | .config module =>
    if setup.errorStage = .atConfigure then
      (s, .returned (.errorMessage (errorText setup "Configuration error")))
    else ({ s with storedConfig := some module }, .returned .configResponse)
  | .extract entity specification configuration =>
    if setup.errorStage = .atExtract then
      (s, .returned (.errorMessage (errorText setup "Extract error")))
    else
      (s, .returned (.extractResponse
        (extractItems setup s.storedConfig entity specification configuration)))
  | .udpDataStreaming _ =>
    if setup.acceptUdpStreaming then (s, .waiting) else (s, .returned .udpDataStreamingRefused)
  | .startRun command =>
    if setup.errorStage = .atStartRun then
      (s, .returned (.errorMessage (errorText setup "Start run error")))
    else
      ({ s with tasks := s.tasks ++ [⟨connection, id, command, .created⟩] },
        .returned .startRunResponse)
  | .getOverloadStatus => (s, .returned (.overloadStatus false))
  | .calibration math gain offset =>
    -- The flag is set before the names are logged.
    ({ s with calibrated := math = .enabled ∨ gain = .enabled ∨ offset = .enabled },
      match calibrationNames [math, gain, offset] with
      | .ok () => .returned .calibrationResponse
      | .error text => .raised text)

/-- Process a message of a client. -/
def process (setup : DeviceSetup γ) (s : DummyDac γ) (connection : Nat) (request : Request γ) :
    DummyDac γ :=
  match request.command with
  | none => s
  | some command =>
    let handled := handle setup s connection request.id command
    handled.1.onConnection connection fun here => here.conclude request.id handled.2

/-- Take an envelope of a client. -/
def receive (setup : DeviceSetup γ) (s : DummyDac γ) (connection : Nat) :
    Incoming γ → DummyDac γ
  | .ping => s.onConnection connection fun here => here.write .pingResponse
  | .message request => process setup s connection request

/-- The number of ADC channels in the stored module. -/
def adcChannelCount (storedConfig : Option (Module γ)) : Nat :=
  ((storedConfig.getD []).map fun item =>
    match item.content with
    | .adcConfig channels => channels.length
    | .other _ => 0).sum

/-- What a run that begins now knows of its samples. -/
def runShape (setup : DeviceSetup γ) (storedConfig : Option (Module γ)) (command : StartRunCommand) :
    RunShape where
  -- The start command has a say only if nothing is configured.
  numChannels :=
    if adcChannelCount storedConfig = 0 then command.numChannels.toNat
    else adcChannelCount storedConfig
  numSamples := max 1 (setup.numerics.countSamples (parseTime command.opTime) command.sampleRate.toNat)
  sampleRate := command.sampleRate.toNat

/-- Change where a task is. -/
def setPoint (s : DummyDac γ) (task : Nat) (point : TaskPoint) : DummyDac γ :=
  { s with tasks := s.tasks.modify task fun known => { known with point } }

/-- A run goes on up to its next send. -/
def goOn (s : DummyDac γ) (setup : DeviceSetup γ) (connection task : Nat) (shape : RunShape)
    (ready : List RunMessage) (pieces : List RunPiece) : DummyDac γ :=
  match nextMessage setup.errorStage setup.numerics shape s.calibrated ready pieces with
  | none => s.setPoint task .finished
  | some (message, ready, pieces) =>
    let here := s.connections connection
    let point :=
      if here.lost ∧ here.dataTransport = false then .failed else .running shape ready pieces
    (s.onConnection connection fun here => here.sendRunMessage task message).setPoint task point

/-- The answer to a request for a datagram endpoint. -/
def endpointAnswer : Except String Unit → ReplyBody γ
  | .ok () => .successMessage
  | .error text => .errorMessage text

/-- One step of a device. -/
def step (setup : DeviceSetup γ) (s : DummyDac γ) : DeviceAction γ → Option (DummyDac γ)
  | .accept connection =>
    if (s.connections connection).accepted then none
    else some (s.onConnection connection fun here => { here with accepted := true })
  | .receive connection incoming =>
    let here := s.connections connection
    -- The receive loop of a connection handles one message at a time.
    if here.accepted = true ∧ here.lost = false ∧ here.opening = none then
      some ((receive setup s connection incoming).note (.received connection incoming))
    else none
  | .endpoint connection outcome =>
    match (s.connections connection).opening with
    | none => none
    | some id =>
      some ((s.onConnection connection fun here =>
        (here.endpoint outcome).reply id (endpointAnswer outcome)).note
          (.opened connection id outcome))
  | .send task =>
    match s.tasks[task]? with
    | none => none
    | some known =>
      match known.point with
      | .created =>
        some (s.goOn setup known.connection task (runShape setup s.storedConfig known.command) []
          (runPieces setup.errorStage setup.carrierMacs))
      | .running shape ready pieces =>
        some (s.goOn setup known.connection task shape ready pieces)
      | .finished | .failed => none
  | .lose connection =>
    if (s.connections connection).accepted then
      some (s.onConnection connection fun here => { here with lost := true })
    else none

end DummyDac

end Pybrid.Mock
