import Mathlib.Data.List.AList
import Pybrid.Library.Raising
import Pybrid.Redac.ModuleItems

/-! The connections of a controller, and what adding a device and closing do to them. -/

namespace Pybrid

namespace Discovery

/-- What is known about a carrier that a device reports. -/
structure CarrierInfo where
  path : Path
  mac : String
  entity : PbEntity

/-- Devices are connected to directly, or through a proxy. -/
inductive Topology where
  | direct
  | proxy
  deriving DecidableEq, Repr

/-- The name of a topology. -/
def Topology.name : Topology → String
  | .direct => "direct"
  | .proxy => "proxy"

/-- A connection has a channel for requests and one for samples. -/
inductive ChannelKind where
  | control
  | data
  deriving DecidableEq, Repr

/-- A channel, told from others by the number of its connection. -/
structure Channel where
  connection : Nat
  kind : ChannelKind
  deriving DecidableEq, Repr

/-- What comes of opening the two channels of a connection. -/
inductive Opening where
  /-- The device cannot be connected to. -/
  | refused (error : PyError)
  /-- The control channel runs, but the data channel does not start. -/
  | unstreamed (error : PyError)
  | opened

/-- What an attempt to add a device meets on the network. -/
structure Attempt where
  /-- The module that the device reports, or that the caller supplies. -/
  discovered : Except PyError (List ModuleItem)
  opening : Opening

/-- What comes of stopping the channels of a connection, the data channel first. -/
inductive Stopping where
  | stopped
  | dataFails
  | controlFails
  deriving DecidableEq, Repr

/-- The connections of a controller; a connection is told from others by its number. -/
structure ConnectionManager where
  connections : AList fun _ : Path => Nat
  cacheDescriptions : List ModuleItem
  topologyMode : Option Topology
  /-- The number of connections there ever were. -/
  created : Nat
  /-- The channels that were started and not stopped. -/
  running : Finset Channel

/-- Calls on a connection manager raise, and keep what they changed before. -/
abbrev ManagerM := EStateM PyError ConnectionManager

namespace ConnectionManager

/-- No connections. -/
def new : ConnectionManager := ⟨∅, [], none, 0, ∅⟩

/-- The entities that a module specifies. -/
def entities (module : List ModuleItem) : List PbEntity :=
  module.filterMap fun item =>
    match item.payload with
    | some (.entitySpecification entity) => some entity
    | _ => none

/-- Whether an item specifies a wire. -/
def isWire (item : ModuleItem) : Bool := item.kind = some .wiringSpecification

/-- A path whose parts can be any texts. -/
def parsePath (text : String) : Path :=
  if Path.strip text.toList = [] then []
  else ((Path.strip text.toList).splitOn '/').map String.ofList

/-- The entity itself if it is a carrier, and else the carriers right below it. -/
def reportedCarriers (entity : PbEntity) : List PbEntity :=
  if entity.class_ = EntityClass.carrier.value then [entity]
  else entity.children.filter fun child => child.class_ = EntityClass.carrier.value

/-- One description for each carrier. -/
def carrierInfos (entity : PbEntity) : List CarrierInfo :=
  (reportedCarriers entity).map fun carrier =>
    let mac := String.ofList (Path.strip carrier.id.toList)
    ⟨parsePath mac, mac, carrier⟩

/-- The descriptions of the carriers, of which there has to be one. -/
def detectTopology (entity : PbEntity) : ManagerM (List CarrierInfo) :=
  if reportedCarriers entity = [] then
    throw ⟨.value, "No carrier entities found in the entity tree rooted at '" ++ entity.id ++
      "'. The device may not have reported any carriers."⟩
  else pure (carrierInfos entity)

/-- More descriptions are kept. -/
def described (manager : ConnectionManager) (items : List ModuleItem) : ConnectionManager :=
  { manager with cacheDescriptions := manager.cacheDescriptions ++ items }

/-- Keep an item for whoever asks for the descriptions later. -/
def cache (item : ModuleItem) : ManagerM Unit := modify (described · [item])

/-- The item under which an entity is kept. -/
def describe (entity : PbEntity) : ModuleItem := ⟨[], some (.entitySpecification entity)⟩

/-- Keep an entity, and collect its carriers. -/
def addEntity (carriers : List CarrierInfo) (entity : PbEntity) : ManagerM (List CarrierInfo) := do
  cache (describe entity)
  let found ← detectTopology entity
  return carriers ++ found

/-- The module of the device; the channel it is asked over is stopped in any case. -/
def discoverDevice (attempt : Attempt) : ManagerM (List ModuleItem) :=
  match attempt.discovered with
  | .ok module => pure module
  | .error error => throw error

/-- One more connection is counted, with these channels running. -/
def started (manager : ConnectionManager) (kinds : List ChannelKind) : ConnectionManager :=
  { manager with
    created := manager.created + 1
    running := manager.running ∪ (kinds.map (⟨manager.created, ·⟩)).toFinset }

/-- The connections of carriers that share one. -/
def shared (connection : Nat) (carriers : List CarrierInfo) : AList fun _ : Path => Nat :=
  carriers.foldl (fun connections carrier => connections.insert carrier.path connection) ∅

/-- All carriers share one new connection. -/
def createConnections (opening : Opening) (carriers : List CarrierInfo) :
    ManagerM (AList fun _ : Path => Nat) := do
  let manager ← get
  match opening with
  | .refused error => throw error
  | .unstreamed error =>
    set (manager.started [.control])
    throw error
  | .opened =>
    set (manager.started [.control, .data])
    return shared manager.created carriers

/-- The message for a device that is connected to in another way than those before. -/
def mixedTopologies (mode incoming : Topology) : PyError :=
  ⟨.exception, "Cannot mix direct and proxy connections: existing topology is '" ++ mode.name ++
    "' but incoming connections suggest '" ++ incoming.name ++
    "'. Mix of topologies is not supported."⟩

/-- The message for a second proxy. -/
def multipleProxies : PyError :=
  ⟨.exception, "Cannot connect to multiple proxies: a proxy connection is already registered " ++
    "and adding a second proxy endpoint is not supported."⟩

/-- The topology that a number of carriers suggests. -/
def incomingTopology (carriers : List CarrierInfo) : Topology :=
  if 1 < carriers.length then .proxy else .direct

/-- Take new connections over, unless they do not fit those there are. -/
def register (carriers : List CarrierInfo) (newConnections : AList fun _ : Path => Nat) :
    ManagerM Unit := do
  let manager ← get
  let incoming := incomingTopology carriers
  match manager.topologyMode with
  | some mode =>
    if mode ≠ incoming then throw (mixedTopologies mode incoming)
    -- A connection that is not known yet means a second proxy.
    if mode = .proxy ∧ ∃ entry ∈ newConnections.entries,
        entry.2 ∉ manager.connections.entries.map Sigma.snd then
      throw multipleProxies
  | none => set { manager with topologyMode := some incoming }
  modify fun manager => { manager with connections := newConnections ∪ manager.connections }

/-- Discover a device, connect to it and register the connection. -/
def addDevice (attempt : Attempt) : ManagerM (List CarrierInfo) := do
  let module ← discoverDevice attempt
  let carriers ← (entities module).foldlM addEntity []
  -- Wires are kept too, behind the entities.
  (module.filter isWire).forM cache
  let newConnections ← createConnections attempt.opening carriers
  register carriers newConnections
  return carriers

/-- The connections, each of them once. -/
def uniqueConnections (manager : ConnectionManager) : Finset Nat :=
  (manager.connections.entries.map Sigma.snd).toFinset

/-- The channels of a connection that are still running afterwards. -/
def stillRunning (stopping : Nat → Stopping) (channel : Channel) : Bool :=
  match stopping channel.connection with
  | .stopped => false
  -- The control channel is left alone when the data channel fails.
  | .dataFails => true
  | .controlFails => channel.kind = .control

/-- Connections are forgotten, and their channels have stopped as far as they could be. -/
def closed (manager : ConnectionManager) (stopping : Nat → Stopping) : ConnectionManager :=
  { manager with
    connections := ∅
    topologyMode := none
    running := manager.running.filter fun channel =>
      channel.connection ∈ manager.uniqueConnections → stillRunning stopping channel }

/-- Stop the channels of all connections, and forget these in any case. -/
def closeAll (stopping : Nat → Stopping) : ManagerM Unit := do
  let manager ← get
  set (manager.closed stopping)
  let failed := manager.uniqueConnections.filter fun connection => stopping connection ≠ .stopped
  if failed ≠ ∅ then
    let count := failed.card
    throw ⟨.exception, s!"close_all() encountered {count} error(s) while stopping channels"⟩

/-- A call on a connection manager. -/
inductive Call where
  | addDevice (attempt : Attempt)
  | closeAll (stopping : Nat → Stopping)

/-- The manager after a call, which may have raised. -/
def perform (manager : ConnectionManager) : Call → ConnectionManager
  | .addDevice attempt => Raising.final (addDevice attempt manager)
  | .closeAll stopping => Raising.final (closeAll stopping manager)

/-- The manager after a sequence of calls. -/
def run (calls : List Call) : ConnectionManager := calls.foldl perform new

end ConnectionManager

end Discovery

end Pybrid
