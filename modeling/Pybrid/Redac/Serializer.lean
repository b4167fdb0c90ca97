import Pybrid.Redac.Computer
import Pybrid.Redac.Router

/-! The configuration of a whole computer, to items and back. -/

namespace Pybrid

namespace CarrierConfig

/-- The channels that are present. -/
def adcChannels (c : CarrierConfig) : List Wire.AdcChannel :=
  -- Channels that are not assigned are left out, and the positions of the others with them.
  c.adcConfig.reduceOption.map fun channel =>
    ⟨channel.index, channel.gain, channel.offset, channel.probe⟩

/-- One port selection on the wire. -/
def aclState (interface : String) : Wire.AclState :=
  -- The selection is compared without regard to case.
  if interface.toLower = "external" then .external else .internal

/-- The payloads of a carrier; selections and modes are sent only when there are some. -/
def serializeConfiguration (c : CarrierConfig) : List (Option Wire.Payload) :=
  -- A channel list without channels leaves the payload unset.
  let adc := if c.adcChannels = [] then none else some (.adcConfig c.adcChannels)
  let ports := match c.aclSelect with
    | some (first :: more) => [some (.portConfig ((first :: more).map aclState))]
    | _ => []
  let modes := match c.frontPanelIo with
    | some (first :: more) => [some (.frontPanelIoConfig (first :: more))]
    | _ => []
  adc :: ports ++ modes

/-- Apply received channels. -/
def deserializeAdc (c : CarrierConfig) (channels : List Wire.AdcChannel) : CarrierConfig :=
  { c with
    adcConfig := channels.map fun channel =>
      some ⟨channel.idx, channel.gain, channel.offset, channel.probe⟩ }

/-- Apply received port selections. -/
def deserializePorts (c : CarrierConfig) (states : List Wire.AclState) : CarrierConfig :=
  { c with
    aclSelect := some (states.map fun state => if state = .external then "external" else "internal") }

/-- Apply received front panel modes. -/
def deserializeModes (c : CarrierConfig) (modes : List Wire.FrontPanelIOMode) : CarrierConfig :=
  { c with ioModes := some modes }

end CarrierConfig

namespace EntityConfig

/-- The payloads of an entity, in the order of their items. -/
def serializeConfiguration : EntityConfig → List (Option Wire.Payload)
  | .carrier config => config.serializeConfiguration
  | .cluster => []
  | .mBlock .general => []
  | .mBlock (.int block) => block.serializeConfiguration.map some
  | .mBlock .mul => []
  | .mBlock (.mdr block) => [some block.serializeConfiguration]
  | .uBlock block => block.serializeConfiguration.toList.map some
  | .cBlock block => [some block.serializeConfiguration]
  | .iBlock block => [some block.serializeConfiguration]
  | .tBlock block => block.serializeConfiguration.toList.map some
  | .bplTBlock block => block.serializeConfiguration.toList.map some

end EntityConfig

/-- The kinds of entity in the tree, as the classes that handlers meet. -/
inductive EntityKind where
  | carrier
  | cluster
  | mBlock
  | mIntBlock
  | mMulBlock
  | mMDRBlock
  | uBlock
  | cBlock
  | iBlock
  | tBlock
  | backplaneTBlock
  deriving DecidableEq, Repr

namespace EntityKind

/-- The name of the class. -/
def className : EntityKind → String
  | .carrier => "Carrier"
  | .cluster => "Cluster"
  | .mBlock => "MBlock"
  | .mIntBlock => "MIntBlock"
  | .mMulBlock => "MMulBlock"
  | .mMDRBlock => "MMDRBlock"
  | .uBlock => "UBlock"
  | .cBlock => "CBlock"
  | .iBlock => "IBlock"
  | .tBlock => "TBlock"
  | .backplaneTBlock => "BackplaneTBlock"

/-- An attribute that objects of this class do not have. -/
def missing (kind : EntityKind) (name : String) : PyError :=
  ⟨.attribute, "'" ++ kind.className ++ "' object has no attribute '" ++ name ++ "'"⟩

/-- Look up an element of an entity, to assign to it. -/
def subscriptElement (kind : EntityKind) (index : Nat) : Except PyError Unit :=
  let among (count : Nat) : Except PyError Unit :=
    if index < count then .ok () else .error Python.indexError
  match kind with
  | .cBlock => among 32
  | .mIntBlock => among 8
  | .mMulBlock | .mMDRBlock => among 4
  -- A general math block is made without a list of elements.
  | .mBlock => .error ⟨.type, "'NoneType' object is not subscriptable"⟩
  | other => .error (other.missing "elements")

/--
What a handler does with an entity of a class that has no use for the payload: it raises, or leaves
the entity as it is.

The handlers do not look at the class of an entity, but at the attributes they need.
-/
def takeStray (kind : EntityKind) : Wire.Payload → Except PyError Unit
  -- Any object takes a new attribute, which nothing reads.
  | .adcConfig _ | .portConfig _ | .frontPanelIoConfig _ => .ok ()
  | .coefConfig elements => elements.forM fun element => kind.subscriptElement element.idx
  | .mdrConfig operations => operations.zipIdx.forM fun entry => kind.subscriptElement entry.2
  | .itorConfig elements => elements.forM fun element => kind.subscriptElement element.idx
  -- The old limiters are counted first, also where none are received.
  | .limiterConfig _ => .error (kind.missing "limiters")
  | .sumConfig connections _ =>
    -- A selection block has outputs to be replaced, but no upscaling.
    if kind = .uBlock then
      if connections.all fun connection => connection.output < 32 then
        .error (kind.missing "upscaling")
      else .error Python.assignmentError
    else .error (kind.missing "outputs")
  | .selectConfig _ _ _ => .error (kind.missing "outputs")
  -- The attribute is looked up with the first state that is received.
  | .switchConfig muxes => if muxes = [] then .ok () else .error (kind.missing "muxes")
  | .bplSwitchConfig muxes => if muxes = [] then .ok () else .error (kind.missing "connect")
  -- Dependency information is not read back.
  | .dependencyInfo _ => .ok ()

end EntityKind

/-- The class of an entity. -/
def EntityConfig.kind : EntityConfig → EntityKind
  | .carrier _ => .carrier
  | .cluster => .cluster
  | .mBlock .general => .mBlock
  | .mBlock (.int _) => .mIntBlock
  | .mBlock .mul => .mMulBlock
  | .mBlock (.mdr _) => .mMDRBlock
  | .uBlock _ => .uBlock
  | .cBlock _ => .cBlock
  | .iBlock _ => .iBlock
  | .tBlock _ => .tBlock
  | .bplTBlock _ => .backplaneTBlock

/-- The states of multiplexers with their numbers; when every index is zero the position counts. -/
def numberedMuxes (muxes : List Wire.Mux) : List (Int × Nat) :=
  if muxes.all fun mux => mux.index = 0 then
    muxes.zipIdx.map fun entry => (entry.1.state, entry.2)
  else muxes.map fun mux => (mux.state, mux.index)

/-- What a numbered state of a backplane table stands for. -/
structure SectorConnection where
  inSector : Int
  outSector : Nat
  lane : Nat
  deriving DecidableEq, Repr

/-- The connection for a numbered state; one that names its own sector stands for the front plane. -/
def sectorConnection (entry : Int × Nat) : SectorConnection where
  inSector := if ((entry.2 % 9 : Nat) : Int) = entry.1 then 8 else entry.1
  outSector := entry.2 % 9
  lane := entry.2 / 9

/-- The connections of a backplane payload, in the order in which they are made. -/
def sectorConnections (muxes : List Wire.Mux) : List SectorConnection :=
  (numberedMuxes muxes).map sectorConnection

/-- Make a connection of a backplane table on a carrier's T-block. -/
def TBlock.connectSector (block : TBlock) (c : SectorConnection) : Except PyError TBlock :=
  block.connect c.inSector c.outSector c.lane

/-- Make a connection of a backplane table on a selection block, which forks the one sector. -/
def UBlock.connectSector (block : UBlock) (c : SectorConnection) : Except PyError UBlock :=
  block.connect c.inSector [(c.outSector : Int), (c.lane : Int)] false

/-- Make a connection of a backplane table on a summation block, which sums the two sectors. -/
def IBlock.connectSector (block : IBlock) (c : SectorConnection) : Except PyError IBlock :=
  block.connect {c.inSector.toNat, c.outSector} c.lane false

/--
An entity as payloads can leave it.

A summation block takes a selection as well, whose inputs are then numbers where it has sets of lanes.
-/
inductive EntityState where
  | typed (entity : EntityConfig)
  /-- A summation block whose outputs are those of a selection. -/
  | selected (outputs : Vector (Option Int) 16) (upscaling : Vector Bool 32)

namespace EntityState

/-- The class of an entity. -/
def kind : EntityState → EntityKind
  | .typed entity => entity.kind
  | .selected _ _ => .iBlock

/-- The outputs that a selection gives a summation block. -/
def selection (connections : List Wire.SelectConnection) : Except PyError (Vector (Option Int) 16) :=
  connections.foldlM
    (fun current connection =>
      Slots.assign Python.assignmentError current connection.output (some connection.input))
    (Vector.replicate 16 none)

/-- Why a summation block that holds a selection refuses every connection. -/
def selectedError (outputs : Vector (Option Int) 16) (lane : Nat) : PyError :=
  if (List.finRange 16).any fun other => other.val ≠ lane ∧ outputs.get other ≠ none then
    ⟨.attribute, "'int' object has no attribute 'intersection'"⟩
  else if inside : lane < 16 then
    if outputs.get ⟨lane, inside⟩ = none then
      ⟨.attribute, "'NoneType' object has no attribute 'union'"⟩
    else ⟨.attribute, "'int' object has no attribute 'union'"⟩
  else Python.indexError

/-- Make the connections of a backplane table on a summation block that holds a selection. -/
def connectSelected (outputs : Vector (Option Int) 16) (upscaling : Vector Bool 32) :
    List SectorConnection → Except PyError EntityState
  | [] => .ok (.selected outputs upscaling)
  | first :: _ => .error (selectedError outputs first.lane)

/-- Apply a payload to an entity, of whatever class that is. -/
def configure (s : EntityState) (payload : Wire.Payload) : Except PyError EntityState :=
  match payload, s with
  | .adcConfig channels, .typed (.carrier config) =>
    .ok (.typed (.carrier (config.deserializeAdc channels)))
  | .portConfig states, .typed (.carrier config) =>
    .ok (.typed (.carrier (config.deserializePorts states)))
  | .frontPanelIoConfig modes, .typed (.carrier config) =>
    .ok (.typed (.carrier (config.deserializeModes modes)))
  | .coefConfig elements, .typed (.cBlock block) =>
    (block.deserializeConfiguration elements).map fun block => .typed (.cBlock block)
  | .mdrConfig operations, .typed (.mBlock (.mdr block)) =>
    (block.deserializeConfiguration operations).map fun block => .typed (.mBlock (.mdr block))
  | .itorConfig elements, .typed (.mBlock (.int block)) =>
    (block.deserializeItors elements).map fun block => .typed (.mBlock (.int block))
  | .limiterConfig elements, .typed (.mBlock (.int block)) =>
    (block.deserializeLimiters elements).map fun block => .typed (.mBlock (.int block))
  | .sumConfig connections upscales, .typed (.iBlock block) =>
    (block.deserializeConfiguration connections upscales).map fun block => .typed (.iBlock block)
  -- A selection is given up for sums, like older sums.
  | .sumConfig connections upscales, .selected _ _ =>
    (IBlock.new.deserializeConfiguration connections upscales).map fun block => .typed (.iBlock block)
  | .selectConfig constant magnitude connections, .typed (.uBlock block) =>
    (block.deserializeConfiguration constant magnitude connections).map fun block =>
      .typed (.uBlock block)
  -- A summation block has outputs as well; its upscaling is kept.
  | .selectConfig _ _ connections, .typed (.iBlock block) =>
    (selection connections).map fun outputs => .selected outputs block.upscaling
  | .selectConfig _ _ connections, .selected _ upscaling =>
    (selection connections).map fun outputs => .selected outputs upscaling
  | .switchConfig muxes, .typed (.tBlock block) =>
    (block.deserializeConfiguration muxes).map fun block => .typed (.tBlock block)
  | .bplSwitchConfig muxes, .typed (.bplTBlock block) =>
    (block.deserializeConfiguration muxes).map fun block => .typed (.bplTBlock block)
  -- Other blocks have a method of that name, too, with other arguments.
  | .bplSwitchConfig muxes, .typed (.tBlock block) =>
    ((sectorConnections muxes).foldlM TBlock.connectSector block).map fun block =>
      .typed (.tBlock block)
  | .bplSwitchConfig muxes, .typed (.uBlock block) =>
    ((sectorConnections muxes).foldlM UBlock.connectSector block).map fun block =>
      .typed (.uBlock block)
  | .bplSwitchConfig muxes, .typed (.iBlock block) =>
    ((sectorConnections muxes).foldlM IBlock.connectSector block).map fun block =>
      .typed (.iBlock block)
  | .bplSwitchConfig muxes, .selected outputs upscaling =>
    connectSelected outputs upscaling (sectorConnections muxes)
  | payload, other => (other.kind.takeStray payload).map fun _ => other

/--
The entity, if its state is one of its own type.

The tree has no place for a summation block that holds a selection. A computer that keeps such
selections beside its tree is a `WiredRedac`.
-/
def requireTyped : EntityState → Except PyError EntityConfig
  | .typed entity => .ok entity
  | .selected _ _ => .error ⟨.type, "a selection where sums belong"⟩

end EntityState

/-- Apply a payload to an entity, which is to stay one of its own type. -/
def EntityConfig.configure (entity : EntityConfig) (payload : Wire.Payload) :
    Except PyError EntityConfig := do
  let state ← (EntityState.typed entity).configure payload
  state.requireTyped

/-- A computation that raises, or runs out of fuel. -/
abbrev Fueled := ExceptT PyError Option

/-- A step that succeeds returns its value. -/
theorem Redac.returned {α : Type} (value : α) :
    (ExceptT.mk (some (Except.ok value)) : Fueled α) = pure value := rfl

/-- Nothing follows a step that raises. -/
theorem Redac.raised_bind {α β : Type} (error : PyError) (second : α → Fueled β) :
    (ExceptT.mk (some (Except.error error)) : Fueled α) >>= second =
      ExceptT.mk (some (Except.error error)) := rfl

/-- The location of an entity, which has to be present. -/
def requireLoc {location : Type} (found : Option location) : Except PyError location :=
  match found with
  | some location => .ok location
  | none => .error ⟨.exception, "Location value is not present!"⟩

/-- Whatever is paired with its location is one of the elements that were asked for theirs. -/
theorem mem_of_located {α location : Type} {find : α → Option location} {elements : List α}
    {found : List (location × α)} (all : elements.mapM (fun element =>
      (requireLoc (find element)).map fun loc => (loc, element)) = .ok found) :
    ∀ place ∈ found, place.2 ∈ elements := by
  intro place member
  obtain ⟨element, inside, same⟩ := Raising.forall₂_source (Raising.mapM_eq_ok.mp all) member
  -- The element has a location, since it was paired with one.
  cases present : requireLoc (find element) with
  | error error => simp [present, Except.map] at same
  | ok loc =>
    simp only [present, Except.map, Except.ok.injEq] at same
    exact same ▸ inside

/-- Locations are ordered by stack, then by carrier. -/
def CarrierLoc.le (first second : CarrierLoc) : Bool :=
  first.stackId < second.stackId ∨
    (first.stackId = second.stackId ∧ first.carrierId ≤ second.carrierId)

namespace Routing

/-- Register one of the backplane blocks of a carrier. -/
def addBackplane (r : Routing) (index : Int)
    (block : Option (LocatedNode BackplaneTBlock Int)) : Except PyError Routing :=
  match block with
  | none => .ok r
  | some node => (requireLoc node.location).map fun stack => r.addTBplBlock stack index node.config

/-- Register the T-blocks of a carrier. -/
def addCarrier (r : Routing) (carrier : Carrier) : Except PyError Routing := do
  let r ← match carrier.tblock with
    | none => pure r
    | some node => (requireLoc node.location).map fun loc => r.addTBlock loc node.config
  let r ← r.addBackplane 0 carrier.st0block
  let r ← r.addBackplane 1 carrier.st1block
  r.addBackplane 2 carrier.st2block

end Routing

namespace Redac

/-- The items of all entities. -/
def serializeEntities (r : Redac) : List Wire.Item :=
  -- A payload that was dropped has no item, one that was never set has an item without a kind.
  r.traversal.flatMap fun entry => entry.2.serializeConfiguration.map fun kind => ⟨entry.1, kind⟩

/-- The cluster at a location. -/
def findCluster (r : Redac) (loc : ClusterLoc) : Except PyError Cluster :=
  -- The first carrier at the location decides, and its clusters are subscripted.
  match r.carriers.find? fun carrier => carrier.location = some ⟨loc.stackId, loc.carrierId⟩ with
  | some carrier =>
    (Python.subscript carrier.clusters.length loc.clusterId).map carrier.clusters.get
  | none =>
    .error ⟨.exception, s!"Cluster not found for Loc: {loc.stackId}/{loc.carrierId}/{loc.clusterId}"⟩

/-- The carriers with their locations, sorted by location. -/
def sortedCarriers (r : Redac) : Except PyError (List (CarrierLoc × Carrier)) := do
  -- A carrier without a location raises before anything is sorted.
  let located ← r.carriers.mapM fun carrier =>
    (requireLoc carrier.location).map fun loc => (loc, carrier)
  return located.mergeSort fun first second => first.1.le second.1

/-- The registry of the tracer: what is registered already, and the carriers of this computer. -/
def tracer (registry : Routing) (carriers : List (CarrierLoc × Carrier)) : Except PyError Routing :=
  -- Later carriers replace blocks registered at the same location.
  carriers.foldlM (fun current located => current.addCarrier located.2) registry

/-- A traced signal: its source lane, its sink lane and whether the sink is upscaled. -/
structure Signal where
  source : LaneLoc
  sink : LaneLoc
  upscaled : Bool
  deriving DecidableEq, Repr

/-- The signal that arrives at a lane of a cluster, if it is used there and comes from somewhere. -/
def sinkSignal (r : Redac) (tracer : Routing) (fuel : Nat) (cluster : Cluster) (lane : Fin 32) :
    Fueled (Option Signal) := do
  let loc ← ExceptT.mk (some (requireLoc cluster.location))
  let target : LaneLoc := ⟨loc.stackId, loc.carrierId, loc.clusterId, lane.val⟩
  match ← ExceptT.mk (Tracer.findCoef tracer fuel target) with
  | none => return none
  | some source =>
    -- Lanes that no output sums are of no interest.
    if ¬ (cluster.iblock.config.outputs.toList.any fun summands => lane.val ∈ summands) then
      return none
    else
      -- A source lane that its own selection block leaves open is no signal.
      let srcCluster ← ExceptT.mk (some (r.findCluster source.cluster))
      let selected ← ExceptT.mk (some (Python.subscript 32 source.laneId))
      let select := srcCluster.ublock.config.outputs.get selected
      if select = some (-1) ∨ select = none then return none
      else return some ⟨source, target, cluster.iblock.config.upscaling.get lane⟩

/-- The signals of all lanes of all clusters, in order. -/
def signals (r : Redac) (tracer : Routing) (fuel : Nat) : Fueled (List Signal) := do
  -- Every lane of every cluster is a possible sink.
  let lanes := r.carriers.flatMap fun carrier => carrier.clusters.flatMap fun cluster =>
    (List.finRange 32).map fun lane => (cluster, lane)
  let found ← lanes.mapM fun place => r.sinkSignal tracer fuel place.1 place.2
  return found.reduceOption

/-- The number of a carrier; carriers not seen before are numbered on. -/
def carrierIndex (known : List CarrierLoc) (loc : CarrierLoc) : Nat × List CarrierLoc :=
  -- Numbers are positions in the list of carriers seen so far.
  if loc ∈ known then (known.idxOf loc, known) else (known.length, known ++ [loc])

/-- One end of a trace. -/
def traceLane (known : List CarrierLoc) (loc : LaneLoc) : Wire.TraceLane × List CarrierLoc :=
  let (carrier, known) := carrierIndex known loc.carrier
  (⟨carrier, loc.clusterId, loc.laneId⟩, known)

/-- The traces of the signals, with the carriers numbered on the way. -/
def traces (known : List CarrierLoc) : List Signal → List Wire.Trace × List CarrierLoc
  | [] => ([], known)
  | signal :: later =>
    let (source, known) := traceLane known signal.source
    let (sink, known) := traceLane known signal.sink
    let (rest, known) := traces known later
    (⟨source, sink, signal.upscaled⟩ :: rest, known)

/-- The lanes that some signal uses, as a bit set. -/
def activeLanes (signals : List Signal) : Nat :=
  -- Both ends of a signal are marked.
  signals.foldl (fun lanes signal =>
    lanes ||| 1 <<< signal.sink.laneId.toNat ||| 1 <<< signal.source.laneId.toNat) 0

/-- The numbers of the carriers, in the order of their locations. -/
def numberCarriers (sorted : List (CarrierLoc × Carrier)) : List CarrierLoc :=
  sorted.foldl (fun known located => (carrierIndex known located.1).2) []

/-- The dependency information of one carrier. -/
def dependencyItem (entityIds : List Path) (known : List CarrierLoc) (all : List Wire.Trace)
    (lanes : Nat) (carrier : Carrier) : Except PyError Wire.Item :=
  (requireLoc carrier.location).map fun loc =>
    let (index, _) := carrierIndex known loc
    -- Each carrier is told the traces it is an end of.
    let own := all.filter fun trace => trace.source.carrier = index ∨ trace.sink.carrier = index
    ⟨carrier.path, some (.dependencyInfo ⟨entityIds, own, lanes⟩)⟩

/-- The dependency information of every carrier. -/
def serializeDependencyInfo (r : Redac) (registry : Routing) (fuel : Nat) :
    Fueled (List Wire.Item) := do
  -- Carriers are numbered by location first, so that the numbers do not depend on the signals.
  let sorted ← ExceptT.mk (some r.sortedCarriers)
  let tracer ← ExceptT.mk (some (tracer registry sorted))
  let found ← r.signals tracer fuel
  let (all, known) := traces (numberCarriers sorted) found
  r.carriers.mapM fun carrier => ExceptT.mk (some
    (dependencyItem (sorted.map fun located => located.2.path) known all (activeLanes found) carrier))

/-- The items of all entities, and behind them the dependency information. -/
def serializeConfiguration (r : Redac) (registry : Routing) (fuel : Nat) :
    Fueled (List Wire.Item) := do
  let dependencies ← r.serializeDependencyInfo registry fuel
  return r.serializeEntities ++ dependencies

/-- Apply one item. -/
def deserializeItem (r : Redac) (item : Wire.Item) : Except PyError Redac :=
  match item.kind with
  -- An item without a payload is skipped, and dependency information is not read back.
  | none => .ok r
  | some (.dependencyInfo _) => .ok r
  | some payload => do
    let entity ← r.getEntity item.path
    let configured ← entity.configure payload
    return r.store item.path configured

/-- Apply items in order. -/
def deserializeConfiguration (r : Redac) (items : List Wire.Item) : Except PyError Redac :=
  -- The first item that raises ends the loop.
  items.foldlM deserializeItem r

end Redac

end Pybrid
